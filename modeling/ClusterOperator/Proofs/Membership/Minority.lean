import ClusterOperator.Proofs.Membership.Partition
import ClusterOperator.Proofs.Pass.Causes

/-!
# What a repair restarts

A repair restarts one side of a partition. Restarting the wrong side, or a server of which nothing
is known, would make an incident out of a disagreement, so what it may restart is said in full:

> **`safe_of_restart`** — a repair restarts servers that are declared, serve and have answered, each
> once and none of the majority; the majority and they are all that answered; and the majority is a
> largest class, among those of its size the one with the first server.

Nothing is assumed of the pods, the views or the record of earlier repairs. That no server is on
both sides is that the classes are a partition, and which side is kept is the order of the classes.
-/

set_option autoImplicit false

namespace ClusterOperator

variable {i : DetectionInput} {pods : List String}

/-- What has to hold of pods so that they may be restarted after a classification. A repair takes
servers away from a cluster that is in trouble already, so it has to leave the largest part of it
alone and every server of which nothing is known. -/
structure DetectionInput.SafeToRestart (i : DetectionInput) (pods : List String) : Prop where
  ne_nil : pods ≠ []
  nodup : pods.Nodup
  /-- They are names of declared pods that serve and whose view is known. -/
  answered : ∀ name ∈ pods, name ∈ i.views.keys ∧
    ∃ p ∈ i.pods, p.name = name ∧ p.ordinal < i.deployment.servers ∧ p.isServing
  /-- None of them is in the majority, and none is unknown. -/
  spared : ∀ name ∈ pods, (classify i).inMajority name = false ∧ name ∉ (classify i).unknown
  /-- Together with the majority they are the serving pods whose view is known. -/
  complete : ∀ name, name ∈ pods ∨ (classify i).inMajority name = true ↔
    name ∈ i.views.keys ∧ ∃ p ∈ i.ready, p.name = name
  /-- The class that is kept has members and is as large as any other, and its first server comes
  before all servers of the classes of its size. -/
  kept : ∃ majority, (classify i).majority? = some majority ∧ majority ≠ [] ∧
    (∀ members ∈ (classify i).classes, members.length ≤ majority.length) ∧
    ∃ first ∈ majority, ∀ members ∈ (classify i).classes, members.length = majority.length →
      ∀ name ∈ members, keyLe (orderKey first) (orderKey name) = true

namespace Classification

variable {c : Classification} {majority : List String} {others : List (List String)}

theorem majority?_of_cons (h : c.classes = majority :: others) : c.majority? = some majority := by
  unfold majority?
  rw [h]
  rfl

theorem minority_of_cons (h : c.classes = majority :: others) : c.minority = others.flatten := by
  unfold minority
  rw [h]
  rfl

theorem inMajority_of_cons (h : c.classes = majority :: others) (name : String) :
    c.inMajority name = true ↔ name ∈ majority := by
  unfold inMajority
  rw [majority?_of_cons h, Option.getD_some, List.contains_iff_mem]

end Classification

namespace Views

variable {views : Views} {majority members : List String} {others : List (List String)}

theorem length_le_of_first (h : equivalenceClasses views = majority :: others)
    (hmembers : members ∈ equivalenceClasses views) : members.length ≤ majority.length := by
  have hsorted := pairwise_equivalenceClasses views
  rw [h] at hmembers hsorted
  -- The classes are sorted by size first, so the first is as large as any.
  rcases List.mem_cons.mp hmembers with rfl | hother
  · exact Nat.le_refl _
  · rcases classLe_iff.mp (List.rel_of_pairwise_cons hsorted hother) with hlt | ⟨heq, -⟩
    · exact Nat.le_of_lt hlt
    · exact Nat.le_of_eq heq.symm

theorem classKey_le_of_first (h : equivalenceClasses views = majority :: others)
    (hmembers : members ∈ equivalenceClasses views) (hlength : members.length = majority.length) :
    keyLe (classKey majority) (classKey members) = true := by
  have hsorted := pairwise_equivalenceClasses views
  rw [h] at hmembers hsorted
  rcases List.mem_cons.mp hmembers with rfl | hother
  · exact keyLe_refl _
  · rcases classLe_iff.mp (List.rel_of_pairwise_cons hsorted hother) with hlt | ⟨-, hkey⟩
    · omega
    · exact hkey

/-- The first server of the first class comes before all servers of the classes of its size. -/
theorem exists_first (h : equivalenceClasses views = majority :: others) :
    ∃ first ∈ majority, ∀ members ∈ equivalenceClasses views, members.length = majority.length →
      ∀ name ∈ members, keyLe (orderKey first) (orderKey name) = true := by
  have hmajority : majority ∈ equivalenceClasses views := h ▸ List.mem_cons_self
  obtain ⟨first, rest, rfl⟩ :=
    List.exists_cons_of_ne_nil (ne_nil_of_mem_equivalenceClasses hmajority)
  refine ⟨first, List.mem_cons_self, fun members hmembers hlength name hname => ?_⟩
  rw [← classKey_cons first rest]
  exact keyLe_trans (classKey_le_of_first h hmembers hlength) (classKey_le_of_mem hmembers hname)

end Views

theorem DetectionInput.safe_minority (h : i.health = .split) :
    i.SafeToRestart (classify i).minority := by
  obtain ⟨⟨servers, quorum, hdeployment, -⟩, hmany, -⟩ := health_eq_split_iff.mp h
  have hclasses : (classify i).classes = equivalenceClasses i.known :=
    classes_of_cluster hdeployment
  obtain ⟨majority, others, hcons⟩ : ∃ majority others,
      equivalenceClasses i.known = majority :: others := by
    refine List.exists_cons_of_ne_nil fun hnil => ?_
    rw [show i.classes = _ from hclasses, hnil] at hmany
    exact absurd hmany (by decide)
  have hmajority := Classification.majority?_of_cons (hclasses.trans hcons)
  have hminority := Classification.minority_of_cons (hclasses.trans hcons)
  have hin := Classification.inMajority_of_cons (hclasses.trans hcons)
  -- The classes hold every server that answered once, so the two sides do.
  have hnodup := Views.nodup_flatten_equivalenceClasses i.known
  rw [hcons, List.flatten_cons, List.nodup_append'] at hnodup
  obtain ⟨-, hnodup, hdisjoint⟩ := hnodup
  have hcover : ∀ name, name ∈ majority ∨ name ∈ others.flatten ↔ name ∈ i.known.keys := by
    intro name
    rw [← Views.mem_flatten_equivalenceClasses, hcons, List.flatten_cons, List.mem_append]
  have hne : ∀ members ∈ majority :: others, members ≠ [] := fun members hmembers =>
    Views.ne_nil_of_mem_equivalenceClasses (hcons ▸ hmembers)
  constructor
  case ne_nil =>
    rw [show i.classes = _ from hclasses, hcons] at hmany
    obtain ⟨other, rest, rfl⟩ : ∃ other rest, others = other :: rest := by
      refine List.exists_cons_of_ne_nil fun hnil => ?_
      rw [hnil] at hmany
      exact Nat.lt_irrefl 1 hmany
    rw [hminority, List.flatten_cons]
    exact List.append_ne_nil_of_left_ne_nil
      (hne other (List.mem_cons_of_mem _ List.mem_cons_self)) _
  case nodup =>
    rw [hminority]
    exact hnodup
  case answered =>
    intro name hname
    rw [hminority] at hname
    obtain ⟨hview, p, hp, hpname⟩ := mem_keys_known.mp ((hcover name).mp (.inr hname))
    obtain ⟨hpods, hdeclared, hserving⟩ := mem_ready.mp hp
    exact ⟨hview, p, hpods, hpname, hdeclared, hserving⟩
  case spared =>
    intro name hname
    rw [hminority] at hname
    refine ⟨Bool.eq_false_iff.mpr fun hkept => ?_, fun hunknown => ?_⟩
    · exact hdisjoint ((hin name).mp hkept) hname
    · exact ((mem_unknown hdeployment).mp hunknown).2 ((hcover name).mp (.inr hname))
  case complete =>
    intro name
    rw [hminority, hin, or_comm, hcover, mem_keys_known]
  case kept =>
    rw [hclasses]
    exact ⟨majority, hmajority, hne majority List.mem_cons_self,
      fun members hmembers => Views.length_le_of_first hcons hmembers, Views.exists_first hcons⟩

/-- **A repair restarts the servers outside the majority, and these are safe to restart.** Nothing
is assumed of the views: a server that does not list itself or lists strangers is placed like any
other. -/
theorem safe_of_restart (i : DetectionInput) {membership : MembershipRecord}
    {upgrade : Option UpgradeRecord} {now : Instant} {cooldown : Nat} {pods : List String}
    (h : planRepair (classify i) membership upgrade now cooldown = .restart pods) :
    i.SafeToRestart pods := by
  obtain ⟨hsplit, -, -, rfl⟩ := planRepair_eq_restart h
  exact DetectionInput.safe_minority hsplit

namespace DetectionInput

/-- Four servers in two halves. -/
def halves : DetectionInput :=
  { deployment := .cluster 4 3
    pods := [0, 1, 2, 3].map fun n => { name := podName "db" n, ordinal := n }
    views := .ofList
      [("db-0", ["db-0", "db-2"]), ("db-1", ["db-1", "db-3"]), ("db-2", ["db-0", "db-2"]),
        ("db-3", ["db-1", "db-3"])]
    previous := {}
    now := .epoch
    grace := 0 }

theorem classes_halves : halves.classes = [["db-0", "db-2"], ["db-1", "db-3"]] :=
  equivalenceClasses_eq (by decide +kernel) (by decide) (by decide)

theorem health_halves : halves.health = .split := by
  rw [health_eq_split_iff, classes_halves]
  exact ⟨⟨4, 3, rfl, by decide⟩, by decide, Nat.zero_le _⟩

theorem planRepair_halves :
    planRepair (classify halves) {} none .epoch 0 = .restart ["db-1", "db-3"] := by
  have hminority : (classify halves).minority = ["db-1", "db-3"] :=
    Classification.minority_of_cons (c := classify halves) classes_halves
  have hsplit : ¬ (classify halves).health ≠ .split := not_not.mpr health_halves
  unfold planRepair
  rw [if_neg hsplit, hminority]
  rfl

/-- Of two halves the one without the first server is restarted. -/
theorem safe_of_restart_halves :
    planRepair (classify halves) {} none .epoch 0 = .restart ["db-1", "db-3"] ∧
      halves.SafeToRestart ["db-1", "db-3"] :=
  ⟨planRepair_halves, safe_of_restart halves planRepair_halves⟩

end DetectionInput

end ClusterOperator
