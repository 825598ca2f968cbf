import Mathlib.Data.Finset.Card
import ClusterOperator.Admin.Probe
import ClusterOperator.Admin.Query
import ClusterOperator.Membership.Repair
import ClusterOperator.Proofs.Membership.Grace

/-!
# Agreement when answers are missing

A server that does not answer is unknown, and what is unknown must not look like a partition. Losing
one answer changes the restricted view of *every* other server, so the classes are formed anew; the
law is that they only ever merge:

> **`together_of_fewer_answers`** — servers of one class stay in one class when views are dropped,
> there are not more classes than before, and so a cluster whose views agree is never found split,
> nor a server of it restarted, for want of an answer.

Every view lists the server that gave it (`SeesItself`). Then all servers with one restricted view
are in it, a class is just the servers of one restricted view (`classOf_eq_holders`), and the law is
about restricted views: after views are dropped, the view of a server is a function of the view that
it had before (`exists_restricted_of_subset`).
-/

set_option autoImplicit false

namespace ClusterOperator

theorem nodup_eraseDups {α : Type} [BEq α] [LawfulBEq α] : (l : List α) → l.eraseDups.Nodup
  | [] => by simp
  | a :: rest => by
    rw [List.eraseDups_cons, List.nodup_cons]
    refine ⟨?_, nodup_eraseDups _⟩
    intro h
    have hne := (List.mem_filter.1 (List.mem_eraseDups.1 h)).2
    simp at hne
termination_by l => l.length
decreasing_by exact Nat.lt_succ_of_le (List.length_filter_le _ _)

theorem length_eraseDups {α : Type} [BEq α] [LawfulBEq α] [DecidableEq α] (l : List α) :
    l.eraseDups.length = l.toFinset.card := by
  have hset : l.eraseDups.toFinset = l.toFinset := by
    ext a
    rw [List.mem_toFinset, List.mem_toFinset, List.mem_eraseDups]
  rw [← hset, List.toFinset_card_of_nodup (nodup_eraseDups l)]

namespace QueryTable

/-! ## A server sees itself -/

theorem mem_insertName_self (name : String) (names : List String) :
    name ∈ insertName name names := by
  induction names with
  | nil => exact List.mem_singleton_self name
  | cons other rest ih =>
    unfold insertName
    split
    · exact List.mem_cons_self
    · split
      · rename_i heq
        exact heq ▸ List.mem_cons_self
      · exact List.mem_cons_of_mem _ ih

theorem mem_serverView {t : QueryTable} {pod : String} {seen : List String}
    (h : t.serverView pod = .ok seen) : pod ∈ seen := by
  unfold serverView at h
  cases haddresses : t.texts "address" with
  | error fault => simp [haddresses, bind, Except.bind] at h
  | ok addresses =>
    cases hhealth : t.texts "health" with
    | error fault => simp [haddresses, hhealth, bind, Except.bind] at h
    | ok health =>
      simp only [haddresses, hhealth, bind, Except.bind, pure, Except.pure, Except.ok.injEq] at h
      rw [← h]
      exact mem_insertName_self pod _

end QueryTable

/-! ## Classes as restricted views -/

namespace Views

/-- Every view lists the server that gave it. A view is made with the name of its server put in, so
this holds of whatever was answered; without it servers with the same view could stand apart,
because the view leaves one of them out. -/
def SeesItself (views : Views) : Prop := ∀ view ∈ views.entries, view.1 ∈ view.2

/-- Two servers have the same restricted view. This is not yet to be in one class: the view may
leave out one of those that have it. -/
def Agree (views : Views) (a b : String) : Prop :=
  ∃ peers, (a, peers) ∈ views.restricted ∧ (b, peers) ∈ views.restricted

/-- Two servers are in one class. -/
def Together (views : Views) (a b : String) : Prop :=
  ∃ members ∈ equivalenceClasses views, a ∈ members ∧ b ∈ members

variable {views fewer : Views} {a b : String} {seen peers others members : List String}
  {table : List (String × List String)}

theorem mem_restricted : (a, peers) ∈ views.restricted ↔
    ∃ seen, (a, seen) ∈ views.entries ∧ views.keys.filter seen.contains = peers := by
  simp [restricted]

theorem mem_holders : a ∈ holders table peers ↔ (a, peers) ∈ table := by
  simp [holders]

theorem peers_unique (h : (a, peers) ∈ views.restricted) (h' : (a, others) ∈ views.restricted) :
    peers = others := by
  obtain ⟨seen, hseen, rfl⟩ := mem_restricted.1 h
  obtain ⟨seen', hseen', rfl⟩ := mem_restricted.1 h'
  rw [SortedMap.value_unique hseen hseen']

theorem self_mem_peers (hself : views.SeesItself) (h : (a, peers) ∈ views.restricted) :
    a ∈ peers := by
  obtain ⟨seen, hseen, rfl⟩ := mem_restricted.1 h
  refine List.mem_filter.2 ⟨SortedMap.mem_keys_of_mem hseen, ?_⟩
  exact List.contains_iff_mem.2 (hself _ hseen)

theorem classOf_eq_holders (hself : views.SeesItself) (view : String × List String) :
    classOf views.restricted view = holders views.restricted view.2 := by
  have hall : (holders views.restricted view.2).all view.2.contains = true := by
    rw [List.all_eq_true]
    intro a ha
    exact List.contains_iff_mem.2 (self_mem_peers hself (mem_holders.1 ha))
  exact if_pos hall

theorem mem_equivalenceClasses (hself : views.SeesItself) :
    members ∈ equivalenceClasses views ↔
      ∃ view ∈ views.restricted, sortPods (holders views.restricted view.2) = members := by
  simp [equivalenceClasses, List.mem_mergeSort, List.mem_eraseDups, classOf_eq_holders hself]

theorem together_iff_agree (hself : views.SeesItself) : Together views a b ↔ Agree views a b := by
  constructor
  · rintro ⟨members, hmembers, ha, hb⟩
    obtain ⟨view, -, rfl⟩ := (mem_equivalenceClasses hself).1 hmembers
    exact ⟨view.2, mem_holders.1 (List.mem_mergeSort.1 ha), mem_holders.1 (List.mem_mergeSort.1 hb)⟩
  · rintro ⟨peers, ha, hb⟩
    refine ⟨_, (mem_equivalenceClasses hself).2 ⟨(a, peers), ha, rfl⟩, ?_, ?_⟩
    · exact List.mem_mergeSort.2 (mem_holders.2 ha)
    · exact List.mem_mergeSort.2 (mem_holders.2 hb)

/-- **There are as many classes as restricted views.** -/
theorem length_equivalenceClasses (hself : views.SeesItself) :
    (equivalenceClasses views).length = (views.restricted.map (·.2)).toFinset.card := by
  have hclasses : views.restricted.map (classOf views.restricted) =
      (views.restricted.map (·.2)).map (holders views.restricted) := by
    rw [List.map_map]
    exact List.map_congr_left fun view _ => classOf_eq_holders hself view
  have hset : ((views.restricted.map (·.2)).map (holders views.restricted)).toFinset =
      (views.restricted.map (·.2)).toFinset.image (holders views.restricted) := by
    ext members
    simp only [List.mem_toFinset, List.mem_map, Finset.mem_image]
  -- Some server has the view, and of no other view is it a holder.
  have hinj : Set.InjOn (holders views.restricted) (views.restricted.map (·.2)).toFinset := by
    intro peers hpeers others _ heq
    obtain ⟨⟨a, _⟩, ha, rfl⟩ := List.mem_map.1 (List.mem_toFinset.1 hpeers)
    exact peers_unique ha (mem_holders.1 (heq ▸ mem_holders.2 ha))
  unfold equivalenceClasses
  rw [List.length_mergeSort, List.length_map, length_eraseDups, hclasses, hset,
    Finset.card_image_of_injOn hinj]

/-! ## Dropping views -/

theorem SeesItself.of_subset (hself : views.SeesItself) (hsub : fewer.entries ⊆ views.entries) :
    fewer.SeesItself := fun view hview => hself view (hsub hview)

theorem seesItself_collectAnswers {outcomes : ProbeOutcomes (List String)}
    (h : ∀ pod seen, (pod, .answered seen) ∈ outcomes →
      ∃ t : QueryTable, t.serverView pod = .ok seen) :
    SeesItself (collectAnswers outcomes) := by
  intro view hview
  obtain ⟨⟨pod, outcome⟩, hmem, hvalue⟩ := List.mem_filterMap.1 (SortedMap.mem_of_mem_ofList hview)
  cases outcome with
  | answered seen =>
    cases hvalue
    obtain ⟨t, ht⟩ := h pod seen hmem
    exact QueryTable.mem_serverView ht
  | failed cause => cases hvalue
  | timedOut => cases hvalue

/-- **What a server still sees is a function of what it saw.** -/
theorem exists_restricted_of_subset (hsub : fewer.entries ⊆ views.entries)
    (h : (a, peers) ∈ fewer.restricted) :
    ∃ before, (a, before) ∈ views.restricted ∧ fewer.keys.filter before.contains = peers := by
  obtain ⟨seen, hseen, rfl⟩ := mem_restricted.1 h
  refine ⟨_, mem_restricted.2 ⟨seen, hsub hseen, rfl⟩, List.filter_congr fun name hname => ?_⟩
  have hname' : name ∈ views.keys := SortedMap.keys_subset hsub hname
  simp [hname']

theorem Agree.of_subset (h : Agree views a b) (hsub : fewer.entries ⊆ views.entries)
    (ha : a ∈ fewer.keys) (hb : b ∈ fewer.keys) : Agree fewer a b := by
  obtain ⟨before, hbefore, hbefore'⟩ := h
  have hstill : ∀ c ∈ fewer.keys, (c, before) ∈ views.restricted →
      (c, fewer.keys.filter before.contains) ∈ fewer.restricted := by
    intro c hc hview
    obtain ⟨seen, hseen⟩ := SortedMap.mem_keys.1 hc
    have hpeers := mem_restricted.2 ⟨seen, hseen, rfl⟩
    obtain ⟨before', hview', heq⟩ := exists_restricted_of_subset hsub hpeers
    rw [peers_unique hview hview', heq]
    exact hpeers
  exact ⟨_, hstill a ha hbefore, hstill b hb hbefore'⟩

theorem Together.of_subset (h : Together views a b) (hself : views.SeesItself)
    (hsub : fewer.entries ⊆ views.entries) (ha : a ∈ fewer.keys) (hb : b ∈ fewer.keys) :
    Together fewer a b := by
  rw [together_iff_agree (hself.of_subset hsub)]
  exact Agree.of_subset ((together_iff_agree hself).1 h) hsub ha hb

theorem length_equivalenceClasses_le (hself : views.SeesItself)
    (hsub : fewer.entries ⊆ views.entries) :
    (equivalenceClasses fewer).length ≤ (equivalenceClasses views).length := by
  rw [length_equivalenceClasses (hself.of_subset hsub), length_equivalenceClasses hself]
  have himage : (fewer.restricted.map (·.2)).toFinset ⊆
      (views.restricted.map (·.2)).toFinset.image fun before =>
        fewer.keys.filter before.contains := by
    intro peers hpeers
    obtain ⟨⟨a, _⟩, ha, rfl⟩ := List.mem_map.1 (List.mem_toFinset.1 hpeers)
    obtain ⟨before, hbefore, heq⟩ := exists_restricted_of_subset hsub ha
    refine Finset.mem_image.2 ⟨before, List.mem_toFinset.2 ?_, heq⟩
    exact List.mem_map.2 ⟨(a, before), hbefore, rfl⟩
  exact Nat.le_trans (Finset.card_le_card himage) Finset.card_image_le

end Views

/-! ## Detection -/

namespace DetectionInput

variable {i : DetectionInput} {views : Views}

theorem mem_known {view : String × List String} :
    view ∈ i.known.entries ↔ view ∈ i.views.entries ∧ ∃ p ∈ i.ready, p.name = view.1 := by
  have hfound : ∀ p : ServerPod, (i.views.find? p.name).map (p.name, ·) = some view ↔
      view ∈ i.views.entries ∧ p.name = view.1 := by
    intro p
    rw [Option.map_eq_some_iff]
    constructor
    · rintro ⟨seen, hseen, rfl⟩
      exact ⟨SortedMap.find?_eq_some_iff.1 hseen, rfl⟩
    · rintro ⟨hview, hname⟩
      exact ⟨view.2, SortedMap.find?_eq_some_iff.2 (hname ▸ hview), Prod.ext hname rfl⟩
  -- The views are looked up one pod at a time, and two pods of one name look up the same.
  have hviews : (i.ready.filterMap fun p => (i.views.find? p.name).map (p.name, ·)) ⊆
      i.views.entries := by
    intro view hview
    obtain ⟨p, -, h⟩ := List.mem_filterMap.1 hview
    obtain ⟨seen, hseen, rfl⟩ := Option.map_eq_some_iff.1 h
    exact SortedMap.find?_eq_some_iff.1 hseen
  unfold known
  rw [SortedMap.mem_ofList hviews, List.mem_filterMap]
  constructor
  · rintro ⟨p, hp, h⟩
    exact ⟨((hfound p).1 h).1, p, hp, ((hfound p).1 h).2⟩
  · rintro ⟨hview, p, hp, hname⟩
    exact ⟨p, hp, (hfound p).2 ⟨hview, hname⟩⟩

theorem known_subset : i.known.entries ⊆ i.views.entries := fun _ h => (mem_known.1 h).1

theorem known_subset_known (hsub : i.views.entries ⊆ views.entries) :
    i.known.entries ⊆ ({ i with views } : DetectionInput).known.entries := by
  intro view hview
  obtain ⟨hmem, hready⟩ := mem_known.1 hview
  exact mem_known.2 ⟨hsub hmem, hready⟩

theorem classes_of_cluster {servers quorum : Int32} (h : i.deployment = .cluster servers quorum) :
    i.classes = equivalenceClasses i.known := by
  unfold classes
  rw [h]

theorem length_classes_of_standalone (h : i.deployment = .standalone) : i.classes.length ≤ 1 := by
  unfold classes
  rw [h]
  dsimp only
  split
  · exact Nat.zero_le 1
  · exact Nat.le_refl 1

/-- **Views that agree do not come to disagree, whichever of them are missing.** -/
theorem length_classes_le_one (hself : views.SeesItself) (hsub : i.views.entries ⊆ views.entries)
    (hone : (equivalenceClasses views).length ≤ 1 ∨
      ({ i with views } : DetectionInput).classes.length ≤ 1) : i.classes.length ≤ 1 := by
  cases hdeployment : i.deployment with
  | standalone => exact length_classes_of_standalone hdeployment
  | cluster servers quorum =>
    rw [classes_of_cluster hdeployment]
    rcases hone with hone | hone
    · refine Nat.le_trans (Views.length_equivalenceClasses_le hself ?_) hone
      exact List.Subset.trans known_subset hsub
    · rw [classes_of_cluster (i := { i with views }) hdeployment] at hone
      refine Nat.le_trans (Views.length_equivalenceClasses_le ?_ (known_subset_known hsub)) hone
      exact hself.of_subset known_subset

end DetectionInput

theorem planRepair_ne_restart {c : Classification} (h : c.health ≠ .split)
    (membership : MembershipRecord) (upgrade : Option UpgradeRecord) (now : Instant)
    (cooldown : Nat) (pods : List String) :
    planRepair c membership upgrade now cooldown ≠ .restart pods := by
  unfold planRepair
  rw [if_pos h]
  exact RepairDecision.noConfusion

/-- **A missing answer is no evidence of a partition.** When views are dropped of a set of views in
which every server sees itself, servers of one class stay in one class and the classes do not become
more. Where all the views, or all those of the serving pods, make at most one class, no
classification on what is left finds a split, and no repair restarts a pod. -/
theorem Views.together_of_fewer_answers {views fewer : Views} (hself : views.SeesItself)
    (hsub : fewer.entries ⊆ views.entries) :
    (∀ a ∈ fewer.keys, ∀ b ∈ fewer.keys, Together views a b → Together fewer a b) ∧
    (equivalenceClasses fewer).length ≤ (equivalenceClasses views).length ∧
    ∀ i : DetectionInput, i.views = fewer →
      (equivalenceClasses views).length ≤ 1 ∨
        ({ i with views } : DetectionInput).classes.length ≤ 1 →
      (classify i).health ≠ .split ∧
      ∀ membership upgrade now cooldown pods,
        planRepair (classify i) membership upgrade now cooldown ≠ .restart pods := by
  refine ⟨fun a ha b hb h => h.of_subset hself hsub ha hb,
    length_equivalenceClasses_le hself hsub, ?_⟩
  rintro i rfl hone
  -- A split takes two classes, and there are no more of them now than there were.
  have hhealth : (classify i).health ≠ .split := by
    intro hsplit
    have hmany := (DetectionInput.health_eq_split_iff.1 hsplit).2.1
    have hfew := DetectionInput.length_classes_le_one hself hsub hone
    omega
  exact ⟨hhealth, planRepair_ne_restart hhealth⟩

namespace Views

/-- Three servers that see each other. -/
def agreeing : Views :=
  .ofList
    [("db-0", ["db-0", "db-1", "db-2"]), ("db-1", ["db-0", "db-1", "db-2"]),
      ("db-2", ["db-0", "db-1", "db-2"])]

/-- The three servers when the last does not answer. -/
def silenced : DetectionInput :=
  { deployment := .cluster 3 2
    pods := [0, 1, 2].map fun n => { name := podName "db" n, ordinal := n }
    views := agreeing.erase "db-2"
    previous := {}
    now := .epoch
    grace := 0 }

theorem seesItself_agreeing : agreeing.SeesItself := by
  unfold SeesItself
  decide

theorem length_equivalenceClasses_agreeing : (equivalenceClasses agreeing).length = 1 := by
  decide +kernel

theorem together_agreeing : agreeing.Together "db-0" "db-1" := by
  rw [together_iff_agree seesItself_agreeing]
  refine ⟨["db-0", "db-1", "db-2"], ?_, ?_⟩
  · decide
  · decide

/-- Without the view of the third of three servers that agree, the other two still agree, and no
split is found even though no grace period is left. -/
theorem together_of_silenced :
    agreeing.SeesItself ∧ silenced.views.entries ⊆ agreeing.entries ∧
    silenced.views.Together "db-0" "db-1" ∧ (equivalenceClasses silenced.views).length ≤ 1 ∧
    (classify silenced).health ≠ .split ∧
    planRepair (classify silenced) {} none .epoch 0 ≠ .restart ["db-1"] := by
  have hsub : silenced.views.entries ⊆ agreeing.entries := List.filter_sublist.subset
  obtain ⟨htogether, hlength, hhealth⟩ :=
    together_of_fewer_answers seesItself_agreeing hsub
  rw [length_equivalenceClasses_agreeing] at hlength
  obtain ⟨hsplit, hrestart⟩ :=
    hhealth silenced rfl (.inl (Nat.le_of_eq length_equivalenceClasses_agreeing))
  refine ⟨seesItself_agreeing, hsub, ?_, hlength, hsplit, hrestart _ _ _ _ _⟩
  exact htogether _ (by decide) _ (by decide) together_agreeing

end Views

end ClusterOperator
