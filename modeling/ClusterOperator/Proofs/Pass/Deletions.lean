import ClusterOperator.Proofs.Pass.Causes
import ClusterOperator.Proofs.Pass.Working

/-!
# Which pods a pass deletes

A pass that loses its connection half way has done a first part of what it decided. So the
discipline of a pass is a statement about its runs, not about its decisions: which pods were
deleted, and what had happened by then.

> **`disciplined_workingPass`** — the pods that a run deletes are, in order, the first of those that
> a single cause asks for, and what warrants that cause held before the first of them. After a write
> of the status there is nothing but that write, tried again; after any other failure, nothing.

The last clause cannot be had without its exception. A status write that was overtaken is answered
with a failure, and the pass goes on to write once more (`write_after_conflict`).
-/

set_option autoImplicit false

namespace ClusterOperator

open Instant Pass

/-! ## The runs -/

def Call.deleted? : Call → Option String
  | deletePod _ name => some name
  | _ => none

theorem deleted?_call (cluster : Cluster) (ref : ClusterRef) (effect : Effect) :
    (effect.call cluster ref).deleted? = effect.restarted? := by
  cases effect <;> rfl

/-- The pods that a run deletes, in order. -/
def deletedPods (trace : Trace) : List String := trace.filterMap (·.question.deleted?)

theorem deletedPods_append (s t : Trace) : deletedPods (s ++ t) = deletedPods s ++ deletedPods t :=
  List.filterMap_append

theorem deletedPods_eq_nil {P : Call → Prop} {trace : Trace} (h : ∀ turn ∈ trace, P turn.question)
    (hP : ∀ c, P c → c.deleted? = none) : deletedPods trace = [] :=
  List.filterMap_eq_nil_iff.mpr fun turn hturn => hP _ (h turn hturn)

theorem deleted?_of_isReading : ∀ c : Call, c.IsReading → c.deleted? = none := by
  intro c h
  cases c <;> first | rfl | exact h.elim

theorem deleted?_of_mayAsk (ref : ClusterRef) :
    ∀ c : Call, WriteTarget.status.MayAsk ref c → c.deleted? = none := by
  intro c h
  cases c <;> first | rfl | exact h.elim

section
variable {settings : Settings} {cluster : Cluster} {ref : ClusterRef} {topology : Topology}
  {now : Instant} {trace : Trace} {result : Except Failure Nat}

theorem deletedPods_eq (trace : Trace) :
    deletedPods trace = (trace.map (·.question)).filterMap Call.deleted? := by
  rw [List.filterMap_map]
  rfl

theorem deleted_map_call (effects : List Effect) :
    (effects.map (·.call cluster ref)).filterMap Call.deleted? =
      effects.filterMap (·.restarted?) := by
  rw [List.filterMap_map]
  exact List.filterMap_congr fun effect _ => deleted?_call cluster ref effect

/-- Effects delete a first part of what they delete in full. -/
theorem deletedPods_performAll {effects : List Effect} {result : Except Failure Unit}
    (h : (performAll cluster ref effects).Runs trace result) :
    deletedPods trace <+: effects.filterMap (·.restarted?) := by
  rw [deletedPods_eq, ← deleted_map_call]
  exact (calls_performAll h).1.filterMap _

/-- The manifest was applied before a pod was deleted. -/
def AppliedFirst (cluster : Cluster) (manifest : Manifest) (trace : Trace) : Prop :=
  ∀ before «namespace» name answer after,
    trace = before ++ ⟨.deletePod «namespace» name, answer⟩ :: after →
      ⟨.applyManifest cluster manifest, .ok ()⟩ ∈ before

theorem AppliedFirst.append_left {manifest : Manifest} {seen : Trace}
    (h : AppliedFirst cluster manifest trace) (hseen : ∀ turn ∈ seen, turn.question.IsReading) :
    AppliedFirst cluster manifest (seen ++ trace) := by
  intro before ns name answer after heq
  obtain ⟨mid, rfl, hmid⟩ := exists_eq_append_of_not_mem heq fun hmem => hseen _ hmem
  exact List.mem_append_right _ (h _ _ _ _ _ hmid)

theorem AppliedFirst.append_right {manifest : Manifest} {written : Trace}
    (h : AppliedFirst cluster manifest trace)
    (hwritten : ∀ turn ∈ written, WriteTarget.status.MayAsk ref turn.question) :
    AppliedFirst cluster manifest (trace ++ written) := by
  intro before ns name answer after heq
  obtain ⟨mid, hmid⟩ := exists_eq_append_cons_of_not_mem heq fun hmem => hwritten _ hmem
  exact h _ _ _ _ _ hmid

theorem eq_applied {turn : Turn Call.Answer} {manifest : Manifest}
    (hquestion : turn.question = .applyManifest cluster manifest)
    (hfailure : turn.failure? = none) : turn = ⟨.applyManifest cluster manifest, .ok ()⟩ := by
  obtain ⟨question, answer⟩ := turn
  cases hquestion
  match answer with
  | .ok () => rfl
  | .error f => cases hfailure

theorem appliedFirst_performAll {s : Situation} {result : Except Failure Unit}
    (hpermits : s.permitsApply) (h : (performAll cluster ref s.effects).Runs trace result) :
    AppliedFirst cluster s.manifest trace := by
  rintro before ns name answer after rfl
  -- Nothing that stands before the manifest deletes a pod, so a deletion is reached only past it.
  obtain ⟨told, rest, heffects, htold⟩ := s.exists_effects_eq hpermits
  have hcalls := (calls_performAll h).1
  rw [heffects, List.map_append, List.map_append, List.map_cons, List.map_cons] at hcalls
  have hnone : Call.deletePod ns name ∉ told.map (·.call cluster ref) := by
    intro hmem
    obtain ⟨effect, heffect, hcall⟩ := List.mem_map.mp hmem
    have hrestarted := List.filterMap_eq_nil_iff.mp htold effect heffect
    rw [← deleted?_call cluster ref, hcall] at hrestarted
    cases hrestarted
  obtain ⟨turn, hturn, hquestion⟩ := List.mem_map.mp (mem_of_earlier hcalls hnone nofun)
  rw [← eq_applied hquestion ?_]
  · exact hturn
  · -- The call is not the last one, so it did not fail.
    by_contra hfailed
    obtain ⟨first, second, rfl⟩ := List.append_of_mem hturn
    rw [List.append_assoc, List.cons_append] at h
    have hlast : FailsOnlyLast (fun _ => False) _ := performAll_endsOnFailure.failsOnlyLast h
    have hend := hlast _ _ _ rfl hfailed
    simp at hend

/-- What holds when a run deletes pods for a cause. Each cause has its own: an upgrade needs the
target's template first, a repair needs no template but a split whose cooldown is over, and a
rollout is one pod whose image is known not to change. -/
def Situation.Warrants (s : Situation) (trace : Trace) : RestartCause → Prop
  | .upgrade =>
    AppliedFirst s.cluster s.manifest trace ∧
      ∃ record, s.upgrade? = some record ∧
        s.manifest.image = s.spec.image.referenceFor record.targetVersion
  | .repair =>
    s.health = .split ∧
      (∀ record, s.upgrade? = some record →
        record.phase ≠ .inProgress ∧ record.phase ≠ .paused) ∧
      ∀ text last, s.status.membership.lastRepairTime = some text → parse? text = some last →
        s.tunables.repairCooldown ≤ elapsed last s.now
  | .rollout =>
    AppliedFirst s.cluster s.manifest trace ∧ s.health ≠ .split ∧
      (∀ record, s.upgrade? = some record →
        record.phase ≠ .inProgress ∧ record.phase ≠ .paused) ∧
      ∃ pod ∈ s.pods, deletedPods trace = [pod.name] ∧
        pod.configHash ≠ some s.manifest.configHash ∧
        ∀ image, pod.image = some image → image = s.manifest.image

/-- A cause that deletes pods is warranted, if the manifest was applied first wherever it may be. -/
theorem warrants_of_deletedPods {s : Situation} {cause : RestartCause}
    (hdeleted : deletedPods trace ≠ []) (hcalls : deletedPods trace <+: s.condemned cause)
    (happlied : s.permitsApply → AppliedFirst s.cluster s.manifest trace) :
    s.Warrants trace cause := by
  have hcondemned : s.condemned cause ≠ [] := fun hnil =>
    hdeleted (List.prefix_nil.mp (hnil ▸ hcalls))
  -- The three causes have nothing in common but that they are asked for; the conditions of each
  -- come from its own decision.
  cases cause with
  | upgrade =>
    obtain ⟨hpermits, -, record, hrecord, hphase⟩ := Situation.upgrade_of_condemned hcondemned
    refine ⟨happlied hpermits, record, hrecord, ?_⟩
    rw [← Situation.tag_of_inProgress hrecord hphase]
    rfl
  | repair =>
    obtain ⟨hsplit, hholds, hcool⟩ := Situation.repair_of_condemned hcondemned
    exact ⟨hsplit, Situation.phase_of_upgradeHolds hholds, fun text last htext hlast =>
      cooldownLeft?_eq_none hcool htext hlast⟩
  | rollout =>
    obtain ⟨hpermits, hsplit, hholds, pod, hmem, hname, hhash, himage⟩ :=
      Situation.rollout_of_condemned hcondemned
    refine ⟨happlied hpermits, hsplit, Situation.phase_of_upgradeHolds hholds, pod, hmem, ?_, hhash,
      fun image himage' => image_eq_of_mayRun himage himage'⟩
    rw [hname] at hcalls
    rcases List.prefix_cons_iff.mp hcalls with hnil | ⟨rest, heq, hrest⟩
    · exact absurd hnil hdeleted
    · rw [heq, List.prefix_nil.mp hrest]

theorem exists_condemned {s : Situation} (h : s.effects.filterMap (·.restarted?) ≠ []) :
    ∃ cause, s.condemned cause ≠ [] := by
  by_contra hnone
  have hnil (cause : RestartCause) : s.condemned cause = [] := by
    by_contra hcause
    exact hnone ⟨cause, hcause⟩
  rw [s.restarted_effects, hnil, hnil, hnil] at h
  exact h rfl

/-- What a pass deletes between its observation and whatever follows. -/
theorem exists_cause {s : Situation} {seen done rest : Trace} {result : Except Failure Unit}
    (hs : Observed settings cluster ref topology now seen s)
    (hseen : ∀ turn ∈ seen, turn.question.IsReading)
    (hdone : (performAll cluster ref s.effects).Runs done result)
    (hrest : ∀ turn ∈ rest, WriteTarget.status.MayAsk ref turn.question)
    (hdeleted : deletedPods (seen ++ (done ++ rest)) ≠ []) :
    ∃ cause, deletedPods (seen ++ (done ++ rest)) <+: s.condemned cause ∧
      (∀ other, other ≠ cause → s.condemned other = []) ∧
      s.Warrants (seen ++ (done ++ rest)) cause := by
  -- Before the effects the pass only reads, and after them it only writes its status.
  have honly : deletedPods (seen ++ (done ++ rest)) = deletedPods done := by
    rw [deletedPods_append, deletedPods_append, deletedPods_eq_nil hseen deleted?_of_isReading,
      deletedPods_eq_nil hrest (deleted?_of_mayAsk ref), List.nil_append, List.append_nil]
  have hcalls := deletedPods_performAll hdone
  rw [← honly] at hcalls
  obtain ⟨cause, hcause⟩ := exists_condemned fun hnil =>
    hdeleted (List.prefix_nil.mp (hnil ▸ hcalls))
  rw [Situation.restarted_effects_of_condemned s hcause] at hcalls
  have hcluster : s.cluster = cluster := by rw [hs.given]
  refine ⟨cause, hcalls, fun other hother => Situation.condemned_eq_nil hcause hother,
    warrants_of_deletedPods hdeleted hcalls fun hpermits => ?_⟩
  rw [hcluster]
  exact ((appliedFirst_performAll hpermits hdone).append_right hrest).append_left hseen

theorem not_replaceStatus_of_performAll {s : Situation} {done : Trace}
    {result : Except Failure Unit} (h : (performAll cluster ref s.effects).Runs done result) :
    ∀ turn ∈ done, ∀ c, turn.question ≠ .replaceStatus c := by
  intro turn hturn c hquestion
  have hmem := (calls_performAll h).1.mem (List.mem_map_of_mem hturn)
  rw [hquestion] at hmem
  obtain ⟨effect, -, heffect⟩ := List.mem_map.mp hmem
  cases effect <;> cases heffect

/-- After a write of the status a pass does nothing but try that write again. -/
theorem mayAsk_after_replaceStatus {before after : Trace} {c : Cluster}
    {answer : Except Failure Cluster}
    (h : (workingPass settings cluster ref topology now).Runs trace result)
    (heq : trace = before ++ ⟨.replaceStatus c, answer⟩ :: after) :
    ∀ later ∈ after, WriteTarget.status.MayAsk ref later.question := by
  have hmem : (⟨.replaceStatus c, answer⟩ : Turn Call.Answer) ∈ trace := by simp [heq]
  -- The write stands neither in the observation nor among the effects; what follows it is the rest
  -- of the attempts.
  cases runs_workingPass.mp h with
  | blind hseen => exact (isReading_observe _ _ hseen _ hmem).elim
  | stopped hseen hdone =>
    rcases List.mem_append.mp hmem with hmem | hmem
    · exact (isReading_observe _ _ hseen _ hmem).elim
    · exact absurd rfl (not_replaceStatus_of_performAll hdone _ hmem c)
  | through hseen hdone hwritten =>
    obtain ⟨_, -, hrest⟩ :=
      exists_eq_append_of_not_mem heq fun hmem => isReading_observe _ _ hseen _ hmem
    obtain ⟨_, -, hafter⟩ := exists_eq_append_of_not_mem hrest fun hmem =>
      not_replaceStatus_of_performAll hdone _ hmem c rfl
    intro later hlater
    refine hwritten.mayAsk later ?_
    rw [hafter]
    exact List.mem_append_right _ (List.mem_cons_of_mem _ hlater)

/-- What is kept by every run of a working pass. The clauses speak of the trace alone, wherever the
run ends, so they hold of passes that were cut short as well as of whole ones. -/
structure Disciplined (settings : Settings) (cluster : Cluster) (ref : ClusterRef)
    (topology : Topology) (now : Instant) (trace : Trace) : Prop where
  /-- The pods deleted are in order the first of those that one cause asks for. -/
  cause : deletedPods trace ≠ [] → ∃ s cause,
    Observed settings cluster ref topology now trace s ∧
      deletedPods trace <+: s.condemned cause ∧
      (∀ other, other ≠ cause → s.condemned other = []) ∧ s.Warrants trace cause
  /-- After a write of the status there is nothing but that write, tried again. -/
  statusLast : ∀ before c answer after, trace = before ++ ⟨.replaceStatus c, answer⟩ :: after →
    ∀ later ∈ after, WriteTarget.status.MayAsk ref later.question
  /-- After a call that failed there is nothing, unless a write of the status was overtaken. -/
  failuresLast : ∀ before turn after, trace = before ++ turn :: after → turn.failure? ≠ none →
    after = [] ∨ ∃ c f, turn = ⟨.replaceStatus c, .error f⟩ ∧ f.isConflict

/-- **Every run of a working pass is disciplined**, whatever the pass is given and answered. A run
is taken apart into what it reads, what it does and what it writes: pods are deleted only in the
second part, and with the third the run ends. -/
theorem disciplined_workingPass
    (h : (workingPass settings cluster ref topology now).Runs trace result) :
    Disciplined settings cluster ref topology now trace := by
  refine ⟨?_, ?_, failsOnlyLast_workingPass h⟩
  · intro hdeleted
    cases runs_workingPass.mp h with
    | blind hseen =>
      have hreading := deletedPods_eq_nil (isReading_observe _ _ hseen) deleted?_of_isReading
      exact absurd hreading hdeleted
    | @stopped seen done s f hseen hdone =>
      have hs := observed_observe hseen
      -- A pass that was stopped among its effects is one with nothing after them.
      rw [← List.append_nil done] at hdeleted ⊢
      obtain ⟨cause, hcause⟩ :=
        exists_cause hs (isReading_observe _ _ hseen) hdone (by simp) hdeleted
      exact ⟨s, cause, hs.append _, hcause⟩
    | through hseen hdone hwritten =>
      have hs := observed_observe hseen
      obtain ⟨cause, hcause⟩ :=
        exists_cause hs (isReading_observe _ _ hseen) hdone hwritten.mayAsk hdeleted
      exact ⟨_, cause, hs.append _, hcause⟩
  · intro before c answer after heq
    exact mayAsk_after_replaceStatus h heq

end

/-! ## A single server in the middle of its upgrade -/

/-- A cluster of one server whose version is raised from one to two. -/
def lone : Cluster :=
  { metadata := { name := some "db", «namespace» := some "data" }
    spec := { servers := 1, image := { tag := "2" } }
    status := some
      { version := some "1"
        upgrade := some
          { phase := .inProgress, previousVersion := some "1", targetVersion := "2"
            plan := [⟨0, .primary⟩] } } }

/-- What a pass over that cluster observes. -/
def loneSituation : Situation :=
  { cluster := lone, ref := ⟨"data", "db"⟩, topology := ⟨.standalone, [.unrestricted]⟩
    settings := {}, now := .epoch, views := .empty
    pods := [{ name := "db-0", ordinal := 0, image := some "neo4j:1" }] }

theorem condemned_loneSituation : loneSituation.condemned .upgrade = ["db-0"] := by decide

/-- The pass over that cluster. -/
def lonePass : Pass Nat := workingPass {} lone ⟨"data", "db"⟩ ⟨.standalone, [.unrestricted]⟩ .epoch

theorem observe_lone :
    (observe {} lone ⟨"data", "db"⟩ ⟨.standalone, [.unrestricted]⟩ .epoch).Runs
      [⟨.listServerPods lone, .ok loneSituation.pods⟩] (.ok loneSituation) := by
  refine runs_bind.mpr (.inr ⟨_, loneSituation.pods, [], rfl, runs_listServerPods.mpr rfl, ?_⟩)
  refine runs_bind.mpr (.inr ⟨[], none, [], rfl, runs_pure.mpr ⟨rfl, rfl⟩, ?_⟩)
  refine runs_bind.mpr (.inr ⟨[], .empty, [], rfl, runs_pure.mpr ⟨rfl, rfl⟩, ?_⟩)
  have hneeds : ¬ loneSituation.needsHosted := by decide
  exact (if_neg hneeds) ▸ runs_pure.mpr ⟨rfl, rfl⟩

/-- A pass over that cluster whose calls succeed up to the write of the status. -/
theorem exists_run_lonePass {written : Trace} {stored : Except Failure (Option Cluster)}
    (hwritten : Attempts ⟨"data", "db"⟩ .status (Settings.retryPolicy {})
      (setStatus loneSituation.nextStatus) 5 1 written stored) :
    ∃ before, deletedPods before = ["db-0"] ∧
      lonePass.Runs (before ++ written) (stored.map fun _ => loneSituation.requeue) := by
  obtain ⟨done, hdone⟩ := exists_run_performAll lone ⟨"data", "db"⟩ loneSituation.effects
  refine ⟨[⟨.listServerPods lone, .ok loneSituation.pods⟩] ++ done, ?_, ?_⟩
  · have hcondemned : loneSituation.condemned .upgrade ≠ [] := by
      rw [condemned_loneSituation]
      exact List.cons_ne_nil _ _
    rw [deletedPods_append, deletedPods_eq done, (calls_performAll hdone).2 rfl, deleted_map_call,
      loneSituation.restarted_effects_of_condemned hcondemned, condemned_loneSituation]
    rfl
  · rw [List.append_assoc]
    exact runs_workingPass.mpr (.through observe_lone hdone hwritten)

theorem changed_setStatus {next : ClusterStatus} {latest : Cluster} (h : latest.status = none) :
    (setStatus next latest).1 = true := by
  unfold setStatus
  rw [h, if_neg nofun]

/-- The pass restarts its server for the upgrade and then writes the status. -/
theorem disciplined_lonePass : ∃ trace result, lonePass.Runs trace result ∧
    deletedPods trace = ["db-0"] ∧
    Disciplined {} lone ⟨"data", "db"⟩ ⟨.standalone, [.unrestricted]⟩ .epoch trace := by
  obtain ⟨before, hbefore, hrun⟩ := exists_run_lonePass
    (.written 4 1 default default (changed_setStatus rfl))
  refine ⟨_, _, hrun, ?_, disciplined_workingPass hrun⟩
  rw [deletedPods_append, hbefore]
  rfl

/-- A call that changes something in the store. -/
def Call.IsMutation : Call → Prop
  | .replaceCluster _ | .replaceStatus _ | .applyManifest _ _ | .deletePod _ _ => True
  | _ => False

/-- A write of the status that was overtaken does not end the changes that a pass makes: the write
is tried again. -/
theorem write_after_conflict :
    ¬ ∀ trace result, lonePass.Runs trace result →
      ∀ before turn after, trace = before ++ turn :: after → turn.failure? ≠ none →
        ∀ later ∈ after, ¬ later.question.IsMutation := by
  intro h
  obtain ⟨before, -, hrun⟩ := exists_run_lonePass
    (.overtaken 4 1 default (.conflict "data/db") (changed_setStatus rfl) rfl
      (.written 3 2 default default (changed_setStatus rfl)))
  let next := (setStatus loneSituation.nextStatus default).2
  have hnone := h _ _ hrun (before ++ [⟨.getCluster ⟨"data", "db"⟩, .ok (some default)⟩])
    ⟨.replaceStatus next, .error (.conflict "data/db")⟩ _ (List.append_cons ..) nofun
  refine hnone ⟨.replaceStatus next, .ok default⟩ (List.mem_append_right _ ?_) trivial
  exact List.mem_cons_of_mem _ List.mem_cons_self

end ClusterOperator
