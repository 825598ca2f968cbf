import Mathlib.Data.List.GetD
import ClusterOperator.Proofs.Pass.Reconciling

/-!
# Histories of a cluster

A history is a cluster's life as far as the operator takes part in it: one pass after another, each
with whatever it was answered, threaded through the status that the one before has left. Between two
passes, and between any two calls of one, the user edits the declaration and the annotations, pods
come and go, the clock moves as it likes and calls fail; all of that is in the answers, and nothing
is assumed of them but that a pass reads the status that was written last.

> **`History.step`** — in one pass the status is kept but for the phase, the conditions and the
> generation, or it becomes the one that the situation of the pass asks for, and then the pass
> succeeds.

What holds of every history is proved from this step by induction on the number of passes. A finite
history is one that goes on with passes that fail to read the cluster, so histories do not end.
-/

set_option autoImplicit false

namespace ClusterOperator

open Pass

/-- A pass of an operator over a cluster, with its answers. The operator belongs to the pass, since
between two passes it may have been started anew with other settings. -/
structure PassRun (ref : ClusterRef) where
  operator : Operator
  trace : Trace
  result : Except Failure Requeue
  runs : (reconcile operator ref).Runs trace result

/-- The status that is stored before a pass, given the one at the start. It comes before `History`,
whose passes have to read it. -/
def storedBefore {ref : ClusterRef} (start : Option ClusterStatus) (pass : Nat → PassRun ref) :
    Nat → Option ClusterStatus
  | 0 => start
  | k + 1 => storedAfter (storedBefore start pass k) (pass k).trace

/-- The passes over a cluster, each of which reads the status that was stored before it.

This is all that ties the passes to one another. The clock need not move on, the declaration may be
any in every pass, and pods may come and go; a history in which such things are steady says so by a
hypothesis of its own. -/
structure History (ref : ClusterRef) where
  /-- The status at the start, which a new cluster does not have. -/
  start : Option ClusterStatus := none
  pass : Nat → PassRun ref
  reads : ∀ k, ReadsStored (storedBefore start pass k) (pass k).trace

namespace History

variable {ref : ClusterRef} (h : History ref)

/-- The status that is stored before a pass. -/
def stored (k : Nat) : Option ClusterStatus := storedBefore h.start h.pass k

/-- The stored status, with defaults for a cluster that has none. -/
def status (k : Nat) : ClusterStatus := (h.stored k).getD {}

/-- That a pass finds the cluster in a situation that it works on. -/
def Finds (k : Nat) (s : Situation) : Prop :=
  ClusterOperator.Finds (h.pass k).operator ref (h.pass k).trace s

/-- That a pass stores the status that a situation asks for. -/
def Stores (k : Nat) (s : Situation) : Prop :=
  h.Finds k s ∧ h.stored (k + 1) = some s.nextStatus

theorem stored_succ (k : Nat) : h.stored (k + 1) = storedAfter (h.stored k) (h.pass k).trace := rfl

variable {h} {k : Nat} {s : Situation}

theorem Finds.works (hs : h.Finds k s) :
    Works ref (h.stored k) (h.pass k).trace (h.pass k).result s :=
  works_of_finds (h.pass k).runs (h.reads k) hs

theorem Finds.status_eq (hs : h.Finds k s) : s.status = h.status k := by
  unfold Situation.status status
  rw [hs.works.found]

theorem Stores.status_succ (hs : h.Stores k s) : h.status (k + 1) = s.nextStatus := by
  unfold status
  rw [hs.2, Option.getD_some]

/-- **What a pass does to the status.** -/
theorem step (h : History ref) (k : Nat) :
    Retouched (h.stored k) (h.stored (k + 1)) ∨
      ∃ s, h.Stores k s ∧ ∃ requeue, (h.pass k).result = .ok requeue := by
  by_cases hfinds : ∃ s, h.Finds k s
  · obtain ⟨s, hs⟩ := hfinds
    rcases hs.works.outcome with ⟨hstored, hok⟩ | ⟨hkept, -⟩
    · exact .inr ⟨s, ⟨hs, hstored⟩, hok⟩
    · exact .inl (.inl hkept)
  · have hnone : ∀ s, ¬ h.Finds k s := fun s hs => hfinds ⟨s, hs⟩
    have hquiet := quiet_of_not_finds (h.pass k).runs (h.reads k) hnone
    exact .inl (hquiet.status _ List.prefix_rfl)

end History

/-! ## Finite histories -/

section
variable {ref : ClusterRef}

/-- A pass that cannot read its cluster. -/
def unreadPass (ref : ClusterRef) : PassRun ref where
  operator := {}
  trace := [⟨.getCluster ref, .error .serialization⟩]
  result := .error .serialization
  runs := by
    have hacted : (reconcileCluster {} ref).Runs [⟨.getCluster ref, .error .serialization⟩]
        (.error .serialization) := runs_reconcileCluster.mpr (.inl ⟨_, rfl, rfl⟩)
    exact runs_bind.mpr (.inl ⟨_, rfl, hacted⟩)

/-- That each of the passes reads the status that the one before it has left. -/
def Chained : Option ClusterStatus → List (PassRun ref) → Prop
  | _, [] => True
  | stored, pass :: rest =>
    ReadsStored stored pass.trace ∧ Chained (storedAfter stored pass.trace) rest

theorem storedBefore_getD_cons (start : Option ClusterStatus) (pass : PassRun ref)
    (passes : List (PassRun ref)) (k : Nat) :
    storedBefore start (fun i => (pass :: passes).getD i (unreadPass ref)) (k + 1) =
      storedBefore (storedAfter start pass.trace) (fun i => passes.getD i (unreadPass ref)) k := by
  induction k with
  | zero => rfl
  | succ k ih =>
    rw [storedBefore, ih]
    rfl

theorem readsStored_of_chained {start : Option ClusterStatus} {passes : List (PassRun ref)}
    (h : Chained start passes) (k : Nat) :
    ReadsStored (storedBefore start (fun i => passes.getD i (unreadPass ref)) k)
      (passes.getD k (unreadPass ref)).trace := by
  induction passes generalizing start k with
  | nil => exact ⟨trivial, trivial⟩
  | cons pass passes ih =>
    cases k with
    | zero => exact h.1
    | succ k =>
      rw [storedBefore_getD_cons]
      exact ih h.2 k

/-- The history of some passes, after which the cluster is not read any more. -/
def History.ofChained {start : Option ClusterStatus} {passes : List (PassRun ref)}
    (h : Chained start passes) : History ref where
  start
  pass := fun i => passes.getD i (unreadPass ref)
  reads := readsStored_of_chained h

theorem not_finds_unreadPass {operator : Operator} {s : Situation} :
    ¬ Finds operator ref (unreadPass ref).trace s := by
  rintro ⟨cluster, topology, now, seen, rest, -, -, heq⟩
  cases (List.cons.inj heq).1

theorem pass_ofChained {start : Option ClusterStatus} {passes : List (PassRun ref)}
    {h : Chained start passes} {k : Nat} {pass : PassRun ref} (hk : passes[k]? = some pass) :
    (History.ofChained h).pass k = pass := by
  obtain ⟨hlt, rfl⟩ := List.getElem?_eq_some_iff.mp hk
  exact List.getD_eq_getElem passes _ hlt

/-- Whatever is found in a finite history is found by one of its passes. -/
theorem finds_ofChained {start : Option ClusterStatus} {passes : List (PassRun ref)}
    {h : Chained start passes} {k : Nat} {s : Situation} (hs : (History.ofChained h).Finds k s) :
    ∃ pass, passes[k]? = some pass ∧ Finds pass.operator ref pass.trace s := by
  cases hk : passes[k]? with
  | none =>
    have hunread : (History.ofChained h).pass k = unreadPass ref :=
      List.getD_eq_default passes _ (List.getElem?_eq_none_iff.mp hk)
    unfold History.Finds at hs
    rw [hunread] at hs
    exact absurd hs not_finds_unreadPass
  | some pass =>
    unfold History.Finds at hs
    rw [pass_ofChained hk] at hs
    exact ⟨pass, rfl, hs⟩

end

/-! ## Passes that carry out their decisions -/

/-- That a pass over a named cluster may be answered in a way that it finds a situation. Credentials
and hosted databases are left out, for which more would have to be answered: what is wanted are
histories that exist, and not all that do. -/
structure Situation.Attainable (s : Situation) (ref : ClusterRef) : Prop where
  ref_eq : s.ref = ref
  workable : Workable s.cluster s.topology
  auth : s.spec.auth = none
  single : s.topology.deployment = .standalone → s.views = .empty
  views : ∃ outcomes, s.views = collectAnswers outcomes
  hosted : s.hosted = .empty

/-- That a pass carries out all that a situation asks for, and what status it leaves. The status is
given apart, since the last write of such a pass may still be lost. -/
structure PassRun.CarriesOut {ref : ClusterRef} (pass : PassRun ref) (s : Situation)
    (left : Option ClusterStatus) : Prop where
  finds : Finds pass.operator ref pass.trace s
  reads : ReadsStored s.cluster.status pass.trace
  stored : storedAfter s.cluster.status pass.trace = left
  calls : ∀ effect ∈ s.effects, ∃ turn ∈ pass.trace,
    turn.question = effect.call s.cluster ref ∧ turn.failure? = none

section
variable {ref : ClusterRef} {s : Situation}

theorem skipsStatus_of_isReading : ∀ c : Call, c.IsReading → c.SkipsStatus := by
  intro c h
  cases c <;> first | exact trivial | exact h.elim

theorem skipsStatus_of_isCounting : ∀ c : Call, c.IsCounting → c.SkipsStatus := by
  intro c h
  cases c <;> first | exact trivial | exact h.elim

/-- The parts of a pass that carries out what a situation asks for: it observes, acts, writes the
status and is counted. -/
structure PassRun.Parts (pass : PassRun ref) (s : Situation) (seen done written counted : Trace) :
    Prop where
  trace_eq : pass.trace = opening ref s.cluster s.now ++ (seen ++ (done ++ (written ++ counted)))
  seen : (observe pass.operator.settings s.cluster ref s.topology s.now).Runs seen (.ok s)
  done : (performAll s.cluster ref s.effects).Runs done (.ok ())
  written : ∃ r, Attempts ref .status s.settings.retryPolicy (setStatus s.nextStatus)
    s.settings.retryPolicy.tries 1 written r
  counted : ∀ turn ∈ counted, turn.question.IsCounting

/-- In an attainable situation a pass may get as far as writing the status, and in any way go on
from there. -/
theorem exists_parts {left : Nat} {written : Trace} {r : Except Failure (Option Cluster)}
    (hs : s.Attainable ref) (hleft : s.settings.retryPolicy.tries = left)
    (hwritten : Attempts ref .status s.settings.retryPolicy (setStatus s.nextStatus) left 1
      written r) :
    ∃ (pass : PassRun ref) (seen done counted : Trace), pass.Parts s seen done written counted := by
  rw [← hleft] at hwritten
  obtain ⟨seen, hseen⟩ := exists_run_observe hs.auth hs.single hs.views hs.hosted
  rw [hs.ref_eq] at hseen
  obtain ⟨done, hdone⟩ := exists_run_performAll s.cluster ref s.effects
  let operator : Operator := { settings := s.settings }
  obtain ⟨counted, hrun, hcounted⟩ :
      ∃ counted, (reconcile operator ref).Runs (opening ref s.cluster s.now ++
          ((seen ++ (done ++ written)) ++ counted)) _ ∧
        ∀ turn ∈ counted, turn.question.IsCounting :=
    exists_run_of_workable hs.workable (runs_workingPass.mpr (.through hseen hdone hwritten))
  refine ⟨⟨operator, _, _, hrun⟩, seen, done, counted, ?_, hseen, hdone, ⟨r, hwritten⟩, hcounted⟩
  simp only [List.append_assoc]

theorem PassRun.Parts.carriesOut {pass : PassRun ref} {seen done written counted : Trace}
    (h : pass.Parts s seen done written counted) (hs : s.Attainable ref)
    (hreads : ReadsStored s.cluster.status written) :
    pass.CarriesOut s (storedAfter s.cluster.status written) := by
  have hseen : ∀ turn ∈ seen, turn.question.SkipsStatus := fun turn hturn =>
    skipsStatus_of_isReading _ (isReading_observe _ _ h.seen turn hturn)
  have hdone : ∀ turn ∈ done, turn.question.SkipsStatus :=
    asksOnly_performAll (fun effect _ => by cases effect <;> trivial) _ _ h.done
  have hcounted : ∀ turn ∈ counted, turn.question.SkipsStatus := fun turn hturn =>
    skipsStatus_of_isCounting _ (h.counted turn hturn)
  have hkept : ∀ {stored : Option ClusterStatus} {trace : Trace},
      (∀ turn ∈ trace, turn.question.SkipsStatus) → storedAfter stored trace = stored := fun h =>
    storedAfter_of_keepsStatus fun turn hturn => (h turn hturn).keepsStatus
  have hopening : storedAfter s.cluster.status (opening ref s.cluster s.now) = s.cluster.status :=
    rfl
  -- Of the five parts only the write of the status touches what is stored.
  refine ⟨?_, ?_, ?_, ?_⟩
  · exact ⟨s.cluster, s.topology, s.now, seen, done ++ (written ++ counted), hs.workable, h.seen,
      h.trace_eq⟩
  · simp only [h.trace_eq, readsStored_append, hopening, hkept hseen, hkept hdone]
    exact ⟨⟨rfl, trivial, trivial⟩, readsStored_of_skipsStatus hseen,
      readsStored_of_skipsStatus hdone, hreads, readsStored_of_skipsStatus hcounted⟩
  · simp only [h.trace_eq, storedAfter_append, hopening, hkept hseen, hkept hdone, hkept hcounted]
  · intro effect heffect
    have hcall : effect.call s.cluster ref ∈ done.map (·.question) := by
      rw [(calls_performAll h.done).2 rfl]
      exact List.mem_map_of_mem heffect
    obtain ⟨turn, hturn, hquestion⟩ := List.mem_map.mp hcall
    exact ⟨turn, by simp [h.trace_eq, hturn], hquestion,
      performAll_endsOnFailure.calm h.done turn hturn⟩

/-- A pass in which nothing fails leaves the status that its situation asks for. -/
theorem exists_pass_storing (hs : s.Attainable ref) :
    ∃ (pass : PassRun ref) (seen done written counted : Trace),
      pass.CarriesOut s (some s.nextStatus) ∧ pass.Parts s seen done written counted ∧
      Calm written ∧ ⟨.getCluster ref, .ok none⟩ ∉ written := by
  obtain ⟨left, hleft⟩ := tries_eq s.settings.retryPolicy
  -- A status that is stored already is not written again, and then it is left as it is.
  by_cases hsame : s.cluster.status = some s.nextStatus
  · have hunchanged : (setStatus s.nextStatus s.cluster).1 = false := by
      unfold setStatus
      rw [if_pos hsame]
    obtain ⟨pass, seen, done, counted, hparts⟩ := exists_parts hs hleft
      (.unchanged left 1 s.cluster hunchanged)
    have hcarries := hparts.carriesOut hs ⟨rfl, trivial⟩
    rw [storedAfter_of_keepsStatus (by simp [Call.KeepsStatus]), hsame] at hcarries
    refine ⟨pass, seen, done, _, counted, hcarries, hparts, fun turn hturn => ?_, by simp⟩
    rw [List.mem_singleton.mp hturn]
    rfl
  · have hset : setStatus s.nextStatus s.cluster =
        (true, { s.cluster with status := some s.nextStatus }) := if_neg hsame
    have hchanged : (setStatus s.nextStatus s.cluster).1 = true := by rw [hset]
    obtain ⟨pass, seen, done, counted, hparts⟩ := exists_parts hs hleft
      (.written left 1 s.cluster s.cluster hchanged)
    have hcarries := hparts.carriesOut hs ⟨rfl, trivial, trivial⟩
    rw [storedAfter_cons, storedAfter_cons, statusAfter_status_ok, hset] at hcarries
    refine ⟨pass, seen, done, _, counted, hcarries, hparts, fun turn hturn => ?_, ?_⟩
    · rcases List.mem_pair.mp hturn with rfl | rfl <;> rfl
    · simp [WriteTarget.turn]

/-- A pass that fails at the write of the status leaves the one that it found. -/
theorem exists_pass_losing (hs : s.Attainable ref) :
    ∃ pass : PassRun ref, pass.CarriesOut s s.cluster.status := by
  obtain ⟨left, hleft⟩ := tries_eq s.settings.retryPolicy
  obtain ⟨pass, seen, done, counted, hparts⟩ := exists_parts hs hleft
    (.unread left 1 (.timeout "get cluster" 10000))
  exact ⟨pass, hparts.carriesOut hs ⟨trivial, trivial⟩⟩

namespace PassRun.CarriesOut

variable {pass : PassRun ref} {left : Option ClusterStatus}

theorem mem_deletedPods (h : pass.CarriesOut s left) {cause : RestartCause} {pod : String}
    (hpod : .restart cause pod ∈ s.effects) : pod ∈ deletedPods pass.trace := by
  obtain ⟨turn, hturn, hquestion, -⟩ := h.calls _ hpod
  refine List.mem_filterMap.mpr ⟨turn, hturn, ?_⟩
  rw [hquestion]
  rfl

theorem deletedPods_ne_nil (h : pass.CarriesOut s left) {cause : RestartCause}
    (hcause : s.condemned cause ≠ []) : deletedPods pass.trace ≠ [] := by
  obtain ⟨pod, hpod⟩ := List.exists_mem_of_ne_nil _ hcause
  rw [← s.restarted_effects_of_condemned hcause, List.mem_filterMap] at hpod
  obtain ⟨effect, heffect, hrestart⟩ := hpod
  cases effect with
  | restart other name => exact List.ne_nil_of_mem (h.mem_deletedPods heffect)
  | measure | publish | apply => cases hrestart

theorem applied (h : pass.CarriesOut s left) (hpermits : s.permitsApply = true) :
    ⟨.applyManifest s.cluster s.manifest, .ok ()⟩ ∈ pass.trace := by
  obtain ⟨told, rest, heffects, -⟩ := s.exists_effects_eq hpermits
  have hmem : .apply s.manifest ∈ s.effects := by
    rw [heffects]
    simp
  obtain ⟨turn, hturn, hquestion, hfailure⟩ := h.calls _ hmem
  rw [← eq_applied hquestion hfailure]
  exact hturn

end PassRun.CarriesOut

/-! ## Histories in which nothing fails -/

/-- That each of the situations can be found and has the status that the one before asks for. This
is what a witness has to give: the passes and their answers are made from it. -/
def Succession (ref : ClusterRef) : Option ClusterStatus → List Situation → Prop
  | _, [] => True
  | stored, s :: rest =>
    s.Attainable ref ∧ s.cluster.status = stored ∧ Succession ref (some s.nextStatus) rest

theorem exists_passes {start : Option ClusterStatus} {situations : List Situation}
    (h : Succession ref start situations) :
    ∃ passes : List (PassRun ref), Chained start passes ∧
      List.Forall₂ (fun pass s => pass.CarriesOut s (some s.nextStatus)) passes situations := by
  induction situations generalizing start with
  | nil => exact ⟨[], trivial, .nil⟩
  | cons s rest ih =>
    obtain ⟨hs, rfl, hrest⟩ := h
    obtain ⟨pass, -, -, -, -, hpass, -⟩ := exists_pass_storing hs
    obtain ⟨passes, hchained, hall⟩ := ih hrest
    refine ⟨pass :: passes, ⟨hpass.reads, ?_⟩, .cons hpass hall⟩
    rw [hpass.stored]
    exact hchained

theorem storedBefore_of_succession {start : Option ClusterStatus} {passes : List (PassRun ref)}
    {situations : List Situation} (h : Succession ref start situations)
    (hall : List.Forall₂ (fun pass s => pass.CarriesOut s (some s.nextStatus)) passes situations)
    {k : Nat} (hk : situations[k]? = some s) :
    storedBefore start (fun i => passes.getD i (unreadPass ref)) k = s.cluster.status := by
  induction hall generalizing start k with
  | nil => cases hk
  | cons hpass _ ih =>
    obtain ⟨-, hfound, hrest⟩ := h
    cases k with
    | zero =>
      cases hk
      exact hfound.symm
    | succ k =>
      rw [storedBefore_getD_cons, ← hfound, hpass.stored]
      exact ih hrest hk

theorem exists_carriesOut {passes : List (PassRun ref)} {situations : List Situation}
    (hall : List.Forall₂ (fun pass s => pass.CarriesOut s (some s.nextStatus)) passes situations)
    {k : Nat} (hk : situations[k]? = some s) :
    ∃ pass, passes[k]? = some pass ∧ pass.CarriesOut s (some s.nextStatus) := by
  obtain ⟨hlt, rfl⟩ := List.getElem?_eq_some_iff.mp hk
  have hlt' : k < passes.length := by rwa [hall.length_eq]
  exact ⟨passes[k], List.getElem?_eq_getElem hlt', hall.get hlt' hlt⟩

theorem exists_situation {passes : List (PassRun ref)} {situations : List Situation}
    (hall : List.Forall₂ (fun pass s => pass.CarriesOut s (some s.nextStatus)) passes situations)
    {k : Nat} {pass : PassRun ref} (hk : passes[k]? = some pass) :
    ∃ s, situations[k]? = some s ∧ pass.CarriesOut s (some s.nextStatus) := by
  obtain ⟨hlt, rfl⟩ := List.getElem?_eq_some_iff.mp hk
  have hlt' : k < situations.length := by rwa [← hall.length_eq]
  exact ⟨situations[k], List.getElem?_eq_getElem hlt', hall.get hlt hlt'⟩

/-- A succession of situations is the course of a history. -/
theorem exists_history {start : Option ClusterStatus} {situations : List Situation}
    (h : Succession ref start situations) : ∃ history : History ref, history.start = start ∧
      (∀ k s, situations[k]? = some s →
        (history.pass k).CarriesOut s (some s.nextStatus) ∧ history.Stores k s) ∧
      ∀ k s, history.Finds k s → s ∈ situations := by
  obtain ⟨passes, hchained, hall⟩ := exists_passes h
  refine ⟨.ofChained hchained, rfl, fun k s hk => ?_, fun k s hs => ?_⟩
  · obtain ⟨pass, hpass, hcarries⟩ := exists_carriesOut hall hk
    rw [pass_ofChained hpass]
    have hfinds : (History.ofChained hchained).Finds k s := by
      unfold History.Finds
      rw [pass_ofChained hpass]
      exact hcarries.finds
    have hbefore : (History.ofChained hchained).stored k = s.cluster.status :=
      storedBefore_of_succession h hall hk
    refine ⟨hcarries, hfinds, ?_⟩
    rw [History.stored_succ, hbefore, pass_ofChained hpass, hcarries.stored]
  · obtain ⟨pass, hpass, hfinds⟩ := finds_ofChained hs
    obtain ⟨t, ht, hcarries⟩ := exists_situation hall hpass
    rw [hfinds.unique hcarries.finds]
    exact List.mem_of_getElem? ht

/-- A pass whose status is lost, and another that finds what the first has found. -/
theorem exists_history_losing {t : Situation} (hs : s.Attainable ref) (ht : t.Attainable ref)
    (hsame : t.cluster.status = s.cluster.status) :
    ∃ history : History ref, history.start = s.cluster.status ∧
      (history.pass 0).CarriesOut s s.cluster.status ∧
      (history.pass 1).CarriesOut t (some t.nextStatus) ∧
      ∀ k u, history.Finds k u → u ∈ [s, t] := by
  obtain ⟨lost, hlost⟩ := exists_pass_losing hs
  obtain ⟨kept, -, -, -, -, hkept, -⟩ := exists_pass_storing ht
  have hchained : Chained s.cluster.status [lost, kept] := by
    refine ⟨hlost.reads, ?_, trivial⟩
    rw [hlost.stored, ← hsame]
    exact hkept.reads
  refine ⟨.ofChained hchained, rfl, hlost, hkept, fun k u hu => ?_⟩
  obtain ⟨pass, hpass, hfound⟩ := finds_ofChained hu
  rcases List.mem_pair.mp (List.mem_of_getElem? hpass) with rfl | rfl
  · rw [hfound.unique hlost.finds]
    exact List.mem_cons_self
  · rw [hfound.unique hkept.finds]
    exact List.mem_cons_of_mem _ List.mem_cons_self

end

end ClusterOperator
