import ClusterOperator.Proofs.Pass.Interleaving
import ClusterOperator.Proofs.Pass.Reconciling

/-!
# The finalizer

A cluster that is being deleted stays until its finalizer is released. The operator puts it there
before it creates anything, so that nothing it has created can be left behind, and takes it away
when every hook has cleaned up. Between the two, any call may fail.

> **`guarded_of_runs`** — a pass over a cluster that is not claimed claims it and does nothing else;
> a pass over one that is being deleted leaves the servers alone, and releases the finalizer only
> after all hooks have succeeded, in their order and in this same pass.

The pass over a cluster that is being deleted has three ways to end, which `DeletionRun` lists: the
deletion cannot be recorded, a hook fails, or the pass comes as far as releasing the finalizer.
-/

set_option autoImplicit false

namespace ClusterOperator

open Pass

/-! ## The list of finalizers -/

def Cluster.finalizers (c : Cluster) : List String := c.metadata.finalizers.getD []

/-- What adding and removing the finalizer make of the list. Other controllers hold a cluster by
entries of their own in that list, so besides the operator's entry all the others count, with their
order. -/
structure Cluster.FinalizerLaws (c : Cluster) : Prop where
  added : c.hasFinalizer = false → c.addFinalizer.2.finalizers = c.finalizers ++ [finalizerName]
  /-- The list grows by one entry just if the finalizer was missing, and then it is told so. -/
  grown : (c.addFinalizer.2.finalizers.length = c.finalizers.length + 1 ↔ c.hasFinalizer = false) ∧
    c.addFinalizer.1 = !c.hasFinalizer
  kept : c.hasFinalizer = true → c.addFinalizer.2.finalizers = c.finalizers
  removed : finalizerName ∉ c.removeFinalizer.2.finalizers
  /-- The others stay, in their order. -/
  others : c.addFinalizer.2.finalizers.filter (· != finalizerName) =
      c.finalizers.filter (· != finalizerName) ∧
    c.removeFinalizer.2.finalizers.filter (· != finalizerName) =
      c.finalizers.filter (· != finalizerName)
  /-- Nothing else of the object changes. -/
  rest : ∀ list, c.addFinalizer.2.withFinalizers list = c.withFinalizers list ∧
    c.removeFinalizer.2.withFinalizers list = c.withFinalizers list

theorem Cluster.addFinalizer_of_missing {c : Cluster} (h : c.hasFinalizer = false) :
    c.addFinalizer = (true, c.withFinalizers (c.finalizers ++ [finalizerName])) := by
  unfold addFinalizer
  exact if_neg (Bool.eq_false_iff.mp h)

theorem Cluster.addFinalizer_of_present {c : Cluster} (h : c.hasFinalizer = true) :
    c.addFinalizer = (false, c.withFinalizers c.finalizers) := by
  unfold addFinalizer
  exact if_pos h

theorem Cluster.finalizerLaws (c : Cluster) : c.FinalizerLaws := by
  have hremoved : c.removeFinalizer.2.finalizers = c.finalizers.filter (· != finalizerName) := rfl
  have hnone : finalizerName ∉ c.finalizers.filter (· != finalizerName) := by simp
  have hothers : (c.finalizers.filter (· != finalizerName)).filter (· != finalizerName) =
      c.finalizers.filter (· != finalizerName) := by
    rw [List.filter_filter]
    simp
  cases hpresent : c.hasFinalizer with
  | true =>
    have hadd := addFinalizer_of_present hpresent
    refine ⟨fun h => ?_, ?_, fun _ => ?_, hnone, ⟨?_, hothers⟩, fun list => ⟨?_, rfl⟩⟩
    · cases hpresent.symm.trans h
    · rw [hadd, hpresent]
      simp [finalizers, withFinalizers]
    all_goals rw [hadd]; rfl
  | false =>
    have hadd := addFinalizer_of_missing hpresent
    refine ⟨fun _ => ?_, ?_, fun h => ?_, hnone, ⟨?_, hothers⟩, fun list => ⟨?_, rfl⟩⟩
    · rw [hadd]
      rfl
    · rw [hadd, hpresent]
      simp [finalizers, withFinalizers]
    · cases hpresent.symm.trans h
    · rw [hadd]
      simp [finalizers, withFinalizers]
    · rw [hadd]
      rfl

/-! ## Hooks -/

/-- Whether a call runs a hook. -/
def Call.isHook : Call → Bool
  | runHook _ _ => true
  | _ => false

/-- The turns of a trace in which hooks run. -/
def hookTurns (trace : Trace) : Trace := trace.filter (·.question.isHook)

/-- The turns in which a number of hooks run from one on, in their order, and all succeed. -/
def hooksDone (cluster : Cluster) (first count : Nat) : Trace :=
  (List.range' first count).map fun i => ⟨.runHook i cluster, .ok ()⟩

section
variable {cluster : Cluster} {first count i : Nat} {s t trace : Trace}

@[simp] theorem hookTurns_append : hookTurns (s ++ t) = hookTurns s ++ hookTurns t :=
  List.filter_append ..

theorem hookTurns_eq_nil (h : ∀ turn ∈ trace, turn.question.isHook = false) :
    hookTurns trace = [] :=
  List.filter_eq_nil_iff.mpr fun turn hturn => Bool.eq_false_iff.mp (h turn hturn)

theorem of_mem_hooksDone {turn : Turn Call.Answer} (h : turn ∈ hooksDone cluster first count) :
    ∃ i, turn = ⟨.runHook i cluster, .ok ()⟩ := by
  obtain ⟨i, -, rfl⟩ := List.mem_map.mp h
  exact ⟨i, rfl⟩

@[simp] theorem hookTurns_hooksDone :
    hookTurns (hooksDone cluster first count) = hooksDone cluster first count := by
  refine List.filter_eq_self.mpr fun turn hturn => ?_
  obtain ⟨i, rfl⟩ := of_mem_hooksDone hturn
  rfl

theorem hooksDone_succ : hooksDone cluster first (count + 1) =
    ⟨.runHook first cluster, .ok ()⟩ :: hooksDone cluster (first + 1) count := rfl

theorem runs_runHook {r : Except Failure Unit} :
    (Pass.runHook i cluster).Runs trace r ↔ trace = [⟨.runHook i cluster, r⟩] :=
  Program.runs_query

/-- The event that tells of a hook that failed. -/
def cleanupFailed (name : String) (f : Failure) : Event :=
  .warn "CleanupFailed" "Deleting" ("Cleanup hook " ++ name ++ " failed: " ++ f.text)

/-- A failure of a hook is told of and passed on. -/
theorem runs_hook {name : String} {r : Except Failure Unit}
    (h : (tryCatch (Pass.runHook i cluster) fun failure => do
      Pass.publish cluster (cleanupFailed name failure)
      throw failure : Pass Unit).Runs trace r) :
    (r = .ok () ∧ trace = [⟨.runHook i cluster, .ok ()⟩]) ∨
      ∃ f, r = .error f ∧ trace = [⟨.runHook i cluster, .error f⟩,
        ⟨.publishEvent cluster (cleanupFailed name f), ()⟩] := by
  rcases runs_tryCatch h with ⟨_, rfl, hhook⟩ | ⟨ran, f, handled, rfl, hhook, hhandled⟩
  · exact .inl ⟨rfl, runs_runHook.mp hhook⟩
  · obtain ⟨_, rest, rfl, hthrow⟩ := runs_call_bind.mp hhandled
    obtain ⟨rfl, rfl⟩ := runs_throw.mp hthrow
    rw [runs_runHook.mp hhook]
    exact .inr ⟨f, rfl, rfl⟩

/-- **The hooks run in their order, and the first that fails is the last that runs.** -/
theorem runs_runHooks {names : List String} {r : Except Failure Unit}
    (h : (runHooks cluster first names).Runs trace r) :
    (r = .ok () ∧ trace = hooksDone cluster first names.length) ∨
      ∃ i f event, i < names.length ∧ r = .error f ∧ trace = hooksDone cluster first i ++
        [⟨.runHook (first + i) cluster, .error f⟩, ⟨.publishEvent cluster event, ()⟩] := by
  induction names generalizing first trace with
  | nil =>
    obtain ⟨rfl, rfl⟩ := runs_pure.mp h
    exact .inl ⟨rfl, rfl⟩
  | cons name rest ih =>
    rcases runs_bind.mp h with ⟨f, rfl, hfirst⟩ | ⟨ran, _, after, rfl, hfirst, hafter⟩
    · rcases runs_hook hfirst with ⟨heq, -⟩ | ⟨g, heq, rfl⟩
      · cases heq
      · exact .inr ⟨0, g, cleanupFailed name g, Nat.succ_pos _, heq, rfl⟩
    · rcases runs_hook hfirst with ⟨-, rfl⟩ | ⟨g, heq, -⟩
      · rcases ih hafter with ⟨rfl, rfl⟩ | ⟨i, f, event, hi, rfl, rfl⟩
        · exact .inl ⟨rfl, rfl⟩
        · refine .inr ⟨i + 1, f, event, Nat.succ_lt_succ hi, rfl, ?_⟩
          rw [hooksDone_succ, Nat.add_right_comm, Nat.add_assoc]
          rfl
      · cases heq

end

/-! ## Deletion -/

/-- The event that tells that all hooks have succeeded. -/
def cleanupComplete : Event :=
  .normal "Deleted" "Deleting" "Cleanup complete, releasing finalizer"

/-- The courses of a pass over a cluster that is being deleted.

The constructors are the ways in which such a pass ends, and each has the whole trace before its
end: the hooks that have run are a part of the constructor, and not of a lemma about it. The writes
that record the deletion are known only by what they may ask, as nothing depends on how they go. -/
inductive DeletionRun (settings : Settings) (hooks : List String) (cluster : Cluster)
    (ref : ClusterRef) : Trace → Except Failure Unit → Prop
  /-- There is nothing to clean up. -/
  | unclaimed (h : cluster.hasFinalizer = false) :
    DeletionRun settings hooks cluster ref [] (.ok ())
  /-- The deletion cannot be recorded. -/
  | unmarked {marking : Trace} {f : Failure} (hclaimed : cluster.hasFinalizer = true)
    (hmarking : ∀ turn ∈ marking, WriteTarget.status.MayAsk ref turn.question) :
    DeletionRun settings hooks cluster ref marking (.error f)
  /-- A hook fails. -/
  | stuck {marking : Trace} {f : Failure} (i : Nat) (event : Event)
    (hclaimed : cluster.hasFinalizer = true)
    (hmarking : ∀ turn ∈ marking, WriteTarget.status.MayAsk ref turn.question)
    (hi : i < hooks.length) :
    DeletionRun settings hooks cluster ref
      ((marking ++ hooksDone cluster 0 i) ++
        ⟨.runHook i cluster, .error f⟩ :: [⟨.publishEvent cluster event, ()⟩]) (.error f)
  /-- All hooks succeed, and the finalizer is released. -/
  | cleaned {marking released counted : Trace} {r : Except Failure Unit}
    {stored : Except Failure (Option Cluster)} (hclaimed : cluster.hasFinalizer = true)
    (hmarking : ∀ turn ∈ marking, WriteTarget.status.MayAsk ref turn.question)
    (hreleased : Attempts ref .object settings.retryPolicy Cluster.removeFinalizer
      settings.retryPolicy.tries 1 released stored)
    (hcounted : ∀ turn ∈ counted, turn.question.IsCounting) :
    DeletionRun settings hooks cluster ref
      ((marking ++ hooksDone cluster 0 hooks.length ++
        [⟨.publishEvent cluster cleanupComplete, ()⟩]) ++ (released ++ counted)) r

section
variable {settings : Settings} {hooks : List String} {cluster : Cluster} {ref : ClusterRef}
  {trace : Trace} {r : Except Failure Unit}

/-- What follows once the deletion is recorded. -/
def cleanUp (settings : Settings) (hooks : List String) (cluster : Cluster) (ref : ClusterRef) :
    Pass Unit := do
  runHooks cluster 0 hooks
  Pass.publish cluster cleanupComplete
  let _ ← modifyWithRetry ref .object settings.retryPolicy Cluster.removeFinalizer
  Pass.measure ref (.phase none)

theorem deletionRun_of_cleanUp {marking : Trace} (hclaimed : cluster.hasFinalizer = true)
    (hmarking : ∀ turn ∈ marking, WriteTarget.status.MayAsk ref turn.question)
    (h : (cleanUp settings hooks cluster ref).Runs trace r) :
    DeletionRun settings hooks cluster ref (marking ++ trace) r := by
  rcases runs_bind.mp h with ⟨f, rfl, hhooks⟩ | ⟨ran, _, after, rfl, hhooks, hafter⟩
  · rcases runs_runHooks hhooks with ⟨heq, -⟩ | ⟨i, g, event, hi, heq, rfl⟩
    · cases heq
    cases heq
    rw [← List.append_assoc, Nat.zero_add]
    exact .stuck i event hclaimed hmarking hi
  rcases runs_runHooks hhooks with ⟨-, rfl⟩ | ⟨_, _, _, _, heq, -⟩
  · obtain ⟨_, rest, rfl, hrest⟩ := runs_call_bind.mp hafter
    -- Only a release that goes through is followed by the count, and then by that alone.
    have hparts : ∃ released counted stored, rest = released ++ counted ∧
        Attempts ref .object settings.retryPolicy Cluster.removeFinalizer
          settings.retryPolicy.tries 1 released stored ∧
        ∀ turn ∈ counted, turn.question.IsCounting := by
      rcases runs_bind.mp hrest with ⟨f, -, hwrite⟩ | ⟨released, _, counted, rfl, hwrite, hcount⟩
      · exact ⟨rest, [], _, (List.append_nil _).symm, runs_modifyWithRetry.mp hwrite, by simp⟩
      · obtain ⟨_, rfl, -⟩ := runs_call.mp hcount
        refine ⟨released, _, _, rfl, runs_modifyWithRetry.mp hwrite, fun turn hturn => ?_⟩
        rw [List.mem_singleton.mp hturn]
        trivial
    obtain ⟨released, counted, stored, rfl, hreleased, hcounted⟩ := hparts
    have hrun : DeletionRun settings hooks cluster ref _ r :=
      .cleaned hclaimed hmarking hreleased hcounted
    rw [List.append_assoc, List.append_assoc] at hrun
    exact hrun
  · cases heq

theorem deletionRun_of_runs (h : (deletionPass settings hooks cluster ref).Runs trace r) :
    DeletionRun settings hooks cluster ref trace r := by
  unfold deletionPass at h
  cases hclaimed : cluster.hasFinalizer with
  | false =>
    rw [hclaimed] at h
    obtain ⟨rfl, rfl⟩ := runs_pure.mp h
    exact .unclaimed hclaimed
  | true =>
    rw [hclaimed] at h
    have hmarks {marking : Trace} {stored : Except Failure (Option Cluster)}
        (hwrite : (modifyWithRetry ref .status settings.retryPolicy setDeleting).Runs marking
          stored) : ∀ turn ∈ marking, WriteTarget.status.MayAsk ref turn.question :=
      (runs_modifyWithRetry.mp hwrite).mayAsk
    by_cases hphase : (cluster.status.getD {}).phase ≠ .deleting
    · simp only [Bool.not_true, Bool.false_eq_true, if_false, if_pos hphase] at h
      rcases runs_bind.mp h with ⟨f, rfl, hwrite⟩ | ⟨marking, _, rest, rfl, hwrite, hrest⟩
      · exact .unmarked hclaimed (hmarks hwrite)
      · exact deletionRun_of_cleanUp hclaimed (hmarks hwrite) hrest
    · simp only [Bool.not_true, Bool.false_eq_true, if_false, if_neg hphase] at h
      have hnone : ∀ turn ∈ ([] : Trace), WriteTarget.status.MayAsk ref turn.question := by simp
      exact deletionRun_of_cleanUp hclaimed hnone h

/-- A call that does not write what the finalizers belong to. -/
def Call.KeepsObject : Call → Prop
  | .replaceCluster _ => False
  | _ => True

theorem keepsObject_of_mayAsk_status :
    ∀ c : Call, WriteTarget.status.MayAsk ref c → c.KeepsObject := by
  intro c h
  cases c with
  | replaceCluster => cases h
  | _ => trivial

theorem isHook_of_mayAsk {target : WriteTarget} :
    ∀ c : Call, target.MayAsk ref c → c.isHook = false := by
  intro c h
  cases c with
  | runHook => exact h.elim
  | _ => rfl

theorem isHook_of_isCounting : ∀ c : Call, c.IsCounting → c.isHook = false := by
  intro c h
  cases c with
  | runHook => exact h.elim
  | _ => rfl

theorem isWrite_of_isCounting : ∀ c : Call, c.IsCounting → c.isWrite = false := by
  intro c h
  cases c with
  | replaceCluster | replaceStatus => exact h.elim
  | _ => rfl

/-! ## Before the finalizer is released -/

section
variable {marking : Trace} {count i : Nat}

/-- What holds of every call up to the release: the deletion is recorded and hooks are run. -/
theorem forall_marked {P : Call → Prop}
    (hmarking : ∀ turn ∈ marking, WriteTarget.status.MayAsk ref turn.question)
    (hmay : ∀ c : Call, WriteTarget.status.MayAsk ref c → P c)
    (hhook : ∀ i, P (.runHook i cluster)) :
    ∀ turn ∈ marking ++ hooksDone cluster 0 count, P turn.question := by
  refine List.forall_mem_append.mpr ⟨fun turn hturn => hmay _ (hmarking turn hturn), ?_⟩
  intro turn hturn
  obtain ⟨i, rfl⟩ := of_mem_hooksDone hturn
  exact hhook i

theorem keepsObject_of_marked
    (hmarking : ∀ turn ∈ marking, WriteTarget.status.MayAsk ref turn.question) :
    ∀ turn ∈ marking ++ hooksDone cluster 0 count, turn.question.KeepsObject :=
  forall_marked hmarking keepsObject_of_mayAsk_status fun _ => trivial

theorem leavesServers_of_marked
    (hmarking : ∀ turn ∈ marking, WriteTarget.status.MayAsk ref turn.question) :
    ∀ turn ∈ marking ++ hooksDone cluster 0 count, turn.question.LeavesServers :=
  forall_marked hmarking leavesServers_of_mayAsk fun _ => trivial

theorem hookTurns_of_marked
    (hmarking : ∀ turn ∈ marking, WriteTarget.status.MayAsk ref turn.question) :
    hookTurns (marking ++ hooksDone cluster 0 count) = hooksDone cluster 0 count := by
  rw [hookTurns_append, hookTurns_hooksDone,
    hookTurns_eq_nil fun turn hturn => isHook_of_mayAsk _ (hmarking turn hturn), List.nil_append]

theorem not_mem_marked {given : Cluster} {f : Failure}
    (hmarking : ∀ turn ∈ marking, WriteTarget.status.MayAsk ref turn.question) :
    ⟨.runHook i given, .error f⟩ ∉ marking ++ hooksDone cluster 0 count := by
  intro hmem
  rcases List.mem_append.mp hmem with hmark | hdone
  · exact hmarking _ hmark
  · obtain ⟨j, hj⟩ := of_mem_hooksDone hdone
    cases hj

end

namespace DeletionRun

variable {before after : Trace}

theorem leavesServers (h : DeletionRun settings hooks cluster ref trace r) :
    ∀ turn ∈ trace, turn.question.LeavesServers := by
  cases h with
  | unclaimed => simp
  | unmarked _ hmarking => exact fun turn hturn => leavesServers_of_mayAsk _ (hmarking turn hturn)
  | stuck i event _ hmarking =>
    refine List.forall_mem_append.mpr ⟨leavesServers_of_marked hmarking, ?_⟩
    simp only [List.forall_mem_cons]
    exact ⟨trivial, trivial, by simp⟩
  | cleaned _ hmarking hreleased hcounted =>
    simp only [List.forall_mem_append, List.forall_mem_singleton]
    refine ⟨⟨List.forall_mem_append.mp (leavesServers_of_marked hmarking), trivial⟩, ?_, ?_⟩
    · exact fun turn hturn => leavesServers_of_mayAsk _ (hreleased.mayAsk turn hturn)
    · exact fun turn hturn => leavesServers_of_isCounting _ (hcounted turn hturn)

/-- **The finalizer is released only after all hooks have run in their order and succeeded.** -/
theorem releases (h : DeletionRun settings hooks cluster ref trace r) {written : Cluster}
    {answer : Except Failure Cluster}
    (htrace : trace = before ++ ⟨.replaceCluster written, answer⟩ :: after) :
    ChangesLastRead ref Cluster.removeFinalizer before written ∧
      hookTurns before = hooksDone cluster 0 hooks.length := by
  have hmem : ⟨.replaceCluster written, answer⟩ ∈ trace :=
    htrace ▸ List.mem_append_right _ List.mem_cons_self
  -- Of the four courses only the last one writes the object at all.
  cases h with
  | unclaimed => cases hmem
  | unmarked _ hmarking => exact (keepsObject_of_mayAsk_status _ (hmarking _ hmem)).elim
  | stuck i event _ hmarking =>
    rcases List.mem_append.mp hmem with hmarked | hfailed
    · exact (keepsObject_of_marked hmarking _ hmarked).elim
    · rcases List.mem_pair.mp hfailed with heq | heq <;> cases heq
  | @cleaned marking released counted _ _ _ hmarking hreleased hcounted =>
    have hearlier : ⟨.replaceCluster written, answer⟩ ∉ marking ++
        hooksDone cluster 0 hooks.length ++ [⟨.publishEvent cluster cleanupComplete, ()⟩] := by
      intro hbefore
      rcases List.mem_append.mp hbefore with hmarked | htold
      · exact keepsObject_of_marked hmarking _ hmarked
      · cases List.mem_singleton.mp htold
    obtain ⟨mid, rest, rfl, rfl, -⟩ :=
      exists_between_of_not_mem htrace hearlier fun hlater => hcounted _ hlater
    refine ⟨(hreleased.changesLastRead rfl).append _, ?_⟩
    have hmid : hookTurns mid = [] := hookTurns_eq_nil fun turn hturn =>
      isHook_of_mayAsk _ (hreleased.mayAsk turn (List.mem_append_left _ hturn))
    rw [hookTurns_append, hookTurns_append, hookTurns_of_marked hmarking, hmid, List.append_nil]
    exact List.append_nil _

/-- **The first hook that fails ends the pass with its failure.** -/
theorem stops (h : DeletionRun settings hooks cluster ref trace r) {i : Nat} {given : Cluster}
    {f : Failure} (htrace : trace = before ++ ⟨.runHook i given, .error f⟩ :: after) :
    r = .error f ∧ given = cluster ∧ hookTurns before = hooksDone cluster 0 i ∧
      (∀ turn ∈ after, turn.question.isHook = false ∧ turn.question.isWrite = false) ∧
      ∀ turn ∈ trace, turn.question.KeepsObject := by
  have hmem : ⟨.runHook i given, .error f⟩ ∈ trace :=
    htrace ▸ List.mem_append_right _ List.mem_cons_self
  cases h with
  | unclaimed => cases hmem
  | unmarked _ hmarking => exact (hmarking _ hmem).elim
  | stuck j event _ hmarking =>
    obtain ⟨mid, rfl, hmid⟩ := exists_eq_append_of_not_mem htrace (not_mem_marked hmarking)
    cases mid with
    | nil =>
      -- The hooks before it have all succeeded, so this is the one that the course ends with.
      obtain ⟨hturn, rfl⟩ := List.cons.inj hmid
      cases hturn
      refine ⟨rfl, rfl, ?_, ?_, ?_⟩
      · rw [List.append_nil, hookTurns_of_marked hmarking]
      · rw [List.forall_mem_singleton]
        exact ⟨rfl, rfl⟩
      · refine List.forall_mem_append.mpr ⟨keepsObject_of_marked hmarking, ?_⟩
        simp only [List.forall_mem_cons]
        exact ⟨trivial, trivial, by simp⟩
    | cons turn mid =>
      have hlast := (List.cons.inj hmid).2
      have hmem' : ⟨.runHook i given, .error f⟩ ∈ ([⟨.publishEvent cluster event, ()⟩] : Trace) :=
        hlast ▸ List.mem_append_right _ List.mem_cons_self
      cases List.mem_singleton.mp hmem'
  | cleaned _ hmarking hreleased hcounted =>
    rcases List.mem_append.mp hmem with hearlier | hlater
    · rcases List.mem_append.mp hearlier with hmarked | htold
      · exact absurd hmarked (not_mem_marked hmarking)
      · cases List.mem_singleton.mp htold
    · rcases List.mem_append.mp hlater with hwrite | hcount
      · exact (hreleased.mayAsk _ hwrite).elim
      · exact (hcounted _ hcount).elim

end DeletionRun

end

/-! ## The promises of a pass -/

/-- What the finalizer means for a pass that has read its cluster.

The first two fields are about a cluster that is there to stay, and the others about one that is
being deleted. A pass that does nothing would be confined, spare the servers and release nothing:
`claims` says what it does, and that a release is the last of it is what `releases` is for. -/
structure Guarded (operator : Operator) (ref : ClusterRef) (cluster : Cluster) (trace : Trace)
    (result : Except Failure Requeue) : Prop where
  /-- To a cluster that is not claimed nothing is done but to claim it: every write is of an object
  that was just read, with the finalizer added. -/
  confines : cluster.metadata.deletionTimestamp = none → cluster.hasFinalizer = false →
    (∀ turn ∈ trace, turn.question.LeavesServers ∧ turn.question.KeepsStatus) ∧
      ∀ before turn after, trace = before ++ turn :: after → turn.question.isWrite = true →
        ∃ written answer, turn = ⟨.replaceCluster written, answer⟩ ∧
          ChangesLastRead ref Cluster.addFinalizer before written
  /-- And it is claimed: the pass reads the cluster once more, and every read from then on that
  still finds it without the finalizer is followed by the write that adds it. -/
  claims : cluster.metadata.deletionTimestamp = none → cluster.hasFinalizer = false →
    (∃ found rest, trace =
      ⟨.getCluster ref, .ok (some cluster)⟩ :: ⟨.getCluster ref, found⟩ :: rest) ∧
      ∀ before latest after, trace = before ++ ⟨.getCluster ref, .ok (some latest)⟩ :: after →
        before ≠ [] → latest.hasFinalizer = false →
          ∃ answer rest, after = ⟨.replaceCluster latest.addFinalizer.2, answer⟩ :: rest
  /-- A cluster that is being deleted is not touched. -/
  spares : cluster.metadata.deletionTimestamp.isSome →
    ∀ turn ∈ trace, turn.question.LeavesServers
  /-- The finalizer is released after all hooks have succeeded in this pass, in their order. -/
  releases : cluster.metadata.deletionTimestamp.isSome → ∀ before written answer after,
    trace = before ++ ⟨.replaceCluster written, answer⟩ :: after →
      ChangesLastRead ref Cluster.removeFinalizer before written ∧
        hookTurns before = hooksDone cluster 0 operator.hooks.length
  /-- The first hook that fails ends the pass with its failure, and the finalizer stays. -/
  stops : cluster.metadata.deletionTimestamp.isSome → ∀ before i given f after,
    trace = before ++ ⟨.runHook i given, .error f⟩ :: after →
      result = .error f ∧ given = cluster ∧ hookTurns before = hooksDone cluster 0 i ∧
        (∀ turn ∈ after, turn.question.isHook = false ∧ turn.question.isWrite = false) ∧
        ∀ turn ∈ trace, turn.question.KeepsObject
  /-- A cluster that is being deleted and was released is left to the platform. -/
  ignores : cluster.metadata.deletionTimestamp.isSome → cluster.hasFinalizer = false →
    ∀ turn ∈ trace, turn.question.isWrite = false

section
variable {operator : Operator} {ref : ClusterRef} {cluster : Cluster} {trace acted : Trace}
  {result : Except Failure Requeue}

theorem attempts_of_unclaimed (hkept : cluster.metadata.deletionTimestamp = none)
    (hunclaimed : cluster.hasFinalizer = false)
    (h : (goOn operator ref (some cluster)).Runs acted result) :
    ∃ stored, Attempts ref .object operator.settings.retryPolicy Cluster.addFinalizer
      operator.settings.retryPolicy.tries 1 acted stored := by
  unfold goOn advanceCluster at h
  simp only [hkept, hunclaimed, Option.isSome_none, Bool.false_eq_true, if_false, Bool.not_false,
    if_true] at h
  rcases runs_bind.mp h with ⟨f, -, hwrite⟩ | ⟨before, stored, after, rfl, hwrite, hreturn⟩
  · exact ⟨_, runs_modifyWithRetry.mp hwrite⟩
  · rw [(runs_pure.mp hreturn).1, List.append_nil]
    exact ⟨_, runs_modifyWithRetry.mp hwrite⟩

theorem deletionRun_of_goOn (hdeleted : cluster.metadata.deletionTimestamp.isSome)
    (h : (goOn operator ref (some cluster)).Runs acted result) :
    ∃ r, DeletionRun operator.settings operator.hooks cluster ref acted r ∧
      ∀ f, r = .error f → result = .error f := by
  unfold goOn at h
  simp only [hdeleted, if_true] at h
  rcases runs_bind.mp h with ⟨f, rfl, hrun⟩ | ⟨before, u, after, rfl, hrun, hreturn⟩
  · exact ⟨_, deletionRun_of_runs hrun, fun g heq => by cases heq; rfl⟩
  · rw [(runs_pure.mp hreturn).1, List.append_nil]
    exact ⟨_, deletionRun_of_runs hrun, fun g heq => by cases heq⟩

theorem keepsStatus_of_isCounting : ∀ c : Call, c.IsCounting → c.KeepsStatus := by
  intro c h
  cases c <;> trivial

theorem keepsObject_of_isCounting : ∀ c : Call, c.IsCounting → c.KeepsObject := by
  intro c h
  cases c <;> trivial

/-- What holds of every call of a pass that has read its cluster. -/
theorem forall_turns {P : Call → Prop} {answer : Except Failure (Option Cluster)} {counted : Trace}
    (hread : P (.getCluster ref)) (hacted : ∀ turn ∈ acted, P turn.question)
    (hcounting : ∀ c : Call, c.IsCounting → P c)
    (hcounted : ∀ turn ∈ counted, turn.question.IsCounting) :
    ∀ turn ∈ [⟨.getCluster ref, answer⟩] ++ (acted ++ counted), P turn.question := by
  simp only [List.forall_mem_append, List.forall_mem_singleton]
  exact ⟨hread, hacted, fun turn hturn => hcounting _ (hcounted turn hturn)⟩

/-- **An unclaimed cluster is claimed**, by a write right after every further read that finds it so.
The first read is the pass's own and not that of an attempt, hence `before ≠ []`. -/
theorem claims_of_attempts {counted : Trace} {left attempt : Nat}
    {stored : Except Failure (Option Cluster)}
    (hattempts : Attempts ref .object operator.settings.retryPolicy Cluster.addFinalizer (left + 1)
      attempt acted stored)
    (hcounted : ∀ turn ∈ counted, turn.question.IsCounting) :
    (∃ found rest, [⟨.getCluster ref, .ok (some cluster)⟩] ++ (acted ++ counted) =
      ⟨.getCluster ref, .ok (some cluster)⟩ :: ⟨.getCluster ref, found⟩ :: rest) ∧
      ∀ before latest after, [⟨.getCluster ref, .ok (some cluster)⟩] ++ (acted ++ counted) =
        before ++ ⟨.getCluster ref, .ok (some latest)⟩ :: after → before ≠ [] →
          latest.hasFinalizer = false →
            ∃ answer rest, after = ⟨.replaceCluster latest.addFinalizer.2, answer⟩ :: rest := by
  constructor
  · obtain ⟨found, rest, rfl⟩ := hattempts.exists_read
    exact ⟨found, rest ++ counted, rfl⟩
  · intro before latest after htrace hlater hmissing
    cases before with
    | nil => exact absurd rfl hlater
    | cons first before =>
      have hrest : acted ++ counted = before ++ ⟨.getCluster ref, .ok (some latest)⟩ :: after :=
        (List.cons.inj htrace).2
      have hread : (⟨.getCluster ref, .ok (some latest)⟩ : Turn Call.Answer) ∉ counted :=
        fun hmem => hcounted _ hmem
      obtain ⟨mid, rfl⟩ := exists_eq_append_cons_of_not_mem hrest hread
      obtain ⟨answer, last, rfl⟩ := hattempts.turn_of_read rfl <| by
        rw [Cluster.addFinalizer_of_missing hmissing]
      rw [List.append_assoc, List.append_cancel_left_eq, List.cons_append] at hrest
      exact ⟨answer, last ++ counted, (List.cons.inj hrest).2.symm⟩

/-- **A pass claims its cluster before all else, and releases it after all else.** Adding and
removing the finalizer change nothing but that one entry. A write may be tried several times, so
what is promised of it is promised of every attempt. -/
theorem guarded_of_runs (hrun : (reconcile operator ref).Runs trace result)
    (hread : trace.head? = some ⟨.getCluster ref, .ok (some cluster)⟩) :
    Guarded operator ref cluster trace result ∧ ∀ c : Cluster, c.FinalizerLaws := by
  refine ⟨?_, Cluster.finalizerLaws⟩
  obtain ⟨acted, counted, rfl, hacted, hcounted⟩ := runs_of_read hrun hread
  constructor
  case confines =>
    intro hkept hunclaimed
    obtain ⟨stored, hattempts⟩ := attempts_of_unclaimed hkept hunclaimed hacted
    refine ⟨forall_turns (P := fun c => c.LeavesServers ∧ c.KeepsStatus) ⟨trivial, trivial⟩
      (fun turn hturn => ?_) (fun c hc => ?_) hcounted, ?_⟩
    · have hmay := hattempts.mayAsk turn hturn
      exact ⟨leavesServers_of_mayAsk _ hmay, keepsStatus_of_mayAsk_object _ hmay⟩
    · exact ⟨leavesServers_of_isCounting c hc, keepsStatus_of_isCounting c hc⟩
    · intro before turn after htrace hwrite
      obtain ⟨mid, rest, rfl, hmid, -⟩ := exists_between_of_not_mem htrace
        (fun hfirst => by cases List.mem_singleton.mp hfirst; cases hwrite)
        fun hlater => by cases (isWrite_of_isCounting _ (hcounted _ hlater)).symm.trans hwrite
      have hmay := hattempts.mayAsk turn (hmid ▸ List.mem_append_right _ List.mem_cons_self)
      obtain ⟨written, answer, rfl⟩ := exists_turn_of_isWrite hmay hwrite
      exact ⟨written, answer, rfl, (hattempts.changesLastRead hmid).append _⟩
  case claims =>
    intro hkept hunclaimed
    obtain ⟨stored, hattempts⟩ := attempts_of_unclaimed hkept hunclaimed hacted
    obtain ⟨left, hleft⟩ := tries_eq operator.settings.retryPolicy
    rw [hleft] at hattempts
    exact claims_of_attempts hattempts hcounted
  case spares =>
    intro hdeleted
    obtain ⟨r, hdeletion, -⟩ := deletionRun_of_goOn hdeleted hacted
    exact forall_turns trivial hdeletion.leavesServers leavesServers_of_isCounting hcounted
  case releases =>
    intro hdeleted before written answer after htrace
    obtain ⟨r, hdeletion, -⟩ := deletionRun_of_goOn hdeleted hacted
    obtain ⟨mid, rest, rfl, hmid, -⟩ := exists_between_of_not_mem htrace
      (fun hfirst => by cases List.mem_singleton.mp hfirst) fun hlater => hcounted _ hlater
    obtain ⟨hlast, hhooks⟩ := hdeletion.releases hmid
    exact ⟨hlast.append _, by rw [hookTurns_append, hhooks]; rfl⟩
  case stops =>
    intro hdeleted before i given f after htrace
    obtain ⟨r, hdeletion, hresult⟩ := deletionRun_of_goOn hdeleted hacted
    obtain ⟨mid, rest, rfl, hmid, rfl⟩ := exists_between_of_not_mem htrace
      (fun hfirst => by cases List.mem_singleton.mp hfirst) fun hlater => hcounted _ hlater
    obtain ⟨hfailed, hgiven, hhooks, hafter, hkeeps⟩ := hdeletion.stops hmid
    refine ⟨hresult f hfailed, hgiven, by rw [hookTurns_append, hhooks]; rfl, ?_, ?_⟩
    · refine List.forall_mem_append.mpr ⟨hafter, fun turn hturn => ?_⟩
      exact ⟨isHook_of_isCounting _ (hcounted turn hturn),
        isWrite_of_isCounting _ (hcounted turn hturn)⟩
    · exact forall_turns trivial hkeeps keepsObject_of_isCounting hcounted
  case ignores =>
    intro hdeleted hunclaimed
    obtain ⟨r, hdeletion, -⟩ := deletionRun_of_goOn hdeleted hacted
    -- The courses of a cluster that is claimed are excluded, since this one is not.
    cases hdeletion with
    | unclaimed =>
      exact forall_turns (P := fun c => c.isWrite = false) rfl (by simp) isWrite_of_isCounting
        hcounted
    | unmarked hclaimed => cases hunclaimed.symm.trans hclaimed
    | stuck _ _ hclaimed => cases hunclaimed.symm.trans hclaimed
    | cleaned hclaimed => cases hunclaimed.symm.trans hclaimed

end

/-! ## A cluster that comes, and one that goes -/

/-- A new cluster, which another controller already holds. -/
def arriving : Cluster :=
  { metadata := { name := some "db", «namespace» := some "data"
                  finalizers := some ["example.com/backup"] } }

/-- The same cluster, with an annotation that its user has set meanwhile. -/
def arrivingAnnotated : Cluster := arriving.annotate "team" "graphs"

/-- What a pass does up to its second attempt, the first having met the user's write. -/
def overtakenClaim : Trace :=
  [⟨.getCluster ⟨"data", "db"⟩, .ok (some arriving)⟩,
    ⟨.getCluster ⟨"data", "db"⟩, .ok (some arriving)⟩,
    ⟨.replaceCluster arriving.addFinalizer.2, .error (.conflict "replace data/db")⟩,
    ⟨.pause 100, ()⟩]

def lateClaim : Trace :=
  [⟨.getCluster ⟨"data", "db"⟩, .ok (some arrivingAnnotated)⟩,
    ⟨.replaceCluster arrivingAnnotated.addFinalizer.2, .ok arrivingAnnotated.addFinalizer.2⟩]

/-- A cluster that is being deleted and that another controller holds as well. -/
def departing : Cluster :=
  { metadata := { name := some "db", «namespace» := some "data"
                  finalizers := some ["example.com/backup", finalizerName]
                  deletionTimestamp := some .epoch }
    status := some { phase := .deleting } }

def caretaker : Operator := { hooks := ["snapshots", "volumes"] }

theorem runs_arriving :
    (reconcileCluster caretaker ⟨"data", "db"⟩).Runs (overtakenClaim ++ lateClaim)
      (.ok (some 0)) := by
  refine .ask _ (.ask _ (.ask _ (.ask _ (.ask _ (.ask _ ?_)))))
  exact .done _

/-- What the pass does up to the release of the finalizer. -/
def cleaning : Trace :=
  [⟨.getCluster ⟨"data", "db"⟩, .ok (some departing)⟩,
    ⟨.runHook 0 departing, .ok ()⟩, ⟨.runHook 1 departing, .ok ()⟩,
    ⟨.publishEvent departing cleanupComplete, ()⟩,
    ⟨.getCluster ⟨"data", "db"⟩, .ok (some departing)⟩]

def releasing : Trace :=
  [⟨.replaceCluster departing.removeFinalizer.2, .ok departing.removeFinalizer.2⟩,
    ⟨.measure ⟨"data", "db"⟩ (.phase none), ()⟩]

theorem runs_departing :
    (reconcileCluster caretaker ⟨"data", "db"⟩).Runs (cleaning ++ releasing) (.ok none) := by
  refine .ask _ (.ask _ (.ask _ (.ask _ (.ask _ (.ask _ (.ask _ ?_))))))
  exact .done _

/-- The second attempt to claim a cluster keeps what the user has written before it. And of one that
is being deleted both hooks have run when the finalizer is released, and the other controller's
stays. -/
theorem guarded_arriving_departing :
    (∃ trace, (reconcile caretaker ⟨"data", "db"⟩).Runs trace (.ok (some 0)) ∧
      trace.head? = some ⟨.getCluster ⟨"data", "db"⟩, .ok (some arriving)⟩ ∧
      ∃ after answer rest, trace = overtakenClaim ++
        ⟨.getCluster ⟨"data", "db"⟩, .ok (some arrivingAnnotated)⟩ :: after ∧
        after = ⟨.replaceCluster arrivingAnnotated.addFinalizer.2, answer⟩ :: rest ∧
        arrivingAnnotated.addFinalizer.2.finalizers = ["example.com/backup", finalizerName]) ∧
    ∃ trace, (reconcile caretaker ⟨"data", "db"⟩).Runs trace (.ok none) ∧
      trace.head? = some ⟨.getCluster ⟨"data", "db"⟩, .ok (some departing)⟩ ∧
      ∃ before written answer after, trace = before ++ ⟨.replaceCluster written, answer⟩ :: after ∧
        hookTurns before = [⟨.runHook 0 departing, .ok ()⟩, ⟨.runHook 1 departing, .ok ()⟩] ∧
        written.finalizers = ["example.com/backup"] := by
  constructor
  · obtain ⟨counted, hrun, -⟩ := exists_run_reconcile runs_arriving
    have hguarded := (guarded_of_runs hrun rfl).1
    obtain ⟨answer, rest, hafter⟩ := (hguarded.claims rfl rfl).2 overtakenClaim arrivingAnnotated _
      rfl (by simp [overtakenClaim]) rfl
    exact ⟨_, hrun, rfl, _, answer, rest, rfl, hafter, rfl⟩
  · obtain ⟨counted, hrun, -⟩ := exists_run_reconcile runs_departing
    have hguarded := (guarded_of_runs hrun rfl).1
    refine ⟨_, hrun, rfl, cleaning, _, _, _, rfl, ?_, rfl⟩
    exact (hguarded.releases rfl cleaning _ _ _ rfl).2

end ClusterOperator
