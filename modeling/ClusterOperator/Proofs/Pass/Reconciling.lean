import ClusterOperator.Proofs.Pass.Deletions
import ClusterOperator.Proofs.Pass.Quiet

/-!
# What a pass leaves behind

A pass either finds its cluster in a situation that it can work on, or it does not come that far.
Seen from the status, the pods and the resources these two kinds of passes are all there is:

> **`quiet_of_not_finds`** — a pass that finds no situation is quiet.

> **`works_of_finds`** — a pass that finds one leaves the status as it was or as the situation asks
> for, the latter only if it succeeds; and it deletes no pod and applies no manifest that the
> situation does not ask for.

What a pass does is determined by what it is answered, so the situation is read off the trace
(`Finds.unique`) and neither theorem has to say how the pass got there.
-/

set_option autoImplicit false

namespace ClusterOperator

open Pass

/-! ## The course of a pass -/

/-- A cluster that a pass works on: one that is claimed, not being deleted, and valid. A pass over
any other cluster never comes to a decision, whatever else it may do. -/
structure Workable (cluster : Cluster) (topology : Topology) : Prop where
  kept : cluster.metadata.deletionTimestamp = none
  claimed : cluster.hasFinalizer = true
  valid : validateCluster cluster (cluster.status.getD {}).version = .ok topology

theorem validateCluster_congr {c d : Cluster} {running : Option String} (hname : c.name = d.name)
    (hspec : c.spec = d.spec) : validateCluster c running = validateCluster d running := by
  unfold validateCluster
  rw [hname, hspec]

/-- How a pass begins that works on a cluster. -/
def opening (ref : ClusterRef) (cluster : Cluster) (now : Instant) : Trace :=
  [⟨.getCluster ref, .ok (some cluster)⟩, ⟨.now, now⟩]

/-- How a pass goes on once it has read its cluster. -/
def goOn (operator : Operator) (ref : ClusterRef) : Option Cluster → Pass Requeue
  | none => do
    Pass.measure ref (.phase none)
    return none
  | some cluster =>
    if cluster.metadata.deletionTimestamp.isSome then do
      deletionPass operator.settings operator.hooks cluster ref
      return none
    else advanceCluster operator cluster ref

section
variable {operator : Operator} {ref : ClusterRef} {cluster : Cluster} {topology : Topology}
  {now : Instant} {trace acted rest : Trace} {result : Except Failure Requeue}

theorem reconcileCluster_eq :
    reconcileCluster operator ref = Pass.getCluster ref >>= goOn operator ref := rfl

theorem runs_getCluster {answer : Except Failure (Option Cluster)} :
    (Pass.getCluster ref).Runs trace answer ↔ trace = [⟨.getCluster ref, answer⟩] :=
  Program.runs_query

theorem goOn_of_workable (h : Workable cluster topology) :
    goOn operator ref (some cluster) = (do
      let now ← Pass.call .now
      return some (← workingPass operator.settings cluster ref topology now)) := by
  unfold goOn advanceCluster
  simp only [h.kept, h.claimed, h.valid, Option.isSome_none, Bool.false_eq_true, if_false,
    Bool.not_true]

theorem isQuiet_goOn {found : Option Cluster}
    (h : ∀ cluster topology, found = some cluster → ¬ Workable cluster topology) :
    IsQuiet (goOn operator ref found) := by
  cases found with
  | none => exact .bind (.call ⟨trivial, trivial⟩) fun _ => .pure none
  | some cluster =>
    unfold goOn
    dsimp only
    split
    · exact .bind (isQuiet_deletionPass _ _ _ _) fun _ => .pure none
    · rename_i hkept
      unfold advanceCluster
      split
      · exact .bind .modify_object fun _ => .pure (some 0)
      · rename_i hclaimed
        refine .bind (.call ⟨trivial, trivial⟩) fun now => ?_
        split
        · rename_i topology hvalid
          exact absurd ⟨by simpa using hkept, by simpa using hclaimed, hvalid⟩
            (h cluster topology rfl)
        · exact isQuiet_rejectionPass _ _ _ _
        · exact .throw _

/-- What a pass does after it succeeded: it is counted. -/
def closing (ref : ClusterRef) (requeue : Requeue) : Pass Requeue := do
  Pass.measure ref (.reconcile (← Pass.call .stopwatch))
  let now ← Pass.call .now
  Pass.call (.markReconciled now.second.toNat)
  return requeue

theorem runs_closing {requeue : Requeue} (h : (closing ref requeue).Runs rest result) :
    result = .ok requeue := by
  obtain ⟨_, _, -, h⟩ := runs_call_bind.mp h
  obtain ⟨_, _, -, h⟩ := runs_call_bind.mp h
  obtain ⟨_, _, -, h⟩ := runs_call_bind.mp h
  obtain ⟨_, _, -, h⟩ := runs_call_bind.mp h
  exact (runs_pure.mp h).2

theorem exists_run_closing (ref : ClusterRef) (requeue : Requeue) :
    ∃ counted, (closing ref requeue).Runs counted (.ok requeue) := by
  refine exists_run_call_bind (0 : Float) (exists_run_call_bind () ?_)
  exact exists_run_call_bind Instant.epoch (exists_run_call_bind () ⟨[], runs_pure.mpr ⟨rfl, rfl⟩⟩)

/-- A call that counts a pass. -/
def Call.IsCounting : Call → Prop
  | .measure _ _ | .stopwatch | .now | .markReconciled _ => True
  | _ => False

theorem isPassive_of_isCounting : ∀ c : Call, c.IsCounting → c.IsPassive := by
  intro c h
  cases c <;> first | exact ⟨trivial, trivial⟩ | exact h.elim

theorem leavesServers_of_isCounting : ∀ c : Call, c.IsCounting → c.LeavesServers := by
  intro c h
  cases c <;> trivial

theorem isCounting_closing {requeue : Requeue} :
    AsksOnly Call.IsCounting (closing ref requeue) := by
  refine .bind (.call trivial) fun seconds => ?_
  refine .bind (.call trivial) fun _ => ?_
  refine .bind (.call trivial) fun now => ?_
  exact .bind (.call trivial) fun _ => .pure requeue

/-- Counting a pass changes nothing about how it went. -/
theorem runs_reconcile (h : (reconcile operator ref).Runs trace result) :
    ∃ acted counted, trace = acted ++ counted ∧ (reconcileCluster operator ref).Runs acted result ∧
      ∀ turn ∈ counted, turn.question.IsCounting := by
  rcases runs_bind.mp h with ⟨f, rfl, hacted⟩ | ⟨acted, requeue, counted, rfl, hacted, hcounted⟩
  · exact ⟨trace, [], (List.append_nil _).symm, hacted, by simp⟩
  · rw [runs_closing hcounted]
    exact ⟨acted, counted, rfl, hacted, isCounting_closing _ _ hcounted⟩

theorem runs_reconcile_error {f : Failure} (h : (reconcile operator ref).Runs trace (.error f)) :
    (reconcileCluster operator ref).Runs trace (.error f) := by
  rcases runs_bind.mp h with ⟨g, heq, hacted⟩ | ⟨acted, requeue, counted, -, -, hcounted⟩
  · cases heq
    exact hacted
  · cases runs_closing hcounted

theorem exists_run_reconcile (h : (reconcileCluster operator ref).Runs acted result) :
    ∃ counted, (reconcile operator ref).Runs (acted ++ counted) result ∧
      ∀ turn ∈ counted, turn.question.IsCounting := by
  cases result with
  | error f => exact ⟨[], runs_bind.mpr (.inl ⟨f, rfl, by rwa [List.append_nil]⟩), by simp⟩
  | ok requeue =>
    obtain ⟨counted, hcounted⟩ := exists_run_closing ref requeue
    exact ⟨counted, runs_bind.mpr (.inr ⟨acted, requeue, _, rfl, h, hcounted⟩),
      isCounting_closing _ _ hcounted⟩

theorem runs_reconcileCluster : (reconcileCluster operator ref).Runs acted result ↔
    (∃ f, acted = [⟨.getCluster ref, .error f⟩] ∧ result = .error f) ∨
      ∃ found rest, acted = ⟨.getCluster ref, .ok found⟩ :: rest ∧
        (goOn operator ref found).Runs rest result := by
  rw [reconcileCluster_eq, runs_bind]
  simp only [runs_getCluster]
  constructor
  · rintro (⟨f, rfl, rfl⟩ | ⟨_, found, rest, rfl, rfl, hrest⟩)
    · exact .inl ⟨f, rfl, rfl⟩
    · exact .inr ⟨found, rest, rfl, hrest⟩
  · rintro (⟨f, rfl, rfl⟩ | ⟨found, rest, rfl, hrest⟩)
    · exact .inl ⟨f, rfl, rfl⟩
    · exact .inr ⟨_, found, rest, rfl, rfl, hrest⟩

/-- How a pass goes that has read its cluster. -/
theorem runs_of_read (hrun : (reconcile operator ref).Runs trace result)
    (hread : trace.head? = some ⟨.getCluster ref, .ok (some cluster)⟩) :
    ∃ acted counted, trace = [⟨.getCluster ref, .ok (some cluster)⟩] ++ (acted ++ counted) ∧
      (goOn operator ref (some cluster)).Runs acted result ∧
      ∀ turn ∈ counted, turn.question.IsCounting := by
  obtain ⟨acted, counted, rfl, hacted, hcounted⟩ := runs_reconcile hrun
  rcases runs_reconcileCluster.mp hacted with ⟨f, rfl, -⟩ | ⟨found, rest, rfl, hrest⟩
  · cases Option.some.inj hread
  · cases Option.some.inj hread
    exact ⟨rest, counted, rfl, hrest, hcounted⟩

theorem runs_bind_some {α : Type} {p : Pass α} {r : Except Failure (Option α)} :
    (do return some (← p)).Runs rest r ↔ ∃ r', r = r'.map some ∧ p.Runs rest r' := by
  rw [runs_bind]
  constructor
  · rintro (⟨e, rfl, h⟩ | ⟨before, a, after, rfl, h, hreturn⟩)
    · exact ⟨.error e, rfl, h⟩
    · obtain ⟨rfl, rfl⟩ := runs_pure.mp hreturn
      rw [List.append_nil]
      exact ⟨.ok a, rfl, h⟩
  · rintro ⟨r', rfl, h⟩
    cases r' with
    | error e => exact .inl ⟨e, rfl, h⟩
    | ok a => exact .inr ⟨rest, a, [], (List.append_nil _).symm, h, runs_pure.mpr ⟨rfl, rfl⟩⟩

/-- The runs over a cluster that is worked on. -/
theorem runs_goOn_of_workable (h : Workable cluster topology) :
    (goOn operator ref (some cluster)).Runs trace result ↔
      ∃ now rest r, trace = ⟨.now, now⟩ :: rest ∧ result = r.map some ∧
        (workingPass operator.settings cluster ref topology now).Runs rest r := by
  rw [goOn_of_workable h]
  refine runs_call_bind.trans ⟨?_, ?_⟩
  · rintro ⟨now, rest, rfl, hrest⟩
    obtain ⟨r, rfl, hwork⟩ := runs_bind_some.mp hrest
    exact ⟨now, rest, r, rfl, rfl, hwork⟩
  · rintro ⟨now, rest, r, rfl, rfl, hwork⟩
    exact ⟨now, rest, rfl, runs_bind_some.mpr ⟨r, rfl, hwork⟩⟩

/-! ## What a pass finds -/

/-- That a pass has found its cluster in a situation that it works on. Nothing is said of what comes
after the observation: the pass may have failed at any later call. -/
def Finds (operator : Operator) (ref : ClusterRef) (trace : Trace) (s : Situation) : Prop :=
  ∃ cluster topology now seen rest, Workable cluster topology ∧
    (observe operator.settings cluster ref topology now).Runs seen (.ok s) ∧
    trace = opening ref cluster now ++ (seen ++ rest)

theorem Workable.topology_eq {other : Topology} (h : Workable cluster topology)
    (h' : Workable cluster other) : topology = other :=
  Except.ok.inj (h.valid.symm.trans h'.valid)

/-- **A pass finds one situation at most.** -/
theorem Finds.unique {s t : Situation} (hs : Finds operator ref trace s)
    (ht : Finds operator ref trace t) : s = t := by
  obtain ⟨cluster, topology, now, seen, rest, hw, hseen, rfl⟩ := hs
  obtain ⟨cluster', topology', now', seen', rest', hw', hseen', heq⟩ := ht
  obtain ⟨hread, hnow⟩ := List.cons.inj heq
  obtain ⟨hnow, hrest⟩ := List.cons.inj hnow
  cases hread
  cases hnow
  rw [← hw.topology_eq hw'] at hseen'
  exact Except.ok.inj (hseen.unique hseen' hrest).2

theorem Finds.workable {s : Situation} (hs : Finds operator ref trace s) :
    Workable s.cluster s.topology := by
  obtain ⟨cluster, topology, now, seen, rest, hw, hseen, -⟩ := hs
  rw [(observed_observe hseen).given]
  exact hw

theorem isPassive_opening : ∀ turn ∈ opening ref cluster now, turn.question.IsPassive := by
  intro turn hturn
  rcases List.mem_pair.mp hturn with rfl | rfl <;> exact ⟨trivial, trivial⟩

theorem isPassive_of_runs_observe {seen : Trace} {r : Except Failure Situation}
    (h : (observe operator.settings cluster ref topology now).Runs seen r) :
    ∀ turn ∈ seen, turn.question.IsPassive :=
  fun turn hturn => isPassive_of_isReading _ (isReading_observe _ _ h turn hturn)

/-- **A pass that finds no situation is quiet.** -/
theorem quiet_of_not_finds {stored : Option ClusterStatus}
    (hrun : (reconcile operator ref).Runs trace result) (hreads : ReadsStored stored trace)
    (hnone : ∀ s, ¬ Finds operator ref trace s) : Quiet stored trace := by
  obtain ⟨acted, counted, rfl, hacted, hcounted⟩ := runs_reconcile hrun
  refine .append ?_ (.of_passive fun turn hturn => isPassive_of_isCounting _ (hcounted turn hturn))
  -- Either the cluster cannot be read, or it is read and the pass goes on.
  rcases runs_reconcileCluster.mp hacted with ⟨f, rfl, -⟩ | ⟨found, rest, rfl, hrest⟩
  · exact .of_passive fun turn hturn => by
      rw [List.mem_singleton.mp hturn]
      exact ⟨trivial, trivial⟩
  by_cases hwork : ∃ cluster topology, found = some cluster ∧ Workable cluster topology
  · -- The cluster could be worked on, so what was missing is the observation.
    obtain ⟨cluster, topology, rfl, hw⟩ := hwork
    obtain ⟨now, rest, r, rfl, -, hwork⟩ := (runs_goOn_of_workable hw).mp hrest
    cases runs_workingPass.mp hwork with
    | blind hseen =>
      refine .of_passive fun turn hturn => ?_
      rcases List.mem_cons.mp hturn with rfl | hturn
      · exact ⟨trivial, trivial⟩
      rcases List.mem_cons.mp hturn with rfl | hturn
      · exact ⟨trivial, trivial⟩
      · exact isPassive_of_runs_observe hseen turn hturn
    | stopped hseen | through hseen =>
      exact absurd ⟨cluster, topology, now, _, _, hw, hseen, by simp [opening]; rfl⟩ (hnone _)
  · -- Otherwise the pass is one of those that are quiet by their text.
    have hquiet : IsQuiet (goOn operator ref found) :=
      isQuiet_goOn fun cluster topology hfound hw => hwork ⟨cluster, topology, hfound, hw⟩
    rw [List.cons_append, readsStored_cons, readsStored_append] at hreads
    have hread : Quiet stored [(⟨.getCluster ref, .ok found⟩ : Turn Call.Answer)] :=
      .of_passive fun turn hturn => by
        rw [List.mem_singleton.mp hturn]
        exact ⟨trivial, trivial⟩
    exact hread.append (hquiet _ _ _ hrest hreads.2.1)

/-! ## What a pass does in a situation -/

theorem permitted_of_apply_mem_effects {s : Situation} {manifest : Manifest}
    (h : .apply manifest ∈ s.effects) : s.permitsApply = true ∧ manifest = s.manifest := by
  have hmem : manifest ∈ s.effects.filterMap (·.applied?) := List.mem_filterMap.mpr ⟨_, h, rfl⟩
  rw [s.applied_effects] at hmem
  split at hmem
  · rename_i hpermits
    exact ⟨hpermits, List.mem_singleton.mp hmem⟩
  · cases hmem

theorem deleted?_of_isPassive : ∀ c : Call, c.IsPassive → c.deleted? = none := by
  intro c h
  cases c with
  | deletePod => exact h.2.elim
  | _ => rfl

/-- What a pass does that has found a situation.

The pods are a prefix of those that are asked for and not all of them, since any call may fail and
end the pass. The status is another matter: it is written last, so if it was stored, then nothing
has failed before it. -/
structure Works (ref : ClusterRef) (stored : Option ClusterStatus) (trace : Trace)
    (result : Except Failure Requeue) (s : Situation) : Prop where
  /-- What the situation calls the status is what was stored. -/
  found : s.cluster.status = stored
  /-- The pass succeeds and stores the status that the situation asks for, or it stores none; then
  it failed, or the cluster was gone by the time of writing. -/
  outcome : (storedAfter stored trace = some s.nextStatus ∧ ∃ requeue, result = .ok requeue) ∨
    (storedAfter stored trace = stored ∧
      ((∃ f, result = .error f) ∨ ⟨.getCluster ref, .ok none⟩ ∈ trace))
  deleted : deletedPods trace <+: s.effects.filterMap (·.restarted?)
  applied : ∀ cluster manifest answer,
    (⟨.applyManifest cluster manifest, answer⟩ : Turn Call.Answer) ∈ trace →
      s.permitsApply = true ∧ manifest = s.manifest

theorem keepsStatus_of_runs_performAll {s : Situation} {done : Trace} {r : Except Failure Unit}
    (h : (performAll cluster ref s.effects).Runs done r) :
    ∀ turn ∈ done, turn.question.KeepsStatus :=
  asksOnly_performAll (fun effect _ => by cases effect <;> trivial) _ _ h

theorem permitted_of_runs_performAll {s : Situation} {done : Trace} {r : Except Failure Unit}
    (h : (performAll cluster ref s.effects).Runs done r) :
    ∀ turn ∈ done, ∀ c manifest, turn.question = .applyManifest c manifest →
      s.permitsApply = true ∧ manifest = s.manifest := by
  refine asksOnly_performAll (P := fun call => ∀ c manifest, call = .applyManifest c manifest →
    s.permitsApply = true ∧ manifest = s.manifest) (fun effect heffect c manifest hcall => ?_) _ _ h
  cases effect with
  | apply =>
    cases hcall
    exact permitted_of_apply_mem_effects heffect
  | measure | publish | restart => cases hcall

theorem works_of_parts {s : Situation} {seen done written counted : Trace}
    {stored : Option ClusterStatus} {r : Except Failure Unit}
    (hseen : ∀ turn ∈ seen, turn.question.IsPassive)
    (hdone : (performAll s.cluster ref s.effects).Runs done r)
    (hwritten : ∀ turn ∈ written, WriteTarget.status.MayAsk ref turn.question)
    (hcounted : ∀ turn ∈ counted, turn.question.IsPassive)
    (hreads : ReadsStored stored
      (opening ref s.cluster s.now ++ (seen ++ (done ++ (written ++ counted)))))
    (houtcome : ReadsStored stored written →
      (storedAfter stored written = some s.nextStatus ∧ ∃ requeue, result = .ok requeue) ∨
        (storedAfter stored written = stored ∧
          ((∃ f, result = .error f) ∨ ⟨.getCluster ref, .ok none⟩ ∈ written))) :
    Works ref stored (opening ref s.cluster s.now ++ (seen ++ (done ++ (written ++ counted))))
      result s := by
  have hkept : ∀ {trace : Trace}, (∀ turn ∈ trace, turn.question.IsPassive) →
      storedAfter stored trace = stored := fun h =>
    storedAfter_of_keepsStatus fun turn hturn => (h turn hturn).1
  have hdonekept : storedAfter stored done = stored :=
    storedAfter_of_keepsStatus (keepsStatus_of_runs_performAll hdone)
  simp only [readsStored_append, hkept isPassive_opening, hkept hseen, hdonekept] at hreads
  obtain ⟨hopening, -, -, hwrite, -⟩ := hreads
  constructor
  case found => exact hopening.1
  case outcome =>
    have hcountedkept : storedAfter (storedAfter stored written) counted =
        storedAfter stored written :=
      storedAfter_of_keepsStatus fun turn hturn => (hcounted turn hturn).1
    simp only [storedAfter_append, hkept isPassive_opening, hkept hseen, hdonekept, hcountedkept]
    rcases houtcome hwrite with h | ⟨h, hfailed | hgone⟩
    · exact .inl h
    · exact .inr ⟨h, .inl hfailed⟩
    · exact .inr ⟨h, .inr (by simp [hgone])⟩
  case deleted =>
    -- Pods are deleted by effects alone.
    have hnone : ∀ {trace : Trace}, (∀ turn ∈ trace, turn.question.IsPassive) →
        deletedPods trace = [] := fun h => deletedPods_eq_nil h deleted?_of_isPassive
    simp only [deletedPods_append, hnone isPassive_opening, hnone hseen, hnone hcounted,
      deletedPods_eq_nil hwritten (deleted?_of_mayAsk ref), List.nil_append, List.append_nil]
    exact deletedPods_performAll hdone
  case applied =>
    intro c manifest answer hmem
    simp only [List.mem_append] at hmem
    rcases hmem with hmem | hmem | hmem | hmem | hmem
    · exact (isPassive_opening _ hmem).2.elim
    · exact (hseen _ hmem).2.elim
    · exact permitted_of_runs_performAll hdone _ hmem c manifest rfl
    · exact (hwritten _ hmem).elim
    · exact (hcounted _ hmem).2.elim

theorem Attempts.gone {target : WriteTarget} {policy : RetryPolicy} {mutate : Mutation}
    {left attempt : Nat} {written : Trace} {r : Except Failure (Option Cluster)}
    (h : Attempts ref target policy mutate left attempt written r) (hr : r = .ok none) :
    ⟨.getCluster ref, .ok none⟩ ∈ written := by
  induction h with
  | absent => exact List.mem_singleton_self _
  | overtaken _ _ _ _ _ _ _ ih => simp [ih hr]
  | exhausted | unread | unchanged | written | refused => cases hr

theorem outcome_of_attempts {stored : Option ClusterStatus} {next : ClusterStatus}
    {policy : RetryPolicy} {left attempt : Nat} {written : Trace}
    {r : Except Failure (Option Cluster)}
    (h : Attempts ref .status policy (setStatus next) left attempt written r)
    (hreads : ReadsStored stored written) :
    (storedAfter stored written = some next ∧ ∃ c, r = .ok c) ∨
      (storedAfter stored written = stored ∧
        ((∃ f, r = .error f) ∨ ⟨.getCluster ref, .ok none⟩ ∈ written)) := by
  rcases h.storedAfter_status hreads with ⟨hkept, hfound⟩ | ⟨latest, c, -, hchanged, hstored, hr⟩
  · match r with
    | .error f => exact .inr ⟨hkept, .inl ⟨f, rfl⟩⟩
    | .ok none => exact .inr ⟨hkept, .inr (h.gone rfl)⟩
    | .ok (some c) =>
      -- A change that changes nothing has found the status that it was to set.
      obtain ⟨latest, hlatest, hsame⟩ := hfound c rfl
      refine .inl ⟨?_, some c, rfl⟩
      rw [hkept, ← hlatest]
      by_contra hne
      unfold setStatus at hsame
      rw [if_neg hne] at hsame
      cases hsame
  · refine .inl ⟨?_, some c, hr⟩
    rw [hstored]
    unfold setStatus
    split
    · assumption
    · rfl

theorem runs_of_workable (hw : Workable cluster topology)
    (hrun : (reconcile operator ref).Runs (opening ref cluster now ++ rest) result) :
    ∃ worked counted r, rest = worked ++ counted ∧ result = r.map some ∧
      (workingPass operator.settings cluster ref topology now).Runs worked r ∧
      ∀ turn ∈ counted, turn.question.IsCounting := by
  obtain ⟨acted, counted, heq, hacted, hcounted⟩ := runs_reconcile hrun
  rcases runs_reconcileCluster.mp hacted with ⟨f, rfl, -⟩ | ⟨found, later, rfl, hlater⟩
  · cases (List.cons.inj heq).1
  · obtain ⟨hread, hafter⟩ := List.cons.inj heq
    cases hread
    obtain ⟨now', worked, r, rfl, rfl, hwork⟩ := (runs_goOn_of_workable hw).mp hlater
    obtain ⟨hnow, hrest⟩ := List.cons.inj hafter
    cases hnow
    exact ⟨worked, counted, r, hrest, rfl, hwork, hcounted⟩

theorem exists_run_of_workable (hw : Workable cluster topology) {worked : Trace}
    {r : Except Failure Nat}
    (hwork : (workingPass operator.settings cluster ref topology now).Runs worked r) :
    ∃ counted, (reconcile operator ref).Runs (opening ref cluster now ++ (worked ++ counted))
        (r.map some) ∧ ∀ turn ∈ counted, turn.question.IsCounting := by
  have hacted : (reconcileCluster operator ref).Runs (opening ref cluster now ++ worked)
      (r.map some) := by
    refine runs_reconcileCluster.mpr (.inr ⟨some cluster, ⟨.now, now⟩ :: worked, rfl, ?_⟩)
    exact (runs_goOn_of_workable hw).mpr ⟨now, worked, r, rfl, rfl, hwork⟩
  obtain ⟨counted, hcounted⟩ := exists_run_reconcile hacted
  rw [List.append_assoc] at hcounted
  exact ⟨counted, hcounted⟩

/-- The courses that a pass may take that has found a situation: some effect fails, or all are
carried out and the status is written. -/
inductive Course (ref : ClusterRef) (s : Situation) : Trace → Except Failure Requeue → Prop
  | stopped {seen done counted : Trace} {f : Failure}
    (hseen : ∀ turn ∈ seen, turn.question.IsPassive)
    (hdone : (performAll s.cluster ref s.effects).Runs done (.error f))
    (hcounted : ∀ turn ∈ counted, turn.question.IsPassive) :
    Course ref s (opening ref s.cluster s.now ++ (seen ++ (done ++ counted))) (.error f)
  | through {seen done written counted : Trace} {stored : Except Failure (Option Cluster)}
    (hseen : ∀ turn ∈ seen, turn.question.IsPassive)
    (hdone : (performAll s.cluster ref s.effects).Runs done (.ok ()))
    (hwritten : Attempts ref .status s.settings.retryPolicy (setStatus s.nextStatus)
      s.settings.retryPolicy.tries 1 written stored)
    (hcounted : ∀ turn ∈ counted, turn.question.IsPassive) :
    Course ref s (opening ref s.cluster s.now ++ (seen ++ (done ++ (written ++ counted))))
      (stored.map fun _ => some s.requeue)

theorem course_of_finds {s : Situation} (hrun : (reconcile operator ref).Runs trace result)
    (hs : Finds operator ref trace s) : Course ref s trace result := by
  obtain ⟨cluster, topology, now, seen, rest, hw, hseen, rfl⟩ := hs
  obtain ⟨worked, counted, r, heq, rfl, hwork, hcounted⟩ := runs_of_workable hw hrun
  have hgiven := (observed_observe hseen).given
  have hparts := isPassive_of_runs_observe hseen
  have hcounted := fun turn hturn => isPassive_of_isCounting _ (hcounted turn hturn)
  have hcluster : s.cluster = cluster := by rw [hgiven]
  have hnow : s.now = now := by rw [hgiven]
  have hsettings : s.settings = operator.settings := by rw [hgiven]
  -- Of the three courses of the work, the trace rules out the one that observed nothing.
  cases runs_workingPass.mp hwork with
  | blind hblind => cases (Program.Runs.unique hseen hblind heq).2
  | @stopped seen' done _ _ hseen' hdone =>
    rw [List.append_assoc] at heq
    obtain ⟨rfl, hsame⟩ := Program.Runs.unique hseen hseen' heq
    cases hsame
    rw [List.append_cancel_left heq, ← hcluster, ← hnow]
    rw [← hcluster] at hdone
    exact .stopped hparts hdone hcounted
  | @through seen' done written _ stored hseen' hdone hwritten =>
    rw [List.append_assoc, List.append_assoc] at heq
    obtain ⟨rfl, hsame⟩ := Program.Runs.unique hseen hseen' heq
    cases hsame
    rw [List.append_cancel_left heq, ← hcluster, ← hnow]
    rw [← hcluster] at hdone
    rw [← hsettings] at hwritten
    have hcourse := Course.through hparts hdone hwritten hcounted
    cases stored with
    | error f => exact hcourse
    | ok stored => exact hcourse

/-- **A pass that finds a situation works in it.** -/
theorem works_of_finds {stored : Option ClusterStatus} {s : Situation}
    (hrun : (reconcile operator ref).Runs trace result) (hreads : ReadsStored stored trace)
    (hs : Finds operator ref trace s) : Works ref stored trace result s := by
  cases course_of_finds hrun hs with
  | @stopped seen done counted f hseen hdone hcounted =>
    rw [← List.nil_append counted] at hreads ⊢
    exact works_of_parts hseen hdone (by simp) hcounted hreads fun _ => .inr ⟨rfl, .inl ⟨f, rfl⟩⟩
  | through hseen hdone hwritten hcounted =>
    refine works_of_parts hseen hdone hwritten.mayAsk hcounted hreads fun hwrite => ?_
    rcases outcome_of_attempts hwritten hwrite with ⟨h, c, rfl⟩ | ⟨h, ⟨f, rfl⟩ | hgone⟩
    · exact .inl ⟨h, _, rfl⟩
    · exact .inr ⟨h, .inl ⟨f, rfl⟩⟩
    · exact .inr ⟨h, .inr hgone⟩

end

end ClusterOperator
