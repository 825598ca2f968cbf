import ClusterOperator.Proofs.Pass.Finalizer
import ClusterOperator.Proofs.Pass.Rejecting

/-!
# What a pass makes of the phase

The phase of a cluster is kept in two places: the status says it, and a measurement tells it. A pass
comes to either in one of a few ways, which differ in what they tell, in what they write, and in the
order of the two.

> **`phaseRun_of_runs`** — every pass has one of the courses that `PhaseRun` lists.

A pass that works on its cluster or refuses its declaration tells the phase and then writes it. A
pass that finds the deletion requested writes the phase and tells nothing; that the cluster is gone
is told when the finalizer is released, or by a pass that does not find the cluster.
-/

set_option autoImplicit false

namespace ClusterOperator

open Pass

/-! ## Telling a phase -/

def Call.toldPhase? : Call → Option (ClusterRef × Option String)
  | .measure ref (.phase name) => some (ref, name)
  | _ => none

/-- The phases that are told in a trace, in their order. -/
def phasesTold (trace : Trace) : List (ClusterRef × Option String) :=
  trace.filterMap (·.question.toldPhase?)

/-- A call that neither tells a phase nor writes the status. -/
def Call.IsSilent (c : Call) : Prop := c.KeepsStatus ∧ c.toldPhase? = none

/-- That a trace leaves the phase alone. -/
def Silent (trace : Trace) : Prop := ∀ turn ∈ trace, turn.question.IsSilent

section
variable {ref : ClusterRef} {s t trace : Trace}

@[simp] theorem phasesTold_append : phasesTold (s ++ t) = phasesTold s ++ phasesTold t :=
  List.filterMap_append

theorem silent_iff : Silent trace ↔
    (∀ turn ∈ trace, turn.question.KeepsStatus) ∧ phasesTold trace = [] := by
  unfold Silent Call.IsSilent phasesTold
  rw [List.filterMap_eq_nil_iff]
  exact forall₂_and

theorem silent_nil : Silent [] := by simp [Silent]

theorem Silent.append (hs : Silent s) (ht : Silent t) : Silent (s ++ t) :=
  List.forall_mem_append.mpr ⟨hs, ht⟩

theorem Silent.cons {turn : Turn Call.Answer} (hturn : turn.question.IsSilent) (ht : Silent t) :
    Silent (turn :: t) := List.forall_mem_cons.mpr ⟨hturn, ht⟩

theorem silent_singleton {turn : Turn Call.Answer} (hturn : turn.question.IsSilent) :
    Silent [turn] := .cons hturn silent_nil

theorem Silent.kept (h : Silent trace) : ∀ turn ∈ trace, turn.question.KeepsStatus :=
  (silent_iff.mp h).1

theorem Silent.untold (h : Silent trace) : phasesTold trace = [] := (silent_iff.mp h).2

theorem isSilent_of_isReading : ∀ c : Call, c.IsReading → c.IsSilent := by
  intro c h
  cases c <;> first | exact ⟨trivial, rfl⟩ | exact h.elim

theorem toldPhase?_of_mayAsk {target : WriteTarget} :
    ∀ c : Call, target.MayAsk ref c → c.toldPhase? = none := by
  intro c h
  cases c with
  | measure => exact h.elim
  | _ => rfl

/-- A write tells no phase. -/
theorem Attempts.untold {target : WriteTarget} {policy : RetryPolicy} {mutate : Mutation}
    {left attempt : Nat} {written : Except Failure (Option Cluster)}
    (h : Attempts ref target policy mutate left attempt trace written) : phasesTold trace = [] :=
  List.filterMap_eq_nil_iff.mpr fun turn hturn => toldPhase?_of_mayAsk _ (h.mayAsk turn hturn)

theorem Attempts.silent_object {policy : RetryPolicy} {mutate : Mutation} {left attempt : Nat}
    {written : Except Failure (Option Cluster)}
    (h : Attempts ref .object policy mutate left attempt trace written) : Silent trace :=
  silent_iff.mpr ⟨fun turn hturn => keepsStatus_of_mayAsk_object _ (h.mayAsk turn hturn), h.untold⟩

theorem isSilent_closing {requeue : Requeue} : AsksOnly Call.IsSilent (closing ref requeue) := by
  refine .bind (.call ⟨trivial, rfl⟩) fun seconds => ?_
  refine .bind (.call ⟨trivial, rfl⟩) fun _ => ?_
  refine .bind (.call ⟨trivial, rfl⟩) fun now => ?_
  exact .bind (.call ⟨trivial, rfl⟩) fun _ => .pure requeue

/-- Counting a pass tells nothing of the phase. -/
theorem runs_reconcile_silent {operator : Operator} {result : Except Failure Requeue}
    (h : (reconcile operator ref).Runs trace result) :
    ∃ acted counted, trace = acted ++ counted ∧ (reconcileCluster operator ref).Runs acted result ∧
      Silent counted := by
  rcases runs_bind.mp h with ⟨f, rfl, hacted⟩ | ⟨acted, requeue, counted, rfl, hacted, hcounted⟩
  · exact ⟨trace, [], (List.append_nil _).symm, hacted, silent_nil⟩
  · rw [runs_closing hcounted]
    exact ⟨acted, counted, rfl, hacted, isSilent_closing _ _ hcounted⟩

end

/-! ## One write of the status -/

/-- That a trace writes the status once, in one change, and how the write ends. What a pass does
before and after may be anything that leaves the status: of a whole pass this is all that is needed
to know what it has stored. -/
def WritesStatus (ref : ClusterRef) (policy : RetryPolicy) (mutate : Mutation) (trace : Trace)
    (written : Except Failure (Option Cluster)) : Prop :=
  ∃ before attempts after, trace = before ++ (attempts ++ after) ∧
    (∀ turn ∈ before, turn.question.KeepsStatus) ∧ (∀ turn ∈ after, turn.question.KeepsStatus) ∧
    Attempts ref .status policy mutate policy.tries 1 attempts written

namespace WritesStatus

variable {ref : ClusterRef} {policy : RetryPolicy} {mutate : Mutation} {trace : Trace}
  {written : Except Failure (Option Cluster)}

/-- What is written is the change of some cluster. -/
theorem exists_changed (h : WritesStatus ref policy mutate trace written) {cluster : Cluster}
    {answer : Except Failure Cluster} (hmem : ⟨.replaceStatus cluster, answer⟩ ∈ trace) :
    ∃ latest, (mutate latest).1 = true ∧ cluster = (mutate latest).2 := by
  obtain ⟨before, attempts, after, rfl, hbefore, hafter, hattempts⟩ := h
  rcases List.mem_append.mp hmem with hmem | hmem
  · exact (hbefore _ hmem).elim
  rcases List.mem_append.mp hmem with hmem | hmem
  · obtain ⟨earlier, later, rfl⟩ := List.append_of_mem hmem
    have hchanges : ChangesLastRead ref mutate earlier cluster :=
      hattempts.changesLastRead (Eq.refl (earlier ++ ⟨.replaceStatus cluster, answer⟩ :: later))
    obtain ⟨_, latest, -, hchanged, hwritten⟩ := hchanges
    exact ⟨latest, hchanged, hwritten⟩
  · exact (hafter _ hmem).elim

/-- The status is the only thing that is stored of the trace. -/
theorem exists_attempts {stored : Option ClusterStatus}
    (h : WritesStatus ref policy mutate trace written) (hreads : ReadsStored stored trace) :
    ∃ attempts, Attempts ref .status policy mutate policy.tries 1 attempts written ∧
      ReadsStored stored attempts ∧ storedAfter stored trace = storedAfter stored attempts := by
  obtain ⟨before, attempts, after, rfl, hbefore, hafter, hattempts⟩ := h
  rw [readsStored_append, readsStored_append, storedAfter_of_keepsStatus hbefore] at hreads
  refine ⟨attempts, hattempts, hreads.2.1, ?_⟩
  rw [storedAfter_append, storedAfter_append, storedAfter_of_keepsStatus hbefore,
    storedAfter_of_keepsStatus hafter]

/-- **A write that goes through leaves what it makes of some cluster**, if it changes nothing only
of clusters that it would make no different. -/
theorem exists_stored {stored : Option ClusterStatus} {c : Cluster}
    (h : WritesStatus ref policy mutate trace (.ok (some c))) (hreads : ReadsStored stored trace)
    (hidle : ∀ latest, (mutate latest).1 = false → (mutate latest).2 = latest) :
    ∃ latest, storedAfter stored trace = (mutate latest).2.status := by
  obtain ⟨attempts, hattempts, hreads, hstored⟩ := h.exists_attempts hreads
  rcases hattempts.storedAfter_status hreads with ⟨hsame, hfound⟩ | ⟨latest, -, -, -, hnew, -⟩
  · obtain ⟨latest, hlatest, hunchanged⟩ := hfound c rfl
    exact ⟨latest, by rw [hstored, hsame, hidle latest hunchanged, hlatest]⟩
  · exact ⟨latest, hstored.trans hnew⟩

end WritesStatus

theorem setStatus_of_unchanged {next : ClusterStatus} (latest : Cluster)
    (h : (setStatus next latest).1 = false) : (setStatus next latest).2 = latest := by
  unfold setStatus at h ⊢
  split at h
  · rw [if_pos ‹_›]
  · cases h

theorem setDeleting_of_unchanged (latest : Cluster) (h : (setDeleting latest).1 = false) :
    (setDeleting latest).2 = latest := by
  unfold setDeleting at h ⊢
  dsimp only at h ⊢
  split at h
  · rw [if_pos ‹_›]
  · cases h

/-! ## The courses of a pass -/

/-- The courses of a pass, as far as the phase is concerned, and how the write of the status ends if
the pass comes to one.

There are four places at which a phase is stored or told, and the constructors keep apart what is
told from what is stored, since `marked` stores a phase that it does not tell. -/
inductive PhaseRun (operator : Operator) (ref : ClusterRef) (trace : Trace)
    (result : Except Failure Requeue) : Option (Except Failure (Option Cluster)) → Prop
  /-- The pass does not come to the phase. It does so of a cluster that is gone, and of one that it
  has claimed and that is being deleted. -/
  | idle (hread : ∀ found, trace.head? = some ⟨.getCluster ref, .ok found⟩ → ∃ cluster,
      found = some cluster ∧
        (cluster.metadata.deletionTimestamp.isSome → cluster.hasFinalizer = false))
    (hsilent : Silent trace) : PhaseRun operator ref trace result none
  /-- The cluster is gone. -/
  | absent (hread : trace.head? = some ⟨.getCluster ref, .ok none⟩)
    (hkept : ∀ turn ∈ trace, turn.question.KeepsStatus)
    (htold : phasesTold trace = [(ref, none)]) : PhaseRun operator ref trace result none
  /-- All that the situation asks for is done. -/
  | worked {s : Situation} {written : Except Failure (Option Cluster)}
    (hfinds : Finds operator ref trace s)
    (hwrites : WritesStatus ref s.settings.retryPolicy (setStatus s.nextStatus) trace written)
    (htold : phasesTold trace = [(ref, some s.phase.name)]) :
    PhaseRun operator ref trace result (some written)
  /-- The declaration is refused. -/
  | refused {cluster : Cluster} {violations : List String} {now : Instant}
    {written : Except Failure (Option Cluster)}
    (hread : trace.head? = some ⟨.getCluster ref, .ok (some cluster)⟩)
    (hrefused : Refused cluster (.validation violations))
    (hwrites : WritesStatus cluster.ownRef operator.settings.retryPolicy
      (refusal cluster violations now) trace written)
    (htold : phasesTold trace = [(cluster.ownRef, some ClusterPhase.failed.name)]) :
    PhaseRun operator ref trace result (some written)
  /-- The deletion is recorded, and then the cluster is cleaned up as far as that succeeds. -/
  | marked {cluster : Cluster} {written : Except Failure (Option Cluster)}
    (hread : trace.head? = some ⟨.getCluster ref, .ok (some cluster)⟩)
    (hdeleted : cluster.metadata.deletionTimestamp.isSome)
    (hclaimed : cluster.hasFinalizer = true)
    (hphase : (cluster.status.getD {}).phase ≠ .deleting)
    (hwrites : WritesStatus ref operator.settings.retryPolicy setDeleting trace written)
    (htold : (phasesTold trace = [(ref, none)] ∧ ∃ requeue, result = .ok requeue) ∨
      (phasesTold trace = [] ∧ ∃ f, result = .error f)) :
    PhaseRun operator ref trace result (some written)
  /-- The deletion was recorded before; the cluster is cleaned up as far as that succeeds. -/
  | cleaned {cluster : Cluster}
    (hread : trace.head? = some ⟨.getCluster ref, .ok (some cluster)⟩)
    (hdeleted : cluster.metadata.deletionTimestamp.isSome)
    (hclaimed : cluster.hasFinalizer = true)
    (hphase : (cluster.status.getD {}).phase = .deleting)
    (hkept : ∀ turn ∈ trace, turn.question.KeepsStatus)
    (htold : (phasesTold trace = [(ref, none)] ∧ ∃ requeue, result = .ok requeue) ∨
      (phasesTold trace = [] ∧ ∃ f, result = .error f)) :
    PhaseRun operator ref trace result none

/-- A pass that has read a cluster which is not being deleted may stay idle. -/
theorem PhaseRun.idle_of_kept {operator : Operator} {ref : ClusterRef} {cluster : Cluster}
    {rest : Trace} {result : Except Failure Requeue}
    (hkept : cluster.metadata.deletionTimestamp.isSome → cluster.hasFinalizer = false)
    (hsilent : Silent (⟨.getCluster ref, .ok (some cluster)⟩ :: rest)) :
    PhaseRun operator ref (⟨.getCluster ref, .ok (some cluster)⟩ :: rest) result none := by
  refine .idle (fun found hread => ?_) hsilent
  cases Option.some.inj hread
  exact ⟨cluster, rfl, hkept⟩

/-! ## A pass over a cluster that is being deleted -/

section
variable {settings : Settings} {hooks : List String} {cluster : Cluster} {ref : ClusterRef}
  {trace : Trace} {r : Except Failure Unit}

theorem silent_runHooks {first : Nat} {names : List String}
    (h : (runHooks cluster first names).Runs trace r) : Silent trace := by
  have hdone (count : Nat) : Silent (hooksDone cluster first count) := by
    intro turn hturn
    obtain ⟨i, rfl⟩ := of_mem_hooksDone hturn
    exact ⟨trivial, rfl⟩
  rcases runs_runHooks h with ⟨-, rfl⟩ | ⟨i, f, event, -, -, rfl⟩
  · exact hdone _
  · exact (hdone i).append (.cons ⟨trivial, rfl⟩ (silent_singleton ⟨trivial, rfl⟩))

/-- **That the cluster is gone is told when its finalizer is released, and not before.** -/
theorem told_of_cleanUp (h : (cleanUp settings hooks cluster ref).Runs trace r) :
    (∀ turn ∈ trace, turn.question.KeepsStatus) ∧
      ((phasesTold trace = [(ref, none)] ∧ r = .ok ()) ∨
        (phasesTold trace = [] ∧ ∃ f, r = .error f)) := by
  rcases runs_bind.mp h with ⟨f, rfl, hhooks⟩ | ⟨ran, _, after, rfl, hhooks, hafter⟩
  · have hsilent := silent_runHooks hhooks
    exact ⟨hsilent.kept, .inr ⟨hsilent.untold, f, rfl⟩⟩
  obtain ⟨_, rest, rfl, hrest⟩ := runs_call_bind.mp hafter
  have hearlier : Silent (ran ++ [⟨.publishEvent cluster cleanupComplete, ()⟩]) :=
    (silent_runHooks hhooks).append (silent_singleton ⟨trivial, rfl⟩)
  rw [List.append_cons]
  rcases runs_bind.mp hrest with ⟨f, rfl, hwrite⟩ | ⟨released, _, counted, rfl, hwrite, hcount⟩
  · have hsilent := hearlier.append (runs_modifyWithRetry.mp hwrite).silent_object
    exact ⟨hsilent.kept, .inr ⟨hsilent.untold, f, rfl⟩⟩
  · obtain ⟨_, rfl, rfl⟩ := runs_call.mp hcount
    have hsilent := hearlier.append (runs_modifyWithRetry.mp hwrite).silent_object
    rw [← List.append_assoc, phasesTold_append, hsilent.untold]
    refine ⟨List.forall_mem_append.mpr ⟨hsilent.kept, ?_⟩, .inl ⟨rfl, rfl⟩⟩
    rw [List.forall_mem_singleton]
    trivial

/-- **The courses of a pass over a cluster that is being deleted**: the deletion is recorded, unless
it was before, and then the cluster is cleaned up. -/
theorem runs_deletionPass (hclaimed : cluster.hasFinalizer = true)
    (h : (deletionPass settings hooks cluster ref).Runs trace r) :
    ((cluster.status.getD {}).phase = .deleting ∧
        (cleanUp settings hooks cluster ref).Runs trace r) ∨
      ((cluster.status.getD {}).phase ≠ .deleting ∧ ∃ marking written rest,
        trace = marking ++ rest ∧
        Attempts ref .status settings.retryPolicy setDeleting settings.retryPolicy.tries 1 marking
          written ∧
        ((∃ f, written = .error f ∧ r = .error f ∧ rest = []) ∨
          ((∃ found, written = .ok found) ∧
            (cleanUp settings hooks cluster ref).Runs rest r))) := by
  unfold deletionPass at h
  by_cases hphase : (cluster.status.getD {}).phase = .deleting
  · simp only [hclaimed, Bool.not_true, Bool.false_eq_true, if_false, hphase, ne_eq,
      not_true_eq_false] at h
    exact .inl ⟨hphase, h⟩
  · simp only [hclaimed, Bool.not_true, Bool.false_eq_true, if_false, hphase, ne_eq,
      not_false_eq_true, if_true] at h
    refine .inr ⟨hphase, ?_⟩
    rcases runs_bind.mp h with ⟨f, rfl, hwrite⟩ | ⟨marking, found, rest, rfl, hwrite, hrest⟩
    · exact ⟨trace, _, [], (List.append_nil _).symm, runs_modifyWithRetry.mp hwrite,
        .inl ⟨f, rfl, rfl, rfl⟩⟩
    · exact ⟨marking, _, rest, rfl, runs_modifyWithRetry.mp hwrite, .inr ⟨⟨found, rfl⟩, hrest⟩⟩

end

/-! ## A pass that works -/

section
variable {operator : Operator} {ref : ClusterRef} {cluster : Cluster} {topology : Topology}
  {now : Instant} {trace : Trace} {result : Except Failure Requeue}

/-- The effects of a situation before the cluster is counted. -/
def Situation.deeds (s : Situation) : List Effect :=
  s.driftEffects ++ s.requestEffects ++ s.applyEffects ++ s.upgradeEffects ++ s.repairEffects ++
    s.rolloutEffects ++ s.phaseEffects

theorem Situation.effects_eq (s : Situation) : s.effects = s.deeds ++ s.gaugeEffects := rfl

def Effect.TellsNoPhase : Effect → Prop
  | .measure (.phase _) => False
  | _ => True

/-- Before the cluster is counted, its phase is not told. -/
theorem Situation.tellsNoPhase_of_mem_deeds (s : Situation) :
    ∀ effect ∈ s.deeds, effect.TellsNoPhase := by
  have hpublished (events : List Event) : ∀ effect ∈ events.map Effect.publish,
      effect.TellsNoPhase := by
    rw [List.forall_mem_map]
    exact fun _ _ => trivial
  have hrestarted (cause : RestartCause) (pods : List String) :
      ∀ effect ∈ pods.map (Effect.restart cause), effect.TellsNoPhase := by
    rw [List.forall_mem_map]
    exact fun _ _ => trivial
  have hwarned (rest : String) : (s.splitWarning rest).TellsNoPhase := trivial
  -- Each list of effects is taken apart by what it depends on, and none holds a phase.
  simp only [deeds, List.forall_mem_append]
  refine ⟨⟨⟨⟨⟨⟨?drift, ?request⟩, ?apply⟩, ?upgrade⟩, ?repair⟩, ?rollout⟩, ?phase⟩
  case drift =>
    unfold driftEffects
    split <;> simp [Effect.TellsNoPhase]
  case request =>
    unfold requestEffects
    split <;> simp [Effect.TellsNoPhase]
  case apply =>
    unfold applyEffects
    split <;> simp [Effect.TellsNoPhase]
  case upgrade =>
    unfold upgradeEffects
    split
    · exact List.forall_mem_append.mpr ⟨hrestarted _ _, hpublished _⟩
    · simp
  case repair =>
    unfold repairEffects
    refine List.forall_mem_append.mpr ⟨?_, ?_⟩
    · split <;> simp [Effect.TellsNoPhase]
    · split
      · refine List.forall_mem_append.mpr ⟨List.forall_mem_cons.mpr ⟨hwarned _, hrestarted _ _⟩, ?_⟩
        simp [Effect.TellsNoPhase]
      · split <;> simp [hwarned]
      · split <;> simp [hwarned]
      · simp
  case rollout =>
    unfold rolloutEffects
    split <;> simp [Effect.TellsNoPhase]
  case phase =>
    unfold phaseEffects
    split
    · split <;> simp [Effect.TellsNoPhase]
    · simp

theorem toldPhase?_call_of_tellsNoPhase {effect : Effect} (h : effect.TellsNoPhase) :
    (effect.call cluster ref).toldPhase? = none := by
  cases effect with
  | measure measurement =>
    cases measurement with
    | phase => exact h.elim
    | _ => rfl
  | publish | apply | restart => rfl

theorem phasesTold_eq (trace : Trace) :
    phasesTold trace = (trace.map (·.question)).filterMap Call.toldPhase? := by
  unfold phasesTold
  rw [List.filterMap_map]
  rfl

theorem filterMap_deeds (s : Situation) :
    (s.deeds.map (·.call cluster ref)).filterMap Call.toldPhase? = [] := by
  rw [List.filterMap_map]
  exact List.filterMap_eq_nil_iff.mpr fun effect heffect =>
    toldPhase?_call_of_tellsNoPhase (s.tellsNoPhase_of_mem_deeds effect heffect)

/-- **A pass that carries out all effects tells the phase of its situation**, once. -/
theorem phasesTold_of_performed {s : Situation} {done : Trace}
    (h : (performAll cluster ref s.effects).Runs done (.ok ())) :
    phasesTold done = [(ref, some s.phase.name)] := by
  rw [phasesTold_eq, (calls_performAll h).2 rfl, s.effects_eq, List.map_append,
    List.filterMap_append, filterMap_deeds]
  rfl

/-- **A pass that is stopped at an effect has told no phase**: counting never fails. -/
theorem phasesTold_of_stopped {s : Situation} {done : Trace} {f : Failure}
    (h : (performAll cluster ref s.effects).Runs done (.error f)) : phasesTold done = [] := by
  rcases performAll_endsOnFailure _ _ h with ⟨_, heq, -⟩ | ⟨g, -, before, last, rfl, -, hfailed⟩
  · cases heq
  have hcalls : (before ++ [last]).map (·.question) <+:
      s.deeds.map (·.call cluster ref) ++ s.gaugeEffects.map (·.call cluster ref) := by
    rw [← List.map_append, ← s.effects_eq]
    exact (calls_performAll h).1
  have hnone : (s.deeds.map (·.call cluster ref)).filterMap Call.toldPhase? = [] :=
    filterMap_deeds s
  rw [phasesTold_eq]
  rcases prefix_append_cases hcalls with ⟨rest, hrest⟩ | ⟨counted, hcounted, heq⟩
  · rw [← hrest, List.filterMap_append, List.append_eq_nil_iff] at hnone
    exact hnone.1
  rcases List.eq_nil_or_concat counted with rfl | ⟨earlier, call, rfl⟩
  · rw [heq, List.append_nil]
    exact hnone
  · -- What failed is the last of what was asked, but that counts the cluster.
    rw [List.concat_eq_append] at heq hcounted
    rw [List.map_append, List.map_singleton, ← List.append_assoc] at heq
    obtain ⟨-, hlast⟩ := List.append_inj' heq rfl
    have hcall : last.question ∈ s.gaugeEffects.map (·.call cluster ref) :=
      hcounted.mem (List.mem_append_right _ (List.mem_singleton.mpr (List.cons.inj hlast).1))
    obtain ⟨question, answer⟩ := last
    rcases List.mem_pair.mp hcall with rfl | rfl <;> cases hfailed

/-- The courses of a working pass. -/
theorem phaseRun_of_workable {acted counted : Trace} (hw : Workable cluster topology)
    (hacted : (goOn operator ref (some cluster)).Runs acted result) (hcounted : Silent counted) :
    ∃ write, PhaseRun operator ref (⟨.getCluster ref, .ok (some cluster)⟩ :: (acted ++ counted))
      result write := by
  obtain ⟨now, worked, r, rfl, -, hwork⟩ := (runs_goOn_of_workable hw).mp hacted
  have hlooked {seen : Trace} {found : Except Failure Situation}
      (h : (observe operator.settings cluster ref topology now).Runs seen found) :
      Silent (opening ref cluster now ++ seen) := by
    refine .append (.cons ⟨trivial, rfl⟩ (silent_singleton ⟨trivial, rfl⟩)) ?_
    exact fun turn hturn => isSilent_of_isReading _ (isReading_observe _ _ h turn hturn)
  have hkept : cluster.metadata.deletionTimestamp.isSome → cluster.hasFinalizer = false := by
    rw [hw.kept]
    nofun
  show ∃ write, PhaseRun operator ref (opening ref cluster now ++ (worked ++ counted)) result write
  -- A pass that does not come to its end tells nothing, and one that does tells its phase.
  cases runs_workingPass.mp hwork with
  | blind hseen =>
    rw [← List.append_assoc]
    exact ⟨_, .idle_of_kept hkept ((hlooked hseen).append hcounted)⟩
  | stopped hseen hdone =>
    have hdonesilent := silent_iff.mpr
      ⟨keepsStatus_of_runs_performAll hdone, phasesTold_of_stopped hdone⟩
    rw [← List.append_assoc, ← List.append_assoc]
    exact ⟨_, .idle_of_kept hkept (((hlooked hseen).append hdonesilent).append hcounted)⟩
  | @through seen done written s stored hseen hdone hwritten =>
    have hsettings : s.settings = operator.settings := by rw [(observed_observe hseen).given]
    have hearlier := hlooked hseen
    refine ⟨some stored, .worked (s := s) ?_ ?_ ?_⟩
    · exact ⟨cluster, topology, now, seen, (done ++ written) ++ counted, hw, hseen,
        by rw [List.append_assoc]⟩
    · rw [hsettings]
      refine ⟨(opening ref cluster now ++ seen) ++ done, written, counted,
        by simp only [List.append_assoc], ?_, hcounted.kept, hwritten⟩
      exact List.forall_mem_append.mpr ⟨hearlier.kept, keepsStatus_of_runs_performAll hdone⟩
    · have htold := hearlier.untold
      rw [phasesTold_append, List.append_eq_nil_iff] at htold
      simp only [phasesTold_append, htold, phasesTold_of_performed hdone, hwritten.untold,
        hcounted.untold, List.nil_append, List.append_nil]

/-- What is told of a pass over a cluster that is being deleted is what is told while it cleans
up. -/
theorem told_of_told (before : Trace) {told counted : Trace} {r : Except Failure Unit}
    (hbefore : phasesTold before = []) (hcounted : Silent counted)
    (h : (phasesTold told = [(ref, none)] ∧ r = .ok ()) ∨
      (phasesTold told = [] ∧ ∃ f, r = .error f)) :
    (phasesTold (before ++ (told ++ counted)) = [(ref, none)] ∧
        ∃ requeue, (r.map fun _ => (none : Requeue)) = .ok requeue) ∨
      (phasesTold (before ++ (told ++ counted)) = [] ∧
        ∃ f, (r.map fun _ => (none : Requeue)) = .error f) := by
  simp only [phasesTold_append, hbefore, hcounted.untold, List.nil_append, List.append_nil]
  rcases h with ⟨htold, rfl⟩ | ⟨htold, f, rfl⟩
  · exact .inl ⟨htold, _, rfl⟩
  · exact .inr ⟨htold, f, rfl⟩

/-- The courses of a pass over a cluster that is being deleted. -/
theorem phaseRun_of_deleted {acted counted : Trace}
    (hdeleted : cluster.metadata.deletionTimestamp.isSome)
    (hacted : (goOn operator ref (some cluster)).Runs acted result) (hcounted : Silent counted) :
    ∃ write, PhaseRun operator ref (⟨.getCluster ref, .ok (some cluster)⟩ :: (acted ++ counted))
      result write := by
  obtain ⟨r, hrun, rfl⟩ : ∃ r, (deletionPass operator.settings operator.hooks cluster ref).Runs
      acted r ∧ result = r.map fun _ => none := by
    unfold goOn at hacted
    simp only [hdeleted, if_true] at hacted
    rcases runs_bind.mp hacted with ⟨f, rfl, hrun⟩ | ⟨before, u, after, rfl, hrun, hreturn⟩
    · exact ⟨_, hrun, rfl⟩
    · obtain ⟨rfl, rfl⟩ := runs_pure.mp hreturn
      rw [List.append_nil]
      exact ⟨_, hrun, rfl⟩
  cases hclaimed : cluster.hasFinalizer with
  | false =>
    unfold deletionPass at hrun
    simp only [hclaimed, Bool.not_false, if_true] at hrun
    rw [(runs_pure.mp hrun).1]
    exact ⟨_, .idle_of_kept (fun _ => hclaimed) (.cons ⟨trivial, rfl⟩ hcounted)⟩
  | true =>
    -- The deletion was recorded by an earlier pass, or is recorded now.
    rcases runs_deletionPass hclaimed hrun with ⟨hphase, hclean⟩ |
      ⟨hphase, marking, written, rest, rfl, hmarking, hrest⟩
    · obtain ⟨hkept, htold⟩ := told_of_cleanUp hclean
      refine ⟨_, .cleaned rfl hdeleted hclaimed hphase ?_ (told_of_told [_] rfl hcounted htold)⟩
      refine List.forall_mem_cons.mpr ⟨trivial, ?_⟩
      exact List.forall_mem_append.mpr ⟨hkept, hcounted.kept⟩
    · obtain ⟨hkept, htold⟩ : (∀ turn ∈ rest, turn.question.KeepsStatus) ∧
          ((phasesTold rest = [(ref, none)] ∧ r = .ok ()) ∨
            (phasesTold rest = [] ∧ ∃ f, r = .error f)) := by
        rcases hrest with ⟨f, -, rfl, rfl⟩ | ⟨-, hclean⟩
        · exact ⟨by simp, .inr ⟨rfl, f, rfl⟩⟩
        · exact told_of_cleanUp hclean
      rw [List.append_assoc]
      refine ⟨some written, .marked rfl hdeleted hclaimed hphase ?_ ?_⟩
      · refine ⟨[⟨.getCluster ref, .ok (some cluster)⟩], marking, rest ++ counted, rfl, ?_, ?_,
          hmarking⟩
        · rw [List.forall_mem_singleton]
          trivial
        · exact List.forall_mem_append.mpr ⟨hkept, hcounted.kept⟩
      · exact told_of_told (⟨.getCluster ref, .ok (some cluster)⟩ :: marking) hmarking.untold
          hcounted htold

/-- The courses of a pass that refuses the declaration. -/
theorem phaseRun_of_refused {violations : List String}
    (hrun : (reconcile operator ref).Runs trace result)
    (hread : trace.head? = some ⟨.getCluster ref, .ok (some cluster)⟩)
    (hrefused : Refused cluster (.validation violations)) :
    ∃ write, PhaseRun operator ref trace result write := by
  obtain ⟨now, recorded, written, rfl, hattempts, -⟩ := runs_of_refused hrefused hrun hread
  have hwrites : WritesStatus cluster.ownRef operator.settings.retryPolicy
      (refusal cluster violations now)
      ((opening ref cluster now ++ telling cluster violations) ++ recorded) written := by
    refine ⟨opening ref cluster now ++ telling cluster violations, recorded, [], ?_, ?_, by simp,
      hattempts⟩
    · rw [List.append_nil]
    · exact forall_telling trivial trivial trivial trivial
  refine ⟨some written, .refused hread hrefused hwrites ?_⟩
  rw [phasesTold_append, hattempts.untold, List.append_nil]
  unfold telling
  split <;> rfl

/-- **What a pass may make of the phase of its cluster.** -/
theorem phaseRun_of_runs (hrun : (reconcile operator ref).Runs trace result) :
    ∃ write, PhaseRun operator ref trace result write := by
  obtain ⟨acted, counted, rfl, hacted, hcounted⟩ := runs_reconcile_silent hrun
  rcases runs_reconcileCluster.mp hacted with ⟨f, rfl, -⟩ | ⟨found, rest, rfl, hrest⟩
  · exact ⟨_, .idle (fun _ hread => by cases Option.some.inj hread) (.cons ⟨trivial, rfl⟩ hcounted)⟩
  cases found with
  | none =>
    obtain ⟨_, after, rfl, hreturn⟩ := runs_call_bind.mp hrest
    rw [(runs_pure.mp hreturn).1]
    refine ⟨_, .absent rfl ?_ ?_⟩
    · exact List.forall_mem_cons.mpr ⟨trivial, List.forall_mem_cons.mpr ⟨trivial, hcounted.kept⟩⟩
    · rw [phasesTold_append, hcounted.untold]
      rfl
  | some cluster =>
    by_cases hdeleted : cluster.metadata.deletionTimestamp.isSome
    · exact phaseRun_of_deleted hdeleted hrest hcounted
    have hkept : cluster.metadata.deletionTimestamp = none := by simpa using hdeleted
    cases hclaimed : cluster.hasFinalizer with
    | false =>
      obtain ⟨stored, hattempts⟩ := attempts_of_unclaimed hkept hclaimed hrest
      exact ⟨_, .idle_of_kept (fun hsome => absurd hsome hdeleted)
        (.cons ⟨trivial, rfl⟩ (hattempts.silent_object.append hcounted))⟩
    | true =>
      cases hvalid : validateCluster cluster (cluster.status.getD {}).version with
      | ok topology => exact phaseRun_of_workable ⟨hkept, hclaimed, hvalid⟩ hrest hcounted
      | error failure =>
        have hrefused : Refused cluster failure := ⟨hkept, hclaimed, hvalid⟩
        obtain ⟨violations, rfl⟩ := exists_violations hrefused
        exact phaseRun_of_refused hrun rfl hrefused

end

end ClusterOperator
