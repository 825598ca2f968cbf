import ClusterOperator.Proofs.Pass.Interleaving
import ClusterOperator.Proofs.Pass.Reconciling

/-!
# A declaration that is refused

A declaration may become invalid at any time: in the middle of an upgrade, while a change of the
configuration waits for its window, or during a repair. All of that is remembered in the status, and
the pass that refuses the declaration rewrites that very status. It may rewrite little of it.

> **`freezes_of_refused`** — a pass that refuses a declaration leaves the servers alone, and of the
> status that is stored it changes the phase, the generation and three conditions; everything else
> stays as others have left it.

The conditions are the exception: they are not merged with what is stored, but made from what the
pass has read. Nobody but the operator sets them, so the two differ only where another pass came
between. The pass ends with the faults, unless they cannot be recorded.
-/

set_option autoImplicit false

namespace ClusterOperator

open Pass

/-! ## Conditions -/

/-- Whether a condition is one of those that a refusal sets. -/
def Condition.isVerdict (c : Condition) : Bool :=
  [ConditionKind.ready.name, ConditionKind.progressing.name,
    ConditionKind.degraded.name].contains c.type

theorem Condition.isVerdict_congr {c d : Condition} (h : c.type = d.type) :
    c.isVerdict = d.isVerdict := by
  unfold isVerdict
  rw [h]

/-- Setting a verdict leaves every other condition, and at its place among these. -/
theorem Condition.filter_put {c : Condition} (hc : c.isVerdict = true)
    (conditions : List Condition) :
    (c.put conditions).filter (!·.isVerdict) = conditions.filter (!·.isVerdict) := by
  induction conditions with
  | nil => simp [put, hc]
  | cons old rest ih =>
    unfold put
    by_cases hsame : old.type = c.type
    · have hold : old.isVerdict = true := (isVerdict_congr hsame).trans hc
      have hnew : (c.replacing old).isVerdict = true :=
        (isVerdict_congr (c.type_replacing old)).trans hc
      rw [if_pos hsame]
      simp [hold, hnew]
    · rw [if_neg hsame, List.filter_cons, List.filter_cons, ih]

theorem filter_rejectionConditions (conditions : List Condition) (generation : Option Int64)
    (now : Instant) (message : String) :
    (rejectionConditions conditions generation now message).filter (!·.isVerdict) =
      conditions.filter (!·.isVerdict) := by
  have hverdict (kind : ConditionKind) (holds : Bool) (reason text time : String)
      (hkind : kind = .ready ∨ kind = .progressing ∨ kind = .degraded) :
      (Condition.of kind holds reason text generation time).isVerdict = true := by
    rcases hkind with rfl | rfl | rfl <;> rfl
  unfold rejectionConditions ConditionUpdate.set
  dsimp only
  rw [Condition.filter_put (hverdict _ _ _ _ _ (.inr (.inr rfl))),
    Condition.filter_put (hverdict _ _ _ _ _ (.inr (.inl rfl))),
    Condition.filter_put (hverdict _ _ _ _ _ (.inl rfl))]

/-! ## What is written -/

/-- That one status is another with the verdict on the declaration of a cluster: failed, with the
conditions that the cluster had when it was read, but for the three, and its generation. The cluster
is the one that the pass has read first, and `stored` what it reads again for the write. -/
def Refuses (cluster : Cluster) (stored written : Option ClusterStatus) : Prop :=
  ∃ conditions, conditions.filter (!·.isVerdict) =
      (cluster.status.getD {}).conditions.filter (!·.isVerdict) ∧
    written = some { stored.getD {} with
      phase := .failed, conditions, observedGeneration := cluster.metadata.generation }

/-- The change that refuses the declaration of a cluster. -/
def refusal (cluster : Cluster) (violations : List String) (now : Instant) : Mutation :=
  setRejection (rejectionConditions (cluster.status.getD {}).conditions cluster.metadata.generation
    now (faultsText violations)) cluster.metadata.generation

section
variable {cluster latest : Cluster} {violations : List String} {now : Instant}

theorem refuses_refusal (h : (refusal cluster violations now latest).1 = true) :
    (refusal cluster violations now latest).2 =
        { latest with status := (refusal cluster violations now latest).2.status } ∧
      Refuses cluster latest.status (refusal cluster violations now latest).2.status := by
  unfold refusal setRejection setStatus at h ⊢
  split at h
  · cases h
  · rename_i hchanged
    rw [if_neg hchanged]
    exact ⟨rfl, _, filter_rejectionConditions _ _ _ _, rfl⟩

end

/-! ## How a write may fail -/

section
variable {ref : ClusterRef} {target : WriteTarget} {policy : RetryPolicy} {mutate : Mutation}
  {left attempt : Nat} {trace : Trace} {f : Failure}

/-- That a trace ends with a call that fails. -/
def EndsWith (trace : Trace) (f : Failure) : Prop :=
  ∃ before turn, trace = before ++ [turn] ∧ turn.failure? = some f

/-- That all writes of a trace, of which there is a certain number, come too late. The number is
said as well, for of a trace without writes the rest holds too. -/
def AlwaysOvertaken (target : WriteTarget) (trace : Trace) (writes : Nat) : Prop :=
  trace.countP (·.question.isWrite) = writes ∧
    ∀ turn ∈ trace, turn.question.isWrite = true → target.Overtaken turn

theorem EndsWith.append (h : EndsWith trace f) (earlier : Trace) :
    EndsWith (earlier ++ trace) f := by
  obtain ⟨before, turn, rfl, hfailed⟩ := h
  exact ⟨earlier ++ before, turn, (List.append_assoc ..).symm, hfailed⟩

theorem AlwaysOvertaken.append {earlier : Trace} {writes : Nat}
    (h : AlwaysOvertaken target trace writes)
    (hidle : ∀ turn ∈ earlier, turn.question.isWrite = false) :
    AlwaysOvertaken target (earlier ++ trace) writes := by
  have hnone : earlier.countP (·.question.isWrite) = 0 :=
    List.countP_eq_zero.mpr fun turn hturn => Bool.eq_false_iff.mp (hidle turn hturn)
  refine ⟨by rw [List.countP_append, hnone, Nat.zero_add, h.1], ?_⟩
  refine List.forall_mem_append.mpr ⟨fun turn hturn hwrite => ?_, h.2⟩
  cases (hidle turn hturn).symm.trans hwrite

/-- **A write fails with the failure of its last call, or because every attempt was overtaken.** -/
theorem Attempts.endsWith_or_overtaken
    (h : Attempts ref target policy mutate left attempt trace (.error f)) :
    EndsWith trace f ∨
      (f = .retriesExhausted ref.path (UInt32.ofNat policy.tries) ∧
        AlwaysOvertaken target trace left) := by
  generalize hresult : (.error f : Except Failure (Option Cluster)) = result at h
  induction h with
  | exhausted =>
    cases hresult
    exact .inr ⟨rfl, rfl, by simp⟩
  | unread =>
    cases hresult
    exact .inl ⟨[], _, rfl, rfl⟩
  | absent | unchanged | written => cases hresult
  | refused left attempt latest g =>
    cases hresult
    exact .inl ⟨[_], _, rfl, StoreStep.failure?_turn ..⟩
  | overtaken left attempt latest g _ hconflict _ ih =>
    refine (ih hresult).imp (fun hlast => ?_) (fun ⟨hf, hlate⟩ => ⟨hf, ?_⟩)
    · exact (hlast.append _).append [_, _]
    · have hpauses : ∀ turn ∈ pauseTurns policy left attempt, turn.question.isWrite = false := by
        intro turn hturn
        rw [mem_pauseTurns hturn]
        rfl
      obtain ⟨hcount, hall⟩ := hlate.append hpauses
      constructor
      · rw [List.countP_cons_of_neg Bool.false_ne_true, List.countP_cons, hcount,
          if_pos (StoreStep.isWrite_turn ..)]
      · refine List.forall_mem_cons.mpr
          ⟨fun hwrite => ?_, List.forall_mem_cons.mpr ⟨fun _ => ?_, hall⟩⟩
        · cases hwrite
        · exact ⟨_, g, rfl, hconflict⟩

end

/-! ## The course of a refusal -/

/-- The reference that a cluster gives of itself. -/
def Cluster.ownRef (c : Cluster) : ClusterRef := ⟨c.namespaceOrDefault, c.name⟩

/-- The event that tells of the faults. -/
def validationFailed (violations : List String) : Event :=
  .warn "ValidationFailed" "Validating" (faultsText violations)

/-- What a refusal tells before it writes. -/
def telling (cluster : Cluster) (violations : List String) : Trace :=
  (if alreadyRejected (cluster.status.getD {}) (faultsText violations) then []
    else [⟨.publishEvent cluster (validationFailed violations), ()⟩]) ++
  [⟨.measure cluster.ownRef (.phase (some ClusterPhase.failed.name)), ()⟩]

section
variable {settings : Settings} {cluster : Cluster} {violations : List String} {now : Instant}
  {trace : Trace} {α : Type} {r : Except Failure α}

/-- How a refusal goes on once it has told of the faults. -/
def recordRefusal (settings : Settings) (cluster : Cluster) (violations : List String)
    (now : Instant) : Pass α := do
  Pass.measure cluster.ownRef (.phase (some ClusterPhase.failed.name))
  let _ ← modifyWithRetry cluster.ownRef .status settings.retryPolicy
    (refusal cluster violations now)
  throw (.validation violations)

theorem runs_recordRefusal
    (h : (recordRefusal settings cluster violations now : Pass α).Runs trace r) :
    ∃ recorded stored,
      trace =
        ⟨.measure cluster.ownRef (.phase (some ClusterPhase.failed.name)), ()⟩ :: recorded ∧
      Attempts cluster.ownRef .status settings.retryPolicy (refusal cluster violations now)
        settings.retryPolicy.tries 1 recorded stored ∧
      ((∃ found, stored = .ok found ∧ r = .error (.validation violations)) ∨
        ∃ f, stored = .error f ∧ r = .error f) := by
  obtain ⟨_, rest, rfl, hrest⟩ := runs_call_bind.mp h
  rcases runs_bind.mp hrest with ⟨f, rfl, hwrite⟩ | ⟨recorded, found, after, rfl, hwrite, hthrow⟩
  · exact ⟨rest, _, rfl, runs_modifyWithRetry.mp hwrite, .inr ⟨f, rfl, rfl⟩⟩
  · obtain ⟨rfl, rfl⟩ := runs_throw.mp hthrow
    rw [List.append_nil]
    exact ⟨recorded, _, rfl, runs_modifyWithRetry.mp hwrite, .inl ⟨found, rfl, rfl⟩⟩

theorem runs_rejectionPass
    (h : (rejectionPass settings cluster violations now : Pass α).Runs trace r) :
    ∃ recorded stored, trace = telling cluster violations ++ recorded ∧
      Attempts cluster.ownRef .status settings.retryPolicy (refusal cluster violations now)
        settings.retryPolicy.tries 1 recorded stored ∧
      ((∃ found, stored = .ok found ∧ r = .error (.validation violations)) ∨
        ∃ f, stored = .error f ∧ r = .error f) := by
  unfold rejectionPass at h
  unfold telling
  cases hknown : alreadyRejected (cluster.status.getD {}) (faultsText violations) with
  | true =>
    simp only [hknown, Bool.not_true, Bool.false_eq_true, if_false] at h
    obtain ⟨recorded, stored, rfl, hrecord⟩ := runs_recordRefusal h
    exact ⟨recorded, stored, rfl, hrecord⟩
  | false =>
    simp only [hknown, Bool.not_false, if_true] at h
    obtain ⟨_, rest, rfl, hrest⟩ := runs_call_bind.mp h
    obtain ⟨recorded, stored, rfl, hrecord⟩ := runs_recordRefusal hrest
    exact ⟨recorded, stored, rfl, hrecord⟩

end

/-! ## The promises of a refusal -/

/-- A cluster that a pass refuses: one that is claimed, not being deleted, and invalid. -/
structure Refused (cluster : Cluster) (failure : Failure) : Prop where
  kept : cluster.metadata.deletionTimestamp = none
  claimed : cluster.hasFinalizer = true
  invalid : validateCluster cluster (cluster.status.getD {}).version = .error failure

def Call.published? : Call → Option Event
  | publishEvent _ event => some event
  | _ => none

/-- The events that are published in a trace, in their order. -/
def publishedEvents (trace : Trace) : List Event := trace.filterMap (·.question.published?)

/-- That a status says already that a declaration has certain faults. -/
def SaysRefused (status : ClusterStatus) (violations : List String) : Prop :=
  status.phase = .failed ∧ ∃ ready, findCondition? status.conditions .ready = some ready ∧
    ready.message = faultsText violations

/-- What is promised of a pass that refuses the declaration of a cluster.

That nothing else of the status changes is said twice: of every write, compared with what was read
just before it (`writes`), and of a write that is taken, compared with what is in the store by then
(`stored`). Only the second excludes that the operator puts back what another has changed. -/
structure Freezes (policy : RetryPolicy) (cluster : Cluster) (violations : List String)
    (trace : Trace) (result : Except Failure Requeue) : Prop where
  /-- No server is touched or asked. -/
  leaves : ∀ turn ∈ trace, turn.question.LeavesServers
  /-- Nothing but the status is written, and each write rewrites what was read just before it. -/
  writes : ∀ before turn after, trace = before ++ turn :: after → turn.question.isWrite = true →
    ∃ earlier latest written answer,
      before = earlier ++ [⟨.getCluster cluster.ownRef, .ok (some latest)⟩] ∧
        turn = ⟨.replaceStatus written, answer⟩ ∧
          written = { latest with status := written.status } ∧
            Refuses cluster latest.status written.status
  /-- Whatever others write in between, a write that is taken rewrites what is stored. -/
  stored : ∃ told recorded, trace = told ++ recorded ∧
    (∀ turn ∈ told, turn.question.isWrite = false) ∧
      (∀ turn ∈ recorded, WriteTarget.status.MayAsk cluster.ownRef turn.question) ∧
        ∀ s steps, Interleaved cluster.ownRef s steps → steps.map (·.turn) = recorded →
          ∀ step ∈ steps, step.taken = true → ∃ old written answer,
            step.before.object = some old ∧ step.turn = ⟨.replaceStatus written, answer⟩ ∧
              Refuses cluster old.status written.status
  /-- The pass ends with all faults, unless they cannot be recorded: a call fails, or every attempt
  is overtaken. -/
  outcome : result = .error (.validation violations) ∨ (∃ f, result = .error f ∧ EndsWith trace f) ∨
    (result = .error (.retriesExhausted cluster.ownRef.path (UInt32.ofNat policy.tries)) ∧
      AlwaysOvertaken .status trace policy.tries)
  /-- The faults are told once, for as long as the status says nothing else. -/
  told : (publishedEvents trace = [validationFailed violations] ∧
      ¬ SaysRefused (cluster.status.getD {}) violations) ∨
    (publishedEvents trace = [] ∧ SaysRefused (cluster.status.getD {}) violations)

section
variable {operator : Operator} {ref : ClusterRef} {cluster : Cluster} {failure : Failure}
  {violations : List String} {now : Instant} {trace : Trace} {result : Except Failure Requeue}

theorem exists_violations (h : Refused cluster failure) :
    ∃ violations, failure = .validation violations := by
  have hinvalid := h.invalid
  unfold validateCluster at hinvalid
  split at hinvalid
  · cases hinvalid
  · cases hinvalid
    exact ⟨_, rfl⟩
  · cases hinvalid
    exact ⟨_, rfl⟩

theorem goOn_of_refused (h : Refused cluster (.validation violations)) :
    goOn operator ref (some cluster) = (do
      let now ← Pass.call .now
      rejectionPass operator.settings cluster violations now) := by
  unfold goOn advanceCluster
  simp only [h.kept, h.claimed, h.invalid, Option.isSome_none, Bool.false_eq_true, if_false,
    Bool.not_true]

/-- **The course of a pass that refuses a declaration.** -/
theorem runs_of_refused (h : Refused cluster (.validation violations))
    (hrun : (reconcile operator ref).Runs trace result)
    (hread : trace.head? = some ⟨.getCluster ref, .ok (some cluster)⟩) :
    ∃ now recorded stored,
      trace = (opening ref cluster now ++ telling cluster violations) ++ recorded ∧
        Attempts cluster.ownRef .status operator.settings.retryPolicy
          (refusal cluster violations now) operator.settings.retryPolicy.tries 1 recorded stored ∧
          ((∃ found, stored = .ok found ∧ result = .error (.validation violations)) ∨
            ∃ f, stored = .error f ∧ result = .error f) := by
  -- The text of the refusal is gone through once, for it is needed before and after `hfails`.
  have hgo {acted : Trace} (hacted : (goOn operator ref (some cluster)).Runs acted result) :
      ∃ now recorded stored, acted = ⟨.now, now⟩ :: (telling cluster violations ++ recorded) ∧
        Attempts cluster.ownRef .status operator.settings.retryPolicy
          (refusal cluster violations now) operator.settings.retryPolicy.tries 1 recorded stored ∧
          ((∃ found, stored = .ok found ∧ result = .error (.validation violations)) ∨
            ∃ f, stored = .error f ∧ result = .error f) := by
    rw [goOn_of_refused h] at hacted
    obtain ⟨now, rest, rfl, hrest⟩ := runs_call_bind.mp hacted
    obtain ⟨recorded, stored, rfl, hrecord⟩ := runs_rejectionPass hrest
    exact ⟨now, recorded, stored, rfl, hrecord⟩
  -- The pass fails in any case, so that nothing follows it.
  have hfails : ∃ f, result = .error f := by
    obtain ⟨acted, counted, -, hacted, -⟩ := runs_of_read hrun hread
    obtain ⟨-, -, -, -, -, ⟨-, -, hresult⟩ | ⟨f, -, hresult⟩⟩ := hgo hacted
    · exact ⟨_, hresult⟩
    · exact ⟨f, hresult⟩
  obtain ⟨f, rfl⟩ := hfails
  rcases runs_reconcileCluster.mp (runs_reconcile_error hrun) with
    ⟨g, rfl, -⟩ | ⟨found, rest, rfl, hrest⟩
  · cases Option.some.inj hread
  · cases Option.some.inj hread
    obtain ⟨now, recorded, stored, rfl, hrecord⟩ := hgo hrest
    exact ⟨now, recorded, stored, rfl, hrecord⟩

theorem alreadyRejected_iff {status : ClusterStatus} :
    alreadyRejected status (faultsText violations) = true ↔ SaysRefused status violations := by
  unfold alreadyRejected SaysRefused
  rw [Bool.and_eq_true, beq_iff_eq, Option.any_eq_true]
  simp only [beq_iff_eq]

theorem forall_telling {P : Call → Prop} (hread : P (.getCluster ref)) (hnow : P .now)
    (htell : P (.publishEvent cluster (validationFailed violations)))
    (hcount : P (.measure cluster.ownRef (.phase (some ClusterPhase.failed.name)))) :
    ∀ turn ∈ opening ref cluster now ++ telling cluster violations, P turn.question := by
  unfold opening telling
  split
  · simp [hread, hnow, hcount]
  · simp [hread, hnow, htell, hcount]

/-- **A pass that refuses a declaration freezes its cluster**: it leaves the servers alone, and of
the stored status all but the verdict. It ends with the faults, unless they cannot be recorded. -/
theorem freezes_of_refused (hrun : (reconcile operator ref).Runs trace result)
    (hread : trace.head? = some ⟨.getCluster ref, .ok (some cluster)⟩)
    (hrefused : Refused cluster failure) :
    ∃ violations, failure = .validation violations ∧
      Freezes operator.settings.retryPolicy cluster violations trace result := by
  obtain ⟨violations, rfl⟩ := exists_violations hrefused
  refine ⟨violations, rfl, ?_⟩
  obtain ⟨now, recorded, stored, rfl, hattempts, hresult⟩ := runs_of_refused hrefused hrun hread
  have hmay := hattempts.mayAsk
  have hidle : ∀ turn ∈ opening ref cluster now ++ telling cluster violations,
      turn.question.isWrite = false :=
    forall_telling (P := fun c => c.isWrite = false) rfl rfl rfl rfl
  constructor
  case leaves =>
    refine List.forall_mem_append.mpr ⟨forall_telling trivial trivial trivial trivial, ?_⟩
    exact fun turn hturn => leavesServers_of_mayAsk _ (hmay turn hturn)
  case writes =>
    intro before turn after htrace hwrite
    obtain ⟨mid, rfl, hmid⟩ := exists_eq_append_of_not_mem htrace fun hearlier => by
      cases (hidle turn hearlier).symm.trans hwrite
    obtain ⟨written, answer, rfl⟩ := exists_turn_of_isWrite
      (hmay turn (hmid ▸ List.mem_append_right _ List.mem_cons_self)) hwrite
    obtain ⟨earlier, latest, hlast, hchanged, rfl⟩ := (hattempts.changesLastRead hmid).append _
    obtain ⟨hrest, hrefuses⟩ := refuses_refusal hchanged
    exact ⟨earlier, latest, _, answer, hlast, rfl, hrest, hrefuses⟩
  case stored =>
    refine ⟨_, recorded, rfl, hidle, hmay, fun s steps hsteps hturns step hstep htaken => ?_⟩
    -- The change sets no version, so what is stored is what was read.
    obtain ⟨old, latest, answer, hold, hchanged, hturn, -, hsame⟩ :=
      (hattempts.lossless hsteps hturns).carried step hstep htaken
    obtain rfl := hsame (keepsVersion_setRejection _ _)
    exact ⟨old, _, answer, hold, hturn, (refuses_refusal hchanged).2⟩
  case outcome =>
    rcases hresult with ⟨found, -, rfl⟩ | ⟨f, rfl, rfl⟩
    · exact .inl rfl
    · rcases hattempts.endsWith_or_overtaken with hlast | ⟨rfl, hlate⟩
      · exact .inr (.inl ⟨f, rfl, hlast.append _⟩)
      · exact .inr (.inr ⟨rfl, hlate.append hidle⟩)
  case told =>
    have hquiet : publishedEvents recorded = [] := by
      refine List.filterMap_eq_nil_iff.mpr fun turn hturn => ?_
      have hcall := hmay turn hturn
      cases hquestion : turn.question with
      | publishEvent => rw [hquestion] at hcall; exact hcall.elim
      | _ => rfl
    have hevents : publishedEvents ((opening ref cluster now ++ telling cluster violations) ++
        recorded) = if alreadyRejected (cluster.status.getD {}) (faultsText violations) then []
          else [validationFailed violations] := by
      unfold publishedEvents at hquiet ⊢
      rw [List.filterMap_append, hquiet, List.append_nil]
      unfold opening telling
      split <;> rfl
    rw [hevents, ← alreadyRejected_iff]
    cases alreadyRejected (cluster.status.getD {}) (faultsText violations) with
    | true => exact .inr ⟨rfl, rfl⟩
    | false => exact .inl ⟨rfl, Bool.false_ne_true⟩

end

/-! ## A declaration without servers -/

/-- A running cluster whose declaration asks for no servers. -/
def serverless (version : String) : Cluster :=
  { metadata := { name := some "db", «namespace» := some "data", generation := some 2
                  finalizers := some [finalizerName] }
    spec := { servers := 0 }
    status := some { phase := .running, version := some version } }

def serverlessFaults : List String := ["servers must be at least 1, got 0"]

theorem refused_serverless : Refused (serverless "5.26.0") (.validation serverlessFaults) where
  kept := rfl
  claimed := by decide
  invalid := by decide +kernel

/-- A pass up to its write, which finds that another has meanwhile set the version. -/
def refusing : Trace :=
  [⟨.getCluster ⟨"data", "db"⟩, .ok (some (serverless "5.26.0"))⟩, ⟨.now, .epoch⟩,
    ⟨.publishEvent (serverless "5.26.0") (validationFailed serverlessFaults), ()⟩,
    ⟨.measure ⟨"data", "db"⟩ (.phase (some "Failed")), ()⟩,
    ⟨.getCluster ⟨"data", "db"⟩, .ok (some (serverless "5.27.0"))⟩]

/-- The object that the pass writes. -/
def refusedServerless : Cluster :=
  (refusal (serverless "5.26.0") serverlessFaults .epoch (serverless "5.27.0")).2

/-- An operator that tries to write once. -/
def impatient : Operator := { settings := { conflictRetryAttempts := 1 } }

theorem runs_serverless {answer : Except Failure Cluster} {f : Failure}
    (h : (rejectionPass impatient.settings (serverless "5.26.0") serverlessFaults .epoch :
      Pass Requeue).Runs (refusing.drop 2 ++ [⟨.replaceStatus refusedServerless, answer⟩])
      (.error f)) :
    (reconcile impatient ⟨"data", "db"⟩).Runs
      (refusing ++ [⟨.replaceStatus refusedServerless, answer⟩]) (.error f) := by
  refine runs_bind.mpr (.inl ⟨f, rfl, runs_reconcileCluster.mpr (.inr ⟨_, _, rfl, ?_⟩)⟩)
  rw [goOn_of_refused refused_serverless]
  exact runs_call_bind.mpr ⟨_, _, rfl, h⟩

/-- The faults are recorded, and the version that another has set stays. -/
theorem freezes_serverless :
    (reconcile impatient ⟨"data", "db"⟩).Runs
        (refusing ++ [⟨.replaceStatus refusedServerless, .ok refusedServerless⟩])
        (.error (.validation serverlessFaults)) ∧
      refusing.head? = some ⟨.getCluster ⟨"data", "db"⟩, .ok (some (serverless "5.26.0"))⟩ ∧
      Refused (serverless "5.26.0") (.validation serverlessFaults) ∧
      (refusedServerless.status.map (·.version) = some (some "5.27.0")) ∧
      ∃ violations, Failure.validation serverlessFaults = .validation violations ∧
        Freezes impatient.settings.retryPolicy (serverless "5.26.0") violations
          (refusing ++ [⟨.replaceStatus refusedServerless, .ok refusedServerless⟩])
          (.error (.validation serverlessFaults)) := by
  have hrun : (reconcile impatient ⟨"data", "db"⟩).Runs
      (refusing ++ [⟨.replaceStatus refusedServerless, .ok refusedServerless⟩])
      (.error (.validation serverlessFaults)) :=
    runs_serverless (.ask _ (.ask _ (.ask _ (.ask _ (.done _)))))
  exact ⟨hrun, rfl, refused_serverless, rfl, freezes_of_refused hrun rfl refused_serverless⟩

/-- A pass that is overtaken at its last attempt does not end with the faults. -/
theorem faults_not_always_returned :
    ¬ ∀ (operator : Operator) (ref : ClusterRef) (cluster : Cluster) (failure : Failure)
      (trace : Trace) (result : Except Failure Requeue),
      (reconcile operator ref).Runs trace result →
        trace.head? = some ⟨.getCluster ref, .ok (some cluster)⟩ → Refused cluster failure →
          result = .error failure := by
  intro h
  have hrun : (reconcile impatient ⟨"data", "db"⟩).Runs
      (refusing ++ [⟨.replaceStatus refusedServerless, .error (.conflict "data/db")⟩])
      (.error (.retriesExhausted "data/db" 1)) :=
    runs_serverless (.ask _ (.ask _ (.ask _ (.ask _ (.done _)))))
  cases h _ _ _ _ _ _ hrun rfl refused_serverless

end ClusterOperator
