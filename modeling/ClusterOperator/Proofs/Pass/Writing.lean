import ClusterOperator.Proofs.Pass.Runs
import ClusterOperator.Retry

/-!
# Runs of a write

A write goes through attempts: each reads the cluster, changes what it read and writes the change,
and only an attempt that was overtaken is followed by another. `Attempts` lists the courses that
this may take, one constructor for each way in which an attempt ends:

> **`runs_modifyFrom`** — the runs of a write are exactly the courses of `Attempts`.

What a write does to the rest of a pass is then read off the constructors: it asks nothing but to
read, to write and to wait, and the one failure that does not end it is a conflict.
-/

set_option autoImplicit false

namespace ClusterOperator

namespace WriteTarget

/-- The turn in which a part of a cluster is written. -/
def turn (target : WriteTarget) (cluster : Cluster) (answer : Except Failure Cluster) :
    Turn Call.Answer :=
  match target with
  | object => ⟨.replaceCluster cluster, answer⟩
  | status => ⟨.replaceStatus cluster, answer⟩

variable {target : WriteTarget} {cluster : Cluster} {answer : Except Failure Cluster}

theorem runs_write {trace : Trace} :
    Program.Runs (target.write cluster) trace answer ↔ trace = [target.turn cluster answer] := by
  cases target <;> exact Program.runs_query

end WriteTarget

/-- The pause before the next attempt. There is none after the last one that is left, which is why
this is a list and not a turn. -/
def pauseTurns (policy : RetryPolicy) (left attempt : Nat) : Trace :=
  if left = 0 then [] else [⟨.pause (policy.backoff attempt), ()⟩]

/-- The courses that a write may take, given how many attempts are left and the number of the first.

The trace of a course says what others may have done meanwhile, since an attempt reads whatever is
stored by then. So what is proved along the constructors holds however the write is interleaved, and
only the last constructor goes on: all others end the write, with or without a change. -/
inductive Attempts (ref : ClusterRef) (target : WriteTarget) (policy : RetryPolicy)
    (mutate : Mutation) : Nat → Nat → Trace → Except Failure (Option Cluster) → Prop
  | exhausted (attempt : Nat) :
    Attempts ref target policy mutate 0 attempt []
      (.error (.retriesExhausted ref.path (UInt32.ofNat policy.tries)))
  | unread (left attempt : Nat) (f : Failure) :
    Attempts ref target policy mutate (left + 1) attempt [⟨.getCluster ref, .error f⟩] (.error f)
  | absent (left attempt : Nat) :
    Attempts ref target policy mutate (left + 1) attempt [⟨.getCluster ref, .ok none⟩] (.ok none)
  | unchanged (left attempt : Nat) (latest : Cluster) (h : (mutate latest).1 = false) :
    Attempts ref target policy mutate (left + 1) attempt [⟨.getCluster ref, .ok (some latest)⟩]
      (.ok (some (mutate latest).2))
  | written (left attempt : Nat) (latest stored : Cluster) (h : (mutate latest).1 = true) :
    Attempts ref target policy mutate (left + 1) attempt
      [⟨.getCluster ref, .ok (some latest)⟩, target.turn (mutate latest).2 (.ok stored)]
      (.ok (some stored))
  | refused (left attempt : Nat) (latest : Cluster) (f : Failure) (h : (mutate latest).1 = true)
    (hf : f.isConflict = false) :
    Attempts ref target policy mutate (left + 1) attempt
      [⟨.getCluster ref, .ok (some latest)⟩, target.turn (mutate latest).2 (.error f)] (.error f)
  | overtaken (left attempt : Nat) (latest : Cluster) (f : Failure) {trace : Trace}
    {result : Except Failure (Option Cluster)} (h : (mutate latest).1 = true)
    (hf : f.isConflict = true)
    (rest : Attempts ref target policy mutate left (attempt + 1) trace result) :
    Attempts ref target policy mutate (left + 1) attempt
      (⟨.getCluster ref, .ok (some latest)⟩ :: target.turn (mutate latest).2 (.error f) ::
        (pauseTurns policy left attempt ++ trace)) result

section
variable {ref : ClusterRef} {target : WriteTarget} {policy : RetryPolicy} {mutate : Mutation}
  {left attempt : Nat} {trace : Trace} {result : Except Failure (Option Cluster)}

theorem runs_paused {α : Type} {p : Program Call Call.Answer α} {a : α} :
    Program.Runs (if left = 0 then p else .ask (.pause (policy.backoff attempt)) fun _ => p)
      trace a ↔ ∃ rest, trace = pauseTurns policy left attempt ++ rest ∧ Program.Runs p rest a := by
  unfold pauseTurns
  by_cases hleft : left = 0
  · rw [if_pos hleft, if_pos hleft]
    exact ⟨fun h => ⟨trace, rfl, h⟩, fun ⟨_, heq, h⟩ => heq ▸ h⟩
  · rw [if_neg hleft, if_neg hleft, Program.runs_ask]
    exact ⟨fun ⟨_, rest, heq, h⟩ => ⟨rest, heq, h⟩, fun ⟨rest, heq, h⟩ => ⟨(), rest, heq, h⟩⟩

/-- How a write goes on after an attempt was answered. -/
def afterWrite (ref : ClusterRef) (target : WriteTarget) (policy : RetryPolicy)
    (mutate : Mutation) (left attempt : Nat) :
    Except Failure Cluster → Program Call Call.Answer (Except Failure (Option Cluster))
  | .ok stored => .done (.ok (some stored))
  | .error failure =>
    if !failure.isConflict then .done (.error failure)
    else if left = 0 then modifyFrom ref target policy mutate left (attempt + 1)
    else
      .ask (.pause (policy.backoff attempt)) fun _ =>
        modifyFrom ref target policy mutate left (attempt + 1)

theorem afterWrite_refused {f : Failure} (hf : f.isConflict = false) :
    afterWrite ref target policy mutate left attempt (.error f) = .done (.error f) := by
  simp only [afterWrite, hf, Bool.not_false, if_true]

theorem afterWrite_overtaken {f : Failure} (hf : f.isConflict = true) :
    afterWrite ref target policy mutate left attempt (.error f) =
      if left = 0 then modifyFrom ref target policy mutate left (attempt + 1)
      else
        .ask (.pause (policy.backoff attempt)) fun _ =>
          modifyFrom ref target policy mutate left (attempt + 1) := by
  simp only [afterWrite, hf, Bool.not_true, Bool.false_eq_true, if_false]

theorem modifyFrom_succ : modifyFrom ref target policy mutate (left + 1) attempt =
    .ask (.getCluster ref) fun
      | .error failure => .done (.error failure)
      | .ok none => .done (.ok none)
      | .ok (some latest) =>
        if !(mutate latest).1 then .done (.ok (some (mutate latest).2))
        else
          (target.write (mutate latest).2).bind
            (afterWrite ref target policy mutate left attempt) := rfl

theorem attempts_of_afterWrite {latest : Cluster} {answer : Except Failure Cluster}
    (hchanged : (mutate latest).1 = true)
    (ih : ∀ {rest}, Program.Runs (modifyFrom ref target policy mutate left (attempt + 1)) rest
      result → Attempts ref target policy mutate left (attempt + 1) rest result)
    (h : Program.Runs (afterWrite ref target policy mutate left attempt answer) trace result) :
    Attempts ref target policy mutate (left + 1) attempt
      (⟨.getCluster ref, .ok (some latest)⟩ :: target.turn (mutate latest).2 answer :: trace)
      result := by
  cases answer with
  | ok stored =>
    obtain ⟨rfl, rfl⟩ := Program.runs_done.mp h
    exact .written left attempt latest stored hchanged
  | error f =>
    cases hconflict : f.isConflict with
    | false =>
      rw [afterWrite_refused hconflict] at h
      obtain ⟨rfl, rfl⟩ := Program.runs_done.mp h
      exact .refused left attempt latest f hchanged hconflict
    | true =>
      rw [afterWrite_overtaken hconflict] at h
      obtain ⟨rest, rfl, hrest⟩ := runs_paused.mp h
      exact .overtaken left attempt latest f hchanged hconflict (ih hrest)

theorem attempts_of_runs
    (h : Program.Runs (modifyFrom ref target policy mutate left attempt) trace result) :
    Attempts ref target policy mutate left attempt trace result := by
  -- By the attempts that are left; the hypothesis is needed only where one was overtaken.
  induction left generalizing attempt trace with
  | zero =>
    obtain ⟨rfl, rfl⟩ := Program.runs_done.mp h
    exact .exhausted attempt
  | succ left ih =>
    rw [modifyFrom_succ] at h
    obtain ⟨read, rest, rfl, hread⟩ := Program.runs_ask.mp h
    match read with
    | .error f =>
      obtain ⟨rfl, rfl⟩ := Program.runs_done.mp hread
      exact .unread left attempt f
    | .ok none =>
      obtain ⟨rfl, rfl⟩ := Program.runs_done.mp hread
      exact .absent left attempt
    | .ok (some latest) =>
      simp only at hread
      cases hchanged : (mutate latest).1 with
      | false =>
        rw [hchanged, if_pos (by decide)] at hread
        obtain ⟨rfl, rfl⟩ := Program.runs_done.mp hread
        exact .unchanged left attempt latest hchanged
      | true =>
        rw [hchanged, if_neg (by decide)] at hread
        obtain ⟨_, answer, after, rfl, hwrite, hafter⟩ := Program.runs_bind.mp hread
        rw [WriteTarget.runs_write.mp hwrite]
        exact attempts_of_afterWrite hchanged ih hafter

theorem runs_of_written {latest : Cluster} {answer : Except Failure Cluster}
    (hchanged : (mutate latest).1 = true)
    (h : Program.Runs (afterWrite ref target policy mutate left attempt answer) trace result) :
    Program.Runs (modifyFrom ref target policy mutate (left + 1) attempt)
      (⟨.getCluster ref, .ok (some latest)⟩ :: target.turn (mutate latest).2 answer :: trace)
      result := by
  refine .ask _ ?_
  simp only [hchanged, Bool.not_true, Bool.false_eq_true, if_false]
  exact Program.runs_bind.mpr ⟨[_], answer, trace, rfl, WriteTarget.runs_write.mpr rfl, h⟩

theorem runs_of_attempts (h : Attempts ref target policy mutate left attempt trace result) :
    Program.Runs (modifyFrom ref target policy mutate left attempt) trace result := by
  -- Each constructor is one way through the text of an attempt.
  induction h with
  | exhausted attempt => exact .done _
  | unread left attempt f => exact .ask _ (.done _)
  | absent left attempt => exact .ask _ (.done _)
  | unchanged left attempt latest h =>
    refine .ask _ ?_
    simp only [h, Bool.not_false, if_true]
    exact .done _
  | written left attempt latest stored h => exact runs_of_written h (.done _)
  | refused left attempt latest f h hf =>
    refine runs_of_written h ?_
    rw [afterWrite_refused hf]
    exact .done _
  | overtaken left attempt latest f h hf rest ih =>
    refine runs_of_written h ?_
    rw [afterWrite_overtaken hf]
    exact runs_paused.mpr ⟨_, rfl, ih⟩

/-- **The runs of a write are the courses of its attempts.** -/
theorem runs_modifyFrom : Program.Runs (modifyFrom ref target policy mutate left attempt) trace
    result ↔ Attempts ref target policy mutate left attempt trace result :=
  ⟨attempts_of_runs, runs_of_attempts⟩

theorem runs_modifyWithRetry : (modifyWithRetry ref target policy mutate).Runs trace result ↔
    Attempts ref target policy mutate policy.tries 1 trace result := runs_modifyFrom

/-! ## What a write asks -/

/-- The calls of a write: it reads the cluster, writes a part of it, and waits. -/
def WriteTarget.MayAsk (target : WriteTarget) (ref : ClusterRef) : Call → Prop
  | .getCluster other => other = ref
  | .replaceCluster _ => target = .object
  | .replaceStatus _ => target = .status
  | .pause _ => True
  | _ => False

theorem mayAsk_turn (ref : ClusterRef) (cluster : Cluster) (answer : Except Failure Cluster) :
    target.MayAsk ref (target.turn cluster answer).question := by
  cases target <;> rfl

theorem mem_pauseTurns {turn : Turn Call.Answer} (h : turn ∈ pauseTurns policy left attempt) :
    turn = ⟨.pause (policy.backoff attempt), ()⟩ := by
  unfold pauseTurns at h
  split at h
  · cases h
  · exact List.mem_singleton.mp h

theorem Attempts.mayAsk (h : Attempts ref target policy mutate left attempt trace result) :
    ∀ turn ∈ trace, target.MayAsk ref turn.question := by
  induction h with
  | exhausted => simp
  | unread | absent | unchanged =>
    intro turn hturn
    rw [List.mem_singleton.mp hturn]
    exact rfl
  | written | refused =>
    refine List.forall_mem_cons.mpr ⟨rfl, fun turn hturn => ?_⟩
    rw [List.mem_singleton.mp hturn]
    exact mayAsk_turn ..
  | overtaken _ _ _ _ _ _ _ ih =>
    refine List.forall_mem_cons.mpr ⟨rfl, List.forall_mem_cons.mpr ⟨mayAsk_turn .., ?_⟩⟩
    refine List.forall_mem_append.mpr ⟨fun turn hturn => ?_, ih⟩
    rw [mem_pauseTurns hturn]
    trivial

/-- That a write carries the change of what was read just before it. With nothing between the two, a
conflict is all that can come of another's write: what the other wrote is never put back. -/
def ChangesLastRead (ref : ClusterRef) (mutate : Mutation) (before : Trace) (written : Cluster) :
    Prop :=
  ∃ earlier latest, before = earlier ++ [⟨.getCluster ref, .ok (some latest)⟩] ∧
    (mutate latest).1 = true ∧ written = (mutate latest).2

theorem ChangesLastRead.append {before : Trace} {written : Cluster}
    (h : ChangesLastRead ref mutate before written) (earlier : Trace) :
    ChangesLastRead ref mutate (earlier ++ before) written := by
  obtain ⟨rest, latest, rfl, hchanged, hwritten⟩ := h
  exact ⟨earlier ++ rest, latest, (List.append_assoc ..).symm, hchanged, hwritten⟩

section
variable {before after rest : Trace} {written : Cluster} {answer : Except Failure Cluster}

theorem not_mem_read {found : Except Failure (Option Cluster)} :
    target.turn written answer ∉ ([⟨.getCluster ref, found⟩] : Trace) := by
  intro hmem
  cases target <;> cases List.mem_singleton.mp hmem

/-- A write stands in the second turn of an attempt, or in one of the attempts after it. -/
theorem changesLastRead_of_attempt {latest : Cluster} {reply : Except Failure Cluster}
    (hchanged : (mutate latest).1 = true)
    (hlater : ∀ mid, rest = mid ++ target.turn written answer :: after →
      ChangesLastRead ref mutate mid written)
    (htrace : ⟨.getCluster ref, .ok (some latest)⟩ :: target.turn (mutate latest).2 reply :: rest =
      before ++ target.turn written answer :: after) :
    ChangesLastRead ref mutate before written := by
  have hread : target.turn written answer ∉ ([⟨.getCluster ref, .ok (some latest)⟩] : Trace) :=
    not_mem_read
  obtain ⟨mid, rfl, hmid⟩ := exists_eq_append_of_not_mem htrace hread
  cases mid with
  | nil =>
    have hturn := (List.cons.inj hmid).1
    refine ⟨[], latest, rfl, hchanged, ?_⟩
    cases target <;> cases hturn <;> rfl
  | cons turn mid => exact (hlater mid (List.cons.inj hmid).2).append [_, turn]

/-- **What is written is the change of what was read just before.** -/
theorem Attempts.changesLastRead
    (h : Attempts ref target policy mutate left attempt trace result)
    (htrace : trace = before ++ target.turn written answer :: after) :
    ChangesLastRead ref mutate before written := by
  have hmem : target.turn written answer ∈ trace :=
    htrace ▸ List.mem_append_right _ List.mem_cons_self
  -- What stands before the write grows with every attempt that was overtaken.
  induction h generalizing before with
  | exhausted => cases hmem
  | unread | absent | unchanged => exact absurd hmem not_mem_read
  | written left attempt latest stored hchanged =>
    exact changesLastRead_of_attempt hchanged (fun mid hmid => absurd hmid.symm (by simp)) htrace
  | refused left attempt latest f hchanged =>
    exact changesLastRead_of_attempt hchanged (fun mid hmid => absurd hmid.symm (by simp)) htrace
  | overtaken left attempt latest f hchanged _ _ ih =>
    refine changesLastRead_of_attempt hchanged (fun mid hmid => ?_) htrace
    -- Between two attempts there is only a pause, and a pause is no write.
    obtain ⟨rest, rfl, hrest⟩ := exists_eq_append_of_not_mem hmid fun hpause => by
      cases target <;> cases mem_pauseTurns hpause
    exact (ih hrest (hrest ▸ List.mem_append_right _ List.mem_cons_self)).append _

/-- A read stands in the first turn of an attempt, or in one of the attempts after it. -/
theorem turn_of_attempt {latest found : Cluster} {reply : Except Failure Cluster}
    (hlater : ∀ mid, rest = mid ++ ⟨.getCluster ref, .ok (some found)⟩ :: after →
      ∃ answer last, after = target.turn (mutate found).2 answer :: last)
    (htrace : ⟨.getCluster ref, .ok (some latest)⟩ :: target.turn (mutate latest).2 reply :: rest =
      before ++ ⟨.getCluster ref, .ok (some found)⟩ :: after) :
    ∃ answer last, after = target.turn (mutate found).2 answer :: last := by
  cases before with
  | nil =>
    obtain ⟨hread, hafter⟩ := List.cons.inj htrace
    cases hread
    exact ⟨reply, rest, hafter.symm⟩
  | cons first before =>
    cases before with
    | nil =>
      -- The second turn of an attempt is a write, so the read cannot be that one.
      have hwrite := (List.cons.inj (List.cons.inj htrace).2).1
      cases target <;> cases hwrite
    | cons second mid => exact hlater mid (List.cons.inj (List.cons.inj htrace).2).2

/-- **What was read is written as soon as there is something to change.** This is the other half of
`changesLastRead`, which a write that is never made would satisfy as well. -/
theorem Attempts.turn_of_read {found : Cluster}
    (h : Attempts ref target policy mutate left attempt trace result)
    (htrace : trace = before ++ ⟨.getCluster ref, .ok (some found)⟩ :: after)
    (hchanged : (mutate found).1 = true) :
    ∃ answer last, after = target.turn (mutate found).2 answer :: last := by
  induction h generalizing before with
  | exhausted => simp at htrace
  | unread | absent =>
    have hmem : ⟨.getCluster ref, .ok (some found)⟩ ∈ before ++ _ :: after :=
      List.mem_append_right _ List.mem_cons_self
    rw [← htrace] at hmem
    cases List.mem_singleton.mp hmem
  | unchanged left attempt latest hsame =>
    have hmem : ⟨.getCluster ref, .ok (some found)⟩ ∈ before ++ _ :: after :=
      List.mem_append_right _ List.mem_cons_self
    rw [← htrace] at hmem
    cases List.mem_singleton.mp hmem
    cases hsame.symm.trans hchanged
  | written | refused => exact turn_of_attempt (fun mid hmid => by simp at hmid) htrace
  | overtaken left attempt latest f _ _ _ ih =>
    refine turn_of_attempt (fun mid hmid => ?_) htrace
    obtain ⟨rest, -, hrest⟩ := exists_eq_append_of_not_mem hmid fun hpause => by
      cases mem_pauseTurns hpause
    exact ih hrest

theorem tries_eq (policy : RetryPolicy) : ∃ left, policy.tries = left + 1 :=
  Nat.exists_eq_add_one.mpr (Nat.le_max_right _ _)

theorem Attempts.exists_read
    (h : Attempts ref target policy mutate (left + 1) attempt trace result) :
    ∃ found rest, trace = ⟨.getCluster ref, found⟩ :: rest := by
  cases h <;> exact ⟨_, _, rfl⟩

end

/-- A write that was overtaken: it is answered with a conflict, since the object has another version
than the one that was read. -/
def WriteTarget.Overtaken (target : WriteTarget) (turn : Turn Call.Answer) : Prop :=
  ∃ cluster f, turn = target.turn cluster (.error f) ∧ f.isConflict

/-- **A write goes on after a conflict and after no other failure.** -/
theorem Attempts.failsOnlyLast (h : Attempts ref target policy mutate left attempt trace result) :
    Pass.FailsOnlyLast target.Overtaken trace := by
  induction h with
  | exhausted => exact Pass.calm_nil.failsOnlyLast
  | unread | absent | unchanged => exact .singleton _
  | written | refused => exact .cons (.inl rfl) (.singleton _)
  | overtaken _ _ latest f _ hf _ ih =>
    refine .cons (.inl rfl) (.cons (.inr ⟨_, f, rfl, hf⟩) (ih.append fun turn hturn => ?_))
    rw [mem_pauseTurns hturn]
    rfl

end

end ClusterOperator
