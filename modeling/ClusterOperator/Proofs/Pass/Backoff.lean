import Mathlib.Algebra.GroupWithZero.Nat
import Mathlib.Algebra.Order.BigOperators.Group.List
import Mathlib.Algebra.Order.Group.Nat
import ClusterOperator.Proofs.Pass.Interleaving
import ClusterOperator.Proofs.Settings.Loading

/-!
# The pauses of a write

The pause before an attempt is the first pause doubled as often as an attempt came before, up to a
longest pause. The doubling is done in numbers that end: the factor below 2^32, and the pause at the
longest span of time. Whoever sets the first pause is told nothing of that, and need not be:

> **`backsOff_of_load`** — under every environment that settings are loaded from, a pause is the
> first one times an exact power of two, or the longest pause where that is less. It never falls
> from one attempt to the next, and all the pauses of a write take no longer than the longest pause
> would after each attempt but the last.

That a number ends does not show where the longest pause is reached before it (`backoff_eq_min`).
With a longest pause of two seconds a first pause of one millisecond is enough for that, and a first
pause of none stays none.
-/

set_option autoImplicit false

namespace ClusterOperator

/-! ## The length of a pause -/

namespace RetryPolicy

variable {p : RetryPolicy} {attempt earlier later : Nat}

theorem factor_eq_min (attempt : Nat) : factor attempt = min (2 ^ (attempt - 1)) (2 ^ 32 - 1) := by
  unfold factor
  by_cases hfew : attempt - 1 < 32
  · have hpow : 2 ^ (attempt - 1) ≤ 2 ^ 31 := Nat.pow_le_pow_right (by decide) (by omega)
    rw [if_pos hfew, Nat.min_eq_left (by omega)]
    rfl
  · have hpow : 2 ^ 32 ≤ 2 ^ (attempt - 1) := Nat.pow_le_pow_right (by decide) (by omega)
    rw [if_neg hfew, Nat.min_eq_right (by omega)]
    rfl

/-- **No pause is longer than the longest.** -/
theorem backoff_le (p : RetryPolicy) (attempt : Nat) : p.backoff attempt ≤ p.maxMillis :=
  Nat.min_le_right ..

/-- **The pauses never get shorter**, also where the doubling has come to an end. -/
theorem backoff_mono (h : earlier ≤ later) : p.backoff earlier ≤ p.backoff later := by
  have hpow : 2 ^ (earlier - 1) ≤ 2 ^ (later - 1) :=
    Nat.pow_le_pow_right (by decide) (Nat.sub_le_sub_right h 1)
  have hfactor : factor earlier ≤ factor later := by
    rw [factor_eq_min, factor_eq_min]
    exact min_le_min_right _ hpow
  exact min_le_min_right _ (min_le_min_right _ (Nat.mul_le_mul_left _ hfactor))

/-- **A pause is exact if the longest one is reached in time**: within the span of time, and by the
largest factor unless the first pause is none. -/
theorem backoff_eq_min (hspan : p.maxMillis ≤ longestMillis)
    (hfactor : p.baseMillis = 0 ∨ p.maxMillis ≤ p.baseMillis * (2 ^ 32 - 1)) :
    p.backoff attempt = min p.maxMillis (p.baseMillis * 2 ^ (attempt - 1)) := by
  unfold backoff
  rw [min_assoc, Nat.min_eq_right hspan, factor_eq_min, Nat.min_comm]
  rcases hfactor with hnone | hreached
  · simp only [hnone, Nat.zero_mul]
  · rw [← Nat.mul_min_mul_left, Nat.min_comm (p.baseMillis * 2 ^ (attempt - 1)), ← min_assoc,
      Nat.min_eq_left hreached]

/-- A longest pause beyond that shows the largest factor. -/
example : ({ baseMillis := 1, maxMillis := 5000000000 } : RetryPolicy).backoff 34 = 4294967295 := by
  decide

end RetryPolicy

/-! ## The pauses of a run -/

/-- The pauses of a trace in milliseconds, in their order. A write asks for its pauses by calls, so
what it waits is read off what it asked and not off its policy. -/
def pausesIn (trace : Trace) : List Nat :=
  trace.filterMap fun
    | ⟨.pause millis, _⟩ => some millis
    | _ => none

/-- How many writes of a trace were told that another write came first. -/
def overtakenIn (trace : Trace) : Nat :=
  trace.countP fun turn => turn.question.isWrite && turn.failure?.any (·.isConflict)

section
variable {ref : ClusterRef} {target : WriteTarget} {policy : RetryPolicy} {mutate : Mutation}
  {left attempt : Nat} {trace : Trace} {result : Except Failure (Option Cluster)}
  {cluster : Cluster} {found : Except Failure (Option Cluster)} {answer : Except Failure Cluster}

theorem pausesIn_read : pausesIn (⟨.getCluster ref, found⟩ :: trace) = pausesIn trace := rfl

theorem overtakenIn_read : overtakenIn (⟨.getCluster ref, found⟩ :: trace) = overtakenIn trace :=
  rfl

theorem pausesIn_turn : pausesIn (target.turn cluster answer :: trace) = pausesIn trace := by
  cases target <;> rfl

theorem overtakenIn_turn : overtakenIn (target.turn cluster answer :: trace) =
    overtakenIn trace + if (failureOf? answer).any (·.isConflict) then 1 else 0 := by
  cases target <;> exact List.countP_cons

theorem pausesIn_pauseTurns : pausesIn (pauseTurns policy left attempt ++ trace) =
    (if left = 0 then [] else [policy.backoff attempt]) ++ pausesIn trace := by
  unfold pauseTurns
  split <;> rfl

theorem overtakenIn_pauseTurns :
    overtakenIn (pauseTurns policy left attempt ++ trace) = overtakenIn trace := by
  unfold pauseTurns
  split <;> rfl

/-- **A pause follows every attempt that was overtaken**, the last one of all aside. -/
theorem Attempts.pausesIn_eq (h : Attempts ref target policy mutate left attempt trace result) :
    pausesIn trace =
      (List.range' attempt (min (overtakenIn trace) (left - 1))).map policy.backoff := by
  -- Only an attempt that was overtaken goes on to another; every other one ends the write without a
  -- pause.
  induction h with
  | exhausted | unread | absent | unchanged => rfl
  | written =>
    rw [pausesIn_read, pausesIn_turn, overtakenIn_read, overtakenIn_turn]
    rfl
  | refused left attempt latest f h hf =>
    have hcalm : (failureOf? (.error f : Except Failure Cluster)).any (·.isConflict) = false := hf
    rw [pausesIn_read, pausesIn_turn, overtakenIn_read, overtakenIn_turn, hcalm]
    rfl
  | overtaken left attempt latest f h hf rest ih =>
    have hlost : (failureOf? (.error f : Except Failure Cluster)).any (·.isConflict) = true := hf
    rw [pausesIn_read, pausesIn_turn, pausesIn_pauseTurns, ih, overtakenIn_read, overtakenIn_turn,
      overtakenIn_pauseTurns, if_pos hlost, Nat.add_sub_cancel]
    -- The last attempt has none after it, which is what the minimum says.
    cases left with
    | zero => simp
    | succ left => simp [Nat.succ_min_succ, List.range'_succ]

/-- **The pauses of a write take no longer than the longest would after each attempt but one.** -/
theorem Attempts.sum_pausesIn_le (h : Attempts ref target policy mutate left attempt trace result) :
    (pausesIn trace).sum ≤ (left - 1) * policy.maxMillis := by
  have hcapped : ∀ millis ∈ pausesIn trace, millis ≤ policy.maxMillis := by
    rw [h.pausesIn_eq]
    exact List.forall_mem_map.mpr fun n _ => policy.backoff_le n
  have hcount : (pausesIn trace).length ≤ left - 1 := by
    rw [h.pausesIn_eq, List.length_map, List.length_range']
    exact Nat.min_le_right ..
  calc (pausesIn trace).sum
      ≤ (pausesIn trace).length * policy.maxMillis := List.sum_le_card_nsmul _ _ hcapped
    _ ≤ (left - 1) * policy.maxMillis := Nat.mul_le_mul_right _ hcount

end

/-! ## The policy of loaded settings -/

/-- What the pauses are between the attempts of a write, under certain settings. The clauses about
single pauses hold for every number of an attempt; those about a write hold for whatever it is
answered, so its waiting is bounded even if all its attempts are lost. -/
structure Settings.BacksOff (s : Settings) : Prop where
  /-- A write is tried as often as is set. -/
  attempts : 0 < s.conflictRetryAttempts ∧
    s.retryPolicy.attempts.toNat = s.conflictRetryAttempts
  /-- The pause after an attempt, in numbers without an end. -/
  exact : ∀ attempt, 0 < attempt → s.retryPolicy.backoff attempt =
    min s.retryPolicy.maxMillis (s.conflictRetryBaseDelayMillis * 2 ^ (attempt - 1))
  ascending : ∀ earlier later, 0 < earlier → earlier ≤ later →
    s.retryPolicy.backoff earlier ≤ s.retryPolicy.backoff later
  capped : ∀ attempt, 0 < attempt → s.retryPolicy.backoff attempt ≤ s.retryPolicy.maxMillis
  /-- A write pauses after its first attempt, its second and so on, once for each that was overtaken
  and has another after it. -/
  paused : ∀ ref target mutate trace result,
    (modifyWithRetry ref target s.retryPolicy mutate).Runs trace result →
      pausesIn trace = (List.range' 1 (min (overtakenIn trace) (s.conflictRetryAttempts - 1))).map
        s.retryPolicy.backoff
  waited : ∀ ref target mutate trace result,
    (modifyWithRetry ref target s.retryPolicy mutate).Runs trace result →
      (pausesIn trace).sum ≤ (s.conflictRetryAttempts - 1) * s.retryPolicy.maxMillis

variable {env : Environment} {s : Settings}

theorem toNat_attempts_retryPolicy (env : Environment) :
    (Settings.ofEnvironment env).retryPolicy.attempts.toNat =
      (Settings.ofEnvironment env).conflictRetryAttempts :=
  UInt32.toNat_ofNat_of_lt' <|
    Nat.lt_of_le_of_lt (Variable.value_le_largest .retryAttempts env) (by decide)

theorem conflictRetryAttempts_pos (env : Environment) :
    0 < (Settings.ofEnvironment env).conflictRetryAttempts :=
  Variable.smallest_le_value .retryAttempts env

theorem tries_retryPolicy (env : Environment) :
    (Settings.ofEnvironment env).retryPolicy.tries =
      (Settings.ofEnvironment env).conflictRetryAttempts := by
  unfold RetryPolicy.tries
  rw [toNat_attempts_retryPolicy]
  exact Nat.max_eq_left (conflictRetryAttempts_pos env)

/-- The doubling ends beyond two seconds, if it is of a millisecond or more. -/
theorem backoff_retryPolicy (s : Settings) (attempt : Nat) : s.retryPolicy.backoff attempt =
    min s.retryPolicy.maxMillis (s.conflictRetryBaseDelayMillis * 2 ^ (attempt - 1)) := by
  have hlongest : s.retryPolicy.maxMillis = 2000 := rfl
  have hspan : s.retryPolicy.maxMillis ≤ RetryPolicy.longestMillis := by
    rw [hlongest]
    decide
  exact RetryPolicy.backoff_eq_min hspan (by omega)

/-- **The pauses double exactly until the longest**, and what a write waits is bounded by it. The
bounds of the arithmetic never show, because the longest pause is far below them. -/
theorem backsOff_of_load (h : Settings.load env = .ok s) : s.BacksOff := by
  obtain ⟨-, -, rfl⟩ := load_eq_ok_iff.mp h
  constructor
  case attempts => exact ⟨conflictRetryAttempts_pos env, toNat_attempts_retryPolicy env⟩
  case exact =>
    intro attempt _
    exact backoff_retryPolicy _ attempt
  case ascending =>
    intro earlier later _ hle
    exact RetryPolicy.backoff_mono hle
  case capped =>
    intro attempt _
    exact RetryPolicy.backoff_le _ attempt
  case paused =>
    intro ref target mutate trace result hrun
    rw [← tries_retryPolicy]
    exact (runs_modifyWithRetry.mp hrun).pausesIn_eq
  case waited =>
    intro ref target mutate trace result hrun
    rw [← tries_retryPolicy]
    exact (runs_modifyWithRetry.mp hrun).sum_pausesIn_le

/-- An environment that asks for three attempts and a first pause of a second and a half. -/
def hurried : Environment
  | "NEO4J_OPERATOR_CONFLICT_RETRY_ATTEMPTS" => some "3"
  | "NEO4J_OPERATOR_CONFLICT_RETRY_BASE_DELAY_MS" => some " 1500 "
  | _ => none

def hurriedSettings : Settings :=
  { conflictRetryAttempts := 3, conflictRetryBaseDelayMillis := 1500 }

/-- Adds the finalizer to an object, and says so even of one that has it. -/
def claimAlways : Mutation := fun latest => (true, latest.addFinalizer.2)

/-- An attempt to claim an object that another write comes before. -/
def outrun : Trace :=
  [⟨.getCluster ⟨"data", "db"⟩, .ok (some {})⟩,
    WriteTarget.object.turn (claimAlways {}).2 (.error (.conflict "replace data/db"))]

/-- Three such attempts, with the pauses between them. -/
def outrunThrice : Trace :=
  outrun ++ ⟨.pause 1500, ()⟩ :: outrun ++ ⟨.pause 2000, ()⟩ :: outrun

/-- The pause is doubled once and meets the longest. -/
theorem backsOff_hurried : Settings.load hurried = .ok hurriedSettings ∧
    (modifyWithRetry ⟨"data", "db"⟩ .object hurriedSettings.retryPolicy claimAlways).Runs
      outrunThrice (.error (.retriesExhausted "data/db" 3)) ∧
    hurriedSettings.BacksOff ∧
    hurriedSettings.retryPolicy.backoff 2 = min 2000 (1500 * 2) ∧
    pausesIn outrunThrice = [1500, 2000] ∧ (pausesIn outrunThrice).sum ≤ 2 * 2000 := by
  have hload : Settings.load hurried = .ok hurriedSettings := by decide +kernel
  have hrun : (modifyWithRetry ⟨"data", "db"⟩ .object hurriedSettings.retryPolicy claimAlways).Runs
      outrunThrice (.error (.retriesExhausted "data/db" 3)) :=
    runs_modifyWithRetry.mpr <| .overtaken 2 1 {} _ rfl rfl <| .overtaken 1 2 {} _ rfl rfl <|
      .overtaken 0 3 {} _ rfl rfl <| .exhausted 4
  have hbacks := backsOff_of_load hload
  exact ⟨hload, hrun, hbacks, hbacks.exact 2 (by decide), hbacks.paused _ _ _ _ _ hrun,
    hbacks.waited _ _ _ _ _ hrun⟩

end ClusterOperator
