import ClusterOperator.Configuration.Drift
import ClusterOperator.Proofs.Time.Instants

/-!
# What the debouncing remembers

Between two passes the debouncing keeps three texts: the hash that was applied last, the hash that
waits, and since when. What it *should* decide is a matter of the whole history: which hash was
applied last, and how long the present one has been presented without a break. This file shows that
three texts are enough.

> **`decision_eq_history`** — every decision is the one that the history of the evaluations asks
> for.

The history is an unbounded sequence of evaluations, each with its own hash, time and window, so
hashes may come back, windows may change and the clock may step back at any point. Nothing is
assumed about the times: the text of a waiting time is read again as it was written
(`Instant.parse?_toText`).

The invariant is `Remembers`. After an evaluation the record is in one of two states: it is settled
on the hash that was just presented, or it waits for it, and then the kept time is that of the
evaluation at which the present block began.
-/

set_option autoImplicit false

namespace ClusterOperator

open Instant

/-! ## One evaluation -/

namespace ConfigurationRecord

variable {s : ConfigurationRecord} {hash : String} (now : Instant) (window : Nat)

theorem evaluate_new (h : s.lastAppliedHash = none) :
    s.evaluate hash now window = (.apply hash, s.applied hash now) := by
  unfold evaluate
  rw [h]

theorem evaluate_applied (h : s.lastAppliedHash = some hash) :
    s.evaluate hash now window = (.noOp, s.settled) := by
  unfold evaluate
  rw [h]
  exact if_pos rfl

/-- A hash that has been waiting. -/
theorem evaluate_waiting {last : String} {since : Instant} (hlast : s.lastAppliedHash = some last)
    (hne : last ≠ hash) (hsince : s.waitingSince? hash = some since) :
    s.evaluate hash now window =
      if elapsed since now ≥ window then (.apply hash, s.applied hash now)
      else (.debounce hash (window - elapsed since now) false, s) := by
  unfold evaluate
  rw [hlast]
  show (if last = hash then _ else _) = _
  rw [if_neg hne, hsince]

/-- A hash that is new waits from now on. -/
theorem evaluate_changed {last : String} (hlast : s.lastAppliedHash = some last)
    (hne : last ≠ hash) (hsince : s.waitingSince? hash = none) :
    s.evaluate hash now window =
      if 0 ≥ window then (.apply hash, s.applied hash now)
      else (.debounce hash window true,
        { s with pendingHash := some hash, pendingSince := some now.toText }) := by
  unfold evaluate
  rw [hlast]
  show (if last = hash then _ else _) = _
  rw [if_neg hne, hsince]
  simp

/-- **Resources are written only for the configuration that is recorded as applied.** -/
theorem lastAppliedHash_of_permitsApply (h : (s.evaluate hash now window).1.permitsApply) :
    (s.evaluate hash now window).2.lastAppliedHash = some hash := by
  cases hlast : s.lastAppliedHash with
  | none =>
    rw [evaluate_new now window hlast]
    rfl
  | some last =>
    by_cases hsame : last = hash
    · rw [hsame] at hlast
      rw [evaluate_applied now window hlast]
      exact hlast
    · -- Waiting and new hashes are applied on different conditions, but by the same change of the
      -- record.
      cases hsince : s.waitingSince? hash with
      | none =>
        rw [evaluate_changed now window hlast hsame hsince] at h ⊢
        split at h
        · rw [if_pos ‹_›]
          rfl
        · exact absurd h Bool.false_ne_true
      | some since =>
        rw [evaluate_waiting now window hlast hsame hsince] at h ⊢
        split at h
        · rw [if_pos ‹_›]
          rfl
        · exact absurd h Bool.false_ne_true

end ConfigurationRecord

/-! ## Histories -/

/-- One evaluation of a configuration: the hash that is presented, when, and the window then. All
three may change from one evaluation to the next, the window too, since it is part of the
declaration. -/
structure Evaluation where
  hash : String
  now : Instant
  window : Nat

namespace Evaluation

/-- The record before an evaluation of a sequence that starts with a new cluster. -/
def recordAt (e : Nat → Evaluation) : Nat → ConfigurationRecord
  | 0 => {}
  | k + 1 => ((recordAt e k).evaluate (e k).hash (e k).now (e k).window).2

/-- What an evaluation of the sequence decides. -/
def decisionAt (e : Nat → Evaluation) (k : Nat) : DriftDecision :=
  ((recordAt e k).evaluate (e k).hash (e k).now (e k).window).1

variable {e : Nat → Evaluation} {j k : Nat} {h : String}

/-- Whether an evaluation applies a hash. -/
def Applies (e : Nat → Evaluation) (k : Nat) : Prop := ∃ h, decisionAt e k = .apply h

/-- The hash of the last evaluation before `k` that applied one. -/
def LastApplied (e : Nat → Evaluation) (k : Nat) (h : String) : Prop :=
  ∃ m, m < k ∧ decisionAt e m = .apply h ∧ ∀ i, m < i → i < k → ¬ Applies e i

/-- The evaluations from `j` to `k` all present the same hash, and none before `k` applies one. -/
def Block (e : Nat → Evaluation) (j k : Nat) : Prop :=
  j ≤ k ∧ (∀ i, j ≤ i → i ≤ k → (e i).hash = (e k).hash) ∧ ∀ i, j ≤ i → i < k → ¬ Applies e i

/-- The start of the longest block that ends with an evaluation. It is the time that the record is
to remember, told without the record. -/
def BlockStart (e : Nat → Evaluation) (j k : Nat) : Prop :=
  Block e j k ∧ ∀ i, Block e i k → j ≤ i

theorem lastApplied_succ_of_apply (ha : decisionAt e k = .apply h) : LastApplied e (k + 1) h :=
  ⟨k, Nat.lt_succ_self k, ha, fun i h1 h2 => absurd h2 (by omega)⟩

theorem LastApplied.succ (hl : LastApplied e k h) (hk : ¬ Applies e k) :
    LastApplied e (k + 1) h := by
  obtain ⟨m, hm, ha, hnone⟩ := hl
  refine ⟨m, by omega, ha, fun i h1 h2 => ?_⟩
  by_cases hik : i = k
  · rw [hik]
    exact hk
  · exact hnone i h1 (by omega)

theorem LastApplied.unique {h' : String} (hl : LastApplied e k h) (hl' : LastApplied e k h') :
    h = h' := by
  obtain ⟨m, hm, ha, hnone⟩ := hl
  obtain ⟨m', hm', ha', hnone'⟩ := hl'
  -- The earlier of two different evaluations would not be the last one.
  rcases Nat.lt_trichotomy m m' with hlt | rfl | hlt
  · exact absurd ⟨h', ha'⟩ (hnone m' hlt hm')
  · exact DriftDecision.apply.inj (ha.symm.trans ha')
  · exact absurd ⟨h, ha⟩ (hnone' m hlt hm)

theorem BlockStart.succ (hb : BlockStart e j k) (hk : ¬ Applies e k)
    (hsame : (e (k + 1)).hash = (e k).hash) : BlockStart e j (k + 1) := by
  obtain ⟨⟨hjk, hhash, hnone⟩, hmin⟩ := hb
  refine ⟨⟨by omega, fun i h1 h2 => ?_, fun i h1 h2 => ?_⟩, fun i hi => ?_⟩
  · by_cases hik : i = k + 1
    · rw [hik]
    · rw [hsame]
      exact hhash i h1 (by omega)
  · by_cases hik : i = k
    · rw [hik]
      exact hk
    · exact hnone i h1 (by omega)
  · -- A block that starts earlier and ends at `k + 1` is one that ends at `k`, cut off by one.
    obtain ⟨hi1, hi2, hi3⟩ := hi
    by_cases hik : i ≤ k
    · refine hmin i ⟨hik, fun n h1 h2 => ?_, fun n h1 h2 => hi3 n h1 (by omega)⟩
      rw [hi2 n h1 (by omega), hsame]
    · omega

theorem blockStart_of_changed (hne : (e (k + 1)).hash ≠ (e k).hash) :
    BlockStart e (k + 1) (k + 1) := by
  refine ⟨⟨Nat.le_refl _, fun i h1 h2 => ?_, fun i h1 h2 => absurd h2 (by omega)⟩, fun i hi => ?_⟩
  · rw [Nat.le_antisymm h2 h1]
  · by_cases hik : i ≤ k
    · exact absurd (hi.2.1 k hik (by omega)).symm hne
    · omega

/-! ## The invariant -/

/-- What the record remembers after evaluation `k`: the hash that was applied last, and either
nothing more, because that is the hash just presented, or the hash just presented with the time at
which its block began. -/
structure Remembers (e : Nat → Evaluation) (k : Nat) (last : String) : Prop where
  applied : (recordAt e (k + 1)).lastAppliedHash = some last
  history : LastApplied e (k + 1) last
  pending :
    (last = (e k).hash ∧ (recordAt e (k + 1)).pendingHash = none) ∨
    (last ≠ (e k).hash ∧ (recordAt e (k + 1)).pendingHash = some (e k).hash ∧ ¬ Applies e k ∧
      ∃ j, BlockStart e j k ∧ (recordAt e (k + 1)).pendingSince = some (e j).now.toText)

/-- What the history asks for at evaluation `k`, if the hash applied last is another and the present
block began at `j`. -/
def waitedDecision (e : Nat → Evaluation) (j k : Nat) : DriftDecision :=
  if elapsed (e j).now (e k).now ≥ (e k).window then .apply (e k).hash
  else .debounce (e k).hash ((e k).window - elapsed (e j).now (e k).now) (decide (j = k))

theorem remembers_of_apply (hd : decisionAt e k = .apply (e k).hash)
    (hr : recordAt e (k + 1) = (recordAt e k).applied (e k).hash (e k).now) :
    Remembers e k (e k).hash where
  applied := by rw [hr]; rfl
  history := lastApplied_succ_of_apply hd
  pending := .inl ⟨rfl, by rw [hr]; rfl⟩

/-- The common end of the two ways to wait: `since` is the time at which the block began, and `s` is
the record if the hash is not applied. -/
theorem remembers_of_waited {last : String} {s : ConfigurationRecord} (hl : LastApplied e k last)
    (hne : last ≠ (e k).hash) (hb : BlockStart e j k)
    (heq : (recordAt e k).evaluate (e k).hash (e k).now (e k).window =
      if elapsed (e j).now (e k).now ≥ (e k).window then
        (.apply (e k).hash, (recordAt e k).applied (e k).hash (e k).now)
      else (.debounce (e k).hash ((e k).window - elapsed (e j).now (e k).now) (decide (j = k)), s))
    (hlast : s.lastAppliedHash = some last) (hpending : s.pendingHash = some (e k).hash)
    (hsince : s.pendingSince = some (e j).now.toText) :
    decisionAt e k = waitedDecision e j k ∧ ∃ last, Remembers e k last := by
  have hrecord : recordAt e (k + 1) =
      ((recordAt e k).evaluate (e k).hash (e k).now (e k).window).2 := rfl
  unfold decisionAt waitedDecision
  rw [heq] at hrecord ⊢
  -- Either the window is over and the block ends with this evaluation, or the block goes on and is
  -- remembered.
  by_cases hw : elapsed (e j).now (e k).now ≥ (e k).window
  · rw [if_pos hw] at hrecord ⊢
    rw [if_pos hw]
    refine ⟨rfl, _, remembers_of_apply ?_ hrecord⟩
    unfold decisionAt
    rw [heq, if_pos hw]
  · rw [if_neg hw] at hrecord ⊢
    rw [if_neg hw]
    have hk : ¬ Applies e k := by
      rintro ⟨h, ha⟩
      unfold decisionAt at ha
      rw [heq, if_neg hw] at ha
      cases ha
    refine ⟨rfl, last, ⟨by rw [hrecord]; exact hlast, hl.succ hk, .inr ⟨hne, ?_, hk, j, hb, ?_⟩⟩⟩
    · rw [hrecord]
      exact hpending
    · rw [hrecord]
      exact hsince

theorem waitingSince?_of_changed {last : String} (hr : Remembers e k last)
    (hne : (e (k + 1)).hash ≠ (e k).hash) :
    (recordAt e (k + 1)).waitingSince? (e (k + 1)).hash = none := by
  unfold ConfigurationRecord.waitingSince?
  refine if_neg fun hp => ?_
  rcases hr.pending with ⟨-, hnone⟩ | ⟨-, hsome, -⟩
  · rw [hnone] at hp
    cases hp
  · rw [hsome] at hp
    exact hne (Option.some.inj hp).symm

/-- **One evaluation decides what the history asks for and keeps the invariant.** -/
theorem Remembers.step {last : String} (hr : Remembers e k last) :
    ((last = (e (k + 1)).hash ∧ decisionAt e (k + 1) = .noOp) ∨
      (last ≠ (e (k + 1)).hash ∧
        ∃ j, BlockStart e j (k + 1) ∧ decisionAt e (k + 1) = waitedDecision e j (k + 1))) ∧
    ∃ last', Remembers e (k + 1) last' := by
  by_cases hlast : last = (e (k + 1)).hash
  · have heq := ConfigurationRecord.evaluate_applied (e (k + 1)).now (e (k + 1)).window
      (hlast ▸ hr.applied)
    have hd : decisionAt e (k + 1) = .noOp := by
      unfold decisionAt
      rw [heq]
    have hk : ¬ Applies e (k + 1) := by
      rintro ⟨h, ha⟩
      rw [hd] at ha
      cases ha
    have hrecord : recordAt e (k + 1 + 1) = (recordAt e (k + 1)).settled := by
      show ((recordAt e (k + 1)).evaluate _ _ _).2 = _
      rw [heq]
    refine ⟨.inl ⟨hlast, hd⟩, last, ⟨?_, hr.history.succ hk, .inl ⟨hlast, ?_⟩⟩⟩
    · rw [hrecord]
      exact hr.applied
    · rw [hrecord]
      rfl
  · by_cases hsame : (e (k + 1)).hash = (e k).hash
    · -- The block goes on: the kept time is the one at which it began.
      rcases hr.pending with ⟨hk, -⟩ | ⟨-, hpending, hk, j, hb, hsince⟩
      · exact absurd (hk.trans hsame.symm) hlast
      · have hwait : (recordAt e (k + 1)).waitingSince? (e (k + 1)).hash = some (e j).now := by
          unfold ConfigurationRecord.waitingSince?
          rw [if_pos (hsame ▸ hpending), hsince, Option.bind_some, parse?_toText]
        have hj : decide (j = k + 1) = false := decide_eq_false (by have := hb.1.1; omega)
        have heq := ConfigurationRecord.evaluate_waiting (e (k + 1)).now (e (k + 1)).window
          hr.applied hlast hwait
        rw [← hj] at heq
        have hdone := remembers_of_waited hr.history hlast (hb.succ hk hsame) heq hr.applied
          (hsame ▸ hpending) hsince
        exact ⟨.inr ⟨hlast, j, hb.succ hk hsame, hdone.1⟩, hdone.2⟩
    · -- A new block begins here.
      have hb := blockStart_of_changed hsame
      have heq := ConfigurationRecord.evaluate_changed (e (k + 1)).now (e (k + 1)).window
        hr.applied hlast (waitingSince?_of_changed hr hsame)
      have hdone := remembers_of_waited (j := k + 1)
        (s := { recordAt e (k + 1) with
          pendingHash := some (e (k + 1)).hash
          pendingSince := some (e (k + 1)).now.toText })
        hr.history hlast hb (by rw [heq, elapsed_self, decide_eq_true rfl, Nat.sub_zero])
        hr.applied rfl rfl
      exact ⟨.inr ⟨hlast, k + 1, hb, hdone.1⟩, hdone.2⟩

theorem evaluate_first (e : Nat → Evaluation) :
    decisionAt e 0 = .apply (e 0).hash ∧ Remembers e 0 (e 0).hash := by
  have hd : decisionAt e 0 = .apply (e 0).hash := rfl
  exact ⟨hd, remembers_of_apply hd rfl⟩

theorem exists_remembers (e : Nat → Evaluation) (k : Nat) : ∃ last, Remembers e k last := by
  induction k with
  | zero => exact ⟨_, (evaluate_first e).2⟩
  | succ k ih =>
    obtain ⟨last, hr⟩ := ih
    exact hr.step.2

/-! ## The history decides -/

theorem lastApplied_of_noOp (hk : 0 < k) (hd : decisionAt e k = .noOp) :
    LastApplied e k (e k).hash := by
  obtain ⟨n, rfl⟩ := Nat.exists_eq_add_of_lt hk
  rw [Nat.zero_add] at hd ⊢
  obtain ⟨last, hr⟩ := exists_remembers e n
  rcases hr.step.1 with ⟨rfl, -⟩ | ⟨-, j, -, hw⟩
  · exact hr.history
  · rw [hw] at hd
    unfold waitedDecision at hd
    split at hd
    · cases hd
    · cases hd

theorem waited_of_not_lastApplied (hk : 0 < k) (hn : ¬ LastApplied e k (e k).hash) :
    ∃ j, BlockStart e j k ∧ decisionAt e k = waitedDecision e j k := by
  obtain ⟨n, rfl⟩ := Nat.exists_eq_add_of_lt hk
  rw [Nat.zero_add] at hn ⊢
  obtain ⟨last, hr⟩ := exists_remembers e n
  rcases hr.step.1 with ⟨rfl, -⟩ | ⟨-, hw⟩
  · exact absurd hr.history hn
  · exact hw

theorem noOp_of_lastApplied (hk : 0 < k) (hl : LastApplied e k (e k).hash) :
    decisionAt e k = .noOp := by
  obtain ⟨n, rfl⟩ := Nat.exists_eq_add_of_lt hk
  rw [Nat.zero_add] at hl ⊢
  obtain ⟨last, hr⟩ := exists_remembers e n
  rcases hr.step.1 with ⟨-, hd⟩ | ⟨hne, -⟩
  · exact hd
  · exact absurd (hr.history.unique hl) hne

/-- A hash that is applied has been presented without a break for the whole window. -/
theorem presented_of_apply (hk : 0 < k) (ha : decisionAt e k = .apply h) :
    ∃ j, j ≤ k ∧ (∀ i, j ≤ i → i ≤ k → (e i).hash = h) ∧
      elapsed (e j).now (e k).now ≥ (e k).window := by
  have hn : ¬ LastApplied e k (e k).hash := fun hl => by
    rw [noOp_of_lastApplied hk hl] at ha
    cases ha
  obtain ⟨j, ⟨⟨hjk, hhash, -⟩, -⟩, hd⟩ := waited_of_not_lastApplied hk hn
  rw [ha] at hd
  unfold waitedDecision at hd
  split at hd
  · rename_i hw
    cases hd
    exact ⟨j, hjk, hhash, hw⟩
  · cases hd

/-- Between two applications of one hash another hash is applied. -/
theorem exists_apply_between {i : Nat} (hik : i < k) (hi : decisionAt e i = .apply h)
    (hk : decisionAt e k = .apply h) :
    ∃ m h', i < m ∧ m < k ∧ decisionAt e m = .apply h' ∧ h' ≠ h := by
  obtain ⟨n, rfl⟩ := Nat.exists_eq_add_of_lt hik
  obtain ⟨last, hr⟩ := exists_remembers e (i + n)
  rcases hr.step.1 with ⟨-, hd⟩ | ⟨hne, j, -, hw⟩
  · rw [hk] at hd
    cases hd
  · have hhash : (e (i + n + 1)).hash = h := by
      rw [hw] at hk
      unfold waitedDecision at hk
      split at hk
      · exact DriftDecision.apply.inj hk
      · cases hk
    -- What was applied last is another hash, so it was applied after `i`.
    obtain ⟨m, hm, ha, hnone⟩ := hr.history
    rcases Nat.lt_trichotomy i m with hlt | rfl | hlt
    · exact ⟨m, last, hlt, hm, ha, hhash ▸ hne⟩
    · exact absurd (DriftDecision.apply.inj (ha.symm.trans hi)) (hhash ▸ hne)
    · exact absurd ⟨h, hi⟩ (hnone i hlt hik)

/-- **Every decision is the one that the history asks for.** The first evaluation applies its hash.
A later one does nothing exactly if its hash is the one applied last. Otherwise the longest block of
evaluations that presented the hash and did not apply it says since when it waits: it is applied
once that is as long as the window, and else the rest of the window remains, which this evaluation
opened exactly if the block begins with it. So an applied hash was presented for the whole window,
and is not applied again before another. -/
theorem decision_eq_history (e : Nat → Evaluation) :
    decisionAt e 0 = .apply (e 0).hash ∧
    ∀ k, 0 < k →
      (decisionAt e k = .noOp ↔ LastApplied e k (e k).hash) ∧
      (¬ LastApplied e k (e k).hash → ∃ j, BlockStart e j k ∧
        decisionAt e k =
          if elapsed (e j).now (e k).now ≥ (e k).window then .apply (e k).hash
          else .debounce (e k).hash ((e k).window - elapsed (e j).now (e k).now)
            (decide (j = k))) ∧
      (∀ h, decisionAt e k = .apply h → ∃ j, j ≤ k ∧ (∀ i, j ≤ i → i ≤ k → (e i).hash = h) ∧
        elapsed (e j).now (e k).now ≥ (e k).window) ∧
      ∀ i h, i < k → decisionAt e i = .apply h → decisionAt e k = .apply h →
        ∃ m h', i < m ∧ m < k ∧ decisionAt e m = .apply h' ∧ h' ≠ h := by
  refine ⟨(evaluate_first e).1, fun k hk => ⟨⟨?_, ?_⟩, ?_, ?_, ?_⟩⟩
  · exact lastApplied_of_noOp hk
  · exact noOp_of_lastApplied hk
  · exact waited_of_not_lastApplied hk
  · exact fun h ha => presented_of_apply hk ha
  · exact fun i h hik hi ha => exists_apply_between hik hi ha

end Evaluation

end ClusterOperator
