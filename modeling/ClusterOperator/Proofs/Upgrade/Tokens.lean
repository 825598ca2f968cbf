import ClusterOperator.Proofs.Upgrade.Timers

/-!
# Requests to resume and to abort

A request is an annotation that somebody leaves on the cluster and that nobody takes away. A pass
therefore sees it again and again, and so does the next upgrade. The record remembers a value of
either annotation as handled, and a value counts as a request if it is not the one remembered. What
is remembered is not what was acted on but what was there at certain times: both values when the
record starts, and the value of the first whenever the upgrade stops or is resumed.

> **`heedful`** — an upgrade is resumed only by a value other than the one that was there when it
> was last paused, and aborted only by one other than the one that was there when it started; and a
> paused upgrade does nothing without such a request.

While an upgrade is paused, the value remembered of the first annotation is the one of the pass that
paused it (`pausedSince`). While it is not over, the value remembered of the second is the one of
the pass that started it (`handledAbortToken_record`). Values may be missing, empty or used again.
-/

set_option autoImplicit false

namespace ClusterOperator

theorem isNewToken_iff {token handled : Option String} :
    isNewToken token handled = true ↔ ∃ t, token = some t ∧ t ≠ "" ∧ handled ≠ some t := by
  cases token with
  | none => simp [isNewToken]
  | some t => simp [isNewToken]

/-! ## What is remembered -/

namespace UpgradeRecord

variable {record : UpgradeRecord} {o : UpgradeObservation} {m : UpgradeMove}

theorem handled_applyMove (o : UpgradeObservation) (plan : List PlannedServer) (m : UpgradeMove)
    (record : UpgradeRecord) :
    (applyMove o plan m record).1.handledResumeToken =
        (match m.event with
        | .stepTimedOut | .healthGateFailed | .resumed => o.tokens.resume
        | .preChecksPassed | .allServersUpgraded | .aborted => record.handledResumeToken) ∧
      (applyMove o plan m record).1.handledAbortToken =
        if m.event = .aborted then o.tokens.abort else record.handledAbortToken := by
  unfold applyMove
  cases m.event <;> exact ⟨rfl, rfl⟩

/-- A step remembers what its move does, and without a move what was remembered before. -/
theorem handled_step : (record.step o).record.handledResumeToken =
        (((record.step o).move.map fun m =>
          (applyMove o (record.planUsed o) m (record.observed o)).1.handledResumeToken).getD
            record.handledResumeToken) ∧
      (record.step o).record.handledAbortToken =
        (((record.step o).move.map fun m =>
          (applyMove o (record.planUsed o) m (record.observed o)).1.handledAbortToken).getD
            record.handledAbortToken) := by
  rcases record.step_cases o with ⟨m, hmove, -, _, _, hleft⟩ | ⟨hmove, -, -, _, _, hleft⟩ |
    ⟨hmove, -, -, _, _, hleft⟩
  · rw [hmove, hleft]
    exact ⟨rfl, rfl⟩
  · rw [hmove, hleft]
    exact ⟨rfl, rfl⟩
  · rw [hmove, hleft]
    exact ⟨rfl, rfl⟩

theorem handledResumeToken_step_of_stay (h : (record.step o).move = none) :
    (record.step o).record.handledResumeToken = record.handledResumeToken := by
  rw [handled_step.1, h]
  rfl

/-- **A step that pauses an upgrade remembers the value that is there.** -/
theorem handledResumeToken_step_of_pauses (h : (record.step o).move = some m)
    (htarget : m.target = .paused) :
    (record.step o).record.handledResumeToken = o.tokens.resume := by
  have hstops : ∀ m ∈ upgradeMoves, m.target = .paused →
      m.event = .stepTimedOut ∨ m.event = .healthGateFailed := by decide
  rw [handled_step.1, h]
  refine (handled_applyMove o _ m _).1.trans ?_
  rcases hstops m (move_step h).1 htarget with hevent | hevent
  · rw [hevent]
  · rw [hevent]

/-- A step that leaves an upgrade open has not aborted it, and forgets nothing of what was there. -/
theorem handledAbortToken_step_of_open (h : (record.step o).record.phase.isTerminal = false) :
    (record.step o).record.handledAbortToken = record.handledAbortToken := by
  rw [handled_step.2]
  rw [phase_step] at h
  cases hmove : (record.step o).move with
  | none => rfl
  | some m =>
    rw [hmove] at h
    have hends : ∀ m ∈ upgradeMoves, m.event = .aborted → m.target.isTerminal = true := by decide
    refine (handled_applyMove o _ m _).2.trans (if_neg fun hevent => ?_)
    -- Only an abortion remembers the value anew, and that would have closed the upgrade.
    cases (hends m (move_step hmove).1 hevent).symm.trans h

theorem movesBy_of_paused (hphase : record.phase = .paused)
    (h : (record.step o).move = some m) :
    m.target ≠ .paused ∧ (m.event = .resumed ∨ m.event = .aborted) := by
  have hleaves : ∀ m ∈ upgradeMoves, m.source = .paused →
      m.target ≠ .paused ∧ (m.event = .resumed ∨ m.event = .aborted) := by decide
  obtain ⟨hm, hsource⟩ := move_step h
  exact hleaves m hm (hsource.trans hphase)

theorem restart_step_of_paused (hphase : record.phase = .paused) :
    (record.step o).restart = [] := by
  by_contra hrestart
  cases hphase.symm.trans (phase_of_restart hrestart).1

theorem open_of_movesBy {event : UpgradeEvent} (h : (record.advance o).MovesBy event) :
    record.phase.isTerminal = false := by
  by_contra hover
  obtain ⟨m, hm, -⟩ := h
  unfold advance at hm
  rw [if_pos (Bool.of_not_eq_false hover)] at hm
  cases hm

theorem requested_of_resumed (h : (record.advance o).MovesBy .resumed) :
    record.phase = .paused ∧ isNewToken o.tokens.resume record.handledResumeToken = true := by
  rw [advance_of_open (open_of_movesBy h)] at h
  exact UpgradePhase.grounds_of_event? (event?_of_movesBy h)

theorem requested_of_aborted (h : (record.advance o).MovesBy .aborted) :
    isNewToken o.tokens.abort record.handledAbortToken = true := by
  rw [advance_of_open (open_of_movesBy h)] at h
  exact (UpgradePhase.grounds_of_event? (event?_of_movesBy h)).2

end UpgradeRecord

/-! ## Runs of passes -/

/-- The passes over one record: the first starts it, and each of the others, up to the last, finds
that the record its predecessor left is to go on. Whatever is declared, runs and is annotated may
change in between. -/
structure RequestRun where
  declared : Nat → String
  running : Nat → Option String
  pass : Nat → UpgradeObservation
  last : Nat
  /-- The record that a pass takes forward. -/
  record : Nat → UpgradeRecord
  starts : ∃ earlier,
    resolveRequest (declared 0) (running 0) earlier (pass 0).tokens = .start (record 0)
  proceeds : ∀ k, k < last → ∃ deferred,
    resolveRequest (declared (k + 1)) (running (k + 1))
      (some ((record k).advance (pass k)).record) (pass (k + 1)).tokens =
        .proceed (record (k + 1)) deferred

theorem eq_of_proceed {declared : String} {running : Option String} {tokens : UpgradeTokens}
    {current : Option UpgradeRecord} {record : UpgradeRecord} {deferred : Bool}
    (h : resolveRequest declared running current tokens = .proceed record deferred) :
    current = some record := by
  unfold resolveRequest at h
  grind

/-- A record that starts remembers what is there. -/
theorem handled_of_start {declared : String} {running : Option String} {tokens : UpgradeTokens}
    {current : Option UpgradeRecord} {record : UpgradeRecord}
    (h : resolveRequest declared running current tokens = .start record) :
    record.phase = .pending ∧ record.handledAbortToken = tokens.abort := by
  unfold resolveRequest at h
  have hstarting : ∃ version, record = .starting version declared tokens := by grind
  obtain ⟨version, rfl⟩ := hstarting
  exact ⟨rfl, rfl⟩

namespace RequestRun

variable (r : RequestRun)

def step (k : Nat) : UpgradeStep := (r.record k).advance (r.pass k)

def MovesBy (k : Nat) (event : UpgradeEvent) : Prop := (r.step k).MovesBy event

instance (k : Nat) (event : UpgradeEvent) : Decidable (r.MovesBy k event) :=
  inferInstanceAs (Decidable ((r.step k).MovesBy event))

def Pauses (k : Nat) : Prop :=
  (r.record k).phase ≠ .paused ∧ (r.step k).record.phase = .paused

/-- That one pass, before another, is the last that paused the upgrade. A request to resume is new
if it is not what this pass saw, whichever values came and went in between. -/
structure PausedBy (m k : Nat) : Prop where
  lt : m < k
  pauses : r.Pauses m
  latest : ∀ n, m < n → n < k → ¬ r.Pauses n

/-- That a pass sees a request to resume: a value that the pass did not see which paused the upgrade
last. -/
def AsksToResume (k : Nat) : Prop :=
  ∃ m token, r.PausedBy m k ∧ (r.pass k).tokens.resume = some token ∧ token ≠ "" ∧
    (r.pass m).tokens.resume ≠ some token

/-- That a pass sees a request to abort: a value that the pass did not see which started the
record. -/
def AsksToAbort (k : Nat) : Prop :=
  ∃ token, (r.pass k).tokens.abort = some token ∧ token ≠ "" ∧
    (r.pass 0).tokens.abort ≠ some token

/-- How an upgrade heeds the two annotations. A value is compared with what a certain pass saw, not
with what the record remembers: the record is how the operator does it, and the passes are what the
user can tell. -/
structure Heedful : Prop where
  /-- It is resumed only when that is asked for. -/
  resumed : ∀ k, k ≤ r.last → r.MovesBy k .resumed → r.AsksToResume k
  /-- It is aborted only when that is asked for. -/
  aborted : ∀ k, k ≤ r.last → r.MovesBy k .aborted → r.AsksToAbort k
  /-- A value that stays resumes it once. -/
  once : ∀ i j, i < j → j ≤ r.last → r.MovesBy i .resumed → r.MovesBy j .resumed →
    ∃ m, i < m ∧ m < j ∧ (r.pass m).tokens.resume ≠ (r.pass j).tokens.resume
  /-- A value that has stayed since before the upgrade never resumes it. -/
  neverResumed : ∀ k, k ≤ r.last →
    (∀ m, m ≤ k → (r.pass m).tokens.resume = (r.pass 0).tokens.resume) → ¬ r.MovesBy k .resumed
  /-- A value that was there before the upgrade never aborts it. -/
  neverAborted : ∀ k, k ≤ r.last → (r.pass k).tokens.abort = (r.pass 0).tokens.abort →
    ¬ r.MovesBy k .aborted
  /-- While it is paused nothing is restarted, and it leaves the pause only when asked. -/
  paused : ∀ k, k ≤ r.last → (r.record k).phase = .paused →
    (r.step k).restart = [] ∧
      ((r.step k).record.phase = .paused ∨ (r.MovesBy k .resumed ∧ r.AsksToResume k) ∨
        (r.MovesBy k .aborted ∧ r.AsksToAbort k))

variable {r} {i j k m : Nat}

theorem record_succ (h : k < r.last) : r.record (k + 1) = (r.step k).record := by
  obtain ⟨deferred, hproceed⟩ := r.proceeds k h
  exact (Option.some.inj (eq_of_proceed hproceed)).symm

theorem record_zero : (r.record 0).phase = .pending ∧
    (r.record 0).handledAbortToken = (r.pass 0).tokens.abort := by
  obtain ⟨earlier, hstart⟩ := r.starts
  exact handled_of_start hstart

/-! ### Aborting -/

/-- **While an upgrade is not over, it remembers the value that was there when it started.** -/
theorem handledAbortToken_record (hk : k ≤ r.last) (hopen : (r.record k).phase.isTerminal = false) :
    (r.record k).handledAbortToken = (r.pass 0).tokens.abort := by
  induction k with
  | zero => exact record_zero.2
  | succ k ih =>
    rw [record_succ hk] at hopen ⊢
    unfold step at hopen ⊢
    have hbefore := UpgradeRecord.open_of_advance hopen
    rw [UpgradeRecord.advance_of_open hbefore] at hopen ⊢
    exact (UpgradeRecord.handledAbortToken_step_of_open hopen).trans
      (ih (Nat.le_of_succ_le hk) hbefore)

theorem asksToAbort_of_aborted (hk : k ≤ r.last) (h : r.MovesBy k .aborted) :
    r.AsksToAbort k := by
  have hnew := UpgradeRecord.requested_of_aborted h
  rw [handledAbortToken_record hk (UpgradeRecord.open_of_movesBy h)] at hnew
  exact isNewToken_iff.mp hnew

/-! ### Pausing and resuming -/

theorem step_of_paused (hpaused : (r.record k).phase = .paused) :
    r.step k = (r.record k).step (r.pass k) :=
  UpgradeRecord.advance_of_open (by rw [hpaused]; rfl)

theorem phase_step_of_stay (hpaused : (r.record k).phase = .paused)
    (hstay : (r.step k).record.phase = .paused) : (r.step k).move = none := by
  rw [step_of_paused hpaused] at hstay ⊢
  rw [UpgradeRecord.phase_step] at hstay
  by_contra hmoves
  obtain ⟨m, hmove⟩ := Option.ne_none_iff_exists'.mp hmoves
  rw [hmove] at hstay
  exact (UpgradeRecord.movesBy_of_paused hpaused hmove).1 hstay

theorem handledResumeToken_of_pauses (h : r.Pauses k) :
    (r.step k).record.handledResumeToken = (r.pass k).tokens.resume := by
  obtain ⟨hbefore, hafter⟩ := h
  have hstep : r.step k = (r.record k).step (r.pass k) := by
    refine UpgradeRecord.advance_of_open (UpgradeRecord.open_of_advance (o := r.pass k) ?_)
    rw [show ((r.record k).advance (r.pass k)).record.phase = .paused from hafter]
    rfl
  rw [hstep] at hafter ⊢
  rw [UpgradeRecord.phase_step] at hafter
  cases hmove : ((r.record k).step (r.pass k)).move with
  | none =>
    rw [hmove] at hafter
    exact absurd hafter hbefore
  | some m =>
    rw [hmove] at hafter
    exact UpgradeRecord.handledResumeToken_step_of_pauses hmove hafter

/-- **While an upgrade is paused, it remembers the value of the pass that paused it.** By induction
on the passes: one that finds the upgrade paused and leaves it so remembers nothing else. -/
theorem pausedSince (hk : k ≤ r.last) (hpaused : (r.record k).phase = .paused) :
    ∃ m, r.PausedBy m k ∧ (r.record k).handledResumeToken = (r.pass m).tokens.resume := by
  induction k with
  | zero => cases record_zero.1.symm.trans hpaused
  | succ k ih =>
    rw [record_succ hk] at hpaused ⊢
    by_cases hbefore : (r.record k).phase = .paused
    · -- The pass that paused it is still the last one: this one found it paused already.
      obtain ⟨m, ⟨hlt, hpauses, hlatest⟩, hhandled⟩ := ih (Nat.le_of_succ_le hk) hbefore
      refine ⟨m, ⟨Nat.lt_succ_of_lt hlt, hpauses, fun n hmn hnk => ?_⟩, ?_⟩
      · rcases Nat.lt_succ_iff_lt_or_eq.mp hnk with hlt' | rfl
        · exact hlatest n hmn hlt'
        · exact fun hagain => hagain.1 hbefore
      · have hstay := phase_step_of_stay hbefore hpaused
        rw [step_of_paused hbefore] at hstay ⊢
        exact (UpgradeRecord.handledResumeToken_step_of_stay hstay).trans hhandled
    · have hpauses : r.Pauses k := ⟨hbefore, hpaused⟩
      refine ⟨k, ⟨Nat.lt_succ_self k, hpauses, fun n hkn hnk => ?_⟩,
        handledResumeToken_of_pauses hpauses⟩
      exact absurd (Nat.le_of_lt_succ hnk) (Nat.not_le.mpr hkn)

theorem asksToResume_of_resumed (hk : k ≤ r.last) (h : r.MovesBy k .resumed) :
    r.AsksToResume k := by
  obtain ⟨hpaused, hnew⟩ := UpgradeRecord.requested_of_resumed h
  obtain ⟨m, hm, hhandled⟩ := pausedSince hk hpaused
  rw [hhandled] at hnew
  obtain ⟨token, htoken⟩ := isNewToken_iff.mp hnew
  exact ⟨m, token, hm, htoken⟩

theorem phase_step_of_resumed (h : r.MovesBy k .resumed) :
    (r.step k).record.phase = .inProgress := by
  have hstep : r.step k = (r.record k).step (r.pass k) :=
    UpgradeRecord.advance_of_open (UpgradeRecord.open_of_movesBy h)
  unfold MovesBy at h
  rw [hstep] at h ⊢
  obtain ⟨m, hmove, hevent⟩ := h
  have hgoesOn : ∀ m ∈ upgradeMoves, m.event = .resumed → m.target = .inProgress := by decide
  rw [UpgradeRecord.phase_step, hmove]
  exact hgoesOn m (UpgradeRecord.move_step hmove).1 hevent

/-- Between a pass that leaves the upgrade going on and one that finds it paused, it was paused. -/
theorem exists_pauses (hij : i < j) (hj : j ≤ r.last)
    (hi : (r.step i).record.phase ≠ .paused) (hpaused : (r.record j).phase = .paused) :
    ∃ n, i < n ∧ n < j ∧ r.Pauses n := by
  induction j, hij using Nat.le_induction with
  | base => exact absurd (record_succ hj ▸ hpaused) hi
  | succ j hij ih =>
    by_cases hbefore : (r.record j).phase = .paused
    · obtain ⟨n, hin, hnj, hpauses⟩ := ih (Nat.le_of_succ_le hj) hbefore
      exact ⟨n, hin, Nat.lt_succ_of_lt hnj, hpauses⟩
    · exact ⟨j, hij, Nat.lt_succ_self j, hbefore, record_succ hj ▸ hpaused⟩

theorem PausedBy.le (h : r.PausedBy m k) {n : Nat} (hnk : n < k) (hn : r.Pauses n) : n ≤ m :=
  Nat.not_lt.mp fun hmn => h.latest n hmn hnk hn

/-- **An upgrade heeds the two annotations.** What counts as handled is, for the one, the value that
was there when the upgrade paused last and, for the other, the one that was there when it started;
any other value is a request. -/
theorem heedful (r : RequestRun) : r.Heedful := by
  constructor
  case resumed => exact fun k hk h => asksToResume_of_resumed hk h
  case aborted => exact fun k hk h => asksToAbort_of_aborted hk h
  case once =>
    intro i j hij hj hi h
    obtain ⟨m, token, hm, htoken, -, hother⟩ := asksToResume_of_resumed hj h
    -- What is handled is the value of a pass in between, for the upgrade was paused anew.
    have hgoesOn : (r.step i).record.phase ≠ .paused := by
      rw [phase_step_of_resumed hi]
      exact UpgradePhase.noConfusion
    obtain ⟨n, hin, hnj, hpauses⟩ :=
      exists_pauses hij hj hgoesOn (UpgradeRecord.requested_of_resumed h).1
    refine ⟨m, Nat.lt_of_lt_of_le hin (hm.le hnj hpauses), hm.lt, ?_⟩
    rw [htoken]
    exact hother
  case neverResumed =>
    intro k hk hsame h
    obtain ⟨m, token, hm, htoken, -, hother⟩ := asksToResume_of_resumed hk h
    rw [hsame m (Nat.le_of_lt hm.lt), ← hsame k (Nat.le_refl k)] at hother
    exact hother htoken
  case neverAborted =>
    intro k hk hsame h
    obtain ⟨token, htoken, -, hother⟩ := asksToAbort_of_aborted hk h
    exact hother (hsame ▸ htoken)
  case paused =>
    intro k hk hpaused
    have hstep := step_of_paused hpaused
    refine ⟨hstep ▸ UpgradeRecord.restart_step_of_paused hpaused, ?_⟩
    cases hmove : ((r.record k).step (r.pass k)).move with
    | none =>
      left
      rw [hstep, UpgradeRecord.phase_step, hmove]
      exact hpaused
    | some m =>
      right
      have hmoves : r.MovesBy k m.event := ⟨m, hstep ▸ hmove, rfl⟩
      rcases (UpgradeRecord.movesBy_of_paused hpaused hmove).2 with hevent | hevent
      · exact .inl ⟨hevent ▸ hmoves, asksToResume_of_resumed hk (hevent ▸ hmoves)⟩
      · exact .inr ⟨hevent ▸ hmoves, asksToAbort_of_aborted hk (hevent ▸ hmoves)⟩

end RequestRun

/-! ## A value that is used twice -/

/-- What a pass over three servers sees some seconds later, with the values of both annotations. -/
def threeAsked (seconds : Int) (resume abort : Option String) : UpgradeObservation :=
  { threeServingAt seconds ["1", "1", "1"] resume .healthy with tokens := { resume, abort } }

/-- The last server is restarted and never comes back. The value `go` is there from before the
upgrade, is taken away, and is put back when the upgrade is paused; it stays there when the upgrade
is paused again. -/
def insistingPass : Nat → UpgradeObservation
  | 0 | 1 => threeAsked 0 (some "go") none
  | 2 => threeAsked 600 none none
  | 3 => threeAsked 700 (some "go") none
  | 4 => threeAsked 1300 (some "go") none
  | 5 => threeAsked 1400 (some "go") (some "")
  | _ => threeAsked 1500 (some "go") (some "stop")

def insistingRecord : Nat → UpgradeRecord
  | 0 => .starting "1" "2" (insistingPass 0).tokens
  | k + 1 => ((insistingRecord k).advance (insistingPass k)).record

theorem targetVersion_insistingRecord (k : Nat) : (insistingRecord k).targetVersion = "2" := by
  induction k with
  | zero => rfl
  | succ k ih =>
    exact ((insistingRecord k).continues_advance (insistingPass k)).targetVersion.trans ih

def insisting : RequestRun where
  declared _ := "2"
  running _ := some "1"
  pass := insistingPass
  last := 6
  record := insistingRecord
  starts := ⟨none, rfl⟩
  proceeds k _ := ⟨false, if_pos (targetVersion_insistingRecord (k + 1))⟩

theorem moves_insisting :
    insisting.MovesBy 2 .stepTimedOut ∧ insisting.MovesBy 3 .resumed ∧
      insisting.MovesBy 4 .stepTimedOut ∧ insisting.MovesBy 6 .aborted ∧
      (insisting.record 5).phase = .paused ∧ (insisting.step 5).move = none := by
  decide +kernel

/-- The value that was put back resumes the upgrade, and does not do so again; another value of the
other annotation aborts it. -/
theorem heedful_insisting :
    (insisting.MovesBy 3 .resumed ∧ insisting.AsksToResume 3) ∧
      ((insisting.record 5).phase = .paused ∧ (insisting.step 5).restart = []) ∧
      (insisting.MovesBy 6 .aborted ∧ insisting.AsksToAbort 6) := by
  obtain ⟨-, hresumed, -, haborted, hpaused, -⟩ := moves_insisting
  have h := RequestRun.heedful insisting
  have hidle := (h.paused 5 (by decide) hpaused).1
  exact ⟨⟨hresumed, h.resumed 3 (by decide) hresumed⟩, ⟨hpaused, hidle⟩,
    haborted, h.aborted 6 (by decide) haborted⟩

end ClusterOperator
