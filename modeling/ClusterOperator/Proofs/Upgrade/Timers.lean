import ClusterOperator.Proofs.Upgrade.Flight

/-!
# The timers of an upgrade

Two clocks may stop an upgrade: a server that does not come back in time, and a last gate that stays
closed. Neither runs inside the program. A pass only compares its own time with a date in the
record, and these dates are written by one pass, kept by others across pauses, renewed by a
resumption and dropped when a server is seen upgraded. What they mean is a statement about the
passes in between:

> **`timely`** — no pass that goes on leaves a server in flight that is overdue; and if one stops
> the upgrade for lack of time, then a server has been stuck, or the gate has been closed, in every
> pass for that long.

The date of a server in flight is the clock of a pass since which it is stuck (`exists_stuckSince`);
the date of the gate is the clock of a pass since which the gate is closed (`exists_waitsForGate`).
Clocks are whatever they are: nothing is assumed of their order.
-/

set_option autoImplicit false

namespace ClusterOperator

open Instant

namespace FlightRun

/-- That a pass puts a server in flight and that it has been stuck ever since: planned, not upgraded
and in flight. Its time is renewed by the last resumption after that, if there is one. -/
structure StuckSince (r : FlightRun) (first renewed last : Nat) (p : PlannedServer) : Prop where
  first_le : first ≤ renewed
  le_last : renewed ≤ last
  /-- Before, the server was not in flight. -/
  fresh : (r.recordAt first).hasInFlight p = false
  stuck : ∀ m, first ≤ m → m ≤ last → r.Plans m p ∧ ¬ r.Upgraded m p ∧ r.Flies m p
  renewal : renewed = first ∨ r.MovesBy renewed .resumed
  latest : ∀ m, renewed < m → m ≤ last → ¬ r.MovesBy m .resumed

/-- The promises of the two timers. Both are told from the side of the one who waits: no stop
without a server or a gate that was stuck in every pass for that long, and none of them overlooked
once the time is over. -/
structure Timely (r : FlightRun) : Prop where
  /-- A pass that goes on leaves no server in flight that is overdue. -/
  inTime : ∀ k, (r.recordAt (k + 1)).phase = .inProgress → ∀ f ∈ (r.recordAt (k + 1)).inFlight,
    ∃ t, parse? f.startedAt = some t ∧ elapsed t (r.pass k).now < (r.pass k).stepTimeout
  /-- The upgrade stops for a server that has been stuck for too long. -/
  overdue : ∀ k, r.MovesBy k .stepTimedOut → ∃ p first renewed, renewed < k ∧
    r.StuckSince first renewed k p ∧
    (r.pass k).stepTimeout ≤ elapsed (r.pass renewed).now (r.pass k).now
  /-- It stops for a split, or for a gate that has been closed for too long. -/
  closed : ∀ k, r.MovesBy k .healthGateFailed → (r.pass k).health = .split ∨
    ∃ j, j ≤ k ∧ (∀ m, j ≤ m → m ≤ k → (r.recordAt m).WaitsForGate (r.pass m)) ∧
      (r.pass k).stepTimeout ≤ elapsed (r.pass j).now (r.pass k).now

variable {r : FlightRun} {first renewed k : Nat} {p q : PlannedServer}

/-! ## Since when a server is stuck -/

theorem StuckSince.start (hfresh : (r.recordAt k).hasInFlight p = false)
    (hstuck : r.Plans k p ∧ ¬ r.Upgraded k p ∧ r.Flies k p) : r.StuckSince k k k p where
  first_le := Nat.le_refl k
  le_last := Nat.le_refl k
  fresh := hfresh
  stuck _ hkm hmk := Nat.le_antisymm hkm hmk ▸ hstuck
  renewal := .inl rfl
  latest _ hkm hmk := absurd hmk (Nat.not_le.mpr hkm)

/-- One pass more in which the server is stuck. -/
theorem StuckSince.stuck_succ (h : r.StuckSince first renewed k p)
    (hstuck : r.Plans (k + 1) p ∧ ¬ r.Upgraded (k + 1) p ∧ r.Flies (k + 1) p) :
    ∀ m, first ≤ m → m ≤ k + 1 → r.Plans m p ∧ ¬ r.Upgraded m p ∧ r.Flies m p := by
  intro m hfirst hmk
  rcases Nat.le_succ_iff.mp hmk with hle | rfl
  · exact h.stuck m hfirst hle
  · exact hstuck

theorem StuckSince.keep (h : r.StuckSince first renewed k p)
    (hstuck : r.Plans (k + 1) p ∧ ¬ r.Upgraded (k + 1) p ∧ r.Flies (k + 1) p)
    (hstays : ¬ r.MovesBy (k + 1) .resumed) : r.StuckSince first renewed (k + 1) p where
  first_le := h.first_le
  le_last := Nat.le_succ_of_le h.le_last
  fresh := h.fresh
  stuck := h.stuck_succ hstuck
  renewal := h.renewal
  latest m hrenewed hmk := by
    rcases Nat.le_succ_iff.mp hmk with hle | rfl
    · exact h.latest m hrenewed hle
    · exact hstays

theorem StuckSince.renew (h : r.StuckSince first renewed k p)
    (hstuck : r.Plans (k + 1) p ∧ ¬ r.Upgraded (k + 1) p ∧ r.Flies (k + 1) p)
    (hresumed : r.MovesBy (k + 1) .resumed) : r.StuckSince first (k + 1) (k + 1) p where
  first_le := Nat.le_succ_of_le (Nat.le_trans h.first_le h.le_last)
  le_last := Nat.le_refl _
  fresh := h.fresh
  stuck := h.stuck_succ hstuck
  renewal := .inr hresumed
  latest _ hrenewed hmk := absurd hmk (Nat.not_le.mpr hrenewed)

theorem StuckSince.congr (h : r.StuckSince first renewed k p) (hpq : p.ordinal = q.ordinal) :
    r.StuckSince first renewed k q where
  first_le := h.first_le
  le_last := h.le_last
  fresh := by
    have hfresh := h.fresh
    unfold UpgradeRecord.hasInFlight at hfresh ⊢
    rwa [← hpq]
  stuck m hfirst hmk := by
    have hstuck := h.stuck m hfirst hmk
    unfold Plans Upgraded Flies UpgradeRecord.hasInFlight at *
    rwa [← hpq, ← UpgradeRecord.isUpgraded_congr hpq]
  renewal := h.renewal
  latest := h.latest

/-- **A server in flight is dated by a pass since which it is stuck.** By induction on the passes:
what a pass finds in flight was dated by the one before, and what it adds or renews carries its own
time. -/
theorem exists_stuckSince (hopen : (r.recordAt k).phase.isTerminal = false) :
    ∀ f ∈ (r.recordAt (k + 1)).inFlight, ∃ p first renewed, p.ordinal = f.ordinal ∧
      r.StuckSince first renewed k p ∧ f.startedAt = (r.pass renewed).now.toText := by
  induction k with
  | zero =>
    intro f hf
    have hpending : (r.recordAt 0).phase = .pending := r.pending
    rw [inFlight_recordAt_succ_of_pending hpending] at hf
    cases hf
  | succ k ih =>
    intro f hf
    by_cases hpending : (r.recordAt (k + 1)).phase = .pending
    · rw [inFlight_recordAt_succ_of_pending hpending] at hf
      cases hf
    have hholds : (r.recordAt (k + 1)).phase.holdsPods :=
      UpgradePhase.holdsPods_of_open hopen hpending
    have hbefore := ih (UpgradeRecord.open_of_advance hopen)
    have hstep := recordAt_succ_of_open hopen
    obtain ⟨p, hp, hordinal, hnot, horigin⟩ :=
      UpgradeRecord.mem_inFlight_step hholds (hstep ▸ hf)
    have hstuck : r.Plans (k + 1) p ∧ ¬ r.Upgraded (k + 1) p ∧ r.Flies (k + 1) p :=
      ⟨⟨p, hp, rfl⟩, Bool.eq_false_iff.mp hnot,
        List.any_eq_true.mpr ⟨f, hf, beq_iff_eq.mpr hordinal.symm⟩⟩
    -- Its date is the old one, that of a server just found, or that of a resumption; in the last
    -- case it may have been stuck before.
    rcases horigin with ⟨hold, hstays⟩ | ⟨hnow, hnew | hresumed⟩
    · obtain ⟨q, first, renewed, hq, hsince, hdate⟩ := hbefore f hold
      have hsame := hsince.congr (hq.trans hordinal.symm)
      exact ⟨p, first, renewed, hordinal, hsame.keep hstuck (mt movesBy_step hstays), hdate⟩
    · exact ⟨p, k + 1, k + 1, hordinal, .start hnew hstuck, hnow⟩
    · cases hflying : (r.recordAt (k + 1)).hasInFlight p with
      | false => exact ⟨p, k + 1, k + 1, hordinal, .start hflying hstuck, hnow⟩
      | true =>
        obtain ⟨g, hg, hgp⟩ := List.any_eq_true.mp hflying
        obtain ⟨q, first, renewed, hq, hsince, -⟩ := hbefore g hg
        have hsame := hsince.congr (hq.trans (beq_iff_eq.mp hgp))
        exact ⟨p, first, k + 1, hordinal, hsame.renew hstuck (movesBy_of_step hopen hresumed), hnow⟩

/-! ## Since when the gate is closed -/

/-- **The gate is dated by a pass since which it is closed.** -/
theorem exists_waitsForGate {text : String}
    (h : ((r.recordAt k).observed (r.pass k)).postCheckSince = some text) :
    ∃ j, j ≤ k ∧ (∀ m, j ≤ m → m ≤ k → (r.recordAt m).WaitsForGate (r.pass m)) ∧
      text = (r.pass j).now.toText := by
  induction k generalizing text with
  | zero =>
    obtain ⟨hphase, -⟩ := UpgradeRecord.waits_of_postCheckSince h
    cases hphase.symm.trans r.pending
  | succ k ih =>
    obtain ⟨hphase, hwaits, hdate⟩ := UpgradeRecord.waits_of_postCheckSince h
    -- A date that is there was kept from the pass before, so the gate was closed there as well; a
    -- new one begins here.
    cases hsince : (r.recordAt (k + 1)).postCheckSince with
    | none =>
      rw [hsince] at hdate
      refine ⟨k + 1, Nat.le_refl _, fun m hkm hmk => ?_, hdate⟩
      exact Nat.le_antisymm hkm hmk ▸ hwaits
    | some since =>
      rw [hsince] at hdate
      have hopen : (r.recordAt (k + 1)).phase.isTerminal = false := by
        rw [hphase]
        rfl
      rw [recordAt_succ_of_open (UpgradeRecord.open_of_advance hopen)] at hsince
      obtain ⟨j, hjk, hall, htext⟩ := ih (UpgradeRecord.postCheckSince_step hsince)
      refine ⟨j, Nat.le_succ_of_le hjk, fun m hjm hmk => ?_, hdate.trans htext⟩
      rcases Nat.le_succ_iff.mp hmk with hle | rfl
      · exact hall m hjm hle
      · exact hwaits

/-! ## The promises -/

theorem inFlight_of_stepTimedOut (h : r.MovesBy k .stepTimedOut) :
    (r.recordAt (k + 1)).inFlight = ((r.recordAt k).observed (r.pass k)).inFlight := by
  obtain ⟨m, hmove, hevent⟩ := movesBy_step h
  have hstep : r.recordAt (k + 1) = _ := congrArg (·.record) (advance_of_movesBy h)
  rw [hstep, (UpgradeRecord.step_of_move hmove).2, UpgradeRecord.inFlight_applyMove, hevent]

/-- **A pass that goes on leaves no server in flight that is overdue.** -/
theorem inTime_of_goesOn (hpatient : 0 < (r.pass k).stepTimeout)
    (hphase : (r.recordAt (k + 1)).phase = .inProgress) :
    ∀ f ∈ (r.recordAt (k + 1)).inFlight,
      hasWaited f.startedAt (r.pass k).now (r.pass k).stepTimeout = false := by
  have hopen : (r.recordAt k).phase.isTerminal = false := by
    refine UpgradeRecord.open_of_advance (o := r.pass k) ?_
    rw [show ((r.recordAt k).advance (r.pass k)).record.phase = _ from hphase]
    rfl
  rw [recordAt_succ_of_open hopen] at hphase ⊢
  rw [UpgradeRecord.phase_step] at hphase
  intro f hf
  cases hmove : ((r.recordAt k).step (r.pass k)).move with
  | none =>
    rw [hmove] at hphase
    rw [(UpgradeRecord.step_of_stay hmove).2] at hf
    rcases List.mem_append.mp hf with hfound | hrestarted
    · exact UpgradeRecord.not_overdue_of_stay hphase hmove f hfound
    · obtain ⟨s, -, rfl⟩ := List.mem_map.mp hrestarted
      exact not_hasWaited_now hpatient
  | some m =>
    rw [hmove] at hphase
    -- The moves that lead here begin the upgrade, with nothing in flight, or resume it.
    have hleads : ∀ m ∈ upgradeMoves, m.target = .inProgress →
        m.source = .pending ∨ m.event = .resumed := by decide
    obtain ⟨hm, hsource⟩ := UpgradeRecord.move_step hmove
    rcases hleads m hm hphase with hbegins | hresumed
    · rw [← recordAt_succ_of_open hopen,
        inFlight_recordAt_succ_of_pending (hsource.symm.trans hbegins)] at hf
      cases hf
    · rw [(UpgradeRecord.step_of_move hmove).2] at hf
      rcases UpgradeRecord.mem_inFlight_applyMove hf with ⟨hother, -⟩ | ⟨-, g, -, rfl⟩
      · exact absurd hresumed hother
      · exact not_hasWaited_now hpatient

/-- **The timers of an upgrade keep their promises**, if no pass has a timeout of zero. A date in
the record is that of a pass since which the server was stuck all along, so what is read off the
record can be said of the passes. -/
theorem timely (r : FlightRun) (hpatient : ∀ k, 0 < (r.pass k).stepTimeout) : r.Timely := by
  constructor
  case inTime =>
    intro k hphase f hf
    have hopen : (r.recordAt (k + 1)).phase.isTerminal = false := by
      rw [hphase]
      rfl
    have hcalm := inTime_of_goesOn (hpatient k) hphase f hf
    obtain ⟨p, first, renewed, -, -, hdate⟩ :=
      exists_stuckSince (UpgradeRecord.open_of_advance hopen) f hf
    rw [hdate] at hcalm ⊢
    refine ⟨(r.pass renewed).now, parse?_toText _, Nat.not_le.mp fun hlate => ?_⟩
    cases hcalm.symm.trans (hasWaited_toText.mpr hlate)
  case overdue =>
    intro k hmoves
    obtain ⟨hphase, f, hf, hwaited⟩ := UpgradeRecord.exists_overdue (movesBy_step hmoves)
    rw [← inFlight_of_stepTimedOut hmoves] at hf
    have hopen : (r.recordAt k).phase.isTerminal = false := by
      rw [hphase]
      rfl
    obtain ⟨p, first, renewed, -, hsince, hdate⟩ := exists_stuckSince hopen f hf
    rw [hdate] at hwaited
    refine ⟨p, first, renewed, Nat.lt_of_le_of_ne hsince.le_last ?_, hsince,
      hasWaited_toText.mp hwaited⟩
    -- No time has passed for a server that was put in flight, or renewed, in this very pass.
    rintro rfl
    cases hwaited.symm.trans (not_hasWaited_now (hpatient renewed))
  case closed =>
    intro k hmoves
    refine (UpgradeRecord.split_or_gate_overdue (movesBy_step hmoves)).imp_right ?_
    rintro ⟨text, htext, hwaited⟩
    obtain ⟨j, hjk, hall, rfl⟩ := exists_waitsForGate htext
    exact ⟨j, hjk, hall, hasWaited_toText.mp hwaited⟩

end FlightRun

/-! ## An upgrade that is stopped three times -/

/-- What a pass sees some seconds later, and in which health. -/
def threeServingAt (seconds : Int) (tags : List String) (resume : Option String)
    (health : MembershipHealth) : UpgradeObservation :=
  { threeServing tags with
    now := Instant.epoch.addSeconds seconds
    tokens := { resume }
    classification := { (threeServing tags).classification with health } }

/-- The last server is restarted and does not come back, is given another ten minutes and does not
come back in these either. When all are upgraded at last, their views disagree. -/
def troubled : FlightRun where
  start := { phase := .pending, previousVersion := some "1", targetVersion := "2" }
  pass
    | 0 | 1 => threeServing ["1", "1", "1"]
    | 2 => threeServingAt 600 ["1", "1", "1"] none .healthy
    | 3 => threeServingAt 700 ["1", "1", "1"] (some "once") .healthy
    | 4 => threeServingAt 1300 ["1", "1", "1"] (some "once") .healthy
    | 5 => threeServingAt 1400 ["2", "2", "2"] (some "twice") .converging
    | 6 => threeServingAt 1500 ["2", "2", "2"] (some "twice") .converging
    | _ => threeServingAt 2100 ["2", "2", "2"] (some "twice") .converging
  pending := rfl
  grounded := rfl

theorem moves_troubled :
    troubled.MovesBy 2 .stepTimedOut ∧ troubled.MovesBy 3 .resumed ∧
      troubled.MovesBy 4 .stepTimedOut ∧ troubled.MovesBy 7 .healthGateFailed := by
  decide +kernel

theorem stepTimeout_troubled (k : Nat) : (troubled.pass k).stepTimeout = 600 := by
  match k with
  | 0 | 1 | 2 | 3 | 4 | 5 | 6 => decide
  | _ + 7 => exact (by decide : (threeServingAt 2100 [] none .healthy).stepTimeout = 600)

/-- The second stop is for a server that was stuck for ten minutes after it was given them, the
third for a gate that was closed for ten minutes. -/
theorem timely_troubled :
    (∀ k, 0 < (troubled.pass k).stepTimeout) ∧
      (troubled.MovesBy 4 .stepTimedOut ∧ ∃ p first renewed, renewed < 4 ∧
        troubled.StuckSince first renewed 4 p ∧
        600 ≤ elapsed (troubled.pass renewed).now (troubled.pass 4).now) ∧
      (troubled.MovesBy 7 .healthGateFailed ∧ ∃ j, j ≤ 7 ∧
        (∀ m, j ≤ m → m ≤ 7 → (troubled.recordAt m).WaitsForGate (troubled.pass m)) ∧
        600 ≤ elapsed (troubled.pass j).now (troubled.pass 7).now) := by
  have hpatient : ∀ k, 0 < (troubled.pass k).stepTimeout := by
    intro k
    rw [stepTimeout_troubled]
    decide
  obtain ⟨-, -, hlate, hclosed⟩ := moves_troubled
  have htimely := FlightRun.timely troubled hpatient
  have hstuck := htimely.overdue 4 hlate
  have hshut := (htimely.closed 7 hclosed).resolve_left (by decide)
  rw [stepTimeout_troubled] at hstuck hshut
  exact ⟨hpatient, ⟨hlate, hstuck⟩, hclosed, hshut⟩

end ClusterOperator
