import ClusterOperator.Proofs.Time.Instants
import ClusterOperator.Proofs.Upgrade.Order

/-!
# Servers in flight

A server that was restarted, or that is found down, is in flight until it is seen upgraded, and the
record dates when it was put there. The same pass filters the list, extends it by what it observes,
extends it again by what it restarts, and may rewrite it by a move. What comes out has a simple
description, which is all that later proofs use:

> **`mem_inFlight_step`** — after a step, every server in flight is planned and not upgraded; and
> either it was in flight before, with the same date, or it carries the clock of the step, and then
> it is new or the step resumed the upgrade.

The other date of a record is that of the last gate. It is kept only while the gate is what the
upgrade waits for (`waits_of_postCheckSince`).
-/

set_option autoImplicit false

namespace ClusterOperator

open Instant

/-! ## Times in the record -/

/-- A date that was written by a pass can be read. -/
theorem hasWaited_toText {t now : Instant} {seconds : Nat} :
    hasWaited t.toText now seconds = true ↔ seconds ≤ elapsed t now := by
  unfold hasWaited
  rw [parse?_toText]
  exact decide_eq_true_iff

theorem not_hasWaited_now {now : Instant} {seconds : Nat} (h : 0 < seconds) :
    hasWaited now.toText now seconds = false := by
  refine Bool.eq_false_iff.mpr fun hwaited => ?_
  have hle := hasWaited_toText.mp hwaited
  rw [elapsed_self] at hle
  omega

/-! ## Events -/

namespace UpgradePhase

variable {phase : UpgradePhase} {c : UpgradeContext}

/-- What an event takes in order to be observed. Events are looked for one after another, so the
grounds of a later one include that the earlier ones had none; only what is used of that is kept. -/
def Grounds (phase : UpgradePhase) (c : UpgradeContext) : UpgradeEvent → Prop
  | .aborted => phase.isTerminal = false ∧ c.abortRequested = true
  | .preChecksPassed => phase = .pending ∧ c.preGatePassed = true
  | .stepTimedOut => phase = .inProgress ∧ c.stepTimedOut = true
  | .healthGateFailed =>
    phase = .inProgress ∧ (c.clusterSplit = true ∨ c.postGateTimedOut = true)
  | .allServersUpgraded =>
    phase = .inProgress ∧ c.allServersUpgraded = true ∧ c.postGatePassed = true
  | .resumed => phase = .paused ∧ c.resumeRequested = true

/-- **An event is observed only on its grounds.** -/
theorem grounds_of_event? {event : UpgradeEvent} (h : phase.event? c = some event) :
    phase.Grounds c event := by
  -- Along the text: a phase that is over has no event, and an abort comes before all others.
  unfold event? at h
  split at h
  · cases h
  rename_i hopen
  split at h
  · rename_i habort
    cases h
    exact ⟨by simpa using hopen, habort⟩
  cases phase with
  | completed | failed => cases h
  | pending =>
    dsimp only at h
    split at h
    · rename_i hgate
      cases h
      exact ⟨rfl, hgate⟩
    · cases h
  | inProgress =>
    dsimp only at h
    split at h
    · rename_i hlate
      cases h
      exact ⟨rfl, hlate⟩
    split at h
    · rename_i hfailed
      cases h
      exact ⟨rfl, Bool.or_eq_true_iff.mp hfailed⟩
    split at h
    · rename_i hall
      cases h
      exact ⟨rfl, Bool.and_eq_true_iff.mp hall⟩
    · cases h
  | paused =>
    dsimp only at h
    split at h
    · rename_i hasked
      cases h
      exact ⟨rfl, hasked⟩
    · cases h

/-- While an upgrade goes on, a server that took too long is always an event. -/
theorem stepTimedOut_of_event?_eq_none (h : inProgress.event? c = none) :
    c.stepTimedOut = false := by
  unfold event? at h
  simp only [isTerminal] at h
  grind

end UpgradePhase

/-- That a step makes a move by an event. -/
def UpgradeStep.MovesBy (step : UpgradeStep) (event : UpgradeEvent) : Prop :=
  ∃ m, step.move = some m ∧ m.event = event

instance (step : UpgradeStep) (event : UpgradeEvent) : Decidable (step.MovesBy event) :=
  decidable_of_iff _ Option.map_eq_some_iff

namespace UpgradeRecord

variable {record : UpgradeRecord} {o : UpgradeObservation} {m : UpgradeMove}
  {event : UpgradeEvent} {f : InFlightServer} {text : String}

theorem event?_of_movesBy (h : (record.step o).MovesBy event) :
    record.phase.event? ((record.observed o).context o (record.serverStates o)) = some event := by
  obtain ⟨m, hmove, rfl⟩ := h
  obtain ⟨event, hevent, hmove⟩ := Option.bind_eq_some_iff.mp hmove
  rw [(UpgradePhase.move?_eq_some hmove).2.2]
  exact hevent

theorem event?_of_stay (h : (record.step o).move = none) :
    record.phase.event? ((record.observed o).context o (record.serverStates o)) = none := by
  -- An event that is observed is always accepted, so without a move there was none.
  by_contra hnot
  obtain ⟨event, hevent⟩ := Option.ne_none_iff_exists'.mp hnot
  have hmove : (record.step o).move =
      record.phase.move? event ((record.observed o).context o (record.serverStates o)) := by
    show (record.phase.event? _).bind _ = _
    rw [hevent]
    rfl
  have hsome := UpgradePhase.isSome_move? hevent
  rw [← hmove, h] at hsome
  cases hsome

/-! ## What is found in flight -/

theorem mem_foldl_addInFlight {now : String} {states : List ServerState}
    {inFlight : List InFlightServer} (h : f ∈ states.foldl (addInFlight now) inFlight) :
    f ∈ inFlight ∨ ∃ s ∈ states, f = ⟨s.planned.ordinal, now⟩ ∧
      inFlight.any (·.ordinal == s.planned.ordinal) = false := by
  -- The list grows while it is gone through: what is added for one server keeps the next of the
  -- same ordinal from being added.
  induction states generalizing inFlight with
  | nil => exact .inl h
  | cons s rest ih =>
    rw [List.foldl_cons] at h
    cases hflying : inFlight.any (·.ordinal == s.planned.ordinal) with
    | true =>
      have hsame : addInFlight now inFlight s = inFlight := if_pos hflying
      rw [hsame] at h
      refine (ih h).imp_right ?_
      rintro ⟨t, ht, rfl, hnew⟩
      exact ⟨t, List.mem_cons_of_mem _ ht, rfl, hnew⟩
    | false =>
      have hadded : addInFlight now inFlight s = inFlight ++ [⟨s.planned.ordinal, now⟩] :=
        if_neg (by rw [hflying]; exact Bool.false_ne_true)
      rw [hadded] at h
      rcases ih h with hmem | ⟨t, ht, rfl, hnew⟩
      · rcases List.mem_append.mp hmem with hold | hown
        · exact .inl hold
        · exact .inr ⟨s, List.mem_cons_self, List.mem_singleton.mp hown, hflying⟩
      · rw [List.any_append, Bool.or_eq_false_iff] at hnew
        exact .inr ⟨t, List.mem_cons_of_mem _ ht, rfl, hnew.1⟩

/-- A step finds in flight what was in flight and is not upgraded, and what is down and was not. -/
theorem mem_inFlight_observed (hholds : record.phase.holdsPods)
    (h : f ∈ (record.observed o).inFlight) :
    ∃ p ∈ record.planUsed o, p.ordinal = f.ordinal ∧ record.isUpgraded o p = false ∧
      (f ∈ record.inFlight ∨ (f.startedAt = o.now.toText ∧ record.hasInFlight p = false)) := by
  have hfound : f ∈ trackInFlight o.now.toText (record.serverStates o) record.inFlight := by
    rwa [show (record.observed o).inFlight = _ from if_pos hholds] at h
  rcases mem_foldl_addInFlight hfound with hkept | ⟨s, hs, rfl, hnew⟩
  · obtain ⟨hf, hwaits⟩ := List.mem_filter.mp hkept
    obtain ⟨s, hs, hmatches⟩ := List.any_eq_true.mp hwaits
    obtain ⟨p, hp, rfl⟩ := List.mem_map.mp hs
    obtain ⟨hordinal, hnot⟩ := Bool.and_eq_true_iff.mp hmatches
    exact ⟨p, hp, beq_iff_eq.mp hordinal, (Bool.not_eq_true' _).mp hnot, .inl hf⟩
  · obtain ⟨hstate, hdown⟩ := List.mem_filter.mp hs
    obtain ⟨p, hp, rfl⟩ := List.mem_map.mp hstate
    have hnot : record.isUpgraded o p = false :=
      (Bool.not_eq_true' _).mp (Bool.and_eq_true_iff.mp hdown).1
    refine ⟨p, hp, rfl, hnot, .inr ⟨rfl, ?_⟩⟩
    -- Were it in flight before, it would be among those that the filter keeps.
    by_contra hflying
    obtain ⟨g, hg, hgp⟩ := List.any_eq_true.mp (Bool.of_not_eq_false hflying)
    have hkept : g ∈ record.inFlight.filter fun f =>
        (record.serverStates o).any fun s => s.planned.ordinal == f.ordinal && !s.upgraded := by
      refine List.mem_filter.mpr ⟨hg, List.any_eq_true.mpr ⟨_, hstate, ?_⟩⟩
      show (p.ordinal == g.ordinal && !record.isUpgraded o p) = true
      rw [hnot, beq_iff_eq.mp hgp]
      simp
    have hany := List.any_eq_false.mp hnew g hkept
    exact hany hgp

/-! ## What a step leaves in flight -/

theorem inFlight_applyMove (o : UpgradeObservation) (plan : List PlannedServer) (m : UpgradeMove)
    (record : UpgradeRecord) : (applyMove o plan m record).1.inFlight =
      match m.event with
      | .allServersUpgraded | .aborted => []
      | .resumed => record.inFlight.map fun f => { f with startedAt := o.now.toText }
      | .preChecksPassed | .stepTimedOut | .healthGateFailed => record.inFlight := by
  unfold applyMove
  cases m.event <;> rfl

/-- A move adds nothing to what is in flight, and only a resumption gives it another date. -/
theorem mem_inFlight_applyMove {plan : List PlannedServer}
    (h : f ∈ (applyMove o plan m record).1.inFlight) :
    (m.event ≠ .resumed ∧ f ∈ record.inFlight) ∨
      (m.event = .resumed ∧ ∃ g ∈ record.inFlight, f = ⟨g.ordinal, o.now.toText⟩) := by
  rw [inFlight_applyMove] at h
  cases hevent : m.event with
  | allServersUpgraded | aborted => rw [hevent] at h; cases h
  | resumed =>
    rw [hevent] at h
    obtain ⟨g, hg, rfl⟩ := List.mem_map.mp h
    exact .inr ⟨rfl, g, hg, rfl⟩
  | preChecksPassed | stepTimedOut | healthGateFailed =>
    rw [hevent] at h
    exact .inl ⟨UpgradeEvent.noConfusion, h⟩

theorem not_hasInFlight_of_up {p : PlannedServer} (hnot : record.isUpgraded o p = false)
    (hup : record.isDown o p = false) : record.hasInFlight p = false := by
  unfold isDown at hup
  rw [hnot] at hup
  simp only [Bool.not_false, Bool.and_true, Bool.or_eq_false_iff] at hup
  exact hup.1.1

/-- **What is in flight after a step is planned and not upgraded.** It was in flight before, with
the same date; or it has the date of the step, and then it is new or the step resumed the
upgrade. -/
theorem mem_inFlight_step (hholds : record.phase.holdsPods)
    (h : f ∈ (record.step o).record.inFlight) :
    ∃ p ∈ record.planUsed o, p.ordinal = f.ordinal ∧ record.isUpgraded o p = false ∧
      ((f ∈ record.inFlight ∧ ¬ (record.step o).MovesBy .resumed) ∨
        (f.startedAt = o.now.toText ∧
          (record.hasInFlight p = false ∨ (record.step o).MovesBy .resumed))) := by
  -- What is found in flight keeps its date unless the step resumes, with or without a move.
  have hfound (hin : f ∈ (record.observed o).inFlight)
      (hstays : ¬ (record.step o).MovesBy .resumed) :
      ∃ p ∈ record.planUsed o, p.ordinal = f.ordinal ∧ record.isUpgraded o p = false ∧
        ((f ∈ record.inFlight ∧ ¬ (record.step o).MovesBy .resumed) ∨
          (f.startedAt = o.now.toText ∧
            (record.hasInFlight p = false ∨ (record.step o).MovesBy .resumed))) := by
    obtain ⟨p, hp, hordinal, hnot, hold | ⟨hnow, hnew⟩⟩ := mem_inFlight_observed hholds hin
    · exact ⟨p, hp, hordinal, hnot, .inl ⟨hold, hstays⟩⟩
    · exact ⟨p, hp, hordinal, hnot, .inr ⟨hnow, .inl hnew⟩⟩
  -- Without a move the restarted servers come in addition; with one nothing is restarted, and only
  -- a resumption writes dates.
  cases hmove : (record.step o).move with
  | none =>
    rw [(step_of_stay hmove).2] at h
    rcases List.mem_append.mp h with hin | hrestarted
    · refine hfound hin ?_
      rintro ⟨m, hm, -⟩
      cases hmove.symm.trans hm
    · obtain ⟨s, hs, rfl⟩ := List.mem_map.mp hrestarted
      obtain ⟨p, hp, rfl, hnot, hup⟩ := of_mem_chosen hs
      exact ⟨p, hp, rfl, hnot, .inr ⟨rfl, .inl (not_hasInFlight_of_up hnot hup)⟩⟩
  | some m =>
    rw [(step_of_move hmove).2] at h
    rcases mem_inFlight_applyMove h with ⟨hevent, hin⟩ | ⟨hevent, g, hg, rfl⟩
    · refine hfound hin ?_
      rintro ⟨m', hm', hresumed⟩
      cases hmove.symm.trans hm'
      exact hevent hresumed
    · obtain ⟨p, hp, hordinal, hnot, -⟩ := mem_inFlight_observed hholds hg
      exact ⟨p, hp, hordinal, hnot, .inr ⟨rfl, .inr ⟨m, hmove, hevent⟩⟩⟩

theorem inFlight_step_of_pending (hpending : record.phase = .pending)
    (hnone : record.inFlight = []) : (record.step o).record.inFlight = [] := by
  have hfound : (record.observed o).inFlight = [] := by
    rw [← hnone]
    exact if_neg (by rw [hpending]; exact Bool.false_ne_true)
  cases hmove : (record.step o).move with
  | none =>
    have hchosen : record.chosen o = [] :=
      if_neg fun hmay => by cases hpending.symm.trans (mayRestart_iff.mp hmay).1
    rw [(step_of_stay hmove).2, hfound, hchosen]
    rfl
  | some m =>
    rw [(step_of_move hmove).2, inFlight_applyMove, hfound]
    cases m.event <;> rfl

/-! ## The last gate -/

/-- That an upgrade waits for nothing but its last gate: every planned server is upgraded, and the
membership has to be healthy and is not. This is what the date of the gate stands for, so it says
nothing of how long. -/
structure WaitsForGate (record : UpgradeRecord) (o : UpgradeObservation) : Prop where
  upgraded : ∀ p ∈ record.planUsed o, record.isUpgraded o p
  required : o.strategy.postUpgradeHealthCheck = true
  closed : o.health ≠ .healthy

/-- **The gate is dated while it is what an upgrade waits for**, and the date is not renewed. -/
theorem waits_of_postCheckSince (h : (record.observed o).postCheckSince = some text) :
    record.phase = .inProgress ∧ record.WaitsForGate o ∧
      text = record.postCheckSince.getD o.now.toText := by
  unfold observed at h
  dsimp only at h
  generalize hfound : (if record.phase.holdsPods then
    trackInFlight o.now.toText (record.serverStates o) record.inFlight
    else record.inFlight) = inFlight at h
  split at h
  · rename_i hwaiting
    simp only [Bool.and_eq_true, beq_iff_eq, Bool.not_eq_true', Bool.or_eq_false_iff,
      Bool.not_eq_false', beq_eq_false_iff_ne] at hwaiting
    obtain ⟨⟨hphase, hall, -⟩, hrequired, hclosed⟩ := hwaiting
    refine ⟨hphase, ⟨fun p hp => ?_, hrequired, hclosed⟩, (Option.some.inj h).symm⟩
    exact List.countP_eq_length.mp hall _ (List.mem_map_of_mem hp)
  · cases h

theorem postCheckSince_applyMove (o : UpgradeObservation) (plan : List PlannedServer)
    (m : UpgradeMove) (record : UpgradeRecord) : (applyMove o plan m record).1.postCheckSince =
      if m.event = .allServersUpgraded then none else record.postCheckSince := by
  unfold applyMove
  cases m.event <;> rfl

theorem postCheckSince_step (h : (record.step o).record.postCheckSince = some text) :
    (record.observed o).postCheckSince = some text := by
  unfold step at h
  dsimp only at h
  generalize ((record.observed o).phase.event? _).bind _ = move at h
  cases move with
  | none =>
    dsimp only at h
    split at h <;> exact h
  | some m =>
    have hmoved : (applyMove o (record.planUsed o) m (record.observed o)).1.postCheckSince =
        some text := h
    rw [postCheckSince_applyMove] at hmoved
    split at hmoved
    · cases hmoved
    · exact hmoved

/-! ## What the timers decide -/

theorem exists_overdue (h : (record.step o).MovesBy .stepTimedOut) :
    record.phase = .inProgress ∧
      ∃ f ∈ (record.observed o).inFlight, hasWaited f.startedAt o.now o.stepTimeout = true := by
  obtain ⟨hphase, hlate⟩ := UpgradePhase.grounds_of_event? (event?_of_movesBy h)
  exact ⟨hphase, List.any_eq_true.mp (Bool.and_eq_true_iff.mp hlate).2⟩

/-- While an upgrade goes on and nothing happens, no server in flight is overdue. -/
theorem not_overdue_of_stay (hphase : record.phase = .inProgress)
    (hstay : (record.step o).move = none) :
    ∀ f ∈ (record.observed o).inFlight, hasWaited f.startedAt o.now o.stepTimeout = false := by
  have hnone := event?_of_stay hstay
  rw [hphase] at hnone
  have hcalm : (record.phase == .inProgress && (record.observed o).inFlight.any
      fun f => hasWaited f.startedAt o.now o.stepTimeout) = false :=
    UpgradePhase.stepTimedOut_of_event?_eq_none hnone
  rw [hphase] at hcalm
  exact fun f hf => Bool.eq_false_iff.mpr (List.any_eq_false.mp hcalm f hf)

theorem split_or_gate_overdue (h : (record.step o).MovesBy .healthGateFailed) :
    o.health = .split ∨ ∃ text, (record.observed o).postCheckSince = some text ∧
      hasWaited text o.now o.stepTimeout = true := by
  obtain ⟨-, hsplit | hlate⟩ := UpgradePhase.grounds_of_event? (event?_of_movesBy h)
  · exact .inl (beq_iff_eq.mp hsplit)
  · exact .inr ((Option.any_eq_true _ _).mp hlate)

end UpgradeRecord

/-! ## Runs of passes -/

/-- The passes over one record, from when it waits with nothing in flight. The order may be fixed
already, and every pass sees what it sees. A record that starts is of this kind, and the statements
about the servers in flight need no more of it. -/
structure FlightRun where
  start : UpgradeRecord
  pass : Nat → UpgradeObservation
  pending : start.phase = .pending
  grounded : start.inFlight = []

namespace FlightRun

variable (r : FlightRun)

/-- The record before a pass. -/
def recordAt : Nat → UpgradeRecord
  | 0 => r.start
  | k + 1 => ((recordAt k).advance (r.pass k)).record

/-- That a pass moves the record by an event. -/
def MovesBy (k : Nat) (event : UpgradeEvent) : Prop :=
  ((r.recordAt k).advance (r.pass k)).MovesBy event

instance (k : Nat) (event : UpgradeEvent) : Decidable (r.MovesBy k event) :=
  inferInstanceAs (Decidable (((r.recordAt k).advance (r.pass k)).MovesBy event))

/-- That a server is in the order that a pass goes by. -/
def Plans (k : Nat) (p : PlannedServer) : Prop :=
  ∃ q ∈ (r.recordAt k).planUsed (r.pass k), q.ordinal = p.ordinal

/-- That a pass sees a server run the target image, serve and be in the majority. -/
def Upgraded (k : Nat) (p : PlannedServer) : Prop := (r.recordAt k).isUpgraded (r.pass k) p

/-- That a pass leaves a server in flight. -/
def Flies (k : Nat) (p : PlannedServer) : Prop := (r.recordAt (k + 1)).hasInFlight p

variable {r} {k : Nat} {event : UpgradeEvent}

theorem advance_of_movesBy (h : r.MovesBy k event) :
    (r.recordAt k).advance (r.pass k) = (r.recordAt k).step (r.pass k) := by
  refine UpgradeRecord.advance_of_open (Bool.eq_false_iff.mpr fun hover => ?_)
  obtain ⟨m, hm, -⟩ := h
  unfold UpgradeRecord.advance at hm
  rw [if_pos hover] at hm
  cases hm

theorem movesBy_step (h : r.MovesBy k event) :
    ((r.recordAt k).step (r.pass k)).MovesBy event := by
  rw [← advance_of_movesBy h]
  exact h

theorem movesBy_of_step (hopen : (r.recordAt k).phase.isTerminal = false)
    (h : ((r.recordAt k).step (r.pass k)).MovesBy event) : r.MovesBy k event := by
  unfold MovesBy
  rwa [UpgradeRecord.advance_of_open hopen]

theorem recordAt_succ_of_open (h : (r.recordAt k).phase.isTerminal = false) :
    r.recordAt (k + 1) = ((r.recordAt k).step (r.pass k)).record :=
  congrArg (·.record) (UpgradeRecord.advance_of_open h)

theorem inFlight_recordAt_of_pending (h : (r.recordAt k).phase = .pending) :
    (r.recordAt k).inFlight = [] := by
  induction k with
  | zero => exact r.grounded
  | succ k ih =>
    have hbefore : (r.recordAt k).phase = .pending := by
      have hnever : ∀ m ∈ upgradeMoves, m.target ≠ .pending := by decide
      rcases ((r.recordAt k).continues_advance (r.pass k)).phase with hsame | ⟨m, hm, -, htarget⟩
      · exact hsame.symm.trans h
      · exact absurd (htarget.trans h) (hnever m hm)
    have hopen : (r.recordAt k).phase.isTerminal = false := by
      rw [hbefore]
      rfl
    rw [recordAt_succ_of_open hopen]
    exact UpgradeRecord.inFlight_step_of_pending hbefore (ih hbefore)

theorem inFlight_recordAt_succ_of_pending (h : (r.recordAt k).phase = .pending) :
    (r.recordAt (k + 1)).inFlight = [] := by
  rw [recordAt_succ_of_open (by rw [h]; rfl)]
  exact UpgradeRecord.inFlight_step_of_pending h (inFlight_recordAt_of_pending h)

end FlightRun

end ClusterOperator
