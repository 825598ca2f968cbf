import ClusterOperator.Proofs.Upgrade.Repetition
import ClusterOperator.Proofs.Upgrade.Timers

/-!
# Which servers are in flight

The list of the servers in flight is the memory of an upgrade: the budget for restarts, the timers
and the completion all go by it. One pass filters it, extends it by what it observes, extends it
again by what it restarts, and may rewrite it by a move. All the same it is known after every pass
of an upgrade that goes on:

> **`tracked`** — no server is listed twice; listed are the servers of the order which the pass does
> not find upgraded and which were listed before, do not serve, run the target image or are
> restarted by the pass; and a server that stays in the list keeps its date unless the upgrade is
> resumed, which dates all servers anew.

By their ordinals, the servers that a pass finds in flight are the planned ones that are down
(`mem_flying_observed`), and what it leaves are these and then the ones that it restarts
(`flying_step`), which were up.

An order that names an ordinal twice makes a pass restart a server twice, and list it twice; and
where the order that was fixed is empty, each pass goes by one of its own (`not_tracked_doubled`).
The operator makes no such orders for servers that are declared, but what a record holds is taken as
it is.
-/

set_option autoImplicit false

namespace ClusterOperator

namespace UpgradeRecord

variable {record : UpgradeRecord} {o : UpgradeObservation} {p : PlannedServer} {x : Ordinal}

/-- The servers in flight, by their ordinals. -/
def flying (record : UpgradeRecord) : List Ordinal := record.inFlight.map (·.ordinal)

theorem mem_flying_iff : p.ordinal ∈ record.flying ↔ record.hasInFlight p = true := by
  simp [flying, hasInFlight]

/-! ## What a pass finds in flight -/

theorem ordinals_addInFlight (now : String) (inFlight : List InFlightServer) (s : ServerState) :
    (addInFlight now inFlight s).map (·.ordinal) =
      if s.planned.ordinal ∈ inFlight.map (·.ordinal) then inFlight.map (·.ordinal)
      else inFlight.map (·.ordinal) ++ [s.planned.ordinal] := by
  have hany : inFlight.any (·.ordinal == s.planned.ordinal) = true ↔
      s.planned.ordinal ∈ inFlight.map (·.ordinal) := by
    simp
  unfold addInFlight
  simp only [hany]
  split
  · rfl
  · rw [List.map_append, List.map_singleton]

theorem mem_ordinals_foldl_addInFlight {now : String} {states : List ServerState}
    {inFlight : List InFlightServer} :
    x ∈ (states.foldl (addInFlight now) inFlight).map (·.ordinal) ↔
      x ∈ inFlight.map (·.ordinal) ∨ x ∈ states.map (·.planned.ordinal) := by
  induction states generalizing inFlight with
  | nil => simp
  | cons s rest ih =>
    have hadded : x ∈ (addInFlight now inFlight s).map (·.ordinal) ↔
        x ∈ inFlight.map (·.ordinal) ∨ x = s.planned.ordinal := by
      rw [ordinals_addInFlight]
      split
      · rename_i hmem
        exact ⟨.inl, fun h => h.elim id fun heq => heq ▸ hmem⟩
      · rw [List.mem_append, List.mem_singleton]
    rw [List.foldl_cons, ih, hadded, List.map_cons, List.mem_cons, or_assoc]

theorem nodup_ordinals_foldl_addInFlight {now : String} {inFlight : List InFlightServer}
    (states : List ServerState) (h : (inFlight.map (·.ordinal)).Nodup) :
    ((states.foldl (addInFlight now) inFlight).map (·.ordinal)).Nodup := by
  induction states generalizing inFlight with
  | nil => exact h
  | cons s rest ih =>
    refine ih ?_
    rw [ordinals_addInFlight]
    split
    · exact h
    · rename_i hnew
      exact h.append (List.nodup_singleton _) (List.disjoint_singleton.mpr hnew)

/-- What makes a server be down. -/
theorem isDown_iff : record.isDown o p = true ↔ record.isUpgraded o p = false ∧
    (record.hasInFlight p = true ∨ o.serves p = false ∨
      o.runs (record.targetImage o) p = true) := by
  rw [← unavailable_serverState]
  show (!record.isUpgraded o p &&
    (record.hasInFlight p || !o.serves p || o.runs (record.targetImage o) p)) = true ↔ _
  simp only [Bool.and_eq_true, Bool.or_eq_true, Bool.not_eq_true', or_assoc]

/-- **In flight are found the planned servers that are down.** What was in flight and is upgraded,
or is not planned, is forgotten. -/
theorem mem_flying_observed (hholds : record.phase.holdsPods) :
    x ∈ (record.observed o).flying ↔
      ∃ p ∈ record.planUsed o, p.ordinal = x ∧ record.isDown o p = true := by
  have hfound : (record.observed o).inFlight =
      trackInFlight o.now.toText (record.serverStates o) record.inFlight := if_pos hholds
  unfold flying
  rw [hfound, trackInFlight, mem_ordinals_foldl_addInFlight]
  simp only [serverStates_eq, List.mem_map, List.mem_filter, List.any_eq_true, Bool.and_eq_true,
    beq_iff_eq, Bool.not_eq_true']
  constructor
  · rintro (⟨f, ⟨hf, s, ⟨p, hp, rfl⟩, hordinal, hnot⟩, rfl⟩ | ⟨s, ⟨⟨p, hp, rfl⟩, hdown⟩, rfl⟩)
    · have hflying : record.hasInFlight p = true :=
        List.any_eq_true.mpr ⟨f, hf, beq_iff_eq.mpr hordinal.symm⟩
      exact ⟨p, hp, hordinal, isDown_of_hasInFlight hflying hnot⟩
    · exact ⟨p, hp, rfl, (unavailable_serverState p).symm.trans hdown⟩
  · rintro ⟨p, hp, rfl, hdown⟩
    exact .inr ⟨_, ⟨⟨p, hp, rfl⟩, (unavailable_serverState p).trans hdown⟩, rfl⟩

theorem nodup_flying_observed (h : record.flying.Nodup) : (record.observed o).flying.Nodup := by
  show ((if record.phase.holdsPods then
    trackInFlight o.now.toText (record.serverStates o) record.inFlight
    else record.inFlight).map (·.ordinal)).Nodup
  split
  · exact nodup_ordinals_foldl_addInFlight _ ((List.filter_sublist.map _).nodup h)
  · exact h

/-! ## What a pass leaves in flight -/

/-- **A pass leaves in flight what it finds there and what it restarts**, unless it ends the
upgrade. -/
theorem flying_step (hopen : (record.step o).record.phase.isTerminal = false) :
    (record.step o).record.flying =
      (record.observed o).flying ++ (record.chosen o).map (·.planned.ordinal) := by
  unfold flying
  cases hmove : (record.step o).move with
  | none => rw [(step_of_stay hmove).2, List.map_append, List.map_map]; rfl
  | some m =>
    -- A pass that makes a move restarts nothing, and only the moves that end drop the list.
    have hnone : record.chosen o = [] :=
      if_neg fun hmay => by cases hmove.symm.trans (mayRestart_iff.mp hmay).2.1
    have hends : ∀ m ∈ upgradeMoves, m.target.isTerminal = false →
        m.event ≠ .allServersUpgraded ∧ m.event ≠ .aborted := by decide
    have hkeeps : m.event ≠ .allServersUpgraded ∧ m.event ≠ .aborted := by
      refine hends m (move_step hmove).1 ?_
      rw [phase_step, hmove] at hopen
      exact hopen
    rw [(step_of_move hmove).2, inFlight_applyMove, hnone, List.map_nil, List.append_nil]
    cases hevent : m.event with
    | preChecksPassed | stepTimedOut | healthGateFailed => rfl
    | resumed => simp [Function.comp_def]
    | allServersUpgraded => exact absurd hevent hkeeps.1
    | aborted => exact absurd hevent hkeeps.2

theorem ordinals_chosen_sublist : ((record.chosen o).map (·.planned.ordinal)).Sublist
    ((record.planUsed o).map (·.ordinal)) := by
  have hchosen : ((record.chosen o).map (·.planned)).Sublist (record.planUsed o) := sublist_chosen
  have hordinals := hchosen.map (·.ordinal)
  rwa [List.map_map] at hordinals

/-- **A pass lists no server twice.** What it finds in flight is down, and what it restarts was
up. -/
theorem nodup_flying_step (hplan : (record.plan.map (·.ordinal)).Nodup)
    (hholds : record.phase.holdsPods) (hopen : (record.step o).record.phase.isTerminal = false)
    (h : record.flying.Nodup) : (record.step o).record.flying.Nodup := by
  rw [flying_step hopen]
  refine (nodup_flying_observed h).append
    (ordinals_chosen_sublist.nodup (nodup_ordinal_planUsed hplan)) ?_
  intro x hfound hrestarted
  obtain ⟨p, -, hordinal, hdown⟩ := (mem_flying_observed hholds).mp hfound
  obtain ⟨s, hs, rfl⟩ := List.mem_map.mp hrestarted
  obtain ⟨q, -, rfl, -, hup⟩ := of_mem_chosen hs
  rw [isDown_congr hordinal] at hdown
  cases hdown.symm.trans hup

/-- **Which servers a pass leaves in flight.** -/
theorem mem_flying_step (hholds : record.phase.holdsPods)
    (hopen : (record.step o).record.phase.isTerminal = false) :
    x ∈ (record.step o).record.flying ↔ ∃ p ∈ record.planUsed o, p.ordinal = x ∧
      record.isUpgraded o p = false ∧
        (record.hasInFlight p = true ∨ o.serves p = false ∨
          o.runs (record.targetImage o) p = true ∨
          podName o.clusterName p.ordinal ∈ (record.step o).restart) := by
  rw [flying_step hopen, List.mem_append, mem_flying_observed hholds]
  -- A server that is down is found in flight; one that is up gets there only by being restarted.
  constructor
  · rintro (⟨p, hp, hordinal, hdown⟩ | hrestarted)
    · obtain ⟨hnot, hcause⟩ := isDown_iff.mp hdown
      exact ⟨p, hp, hordinal, hnot, hcause.imp_right fun h => h.imp_right .inl⟩
    · obtain ⟨s, hs, rfl⟩ := List.mem_map.mp hrestarted
      have hpod : s.pod ∈ (record.step o).restart := by
        rw [restart_step_eq]
        exact List.mem_map_of_mem hs
      obtain ⟨p, hp, rfl, hnot, -⟩ := of_mem_chosen hs
      exact ⟨p, hp, rfl, hnot, .inr (.inr (.inr hpod))⟩
  · rintro ⟨p, hp, rfl, hnot, hcause⟩
    by_cases hdown : record.isDown o p = true
    · exact .inl ⟨p, hp, rfl, hdown⟩
    · have hrestarted : podName o.clusterName p.ordinal ∈ (record.step o).restart := by
        by_contra hidle
        refine hdown (isDown_iff.mpr ⟨hnot, ?_⟩)
        exact hcause.imp_right fun h => h.imp_right fun h => h.resolve_right hidle
      obtain ⟨q, -, hqp, hs⟩ := exists_chosen hrestarted
      exact .inr (List.mem_map.mpr ⟨_, hs, hqp⟩)

end UpgradeRecord

/-! ## Runs of passes -/

namespace FlightRun

/-- That the upgrade begins in a pass, which fixes the order. -/
def Begins (r : FlightRun) (k : Nat) : Prop :=
  (r.recordAt k).phase = .pending ∧ (r.recordAt (k + 1)).phase = .inProgress

/-- What is known of the servers in flight after a pass. The list decides which servers count as
down before they are seen to be, so both directions matter: a server left out could be restarted
twice, and one too many would hold the upgrade up. -/
structure Tracked (r : FlightRun) (k : Nat) : Prop where
  /-- No server is listed twice. -/
  distinct : (r.recordAt (k + 1)).flying.Nodup
  /-- The order is the one that was fixed when the upgrade began. -/
  frozen : ∃ j < k, r.Begins j ∧ (r.recordAt k).plan = (r.recordAt j).planUsed (r.pass j) ∧
    (r.recordAt (k + 1)).plan = (r.recordAt k).plan
  /-- Only servers of that order are listed. Were it empty, each pass would make its own. -/
  planned : (r.recordAt k).plan ≠ [] → (r.recordAt k).planUsed (r.pass k) = (r.recordAt k).plan ∧
    (r.recordAt (k + 1)).flying ⊆ (r.recordAt k).plan.map (·.ordinal)
  /-- Listed are the planned servers that are not upgraded and that were listed before, do not
  serve, run the target image or are restarted. -/
  exact : ∀ x, x ∈ (r.recordAt (k + 1)).flying ↔
    ∃ p ∈ (r.recordAt k).planUsed (r.pass k), p.ordinal = x ∧ ¬ r.Upgraded k p ∧
      ((r.recordAt k).hasInFlight p = true ∨ (r.pass k).serves p = false ∨
        (r.pass k).runs ((r.recordAt k).targetImage (r.pass k)) p = true ∨
        podName (r.pass k).clusterName p.ordinal ∈
          ((r.recordAt k).advance (r.pass k)).restart)
  /-- A server that stays in flight keeps its date. -/
  kept : ¬ r.MovesBy k .resumed → ∀ f ∈ (r.recordAt k).inFlight,
    ∀ g ∈ (r.recordAt (k + 1)).inFlight, g.ordinal = f.ordinal → g.startedAt = f.startedAt
  /-- A pass that resumes the upgrade dates all servers in flight. -/
  renewed : r.MovesBy k .resumed →
    ∀ g ∈ (r.recordAt (k + 1)).inFlight, g.startedAt = (r.pass k).now.toText

variable {r : FlightRun} {k : Nat}

/-- An order that is not the operator's own is kept, and its own names no ordinal twice. -/
theorem nodup_plan (hplan : (r.start.plan.map (·.ordinal)).Nodup) (k : Nat) :
    ((r.recordAt k).plan.map (·.ordinal)).Nodup := by
  induction k with
  | zero => exact hplan
  | succ k ih =>
    by_cases hpending : (r.recordAt k).phase = .pending
    · have hcases := UpgradeRecord.plan_advance_of_pending (o := r.pass k) hpending
      show (((r.recordAt k).advance (r.pass k)).record.plan.map (·.ordinal)).Nodup
      rcases hcases with ⟨-, hfixed⟩ | ⟨-, hsame⟩
      · rw [hfixed]
        exact UpgradeRecord.nodup_ordinal_planUsed ih
      · rwa [hsame]
    · rw [show (r.recordAt (k + 1)).plan = (r.recordAt k).plan from
        (UpgradeRecord.sameUpgrade_advance hpending).plan]
      exact ih

/-- **No server is in flight twice** while the upgrade is not over. By induction on the passes. -/
theorem nodup_flying (hplan : (r.start.plan.map (·.ordinal)).Nodup)
    (hopen : (r.recordAt k).phase.isTerminal = false) : (r.recordAt k).flying.Nodup := by
  induction k with
  | zero =>
    rw [show (r.recordAt 0).flying = [] from congrArg (List.map _) r.grounded]
    exact List.nodup_nil
  | succ k ih =>
    have hbefore := UpgradeRecord.open_of_advance hopen
    by_cases hpending : (r.recordAt k).phase = .pending
    · unfold UpgradeRecord.flying
      rw [inFlight_recordAt_succ_of_pending hpending]
      exact List.nodup_nil
    · rw [recordAt_succ_of_open hbefore] at hopen ⊢
      exact UpgradeRecord.nodup_flying_step (nodup_plan hplan k)
        (UpgradePhase.holdsPods_of_open hbefore hpending) hopen (ih hbefore)

/-- The order of an upgrade that goes on was fixed in the pass in which it began. -/
theorem exists_begins (hholds : (r.recordAt k).phase.holdsPods) :
    ∃ j < k, r.Begins j ∧ (r.recordAt k).plan = (r.recordAt j).planUsed (r.pass j) := by
  induction k with
  | zero =>
    have hpending : (r.recordAt 0).phase = .pending := r.pending
    rw [hpending] at hholds
    cases hholds
  | succ k ih =>
    by_cases hpending : (r.recordAt k).phase = .pending
    · rcases UpgradeRecord.plan_advance_of_pending (o := r.pass k) hpending with
        ⟨hbegun, hplan⟩ | ⟨hidle, -⟩
      · exact ⟨k, Nat.lt_succ_self k, ⟨hpending, hbegun⟩, hplan⟩
      · cases hidle.symm.trans hholds
    · have hbefore : (r.recordAt k).phase.isTerminal = false :=
        UpgradeRecord.open_of_advance (UpgradePhase.open_of_holdsPods hholds)
      obtain ⟨j, hjk, hbegins, hplan⟩ := ih (UpgradePhase.holdsPods_of_open hbefore hpending)
      refine ⟨j, Nat.lt_succ_of_lt hjk, hbegins, ?_⟩
      exact (UpgradeRecord.sameUpgrade_advance hpending).plan.trans hplan

/-- **Which servers a pass leaves in flight.** -/
theorem mem_flying_succ (hholds : (r.recordAt k).phase.holdsPods)
    (hopen : (r.recordAt (k + 1)).phase.isTerminal = false) (x : Ordinal) :
    x ∈ (r.recordAt (k + 1)).flying ↔
      ∃ p ∈ (r.recordAt k).planUsed (r.pass k), p.ordinal = x ∧ ¬ r.Upgraded k p ∧
        ((r.recordAt k).hasInFlight p = true ∨ (r.pass k).serves p = false ∨
          (r.pass k).runs ((r.recordAt k).targetImage (r.pass k)) p = true ∨
          podName (r.pass k).clusterName p.ordinal ∈
            ((r.recordAt k).advance (r.pass k)).restart) := by
  have hbefore := UpgradeRecord.open_of_advance hopen
  rw [recordAt_succ_of_open hbefore] at hopen ⊢
  rw [UpgradeRecord.mem_flying_step hholds hopen, UpgradeRecord.advance_of_open hbefore]
  unfold Upgraded
  simp only [Bool.not_eq_true]

/-- **What is known of the servers in flight.** After every pass over an upgrade that has begun and
goes on, the list of the servers in flight is as it should be, whatever the passes see. -/
theorem tracked (r : FlightRun) (hplan : (r.start.plan.map (·.ordinal)).Nodup) (k : Nat)
    (hholds : (r.recordAt k).phase.holdsPods)
    (hopen : (r.recordAt (k + 1)).phase.isTerminal = false) : r.Tracked k := by
  have hbefore := UpgradeRecord.open_of_advance hopen
  have hstep := recordAt_succ_of_open hbefore
  constructor
  case distinct => exact nodup_flying hplan hopen
  case frozen =>
    obtain ⟨j, hjk, hbegins, hfixed⟩ := exists_begins hholds
    exact ⟨j, hjk, hbegins, hfixed, UpgradeRecord.plan_advance_of_holds hholds⟩
  case planned =>
    intro hne
    have hused : (r.recordAt k).planUsed (r.pass k) = (r.recordAt k).plan := by
      rw [UpgradeRecord.planUsed_eq, if_neg hne]
    refine ⟨hused, fun x hx => ?_⟩
    obtain ⟨p, hp, rfl, -⟩ := (mem_flying_succ hholds hopen x).mp hx
    exact List.mem_map_of_mem (hused ▸ hp)
  case exact => exact mem_flying_succ hholds hopen
  -- An entry of the same ordinal after the pass is the old entry, or it would be of a server that
  -- was not in flight.
  case kept =>
    intro hstays f hf g hg hordinal
    obtain ⟨p, -, hpg, -, ⟨hold, -⟩ | ⟨-, hnew | hresumed⟩⟩ :=
      UpgradeRecord.mem_inFlight_step hholds (hstep ▸ hg)
    · rw [List.inj_on_of_nodup_map (nodup_flying hplan hbefore) hold hf hordinal]
    · have hflying : p.ordinal ∈ (r.recordAt k).flying := by
        rw [hpg, hordinal]
        exact List.mem_map_of_mem hf
      cases hnew.symm.trans (UpgradeRecord.mem_flying_iff.mp hflying)
    · exact absurd (movesBy_of_step hbefore hresumed) hstays
  case renewed =>
    intro hresumed g hg
    obtain ⟨p, -, -, -, ⟨-, hstays⟩ | ⟨hnow, -⟩⟩ :=
      UpgradeRecord.mem_inFlight_step hholds (hstep ▸ hg)
    · exact absurd (movesBy_step hresumed) hstays
    · exact hnow

end FlightRun

/-- The pass that resumes the upgrade keeps the last server in flight and dates it anew. -/
theorem tracked_troubled :
    (troubled.start.plan.map (·.ordinal)).Nodup ∧ (troubled.recordAt 3).phase.holdsPods ∧
      (troubled.recordAt 4).phase.isTerminal = false ∧ troubled.Tracked 3 ∧
      (troubled.recordAt 3).inFlight = [⟨2, "1970-01-01T00:00:00Z"⟩] ∧
      (troubled.recordAt 4).inFlight = [⟨2, "1970-01-01T00:11:40Z"⟩] := by
  have hplan : (troubled.start.plan.map (·.ordinal)).Nodup := by decide
  have hholds : (troubled.recordAt 3).phase.holdsPods := by decide +kernel
  have hopen : (troubled.recordAt 4).phase.isTerminal = false := by decide +kernel
  exact ⟨hplan, hholds, hopen, FlightRun.tracked troubled hplan 3 hholds hopen,
    by decide +kernel, by decide +kernel⟩

/-! ## Orders that were not made for the servers -/

/-- The order names a server twice, and two servers may be down. -/
def doubled : FlightRun where
  start := { phase := .pending, targetVersion := "2", plan := [⟨0, .secondary⟩, ⟨0, .secondary⟩] }
  pass _ := { threeServing ["1", "1", "1"] with strategy := { maxUnavailable := 2 } }
  pending := rfl
  grounded := rfl

/-- The upgrade begins while no servers are declared, so no order is fixed. -/
def unordered : FlightRun where
  start := { phase := .pending, targetVersion := "3" }
  pass k :=
    { threeServing ["1", "1", "1"] with
      topology := { deployment := .cluster (if k = 0 then 0 else 3) 2, constraints := [] } }
  pending := rfl
  grounded := rfl

/-- **A server is in flight twice if the order names it twice, and none of the order is in flight if
the order is empty.** -/
theorem not_tracked_doubled :
    ((doubled.recordAt 1).phase = .inProgress ∧ (doubled.recordAt 2).phase = .inProgress ∧
        (doubled.recordAt 2).flying = [0, 0]) ∧
      ((unordered.recordAt 1).phase = .inProgress ∧ (unordered.recordAt 2).phase = .inProgress ∧
        (unordered.recordAt 1).plan = [] ∧ (unordered.recordAt 2).flying = [2]) := by
  decide +kernel

end ClusterOperator
