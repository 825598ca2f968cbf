import ClusterOperator.Proofs.Upgrade.Lifecycle
import ClusterOperator.Proofs.Upgrade.Restarts

/-!
# Whose turn it is

The order of an upgrade is fixed once, when the upgrade begins, and from then on every pass decides
afresh whom to restart. What it remembers of the restarts before is the list of servers in flight,
which is filtered, extended and renewed as pods come and go.

> **`orderly`** — between two restarts of a server some pass has seen it upgraded; no server is
> restarted while one before it waits; and where one server may be down at a time, all before it are
> upgraded.

For the first, a server stays in flight until it is seen upgraded (`hasInFlight_of_le`), or until
the upgrade is over, and then nothing is restarted any more. The rest is about a single pass: the
servers it restarts are the first of those that wait.
-/

set_option autoImplicit false

namespace ClusterOperator

theorem length_lt_of_mem_take {α : Type} {a b : List α} {x : α} {n : Nat}
    (h : x ∈ (a ++ x :: b).take n) (hx : x ∉ a) : a.length < n := by
  by_contra hle
  rw [List.take_append_of_le_length (Nat.not_lt.mp hle)] at h
  exact hx (List.mem_of_mem_take h)

/-! ## The plan -/

theorem plan_applyMove (o : UpgradeObservation) (plan : List PlannedServer) (m : UpgradeMove)
    (record : UpgradeRecord) : (applyMove o plan m record).1.plan =
      if m.event = .preChecksPassed then plan else record.plan := by
  unfold applyMove
  cases hevent : m.event <;> rfl

/-- The order that a pass would fix. -/
def UpgradeObservation.order (o : UpgradeObservation) : List PlannedServer :=
  buildPlan o.clusterName o.topology o.hosted o.strategy.order

namespace UpgradeRecord

variable {record : UpgradeRecord} {o : UpgradeObservation} {m : UpgradeMove} {p q : PlannedServer}

/-- The state in which a step finds a planned server. -/
def stateOf (record : UpgradeRecord) (o : UpgradeObservation) (p : PlannedServer) : ServerState :=
  o.serverState (record.targetImage o) record.inFlight p

theorem serverStates_eq : record.serverStates o = (record.planUsed o).map (record.stateOf o) := rfl

/-- The servers that a step chooses for a restart. -/
def chosen (record : UpgradeRecord) (o : UpgradeObservation) : List ServerState :=
  if mayRestart o record.phase (record.step o).move then
    (chooseRestarts (restartBudget o.strategy (record.serverStates o)) (record.serverStates o)).2
  else []

theorem restart_step_eq : (record.step o).restart = (record.chosen o).map (·.pod) := by
  rw [restart_step]
  unfold chosen
  split <;> rfl

/-- That a step leaves a record, with the servers in flight and the progress written anew. These two
are written in every step, so the rest of a step can be told by the record without them. -/
def Leaves (step : UpgradeStep) (left : UpgradeRecord) : Prop :=
  ∃ inFlight progress, step.record = { left with inFlight, progress }

/-- **What a step does**: it makes a move, or it is blocked before the upgrade has begun, or it
leaves the record as it found it. -/
theorem step_cases (record : UpgradeRecord) (o : UpgradeObservation) :
    (∃ m, (record.step o).move = some m ∧ (record.step o).blocked = none ∧
        Leaves (record.step o) (applyMove o (record.planUsed o) m (record.observed o)).1) ∨
      ((record.step o).move = none ∧ record.phase = .pending ∧
        (record.step o).blocked = some (blockedNote o) ∧
        Leaves (record.step o) { record.observed o with lastError := some (blockedNote o) }) ∨
      ((record.step o).move = none ∧ record.phase ≠ .pending ∧ (record.step o).blocked = none ∧
        Leaves (record.step o) (record.observed o)) := by
  unfold step
  simp only
  generalize ((record.observed o).phase.event? _).bind _ = move
  cases move with
  | some m => exact .inl ⟨m, rfl, rfl, _, _, rfl⟩
  | none =>
    by_cases hpending : (record.observed o).phase = .pending
    · simp only [if_pos hpending]
      exact .inr (.inl ⟨trivial, hpending, trivial, _, _, rfl⟩)
    · simp only [if_neg hpending]
      exact .inr (.inr ⟨trivial, hpending, trivial, _, _, rfl⟩)

/-- What a move makes of the order and of the servers in flight. A step that moves restarts
nothing. -/
theorem step_of_move (h : (record.step o).move = some m) :
    (record.step o).record.plan =
        (if m.event = .preChecksPassed then record.planUsed o else record.plan) ∧
      (record.step o).record.inFlight =
        (applyMove o (record.planUsed o) m (record.observed o)).1.inFlight := by
  have hmay : ¬ mayRestart o record.phase (record.step o).move = true := by
    rw [h, mayRestart_iff]
    simp
  unfold step at h hmay ⊢
  simp only at h hmay ⊢
  rw [if_neg hmay, h]
  simp only [plan_applyMove, List.map_nil, List.append_nil]
  exact ⟨rfl, trivial⟩

theorem step_of_stay (h : (record.step o).move = none) :
    (record.step o).record.plan = record.plan ∧
      (record.step o).record.inFlight = (record.observed o).inFlight ++
        (record.chosen o).map fun s => ⟨s.planned.ordinal, o.now.toText⟩ := by
  -- The chosen servers and the blocked record depend on two different conditions, so the step is
  -- opened once for each.
  by_cases hmay : mayRestart o record.phase (record.step o).move
  · rw [show record.chosen o = _ from if_pos hmay]
    unfold step at h hmay ⊢
    simp only at h hmay ⊢
    rw [if_pos hmay, h]
    by_cases hpending : (record.observed o).phase = .pending
    · simp only [if_pos hpending]
      exact ⟨rfl, trivial⟩
    · simp only [if_neg hpending]
      exact ⟨rfl, trivial⟩
  · rw [show record.chosen o = _ from if_neg hmay]
    unfold step at h hmay ⊢
    simp only at h hmay ⊢
    rw [if_neg hmay, h]
    by_cases hpending : (record.observed o).phase = .pending
    · simp only [if_pos hpending]
      exact ⟨rfl, trivial⟩
    · simp only [if_neg hpending]
      exact ⟨rfl, trivial⟩

/-! ## What a pass makes of the plan -/

theorem advance_of_open (h : record.phase.isTerminal = false) :
    record.advance o = record.step o := by
  unfold advance
  rw [if_neg]
  rw [h]
  exact Bool.false_ne_true

theorem open_of_advance (h : (record.advance o).record.phase.isTerminal = false) :
    record.phase.isTerminal = false := by
  by_contra hover
  have hsame : (record.advance o).record = record :=
    (record.continues_advance o).ended (Bool.of_not_eq_false hover)
  rw [hsame] at h
  exact hover h

theorem phase_advance_ne_pending (h : record.phase.holdsPods) :
    (record.advance o).record.phase ≠ .pending := by
  intro hpending
  have hnever : ∀ m ∈ upgradeMoves, m.target ≠ .pending := by decide
  rcases (record.continues_advance o).phase with hsame | ⟨m, hm, -, htarget⟩
  · rw [← hsame, hpending] at h
    cases h
  · exact hnever m hm (htarget.trans hpending)

theorem plan_advance_of_holds (h : record.phase.holdsPods) :
    (record.advance o).record.plan = record.plan := by
  rw [advance_of_open (UpgradePhase.open_of_holdsPods h)]
  cases hmove : (record.step o).move with
  | some m =>
    obtain ⟨hm, hsource⟩ := move_step hmove
    have hbegins : ∀ m ∈ upgradeMoves, m.event = .preChecksPassed → m.source.holdsPods = false := by
      decide
    rw [(step_of_move hmove).1, if_neg]
    intro hevent
    rw [← hsource, hbegins m hm hevent] at h
    cases h
  | none => exact (step_of_stay hmove).1

/-- A record that waits begins with the order of the pass, or it has none and holds no pods. -/
theorem plan_advance_of_pending (h : record.phase = .pending) :
    ((record.advance o).record.phase = .inProgress ∧
        (record.advance o).record.plan = record.planUsed o) ∨
      ((record.advance o).record.phase.holdsPods = false ∧
        (record.advance o).record.plan = record.plan) := by
  rw [advance_of_open (by rw [h]; rfl), phase_step]
  cases hmove : (record.step o).move with
  | some m =>
    obtain ⟨hm, hsource⟩ := move_step hmove
    have hleaves : ∀ m ∈ upgradeMoves, m.source = .pending →
        (m.event = .preChecksPassed ∧ m.target = .inProgress) ∨
          (m.event ≠ .preChecksPassed ∧ m.target.holdsPods = false) := by decide
    rw [(step_of_move hmove).1]
    rcases hleaves m hm (hsource.trans h) with ⟨hevent, htarget⟩ | ⟨hevent, htarget⟩
    · exact .inl ⟨htarget, if_pos hevent⟩
    · exact .inr ⟨htarget, if_neg hevent⟩
  | none =>
    refine .inr ⟨?_, (step_of_stay hmove).1⟩
    rw [Option.map_none, Option.getD_none, h]
    rfl

/-! ## Servers in flight -/

theorem hasInFlight_applyMove (o : UpgradeObservation) (plan : List PlannedServer)
    (record : UpgradeRecord) (p : PlannedServer) (hm : m ∈ upgradeMoves)
    (hopen : m.target.isTerminal = false) :
    (applyMove o plan m record).1.hasInFlight p = record.hasInFlight p := by
  have hkeeps : m.event ≠ .allServersUpgraded ∧ m.event ≠ .aborted := by
    have hends : ∀ m ∈ upgradeMoves, m.target.isTerminal = false →
        m.event ≠ .allServersUpgraded ∧ m.event ≠ .aborted := by decide
    exact hends m hm hopen
  unfold applyMove hasInFlight
  cases hevent : m.event with
  | preChecksPassed | stepTimedOut | healthGateFailed => rfl
  | resumed => simp [Function.comp_def]
  | allServersUpgraded => exact absurd hevent hkeeps.1
  | aborted => exact absurd hevent hkeeps.2

theorem subset_foldl_addInFlight (now : String) (states : List ServerState)
    (inFlight : List InFlightServer) : inFlight ⊆ states.foldl (addInFlight now) inFlight := by
  induction states generalizing inFlight with
  | nil => exact List.Subset.refl _
  | cons s rest ih =>
    refine List.Subset.trans ?_ (ih (addInFlight now inFlight s))
    unfold addInFlight
    split
    · exact List.Subset.refl _
    · exact List.subset_append_left _ _

theorem isUpgraded_congr (h : p.ordinal = q.ordinal) :
    record.isUpgraded o p = record.isUpgraded o q := by
  unfold isUpgraded UpgradeObservation.runs UpgradeObservation.serves UpgradeObservation.hasRejoined
  rw [h]

/-- A planned server in flight that is not upgraded is found in flight. -/
theorem hasInFlight_observed (hholds : record.phase.holdsPods)
    (hplanned : ∃ q ∈ record.planUsed o, q.ordinal = p.ordinal)
    (hflying : record.hasInFlight p) (hnot : record.isUpgraded o p = false) :
    (record.observed o).hasInFlight p := by
  obtain ⟨q, hq, hqp⟩ := hplanned
  obtain ⟨f, hf, hfp⟩ := List.any_eq_true.mp hflying
  have hstate : (record.stateOf o q).upgraded = false := by
    rw [← hnot, ← isUpgraded_congr hqp]
    rfl
  have hkept : f ∈ record.inFlight.filter fun f =>
      (record.serverStates o).any fun s => s.planned.ordinal == f.ordinal && !s.upgraded := by
    refine List.mem_filter.mpr ⟨hf, List.any_eq_true.mpr ⟨_, List.mem_map_of_mem hq, ?_⟩⟩
    show (q.ordinal == f.ordinal && !(record.stateOf o q).upgraded) = true
    rw [hstate, hqp, beq_iff_eq.mp hfp]
    simp
  refine List.any_eq_true.mpr ⟨f, ?_, hfp⟩
  show f ∈ if record.phase.holdsPods then _ else _
  rw [if_pos hholds]
  exact subset_foldl_addInFlight _ _ _ hkept

theorem hasInFlight_step (hopen : (record.step o).record.phase.isTerminal = false)
    (h : (record.observed o).hasInFlight p) : (record.step o).record.hasInFlight p := by
  rw [phase_step] at hopen
  cases hmove : (record.step o).move with
  | some m =>
    rw [hmove] at hopen
    have hsame := hasInFlight_applyMove o (record.planUsed o) (record.observed o) p
      (move_step hmove).1 hopen
    unfold hasInFlight at hsame ⊢
    rw [(step_of_move hmove).2, hsame]
    exact h
  | none =>
    unfold hasInFlight at h ⊢
    rw [(step_of_stay hmove).2, List.any_append, h, Bool.true_or]

/-! ## Restarts -/

/-- A server that a step chooses is planned, not upgraded and up. -/
theorem of_mem_chosen {s : ServerState} (h : s ∈ record.chosen o) :
    ∃ q ∈ record.planUsed o, s = record.stateOf o q ∧ record.isUpgraded o q = false ∧
      record.isDown o q = false := by
  have hchosen : s ∈ (chooseRestarts (restartBudget o.strategy (record.serverStates o))
      (record.serverStates o)).2 := by
    unfold chosen at h
    split at h
    · exact h
    · cases h
  obtain ⟨hs, hupgraded, hdown⟩ := mem_chooseRestarts hchosen
  obtain ⟨q, hq, rfl⟩ := List.mem_map.mp hs
  exact ⟨q, hq, rfl, hupgraded, unavailable_serverState q ▸ hdown⟩

theorem exists_chosen (h : podName o.clusterName p.ordinal ∈ (record.step o).restart) :
    ∃ q ∈ record.planUsed o, q.ordinal = p.ordinal ∧ record.stateOf o q ∈ record.chosen o := by
  rw [restart_step_eq] at h
  obtain ⟨s, hs, hpod⟩ := List.mem_map.mp h
  obtain ⟨q, hq, rfl, -⟩ := of_mem_chosen hs
  exact ⟨q, hq, podName_injective hpod, hs⟩

theorem hasInFlight_of_restart (h : podName o.clusterName p.ordinal ∈ (record.step o).restart) :
    (record.step o).record.hasInFlight p := by
  obtain ⟨-, hmove, -⟩ := mayRestart_iff.mp (mayRestart_of_restart (List.ne_nil_of_mem h))
  obtain ⟨q, -, hqp, hs⟩ := exists_chosen h
  unfold hasInFlight
  rw [(step_of_stay hmove).2, List.any_append, Bool.or_eq_true]
  refine .inr (List.any_eq_true.mpr ⟨_, List.mem_map_of_mem hs, ?_⟩)
  exact beq_iff_eq.mpr hqp

theorem isWaiting_stateOf :
    (record.stateOf o p).isWaiting = (!record.isUpgraded o p && !record.isDown o p) := by
  rw [← unavailable_serverState]
  rfl

/-- **The servers that wait before one that is restarted are restarted with it**, and are fewer than
the budget. -/
theorem waiting_before_restart {before after : List PlannedServer}
    (hplan : record.planUsed o = before ++ p :: after)
    (hnodup : ((record.planUsed o).map (·.ordinal)).Nodup)
    (h : podName o.clusterName p.ordinal ∈ (record.step o).restart) :
    (before.filter fun q => !record.isUpgraded o q && !record.isDown o q).length <
        restartBudget o.strategy (record.serverStates o) ∧
      ∀ q ∈ before, record.isUpgraded o q = false → record.isDown o q = false →
        podName o.clusterName q.ordinal ∈ (record.step o).restart := by
  -- The servers of the plan differ in their ordinals, so the one that was chosen is this one.
  obtain ⟨p', hp', hordinal, hs⟩ := exists_chosen h
  have hp : p ∈ record.planUsed o := by
    rw [hplan]
    simp
  cases List.inj_on_of_nodup_map hnodup hp' hp hordinal
  have hmay := mayRestart_of_restart (List.ne_nil_of_mem h)
  have hchosen : record.chosen o = ((record.serverStates o).filter (·.isWaiting)).take
      (restartBudget o.strategy (record.serverStates o)) := by
    rw [← chooseRestarts_chosen]
    exact if_pos hmay
  have hwaiting : (record.stateOf o p).isWaiting := by
    rw [hchosen] at hs
    exact (List.mem_filter.mp (List.mem_of_mem_take hs)).2
  have hsplit : (record.serverStates o).filter (·.isWaiting) =
      (before.map (record.stateOf o)).filter (·.isWaiting) ++
        record.stateOf o p :: (after.map (record.stateOf o)).filter (·.isWaiting) := by
    rw [serverStates_eq, hplan, List.map_append, List.map_cons, List.filter_append,
      List.filter_cons_of_pos hwaiting]
  have hfresh : record.stateOf o p ∉ (before.map (record.stateOf o)).filter (·.isWaiting) := by
    intro hmem
    obtain ⟨q, hq, heq⟩ := List.mem_map.mp (List.mem_filter.mp hmem).1
    have hsame : q.ordinal = p.ordinal := congrArg (·.planned.ordinal) heq
    rw [hplan, List.map_append, List.nodup_append] at hnodup
    exact hnodup.2.2 _ (List.mem_map_of_mem hq) _ (List.mem_map_of_mem List.mem_cons_self) hsame
  rw [hchosen, hsplit] at hs
  have hlength := length_lt_of_mem_take hs hfresh
  constructor
  · have hsame : before.filter (fun q => !record.isUpgraded o q && !record.isDown o q) =
        before.filter ((·.isWaiting) ∘ record.stateOf o) :=
      List.filter_congr fun q _ => isWaiting_stateOf.symm
    rw [List.filter_map, List.length_map] at hlength
    rwa [hsame]
  · intro q hq hupgraded hdown
    have hmem : record.stateOf o q ∈ record.chosen o := by
      rw [hchosen, hsplit, List.take_append]
      refine List.mem_append_left _ ?_
      rw [List.take_of_length_le (Nat.le_of_lt hlength)]
      refine List.mem_filter.mpr ⟨List.mem_map_of_mem hq, ?_⟩
      rw [isWaiting_stateOf, hupgraded, hdown]
      rfl
    rw [restart_step_eq]
    exact List.mem_map_of_mem hmem

/-- Where one server may be down, all before one that is restarted are upgraded. -/
theorem upgraded_before_restart {before after : List PlannedServer}
    (hplan : record.planUsed o = before ++ p :: after)
    (hnodup : ((record.planUsed o).map (·.ordinal)).Nodup)
    (hone : o.strategy.maxUnavailable = 1)
    (h : podName o.clusterName p.ordinal ∈ (record.step o).restart) :
    ∀ q ∈ before, record.isUpgraded o q := by
  obtain ⟨hlength, -⟩ := waiting_before_restart hplan hnodup h
  have hmax : 1 ≤ o.strategy.maxUnavailable := by
    rw [hone]
    exact Int32.le_refl 1
  have hbudget := restartBudget_eq (record.serverStates o) hmax
  rw [hone, countP_unavailable] at hbudget
  have hallowed : (1 : Int32).toInt.toNat = 1 := by decide
  rw [hbudget, hallowed] at hlength
  -- The budget is one less what is down, and it has room for a restart: nothing is down.
  have hnone : (record.planUsed o).countP (record.isDown o) = 0 := by omega
  have hempty : before.filter (fun q => !record.isUpgraded o q && !record.isDown o q) = [] :=
    List.eq_nil_of_length_eq_zero (by omega)
  intro q hq
  have hmem : q ∈ record.planUsed o := by
    rw [hplan]
    exact List.mem_append_left _ hq
  have hup := List.countP_eq_zero.mp hnone q hmem
  have hidle := List.filter_eq_nil_iff.mp hempty q hq
  simpa [hup] using hidle

end UpgradeRecord

/-! ## Runs of passes -/

/-- The passes over one record, from when it is new, whatever it has in flight then. Every pass sees
what it sees; only the number of servers is known to be at least one. No pass is taken to follow
from the one before but through the record. -/
structure UpgradeRun where
  start : UpgradeRecord
  pass : Nat → UpgradeObservation
  pending : start.phase = .pending
  unplanned : start.plan = []
  /-- As in every declaration that is accepted. -/
  populated : ∀ k, 0 < (pass k).topology.servers

namespace UpgradeRun

variable (r : UpgradeRun)

/-- The record before a pass. -/
def recordAt : Nat → UpgradeRecord
  | 0 => r.start
  | k + 1 => ((recordAt k).advance (r.pass k)).record

/-- That a pass restarts a server. -/
def Restarts (k : Nat) (p : PlannedServer) : Prop :=
  podName (r.pass k).clusterName p.ordinal ∈ ((r.recordAt k).advance (r.pass k)).restart

/-- That a pass sees a server run the target image, serve and be in the majority. -/
def Upgraded (k : Nat) (p : PlannedServer) : Prop := (r.recordAt k).isUpgraded (r.pass k) p

/-- That a pass sees a server down. -/
def Down (k : Nat) (p : PlannedServer) : Prop := (r.recordAt k).isDown (r.pass k) p

/-- That the upgrade begins in a pass, and its order is fixed. -/
def Begins (k : Nat) : Prop :=
  (r.recordAt k).phase = .pending ∧ (r.recordAt (k + 1)).phase = .inProgress

variable {r} {i j k : Nat} {p : PlannedServer}

/-! ## The order is fixed once -/

theorem order_ne_nil {o : UpgradeObservation} (h : 0 < o.topology.servers) : o.order ≠ [] := by
  intro hnil
  have hlength := (buildPlan_perm o.clusterName o.topology o.hosted o.strategy.order).length_eq
  rw [show buildPlan o.clusterName o.topology o.hosted o.strategy.order = [] from hnil] at hlength
  have hpos : 0 < o.topology.servers.toInt := Int32.lt_iff_toInt_lt.mp h
  simp only [List.map_nil, List.length_nil, ordinals, List.length_map, List.length_range] at hlength
  omega

/-- **The order of an upgrade is the one that the pass fixed in which it began.** -/
theorem plan_recordAt (r : UpgradeRun) (k : Nat) :
    ((r.recordAt k).phase = .pending → (r.recordAt k).plan = []) ∧
      ((r.recordAt k).phase.holdsPods →
        ∃ m, m < k ∧ r.Begins m ∧ (r.recordAt k).plan = (r.pass m).order) := by
  -- By induction on the passes: the order is empty as long as the record waits, fixed by the pass
  -- that ends the wait, and kept from then on.
  induction k with
  | zero =>
    refine ⟨fun _ => r.unplanned, fun hholds => ?_⟩
    have hpending : (r.recordAt 0).phase = .pending := r.pending
    rw [hpending] at hholds
    cases hholds
  | succ k ih =>
    have hcontinues := (r.recordAt k).continues_advance (r.pass k)
    cases hphase : (r.recordAt k).phase with
    | pending =>
      have hnil := ih.1 hphase
      rcases UpgradeRecord.plan_advance_of_pending (o := r.pass k) hphase with
        ⟨hbegun, hplan⟩ | ⟨hidle, hplan⟩
      · refine ⟨fun hpending => ?_, fun _ => ⟨k, Nat.lt_succ_self k, ⟨hphase, hbegun⟩, ?_⟩⟩
        · cases hbegun.symm.trans hpending
        · refine hplan.trans ?_
          unfold UpgradeRecord.planUsed
          rw [hnil]
          rfl
      · refine ⟨fun _ => hplan.trans hnil, fun hholds => ?_⟩
        cases hidle.symm.trans hholds
    | inProgress | paused =>
      have hholds : (r.recordAt k).phase.holdsPods = true := by
        rw [hphase]
        rfl
      obtain ⟨m, hm, hbegins, hplan⟩ := ih.2 hholds
      refine ⟨fun hpending => ?_, fun _ => ⟨m, Nat.lt_succ_of_lt hm, hbegins, ?_⟩⟩
      · exact absurd hpending (UpgradeRecord.phase_advance_ne_pending hholds)
      · exact (UpgradeRecord.plan_advance_of_holds hholds).trans hplan
    | completed | failed =>
      have hended : (r.recordAt k).phase.isTerminal = true := by
        rw [hphase]
        rfl
      have hsame : r.recordAt (k + 1) = r.recordAt k := hcontinues.ended hended
      rw [hsame, hphase]
      exact ⟨UpgradePhase.noConfusion, fun hholds => by cases hholds⟩

theorem planUsed_recordAt (hholds : (r.recordAt k).phase.holdsPods) :
    (r.recordAt k).planUsed (r.pass k) = (r.recordAt k).plan ∧
      ((r.recordAt k).plan.map (·.ordinal)).Nodup := by
  obtain ⟨m, -, -, hplan⟩ := (r.plan_recordAt k).2 hholds
  rw [hplan]
  refine ⟨?_, nodup_ordinal_buildPlan _ _ _ _⟩
  unfold UpgradeRecord.planUsed
  rw [hplan, if_neg]
  simpa using order_ne_nil (r.populated m)

/-! ## What holds in the pass of a restart -/

theorem Restarts.step_eq (h : r.Restarts k p) :
    (r.recordAt k).advance (r.pass k) = (r.recordAt k).step (r.pass k) :=
  UpgradeRecord.advance_of_restart (List.ne_nil_of_mem h)

theorem Restarts.mem_step (h : r.Restarts k p) :
    podName (r.pass k).clusterName p.ordinal ∈ ((r.recordAt k).step (r.pass k)).restart := by
  rw [← h.step_eq]
  exact h

theorem Restarts.phase (h : r.Restarts k p) :
    (r.recordAt k).phase = .inProgress ∧ (r.recordAt (k + 1)).phase = .inProgress := by
  have hphase := UpgradeRecord.phase_of_restart (List.ne_nil_of_mem h.mem_step)
  rw [← h.step_eq] at hphase
  exact hphase

theorem Restarts.holdsPods (h : r.Restarts k p) : (r.recordAt k).phase.holdsPods := by
  rw [h.phase.1]
  rfl

theorem Restarts.hasInFlight (h : r.Restarts k p) :
    (r.recordAt k).hasInFlight p = false ∧ (r.recordAt (k + 1)).hasInFlight p := by
  constructor
  · obtain ⟨q, -, hpod, -, -, hflying⟩ := UpgradeRecord.up_of_mem_restart h.mem_step
    unfold UpgradeRecord.hasInFlight at hflying ⊢
    rw [podName_injective hpod]
    exact hflying
  · have hflying := UpgradeRecord.hasInFlight_of_restart h.mem_step
    rw [← h.step_eq] at hflying
    exact hflying

/-! ## Between two restarts -/

theorem open_of_succ (h : (r.recordAt (k + 1)).phase.isTerminal = false) :
    (r.recordAt k).phase.isTerminal = false :=
  UpgradeRecord.open_of_advance h

/-- An upgrade that is not over by a later pass holds the pods up to it. -/
theorem holdsPods_of_le (hij : i ≤ j) (h : (r.recordAt i).phase.holdsPods)
    (hopen : (r.recordAt j).phase.isTerminal = false) : (r.recordAt j).phase.holdsPods := by
  induction j, hij using Nat.le_induction with
  | base => exact h
  | succ j _ ih =>
    have hbefore := open_of_succ hopen
    exact UpgradePhase.holdsPods_of_open hopen (UpgradeRecord.phase_advance_ne_pending (ih hbefore))

theorem plan_of_le (hij : i ≤ j) (h : (r.recordAt i).phase.holdsPods)
    (hopen : (r.recordAt j).phase.isTerminal = false) :
    (r.recordAt j).plan = (r.recordAt i).plan := by
  induction j, hij using Nat.le_induction with
  | base => rfl
  | succ j hij ih =>
    have hbefore := open_of_succ hopen
    refine (UpgradeRecord.plan_advance_of_holds ?_).trans (ih hbefore)
    exact holdsPods_of_le hij h hbefore

/-- **A server stays in flight until it is seen upgraded**, as long as the upgrade is not over. -/
theorem hasInFlight_of_le (hij : i ≤ j) (hholds : (r.recordAt i).phase.holdsPods)
    (hplanned : ∃ q ∈ (r.recordAt i).plan, q.ordinal = p.ordinal)
    (hflying : (r.recordAt i).hasInFlight p)
    (hopen : (r.recordAt j).phase.isTerminal = false)
    (hnever : ∀ m, i ≤ m → m < j → ¬ r.Upgraded m p) : (r.recordAt j).hasInFlight p := by
  induction j, hij using Nat.le_induction with
  | base => exact hflying
  | succ j hij ih =>
    have hbefore := open_of_succ hopen
    have hstep : (r.recordAt j).advance (r.pass j) = (r.recordAt j).step (r.pass j) :=
      UpgradeRecord.advance_of_open hbefore
    have hnot : (r.recordAt j).isUpgraded (r.pass j) p = false :=
      Bool.eq_false_iff.mpr (hnever j hij (Nat.lt_succ_self j))
    have hholds' := holdsPods_of_le hij hholds hbefore
    have hplanned' : ∃ q ∈ (r.recordAt j).planUsed (r.pass j), q.ordinal = p.ordinal := by
      rw [(planUsed_recordAt hholds').1, plan_of_le hij hholds hbefore]
      exact hplanned
    -- It is planned and not upgraded, so the pass finds it in flight as it was left, and leaves
    -- what it finds.
    have hfound := UpgradeRecord.hasInFlight_observed hholds' hplanned'
      (ih hbefore fun m him hmj => hnever m him (Nat.lt_succ_of_lt hmj)) hnot
    show (((r.recordAt j).advance (r.pass j)).record).hasInFlight p
    rw [hstep]
    refine UpgradeRecord.hasInFlight_step ?_ hfound
    rw [← hstep]
    exact hopen

/-! ## The order of restarts -/

/-- Under an order that starts with the secondaries, they all stand before any primary. -/
theorem exists_secondaries_before {o : UpgradeObservation}
    (horder : o.strategy.order = .secondariesFirst) (hp : p ∈ o.order)
    (hprimary : p.serverClass = .primary) :
    ∃ before after, o.order = before ++ p :: after ∧
      ∀ q ∈ o.order, q.serverClass = .secondary → q ∈ before := by
  unfold UpgradeObservation.order buildPlan at hp ⊢
  rw [horder] at hp ⊢
  generalize (ordinals o.topology.servers).reverse.map _ = servers at hp ⊢
  dsimp only at hp ⊢
  have hsecond : p ∈ servers.filter (·.serverClass != UpgradeOrder.secondariesFirst.first) := by
    refine (List.mem_append.mp hp).resolve_left fun hfirst => ?_
    have hclass := (List.mem_filter.mp hfirst).2
    rw [hprimary] at hclass
    cases hclass
  obtain ⟨before, after, hsplit⟩ := List.append_of_mem hsecond
  refine ⟨_ ++ before, after, by rw [hsplit, List.append_assoc], fun q hq hsecondary => ?_⟩
  refine List.mem_append_left _ ((List.mem_append.mp hq).resolve_right fun hlater => ?_)
  have hclass := (List.mem_filter.mp hlater).2
  rw [hsecondary] at hclass
  cases hclass

/-- How the passes of an upgrade restart its servers. The order is that of the record and not of the
pass, so what is hosted or declared may change while the upgrade goes on; the last two clauses need
the number that may be down to be one, because servers that are restarted together have no order
among them. -/
structure Orderly (r : UpgradeRun) : Prop where
  /-- Between two restarts of a server some pass sees it upgraded. -/
  once : ∀ i j p, i < j → r.Restarts i p → r.Restarts j p → ∃ m, i < m ∧ m < j ∧ r.Upgraded m p
  /-- Every server that is restarted is in the order, which was fixed when the upgrade began. -/
  planned : ∀ k pod, pod ∈ ((r.recordAt k).advance (r.pass k)).restart →
    (∃ p ∈ (r.recordAt k).plan, pod = podName (r.pass k).clusterName p.ordinal) ∧
      ∃ m, m < k ∧ r.Begins m ∧ (r.recordAt k).plan = (r.pass m).order
  /-- Every server before one that is restarted is upgraded, down, or restarted with it. -/
  inOrder : ∀ k before p after, (r.recordAt k).plan = before ++ p :: after → r.Restarts k p →
    ∀ q ∈ before, r.Upgraded k q ∨ r.Down k q ∨ r.Restarts k q
  /-- Where one server may be down at a time, every server before is upgraded. -/
  oneByOne : ∀ k before p after, (r.pass k).strategy.maxUnavailable = 1 →
    (r.recordAt k).plan = before ++ p :: after → r.Restarts k p → ∀ q ∈ before, r.Upgraded k q
  /-- There, if the secondaries came first when the order was fixed, every planned secondary is
  upgraded before a primary is restarted. -/
  secondariesFirst : ∀ m k p, (r.pass k).strategy.maxUnavailable = 1 → m < k → r.Begins m →
    (r.pass m).strategy.order = .secondariesFirst → p ∈ (r.recordAt k).plan →
    p.serverClass = .primary → r.Restarts k p →
    ∀ q ∈ (r.recordAt k).plan, q.serverClass = .secondary → r.Upgraded k q

theorem begins_unique {m n : Nat} (hm : r.Begins m) (hn : r.Begins n) : m = n := by
  -- A record that has begun never waits again, so neither pass lies after the other.
  have hnever : ∀ {m n}, r.Begins m → r.Begins n → ¬ m < n := by
    intro m n hm hn hlt
    have hholds : (r.recordAt (m + 1)).phase.holdsPods := by
      rw [hm.2]
      rfl
    have hopen : (r.recordAt n).phase.isTerminal = false := by
      rw [hn.1]
      rfl
    have hlater := holdsPods_of_le hlt hholds hopen
    rw [hn.1] at hlater
    cases hlater
  exact Nat.le_antisymm (Nat.not_lt.mp (hnever hn hm)) (Nat.not_lt.mp (hnever hm hn))

theorem Restarts.exists_planned (h : r.Restarts k p) :
    ∃ q ∈ (r.recordAt k).plan, q.ordinal = p.ordinal := by
  obtain ⟨q, hq, hqp, -⟩ := UpgradeRecord.exists_chosen h.mem_step
  rw [(planUsed_recordAt h.holdsPods).1] at hq
  exact ⟨q, hq, hqp⟩

theorem Restarts.once (hi : r.Restarts i p) (hj : r.Restarts j p) (hij : i < j) :
    ∃ m, i < m ∧ m < j ∧ r.Upgraded m p := by
  by_contra hnone
  have hnever : ∀ m, i + 1 ≤ m → m < j → ¬ r.Upgraded m p :=
    fun m him hmj hupgraded => hnone ⟨m, him, hmj, hupgraded⟩
  have hholds : (r.recordAt (i + 1)).phase.holdsPods := by
    rw [hi.phase.2]
    rfl
  have hplanned : ∃ q ∈ (r.recordAt (i + 1)).plan, q.ordinal = p.ordinal := by
    have hsame : (r.recordAt (i + 1)).plan = (r.recordAt i).plan :=
      UpgradeRecord.plan_advance_of_holds hi.holdsPods
    rw [hsame]
    exact hi.exists_planned
  have hopen : (r.recordAt j).phase.isTerminal = false := by
    rw [hj.phase.1]
    rfl
  have hflying := hasInFlight_of_le hij hholds hplanned hi.hasInFlight.2 hopen hnever
  cases hj.hasInFlight.1.symm.trans hflying

theorem Restarts.oneByOne (h : r.Restarts k p) {before after : List PlannedServer}
    (hone : (r.pass k).strategy.maxUnavailable = 1)
    (hplan : (r.recordAt k).plan = before ++ p :: after) : ∀ q ∈ before, r.Upgraded k q := by
  obtain ⟨hused, hnodup⟩ := planUsed_recordAt h.holdsPods
  rw [← hused] at hplan hnodup
  exact UpgradeRecord.upgraded_before_restart hplan hnodup hone h.mem_step

/-- **The passes of an upgrade restart its servers in order**, and none a second time before it was
seen upgraded. What carries the first part is that the order stays as it was when the upgrade began,
and the second that a server stays in flight until it is upgraded. -/
theorem orderly (r : UpgradeRun) : r.Orderly := by
  constructor
  case once => exact fun i j p hij hi hj => hi.once hj hij
  case planned =>
    intro k pod hpod
    have hstep := UpgradeRecord.advance_of_restart (List.ne_nil_of_mem hpod)
    rw [hstep] at hpod
    obtain ⟨p, hp, rfl, -⟩ := UpgradeRecord.up_of_mem_restart hpod
    have h : r.Restarts k p := by
      unfold Restarts
      rw [hstep]
      exact hpod
    rw [(planUsed_recordAt h.holdsPods).1] at hp
    exact ⟨⟨p, hp, rfl⟩, (r.plan_recordAt k).2 h.holdsPods⟩
  case inOrder =>
    intro k before p after hplan h q hq
    obtain ⟨hused, hnodup⟩ := planUsed_recordAt h.holdsPods
    rw [← hused] at hplan hnodup
    -- A server before the restarted one that is neither upgraded nor down waits, and those that
    -- wait before it are restarted with it.
    by_cases hupgraded : r.Upgraded k q
    · exact .inl hupgraded
    by_cases hdown : r.Down k q
    · exact .inr (.inl hdown)
    have hrestart := (UpgradeRecord.waiting_before_restart hplan hnodup h.mem_step).2 q hq
      (Bool.eq_false_iff.mpr hupgraded) (Bool.eq_false_iff.mpr hdown)
    rw [← h.step_eq] at hrestart
    exact .inr (.inr hrestart)
  case oneByOne => exact fun k before p after hone hplan h => h.oneByOne hone hplan
  case secondariesFirst =>
    intro m k p hone _ hbegins horder hp hprimary h q hq hsecondary
    obtain ⟨n, -, hbegins', hplan⟩ := (r.plan_recordAt k).2 h.holdsPods
    cases begins_unique hbegins hbegins'
    rw [hplan] at hp hq
    obtain ⟨before, after, hsplit, hall⟩ := exists_secondaries_before horder hp hprimary
    exact h.oneByOne hone (hplan.trans hsplit) q (hall q hq hsecondary)

end UpgradeRun

/-! ## A server that falls back -/

/-- What a pass sees of three servers that agree and serve, given the tags that they run. -/
def threeServing (tags : List String) : UpgradeObservation :=
  { clusterName := "db", strategy := {}, image := {}
    topology := { deployment := .cluster 3 2, constraints := [] }
    pods := tags.zipIdx.map fun (tag, n) =>
      { name := podName "db" (Int32.ofNat n), ordinal := Int32.ofNat n
        image := some ("neo4j:" ++ tag) }
    classification := { health := .healthy, classes := [["db-0", "db-1", "db-2"]] }
    now := .epoch }

/-- The last server comes back upgraded and later falls back to the older image. -/
def fallingBack : UpgradeRun where
  start := { phase := .pending, targetVersion := "2" }
  pass k :=
    match k with
    | 0 | 1 => threeServing ["1", "1", "1"]
    | 2 => threeServing ["1", "1", "2"]
    | _ => threeServing ["1", "2", "1"]
  pending := rfl
  unplanned := rfl
  populated k := by
    match k with
    | 0 | 1 | 2 => decide
    | _ + 3 => exact (by decide : (0 : Int32) < 3)

theorem restarts_fallingBack :
    fallingBack.Restarts 1 ⟨2, .secondary⟩ ∧ fallingBack.Restarts 2 ⟨1, .secondary⟩ ∧
      fallingBack.Restarts 3 ⟨2, .secondary⟩ := by
  unfold UpgradeRun.Restarts
  decide

/-- The last server is restarted twice, and was seen upgraded in between. -/
theorem orderly_fallingBack :
    fallingBack.Restarts 1 ⟨2, .secondary⟩ ∧ fallingBack.Restarts 3 ⟨2, .secondary⟩ ∧
      ∃ m, 1 < m ∧ m < 3 ∧ fallingBack.Upgraded m ⟨2, .secondary⟩ := by
  obtain ⟨hfirst, -, hagain⟩ := restarts_fallingBack
  exact ⟨hfirst, hagain, (UpgradeRun.orderly fallingBack).once 1 3 _ (by decide) hfirst hagain⟩

end ClusterOperator
