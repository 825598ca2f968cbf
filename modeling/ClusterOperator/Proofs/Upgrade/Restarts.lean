import Mathlib.Data.List.Nodup
import ClusterOperator.Proofs.Upgrade.Plan
import ClusterOperator.Upgrade.Advance

/-!
# What a step may restart

A step takes down servers that serve. What it may take down is bounded by what is down already, and
that has to be found out afresh: the list of servers in flight may be stale, pods come and go, and a
server that runs the target image need not have rejoined. None of this is trusted by itself; a
server counts as down (`isDown`) as soon as one of the three says so.

> **`restart_within_budget`** — a step that restarts anything keeps the servers that are down and
> those that it restarts within the declared number, and every server that it restarts was up.

The proof is in the order of the step. `phase_step` and `restart_step` say what a step does to the
phase and to the pods, `mayRestart_of_restart` reads the guard back, and `chooseRestarts_chosen`
replaces the loop over the servers by a filter and a prefix; what is left is counting.
-/

set_option autoImplicit false

namespace ClusterOperator

/-! ## The choice of servers -/

/-- Whether a server runs an older image and is up. -/
def ServerState.isWaiting (s : ServerState) : Bool := !s.upgraded && !s.unavailable

/-- The servers chosen for a restart are the first of those that wait for one. -/
theorem chooseRestarts_chosen (budget : Nat) (states : List ServerState) :
    (chooseRestarts budget states).2 = (states.filter (·.isWaiting)).take budget := by
  -- Every server that is chosen uses up one of the budget, so the budget varies with the list.
  induction states generalizing budget with
  | nil => simp [chooseRestarts]
  | cons s rest ih =>
    cases budget with
    | zero => simp [chooseRestarts]
    | succ budget =>
      by_cases hs : s.isWaiting
      · rw [List.filter_cons_of_pos hs, List.take_succ_cons, ← ih budget]
        unfold ServerState.isWaiting at hs
        simp only [chooseRestarts, if_pos hs]
      · rw [List.filter_cons_of_neg hs, ← ih (budget + 1)]
        unfold ServerState.isWaiting at hs
        simp only [chooseRestarts, if_neg hs]

theorem length_chooseRestarts_le (budget : Nat) (states : List ServerState) :
    (chooseRestarts budget states).2.length ≤ budget := by
  rw [chooseRestarts_chosen]
  exact List.length_take_le budget _

theorem mem_chooseRestarts {budget : Nat} {states : List ServerState} {s : ServerState}
    (h : s ∈ (chooseRestarts budget states).2) :
    s ∈ states ∧ s.upgraded = false ∧ s.unavailable = false := by
  rw [chooseRestarts_chosen] at h
  simpa [ServerState.isWaiting] using List.mem_filter.mp (List.mem_of_mem_take h)

/-! ## What a step does -/

@[simp] theorem phase_applyMove (o : UpgradeObservation) (plan : List PlannedServer)
    (m : UpgradeMove) (record : UpgradeRecord) :
    (applyMove o plan m record).1.phase = m.target := by
  unfold applyMove
  split <;> rfl

namespace UpgradeRecord

variable {record : UpgradeRecord} {o : UpgradeObservation}

@[simp] theorem phase_observed : (record.observed o).phase = record.phase := rfl

theorem phase_step : (record.step o).record.phase =
    ((record.step o).move.map (·.target)).getD record.phase := by
  unfold step
  simp only
  -- Which move is made is the matter of the event; here it only counts whether there is one.
  generalize ((record.observed o).phase.event? _).bind _ = move
  cases move with
  | some m => simp
  | none =>
    by_cases hpending : (record.observed o).phase = .pending
    · simp only [if_pos hpending]
      rfl
    · simp only [if_neg hpending]
      rfl

theorem restart_step : (record.step o).restart =
    if mayRestart o record.phase (record.step o).move then
      (chooseRestarts (restartBudget o.strategy (record.serverStates o))
        (record.serverStates o)).2.map (·.pod)
    else [] := by
  by_cases hmay : mayRestart o record.phase (record.step o).move
  · rw [if_pos hmay]
    unfold step at hmay ⊢
    simp only at hmay ⊢
    rw [if_pos hmay]
  · rw [if_neg hmay]
    unfold step at hmay ⊢
    simp only at hmay ⊢
    rw [if_neg hmay]
    rfl

theorem mayRestart_of_restart (h : (record.step o).restart ≠ []) :
    mayRestart o record.phase (record.step o).move := by
  rw [restart_step] at h
  by_contra hmay
  exact h (if_neg hmay)

/-- A step that restarts anything restarts the servers chosen within the budget. -/
theorem restart_eq_map (h : (record.step o).restart ≠ []) : (record.step o).restart =
    (chooseRestarts (restartBudget o.strategy (record.serverStates o))
      (record.serverStates o)).2.map (·.pod) := by
  rw [restart_step, if_pos (mayRestart_of_restart h)]

theorem length_restart_le (h : (record.step o).restart ≠ []) :
    (record.step o).restart.length ≤ restartBudget o.strategy (record.serverStates o) := by
  rw [restart_eq_map h, List.length_map]
  exact length_chooseRestarts_le _ _

theorem mayRestart_iff {phase : UpgradePhase} {move : Option UpgradeMove} :
    mayRestart o phase move ↔
      phase = .inProgress ∧ move = none ∧ o.manifestApplied ∧ o.health = .healthy := by
  unfold mayRestart
  simp [and_assoc]

theorem phase_of_restart (h : (record.step o).restart ≠ []) :
    record.phase = .inProgress ∧ (record.step o).record.phase = .inProgress := by
  obtain ⟨hphase, hmove, -⟩ := mayRestart_iff.mp (mayRestart_of_restart h)
  refine ⟨hphase, ?_⟩
  rw [phase_step, hmove]
  exact hphase

/-- A record that is over restarts nothing, so a restart is always that of a step. -/
theorem advance_of_restart (h : (record.advance o).restart ≠ []) :
    record.advance o = record.step o := by
  unfold advance at h ⊢
  by_cases hover : record.phase.isTerminal
  · rw [if_pos hover] at h
    exact absurd rfl h
  · rw [if_neg hover]

end UpgradeRecord

/-! ## Servers that are down -/

namespace UpgradeObservation

variable (o : UpgradeObservation)

/-- The pod that an ordinal is looked up in. -/
def podAt? (ordinal : Ordinal) : Option ServerPod := o.pods.find? (·.ordinal == ordinal)

/-- Whether a planned server has a pod that serves. -/
def serves (p : PlannedServer) : Bool := (o.podAt? p.ordinal).any (·.isServing)

/-- Whether a planned server has a pod of an image. -/
def runs (image : String) (p : PlannedServer) : Bool :=
  (o.podAt? p.ordinal).any (·.image == some image)

/-- Whether a planned server is in the majority of the membership. -/
def hasRejoined (p : PlannedServer) : Bool :=
  o.classification.inMajority (podName o.clusterName p.ordinal)

end UpgradeObservation

namespace UpgradeRecord

variable (record : UpgradeRecord) (o : UpgradeObservation)

/-- The image that the upgrade moves to. -/
def targetImage : String := o.image.referenceFor record.targetVersion

/-- Whether a server was restarted and is not known to have come back. -/
def hasInFlight (p : PlannedServer) : Bool := record.inFlight.any (·.ordinal == p.ordinal)

/-- Whether a server runs the target image, serves and has rejoined. -/
def isUpgraded (p : PlannedServer) : Bool :=
  o.runs (record.targetImage o) p && o.serves p && o.hasRejoined p

/-- Whether a server is down: it was restarted and is not upgraded, or it does not serve, or it runs
the target image and has not rejoined. -/
def isDown (p : PlannedServer) : Bool :=
  (record.hasInFlight p && !record.isUpgraded o p) || !o.serves p ||
    (o.runs (record.targetImage o) p && !o.hasRejoined p)

variable {record o}

theorem unavailable_serverState (p : PlannedServer) :
    (o.serverState (record.targetImage o) record.inFlight p).unavailable = record.isDown o p := by
  show (!record.isUpgraded o p &&
    (record.hasInFlight p || !o.serves p || o.runs (record.targetImage o) p)) = _
  unfold isDown isUpgraded
  -- The two are not the same expression: a server that is upgraded serves and has rejoined.
  cases record.hasInFlight p <;> cases o.serves p <;> cases o.runs (record.targetImage o) p <;>
    cases o.hasRejoined p <;> rfl

theorem countP_unavailable :
    (record.serverStates o).countP (·.unavailable) =
      (record.planUsed o).countP (record.isDown o) := by
  unfold serverStates
  rw [List.countP_map]
  exact List.countP_congr fun p _ => by
    rw [Function.comp_apply]
    exact iff_of_eq (congrArg (· = true) (unavailable_serverState p))

/-! ## What a step restarts -/

theorem nodup_ordinal_planUsed (h : (record.plan.map (·.ordinal)).Nodup) :
    ((record.planUsed o).map (·.ordinal)).Nodup := by
  unfold planUsed
  split
  · exact nodup_ordinal_buildPlan ..
  · exact h

theorem pod_serverStates :
    (record.serverStates o).map (·.pod) =
      ((record.planUsed o).map (·.ordinal)).map (podName o.clusterName) := by
  unfold serverStates
  rw [List.map_map, List.map_map]
  rfl

theorem nodup_restart (h : (record.plan.map (·.ordinal)).Nodup) :
    (record.step o).restart.Nodup := by
  rw [restart_step]
  split
  · rw [chooseRestarts_chosen]
    have hsublist := (List.take_sublist (restartBudget o.strategy (record.serverStates o)) _).trans
      (List.filter_sublist (p := (·.isWaiting)) (l := record.serverStates o))
    refine (hsublist.map (·.pod)).nodup ?_
    rw [pod_serverStates]
    exact (nodup_ordinal_planUsed h).map fun _ _ => podName_injective
  · exact List.nodup_nil

/-- **Every server that a step restarts was up**: planned, serving, of an older image and not in
flight. -/
theorem up_of_mem_restart {pod : String} (h : pod ∈ (record.step o).restart) :
    ∃ p ∈ record.planUsed o, pod = podName o.clusterName p.ordinal ∧ o.serves p ∧
      o.runs (record.targetImage o) p = false ∧ record.hasInFlight p = false := by
  rw [restart_eq_map (List.ne_nil_of_mem h)] at h
  obtain ⟨s, hchosen, rfl⟩ := List.mem_map.mp h
  obtain ⟨hs, hupgraded, hdown⟩ := mem_chooseRestarts hchosen
  obtain ⟨p, hp, rfl⟩ := List.mem_map.mp hs
  have hdown : (!record.isUpgraded o p &&
    (record.hasInFlight p || !o.serves p || o.runs (record.targetImage o) p)) = false := hdown
  have hupgraded : record.isUpgraded o p = false := hupgraded
  rw [hupgraded] at hdown
  simp only [Bool.not_false, Bool.true_and, Bool.or_eq_false_iff, Bool.not_eq_false'] at hdown
  exact ⟨p, hp, rfl, hdown.1.2, hdown.2, hdown.1.1⟩

theorem restartBudget_eq (states : List ServerState) (hmax : 1 ≤ o.strategy.maxUnavailable) :
    restartBudget o.strategy states =
      o.strategy.maxUnavailable.toInt.toNat - states.countP (·.unavailable) := by
  have hnonneg : ¬ o.strategy.maxUnavailable < 0 :=
    Int32.not_lt.mpr (Int32.le_trans (by decide) hmax)
  unfold restartBudget
  simp only [if_neg hnonneg]

/-- The servers that are down and those that a step restarts are at most as many as may be down. -/
theorem countP_isDown_add_length_le (h : (record.step o).restart ≠ [])
    (hmax : 1 ≤ o.strategy.maxUnavailable) :
    ((record.planUsed o).countP (record.isDown o) + (record.step o).restart.length : Nat) ≤
      o.strategy.maxUnavailable.toInt := by
  -- The budget is a difference cut off at zero. That something is restarted says that it was not
  -- cut off, and only then does it bound the sum.
  have hpos : 0 < (record.step o).restart.length := List.length_pos_iff.mpr h
  have hle := length_restart_le h
  rw [restartBudget_eq _ hmax, countP_unavailable] at hle
  omega

/-- **A step restarts servers only within the number that may be down at once.** If a pass restarts
anything, then the servers that are down and those that it restarts are together at most that many.
It restarts no server twice, and only planned servers that serve, run an older image and were not in
flight; and it does so with a healthy membership, after the target's manifest was applied, in the
middle of the upgrade. -/
theorem restart_within_budget (record : UpgradeRecord) (o : UpgradeObservation)
    (hplan : (record.plan.map (·.ordinal)).Nodup) (hmax : 1 ≤ o.strategy.maxUnavailable)
    (hrestart : (record.advance o).restart ≠ []) :
    ((record.planUsed o).countP (record.isDown o) + (record.advance o).restart.length : Nat) ≤
        o.strategy.maxUnavailable.toInt ∧
      (record.advance o).restart.Nodup ∧
      (∀ pod ∈ (record.advance o).restart, ∃ p ∈ record.planUsed o,
        pod = podName o.clusterName p.ordinal ∧ o.serves p ∧
          o.runs (record.targetImage o) p = false ∧ record.hasInFlight p = false) ∧
      o.health = .healthy ∧ o.manifestApplied ∧
      record.phase = .inProgress ∧ (record.advance o).record.phase = .inProgress := by
  have hstep := advance_of_restart hrestart
  rw [hstep] at hrestart ⊢
  obtain ⟨-, -, happlied, hhealthy⟩ := mayRestart_iff.mp (mayRestart_of_restart hrestart)
  obtain ⟨hbefore, hafter⟩ := phase_of_restart hrestart
  exact ⟨countP_isDown_add_length_le hrestart hmax, nodup_restart hplan,
    fun pod hpod => up_of_mem_restart hpod, hhealthy, happlied, hbefore, hafter⟩

/-! ## Three servers, one of them in flight -/

/-- An upgrade of three servers that has restarted the last one. -/
def oneInFlight : UpgradeRecord :=
  { phase := .inProgress, targetVersion := "2"
    plan := [⟨2, .secondary⟩, ⟨1, .secondary⟩, ⟨0, .primary⟩]
    inFlight := [⟨2, "1970-01-01T00:00:00Z"⟩] }

/-- The last server serves again but has not rejoined; two servers may be down. -/
def oneReturning : UpgradeObservation :=
  { clusterName := "db", strategy := { maxUnavailable := 2 }, image := {}
    topology := { deployment := .cluster 3 2, constraints := [] }
    pods :=
      [{ name := "db-0", ordinal := 0, image := some "neo4j:1" },
        { name := "db-1", ordinal := 1, image := some "neo4j:1" },
        { name := "db-2", ordinal := 2, image := some "neo4j:2" }]
    classification := { health := .healthy, classes := [["db-0", "db-1"]] }
    now := .epoch }

theorem restart_oneReturning : (oneInFlight.advance oneReturning).restart = ["db-1"] := by decide

/-- While one server has not rejoined, only one more is restarted. -/
theorem restart_within_budget_oneReturning :
    (oneInFlight.plan.map (·.ordinal)).Nodup ∧ 1 ≤ oneReturning.strategy.maxUnavailable ∧
      (oneInFlight.advance oneReturning).restart ≠ [] ∧
      ((oneInFlight.planUsed oneReturning).countP (oneInFlight.isDown oneReturning) +
          (oneInFlight.advance oneReturning).restart.length : Nat) ≤
        oneReturning.strategy.maxUnavailable.toInt ∧
      (oneInFlight.advance oneReturning).restart.Nodup ∧
      (∀ pod ∈ (oneInFlight.advance oneReturning).restart,
        ∃ p ∈ oneInFlight.planUsed oneReturning,
          pod = podName oneReturning.clusterName p.ordinal ∧ oneReturning.serves p ∧
            oneReturning.runs (oneInFlight.targetImage oneReturning) p = false ∧
            oneInFlight.hasInFlight p = false) ∧
      oneReturning.health = .healthy ∧ oneReturning.manifestApplied ∧
      oneInFlight.phase = .inProgress ∧
      (oneInFlight.advance oneReturning).record.phase = .inProgress := by
  have hplan : (oneInFlight.plan.map (·.ordinal)).Nodup := by decide
  have hmax : 1 ≤ oneReturning.strategy.maxUnavailable := by decide
  have hrestart : (oneInFlight.advance oneReturning).restart ≠ [] := by
    rw [restart_oneReturning]
    exact List.cons_ne_nil _ _
  exact ⟨hplan, hmax, hrestart,
    restart_within_budget oneInFlight oneReturning hplan hmax hrestart⟩

end UpgradeRecord

end ClusterOperator
