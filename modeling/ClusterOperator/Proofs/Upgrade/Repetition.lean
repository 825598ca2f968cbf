import ClusterOperator.Proofs.Upgrade.Flight
import ClusterOperator.Proofs.Upgrade.Progress

/-!
# Repeating a pass of an upgrade

A pass is repeated when nothing has changed but the time: the pods are as they were, so those that
the pass before deleted still serve, and nothing in what is observed tells them from the others.
What tells them is the record, in which they are in flight.

> **`progress_of_repetition`** — a pass counts what it sees; and passes that see the same, at
> whatever times, count the same servers as upgraded, restart no server twice, and restart no more
> servers together than may be down at once.

The times may be any, and so may the requests of the user: a pass may find the time of a restart
over and pause the upgrade, and while it is paused nothing is restarted. What is carried through the
passes is that a server which is down stays down (`isDown_advance`), and one that is restarted is
down from then on (`isDown_of_restart`), so the servers that are down grow by those that are
restarted (`countP_isDown_advance`).
-/

set_option autoImplicit false

namespace ClusterOperator

theorem countP_add_countP_le {α : Type} {p q r : α → Bool} (l : List α)
    (hdisjoint : ∀ a ∈ l, q a = true → p a = false) (hp : ∀ a ∈ l, p a = true → r a = true)
    (hq : ∀ a ∈ l, q a = true → r a = true) : l.countP p + l.countP q ≤ l.countP r := by
  -- Two disjoint kinds of elements are counted together within a third.
  induction l with
  | nil => simp
  | cons a l ih =>
    have hrest := ih (fun b hb => hdisjoint b (List.mem_cons_of_mem a hb))
      (fun b hb => hp b (List.mem_cons_of_mem a hb)) (fun b hb => hq b (List.mem_cons_of_mem a hb))
    have hself := hdisjoint a List.mem_cons_self
    have hself' := hp a List.mem_cons_self
    have hself'' := hq a List.mem_cons_self
    simp only [List.countP_cons]
    cases hpa : p a with
    | true =>
      have hqa : q a = false := by
        by_contra hqa
        rw [hself (Bool.of_not_eq_false hqa)] at hpa
        cases hpa
      simp [hqa, hself' hpa]
      omega
    | false =>
      cases hqa : q a with
      | true => simp [hself'' hqa]; omega
      | false => simp; omega

namespace UpgradeRecord

variable {record next : UpgradeRecord} {o o' : UpgradeObservation} {p q : PlannedServer}
  {passes : List UpgradeObservation}

/-- That a pass sees what another sees, as far as servers are counted and chosen by it. An order
that the record does not have would be made again as it was. -/
structure SeesAgain (record : UpgradeRecord) (o o' : UpgradeObservation) : Prop where
  clusterName : o'.clusterName = o.clusterName
  strategy : o'.strategy = o.strategy
  image : o'.image = o.image
  pods : o'.pods = o.pods
  classification : o'.classification = o.classification
  order : record.plan = [] → o'.order = o.order

/-- The steps of passes that follow each other, from a record on. -/
def steps (record : UpgradeRecord) : List UpgradeObservation → List UpgradeStep
  | [] => []
  | o :: rest => record.advance o :: (record.advance o).record.steps rest

/-- The pods that some steps delete, in their order. -/
def restarts (steps : List UpgradeStep) : List String := steps.flatMap (·.restart)

theorem restarts_steps_cons (rest : List UpgradeObservation) :
    restarts (record.steps (o :: rest)) =
      (record.advance o).restart ++ restarts ((record.advance o).record.steps rest) :=
  List.flatMap_cons

/-! ## What is the same in every pass -/

theorem planUsed_eq (record : UpgradeRecord) (o : UpgradeObservation) :
    record.planUsed o = if record.plan = [] then o.order else record.plan := by
  unfold planUsed UpgradeObservation.order
  simp only [List.isEmpty_iff]

theorem SeesAgain.planUsed (h : record.SeesAgain o o') :
    record.planUsed o' = record.planUsed o := by
  rw [planUsed_eq, planUsed_eq]
  split
  · rename_i hnone
    exact h.order hnone
  · rfl

theorem SeesAgain.isUpgraded (h : record.SeesAgain o o') :
    record.isUpgraded o' = record.isUpgraded o := by
  funext p
  unfold UpgradeRecord.isUpgraded targetImage UpgradeObservation.runs UpgradeObservation.serves
    UpgradeObservation.hasRejoined UpgradeObservation.podAt?
  rw [h.image, h.pods, h.classification, h.clusterName]

theorem SeesAgain.isDown (h : record.SeesAgain o o') : record.isDown o' = record.isDown o := by
  funext p
  unfold UpgradeRecord.isDown
  rw [h.isUpgraded]
  unfold targetImage UpgradeObservation.runs UpgradeObservation.serves
    UpgradeObservation.hasRejoined UpgradeObservation.podAt?
  rw [h.image, h.pods, h.classification, h.clusterName]

/-- That a record is of the same upgrade as another, with the same order. It is what the later
passes of a run are measured by, since the record itself changes with each of them. -/
structure SameUpgrade (record next : UpgradeRecord) : Prop where
  targetVersion : next.targetVersion = record.targetVersion
  plan : next.plan = record.plan

theorem SameUpgrade.planUsed (h : record.SameUpgrade next) :
    next.planUsed o = record.planUsed o := by
  rw [planUsed_eq, planUsed_eq, h.plan]

theorem SameUpgrade.isUpgraded (h : record.SameUpgrade next) :
    next.isUpgraded o = record.isUpgraded o := by
  funext p
  unfold UpgradeRecord.isUpgraded targetImage
  rw [h.targetVersion]

theorem SameUpgrade.seesAgain (h : record.SameUpgrade next) (hagain : record.SeesAgain o o') :
    next.SeesAgain o o' := by
  obtain ⟨hname, hstrategy, himage, hpods, hclassification, horder⟩ := hagain
  refine ⟨hname, hstrategy, himage, hpods, hclassification, ?_⟩
  rw [h.plan]
  exact horder

theorem ended_advance (hover : record.phase.isTerminal = true) :
    record.advance o = { record } := by
  unfold advance
  rw [if_pos hover]

theorem sameUpgrade_of_holds (hholds : record.phase.holdsPods) :
    record.SameUpgrade (record.advance o).record where
  targetVersion := (record.continues_advance o).targetVersion
  plan := plan_advance_of_holds hholds

theorem sameUpgrade_advance (hbegun : record.phase ≠ .pending) :
    record.SameUpgrade (record.advance o).record := by
  cases hover : record.phase.isTerminal with
  | true =>
    rw [ended_advance hover]
    exact ⟨rfl, rfl⟩
  | false => exact sameUpgrade_of_holds (UpgradePhase.holdsPods_of_open hover hbegun)

theorem begun_advance (hbegun : record.phase ≠ .pending) :
    (record.advance o).record.phase ≠ .pending := by
  cases hover : record.phase.isTerminal with
  | true =>
    rw [ended_advance hover]
    exact hbegun
  | false => exact phase_advance_ne_pending (UpgradePhase.holdsPods_of_open hover hbegun)

/-! ## Servers that are down stay down -/

theorem isDown_congr (h : p.ordinal = q.ordinal) : record.isDown o p = record.isDown o q := by
  unfold isDown hasInFlight
  rw [isUpgraded_congr h]
  unfold UpgradeObservation.runs UpgradeObservation.serves UpgradeObservation.hasRejoined
  rw [h]

theorem isDown_of_hasInFlight (h : record.hasInFlight p) (hnot : record.isUpgraded o p = false) :
    record.isDown o p = true := by
  unfold isDown
  rw [h, hnot]
  rfl

theorem isDown_advance (hholds : record.phase.holdsPods)
    (hopen : (record.advance o).record.phase.isTerminal = false) (hp : p ∈ record.planUsed o)
    (hdown : record.isDown o p = true) : (record.advance o).record.isDown o p = true := by
  have hstep := advance_of_open (o := o) (open_of_advance hopen)
  have hsame := sameUpgrade_of_holds (o := o) hholds
  by_cases hflying : (record.hasInFlight p && !record.isUpgraded o p) = true
  · obtain ⟨hin, hnot⟩ := Bool.and_eq_true_iff.mp hflying
    rw [Bool.not_eq_true'] at hnot
    refine isDown_of_hasInFlight ?_ (by rw [hsame.isUpgraded]; exact hnot)
    rw [hstep] at hopen ⊢
    exact hasInFlight_step hopen (hasInFlight_observed hholds ⟨p, hp, rfl⟩ hin hnot)
  · -- What else makes a server be down has nothing to do with the record.
    unfold isDown at hdown ⊢
    rw [Bool.eq_false_iff.mpr hflying, Bool.false_or] at hdown
    unfold targetImage at hdown ⊢
    rw [hsame.targetVersion, Bool.or_assoc, hdown, Bool.or_true]

theorem isDown_of_restart (hp : p ∈ (record.chosen o).map (·.planned)) :
    (record.step o).record.isDown o p = true := by
  obtain ⟨s, hs, rfl⟩ := List.mem_map.mp hp
  obtain ⟨p, -, rfl, hnot, -⟩ := of_mem_chosen hs
  have hmem : podName o.clusterName p.ordinal ∈ (record.step o).restart := by
    rw [restart_step_eq]
    exact List.mem_map_of_mem hs
  refine isDown_of_hasInFlight (hasInFlight_of_restart hmem) ?_
  unfold isUpgraded targetImage at hnot ⊢
  rw [versions_step.1]
  exact hnot

theorem sublist_chosen : ((record.chosen o).map (·.planned)).Sublist (record.planUsed o) := by
  rw [← planned_serverStates]
  refine List.Sublist.map _ ?_
  unfold chosen
  split
  · rw [chooseRestarts_chosen]
    exact (List.take_sublist _ _).trans List.filter_sublist
  · exact List.nil_sublist _

/-- **The servers that are down grow by those that are restarted.** -/
theorem countP_isDown_advance (hholds : record.phase.holdsPods)
    (hopen : (record.advance o).record.phase.isTerminal = false) :
    (record.planUsed o).countP (record.isDown o) + (record.advance o).restart.length ≤
      (record.planUsed o).countP ((record.advance o).record.isDown o) := by
  have hstep := advance_of_open (o := o) (open_of_advance hopen)
  have hcount : (record.advance o).restart.length ≤
      (record.planUsed o).countP ((record.chosen o).map (·.planned)).contains := by
    have hall : ((record.chosen o).map (·.planned)).countP
        ((record.chosen o).map (·.planned)).contains = (record.chosen o).length := by
      rw [List.countP_eq_length.mpr fun p hp => List.contains_iff_mem.mpr hp, List.length_map]
    rw [hstep, restart_step_eq, List.length_map, ← hall]
    exact sublist_chosen.countP_le
  have hsum := countP_add_countP_le (record.planUsed o)
    (p := record.isDown o) (q := ((record.chosen o).map (·.planned)).contains)
    (r := (record.advance o).record.isDown o)
    (by
      intro p _ hchosen
      obtain ⟨s, hs, rfl⟩ := List.mem_map.mp (List.contains_iff_mem.mp hchosen)
      obtain ⟨p, -, rfl, -, hup⟩ := of_mem_chosen hs
      exact hup)
    (fun p hp hdown => isDown_advance hholds hopen hp hdown)
    (by
      intro p _ hchosen
      rw [hstep]
      exact isDown_of_restart (List.contains_iff_mem.mp hchosen))
  omega

/-! ## Passes that see the same -/

theorem restarts_of_ended (hover : record.phase.isTerminal = true)
    (passes : List UpgradeObservation) : restarts (record.steps passes) = [] := by
  induction passes with
  | nil => rfl
  | cons o rest ih =>
    rw [restarts_steps_cons, ended_advance hover]
    exact ih

/-- What may be said of the restarts of passes that see the same. The bound leaves room for what is
down already, so that passes can be put after one another: what the first restarts is down for the
next. -/
structure Bounded (record : UpgradeRecord) (o : UpgradeObservation) (restarts : List String) :
    Prop where
  nodup : restarts.Nodup
  up : ∀ pod ∈ restarts, ∃ p ∈ record.planUsed o,
    pod = podName o.clusterName p.ordinal ∧ record.isDown o p = false
  within : restarts ≠ [] → ((record.planUsed o).countP (record.isDown o) + restarts.length : Nat) ≤
    o.strategy.maxUnavailable.toInt

theorem bounded_nil : record.Bounded o [] where
  nodup := List.nodup_nil
  up := by
    intro pod hpod
    cases hpod
  within := fun h => absurd rfl h

theorem bounded_restart (hplan : (record.plan.map (·.ordinal)).Nodup)
    (hmax : 1 ≤ o.strategy.maxUnavailable) : record.Bounded o (record.step o).restart where
  nodup := nodup_restart hplan
  up := by
    intro pod hpod
    rw [restart_step_eq] at hpod
    obtain ⟨s, hs, rfl⟩ := List.mem_map.mp hpod
    obtain ⟨p, hp, rfl, -, hup⟩ := of_mem_chosen hs
    exact ⟨p, hp, rfl, hup⟩
  within h := countP_isDown_add_length_le h hmax

/-- What one pass restarts and what those after it restart. -/
theorem Bounded.append {rest : List String} (hholds : record.phase.holdsPods)
    (hopen : (record.advance o).record.phase.isTerminal = false)
    (hfirst : record.Bounded o (record.advance o).restart)
    (hrest : (record.advance o).record.Bounded o rest) :
    record.Bounded o ((record.advance o).restart ++ rest) := by
  have hsame := sameUpgrade_of_holds (o := o) hholds
  have hstep := advance_of_open (o := o) (open_of_advance hopen)
  have hgrown := countP_isDown_advance hholds hopen
  have hstays {p : PlannedServer} (hp : p ∈ record.planUsed o)
      (hup : (record.advance o).record.isDown o p = false) : record.isDown o p = false := by
    by_contra hdown
    rw [isDown_advance hholds hopen hp (Bool.of_not_eq_false hdown)] at hup
    cases hup
  constructor
  case nodup =>
    refine List.nodup_append.mpr ⟨hfirst.nodup, hrest.nodup, ?_⟩
    intro pod hpod pod' hpod' heq
    subst heq
    -- A server that was restarted is down, so it is none of those that are restarted later.
    obtain ⟨q, -, hq, hup⟩ := hrest.up pod hpod'
    rw [hstep, restart_step_eq] at hpod
    obtain ⟨s, hs, rfl⟩ := List.mem_map.mp hpod
    obtain ⟨p, -, rfl, -⟩ := of_mem_chosen hs
    have hdown : (record.step o).record.isDown o p = true :=
      isDown_of_restart (List.mem_map.mpr ⟨_, hs, rfl⟩)
    rw [← isDown_congr (podName_injective hq), hstep, hdown] at hup
    cases hup
  case up =>
    intro pod hpod
    rcases List.mem_append.mp hpod with hpod | hpod
    · exact hfirst.up pod hpod
    · obtain ⟨p, hp, hname, hup⟩ := hrest.up pod hpod
      rw [hsame.planUsed] at hp
      exact ⟨p, hp, hname, hstays hp hup⟩
  case within =>
    intro hne
    cases rest with
    | nil =>
      rw [List.append_nil] at hne ⊢
      exact hfirst.within hne
    | cons pod rest =>
      have hle := hrest.within (List.cons_ne_nil pod rest)
      rw [hsame.planUsed] at hle
      rw [List.length_append]
      omega

theorem SeesAgain.bounded {restarts : List String} (h : record.SeesAgain o o')
    (hbounded : record.Bounded o' restarts) : record.Bounded o restarts := by
  obtain ⟨hnodup, hup, hwithin⟩ := hbounded
  rw [h.planUsed, h.isDown, h.clusterName] at hup
  rw [h.planUsed, h.isDown, h.strategy] at hwithin
  exact ⟨hnodup, hup, hwithin⟩

theorem SeesAgain.symm (h : record.SeesAgain o o') : record.SeesAgain o' o where
  clusterName := h.clusterName.symm
  strategy := h.strategy.symm
  image := h.image.symm
  pods := h.pods.symm
  classification := h.classification.symm
  order := fun hnone => (h.order hnone).symm

/-- By induction on the passes: what the later ones restart is bounded by the record that the first
one leaves. -/
theorem bounded_steps (hbegun : record.phase ≠ .pending)
    (hplan : (record.plan.map (·.ordinal)).Nodup) (hmax : 1 ≤ o.strategy.maxUnavailable)
    (hagain : ∀ o' ∈ passes, record.SeesAgain o o') :
    record.Bounded o (restarts (record.steps passes)) := by
  induction passes generalizing record with
  | nil => exact bounded_nil
  | cons o' rest ih =>
    have hsees := hagain o' List.mem_cons_self
    cases hover : record.phase.isTerminal with
    | true =>
      rw [restarts_of_ended hover]
      exact bounded_nil
    | false =>
      have hsame := sameUpgrade_advance (o := o') hbegun
      have hfirst : record.Bounded o' (record.advance o').restart := by
        rw [advance_of_open hover]
        exact bounded_restart hplan (by rw [hsees.strategy]; exact hmax)
      have hrest : (record.advance o').record.Bounded o
          (restarts ((record.advance o').record.steps rest)) := by
        refine ih (begun_advance hbegun) (by rw [hsame.plan]; exact hplan) ?_
        intro o'' ho''
        exact hsame.seesAgain (hagain o'' (List.mem_cons_of_mem _ ho''))
      rw [restarts_steps_cons]
      refine hsees.bounded ?_
      cases hafter : (record.advance o').record.phase.isTerminal with
      | true =>
        rw [restarts_of_ended hafter, List.append_nil]
        exact hfirst
      | false =>
        have hholds := UpgradePhase.holdsPods_of_open hover hbegun
        exact hfirst.append hholds hafter ((hsame.seesAgain hsees).symm.bounded hrest)

/-- An upgrade that is over keeps the counters that it ended with. -/
theorem counts_steps {plan : List PlannedServer} {isUpgraded : PlannedServer → Bool}
    (hbegun : record.phase ≠ .pending)
    (hended : record.phase.isTerminal = true → record.progress.Counts plan isUpgraded)
    (hcounts : ∀ o' ∈ passes,
      record.planUsed o' = plan ∧ record.isUpgraded o' = isUpgraded) :
    ∀ s ∈ record.steps passes, s.record.progress.Counts plan isUpgraded := by
  induction passes generalizing record with
  | nil =>
    intro s hs
    cases hs
  | cons o' rest ih =>
    obtain ⟨hused, hsees⟩ := hcounts o' List.mem_cons_self
    have hsame := sameUpgrade_advance (o := o') hbegun
    have hfirst : (record.advance o').record.progress.Counts plan isUpgraded := by
      cases hover : record.phase.isTerminal with
      | true =>
        rw [ended_advance hover]
        exact hended hover
      | false =>
        rw [advance_of_open hover, ← hused, ← hsees]
        exact counts_progress_step
    intro s hs
    rcases List.mem_cons.mp hs with rfl | hs
    · exact hfirst
    · refine ih (begun_advance hbegun) (fun _ => hfirst) ?_ s hs
      intro o'' ho''
      rw [hsame.planUsed, hsame.isUpgraded]
      exact hcounts o'' (List.mem_cons_of_mem _ ho'')

/-- The upgraded servers of both classes, as they are counted. -/
def upgradedCounts (progress : UpgradeProgress) : Int32 × Int32 :=
  (progress.primaries.upgraded, progress.secondaries.upgraded)

theorem upgradedCounts_unique {progress progress' : UpgradeProgress} {plan : List PlannedServer}
    {isUpgraded : PlannedServer → Bool} (h : progress.Counts plan isUpgraded)
    (h' : progress'.Counts plan isUpgraded) :
    upgradedCounts progress = upgradedCounts progress' := by
  refine Prod.ext (Int32.toInt_inj.mp ?_) (Int32.toInt_inj.mp ?_)
  · exact h.primaries.upgraded.trans h'.primaries.upgraded.symm
  · exact h.secondaries.upgraded.trans h'.secondaries.upgraded.symm

/-- What the steps of passes that see the same have in common, and what they do together. Counting
is a matter of each pass alone; what is restarted is a matter of all of them, since only the record
tells one pass from the next. -/
structure Idempotent (record : UpgradeRecord) (o : UpgradeObservation) (steps : List UpgradeStep) :
    Prop where
  upgraded : ∀ s ∈ steps,
    upgradedCounts s.record.progress = upgradedCounts (record.advance o).record.progress
  once : (restarts steps).Nodup
  within : ((restarts steps).length : Int) ≤ o.strategy.maxUnavailable.toInt

/-- **Repeating a pass restarts nothing again.** A pass over an upgrade that is not over counts the
servers of each class as it sees them. While the upgrade is in progress, any number of passes that
see the same count the same servers as upgraded, restart no server twice, and together restart no
more than may be down at once. -/
theorem progress_of_repetition (record : UpgradeRecord) (o : UpgradeObservation)
    (hplan : (record.plan.map (·.ordinal)).Nodup) (hopen : record.phase.isTerminal = false) :
    (record.advance o).record.progress.Counts (record.planUsed o) (record.isUpgraded o) ∧
    (record.phase = .inProgress → 1 ≤ o.strategy.maxUnavailable →
      ∀ passes : List UpgradeObservation, (∀ o' ∈ passes, record.SeesAgain o o') →
        record.Idempotent o (record.steps passes)) := by
  have hcounts : (record.advance o).record.progress.Counts (record.planUsed o)
      (record.isUpgraded o) := by
    rw [advance_of_open hopen]
    exact counts_progress_step
  refine ⟨hcounts, ?_⟩
  intro hphase hmax passes hagain
  have hbegun : record.phase ≠ .pending := by
    rw [hphase]
    exact UpgradePhase.noConfusion
  have hbounded := bounded_steps hbegun hplan hmax hagain
  constructor
  case upgraded =>
    intro s hs
    refine upgradedCounts_unique (counts_steps hbegun ?_ ?_ s hs) hcounts
    · intro hover
      rw [hopen] at hover
      cases hover
    · intro o' ho'
      exact ⟨(hagain o' ho').planUsed, (hagain o' ho').isUpgraded⟩
  case once => exact hbounded.nodup
  case within =>
    by_cases hnone : restarts (record.steps passes) = []
    · rw [hnone]
      have hpos := Int32.le_iff_toInt_le.mp hmax
      have hone : (1 : Int32).toInt = 1 := rfl
      rw [List.length_nil]
      omega
    · have hle := hbounded.within hnone
      omega

/-- The passes of an hour over one upgrade, in which nothing changes. -/
def unchanging : List UpgradeObservation :=
  [0, 10, 300, 3600].map fun seconds =>
    { oneReturning with now := Instant.epoch.addSeconds seconds }

theorem seesAgain_unchanging : ∀ o' ∈ unchanging, oneInFlight.SeesAgain oneReturning o' := by
  intro o' ho'
  obtain ⟨seconds, -, rfl⟩ := List.mem_map.mp ho'
  exact ⟨rfl, rfl, rfl, rfl, rfl, fun _ => rfl⟩

/-- The second of two servers that may be down is restarted by the first pass, and by no other. -/
theorem progress_of_unchanging :
    (oneInFlight.plan.map (·.ordinal)).Nodup ∧ oneInFlight.phase.isTerminal = false ∧
    oneInFlight.phase = .inProgress ∧ 1 ≤ oneReturning.strategy.maxUnavailable ∧
    (oneInFlight.advance oneReturning).record.progress.Counts (oneInFlight.planUsed oneReturning)
      (oneInFlight.isUpgraded oneReturning) ∧
    oneInFlight.Idempotent oneReturning (oneInFlight.steps unchanging) := by
  have hplan : (oneInFlight.plan.map (·.ordinal)).Nodup := by decide
  have hmax : 1 ≤ oneReturning.strategy.maxUnavailable := by decide
  obtain ⟨hcounts, hidempotent⟩ := progress_of_repetition oneInFlight oneReturning hplan rfl
  exact ⟨hplan, rfl, rfl, hmax, hcounts, hidempotent rfl hmax unchanging seesAgain_unchanging⟩

end UpgradeRecord

end ClusterOperator
