import ClusterOperator.Proofs.Pass.Databases
import ClusterOperator.Proofs.Upgrade.Flight
import ClusterOperator.Proofs.Validation.Accepted

/-!
# How the order of an upgrade is made

An order lists the declared servers, one class before the other and in each class the last server
first. To which class a server belongs is told by the databases that it hosts and by its constraint.
The pass that begins an upgrade makes the order and stores it with the record, and from then on
nothing makes another: later passes may find other databases, other constraints and another number
of servers.

> **`order_of_fixesOrder`** — the pass that begins an upgrade has asked the servers for their
> databases, once, and its order is made of the answers.

> **`plan_of_le`** — from then on the order stays until the next upgrade starts.

A record that waits has no order (`knowsOrder_stored`). Whoever finds it so and begins it therefore
goes by an order of its own, and asking for the databases is tied to the same condition.
-/

set_option autoImplicit false

namespace ClusterOperator

/-! ## The declared servers, in order -/

theorem pairwise_ordinals (servers : Int32) : (ordinals servers).Pairwise (· < ·) := by
  unfold ordinals
  refine List.pairwise_map.mpr (List.pairwise_lt_range.imp_of_mem fun {i j} hi hj hlt => ?_)
  have hbound := Int32.toInt_lt servers
  rw [List.mem_range] at hi hj
  rw [Int32.lt_iff_toInt_lt, Int32.toInt_ofNat_of_lt (by omega), Int32.toInt_ofNat_of_lt (by omega)]
  exact Int.ofNat_lt.mpr hlt

/-- That one server comes before another in an order that starts with a class: the class decides,
and within a class the greater ordinal. -/
def PlannedServer.Precedes (first : ServerClass) (p q : PlannedServer) : Prop :=
  (p.serverClass = q.serverClass ∧ q.ordinal < p.ordinal) ∨
    (p.serverClass = first ∧ q.serverClass ≠ first)

theorem pairwise_buildPlan (cluster : String) (topology : Topology) (hosted : HostedDatabases)
    (order : UpgradeOrder) :
    (buildPlan cluster topology hosted order).Pairwise (PlannedServer.Precedes order.first) := by
  unfold buildPlan
  dsimp only
  generalize hservers : (ordinals topology.servers).reverse.map (fun ordinal =>
    (⟨ordinal, classOfServer cluster topology hosted ordinal⟩ : PlannedServer)) = servers
  have hdescending : servers.Pairwise fun p q => q.ordinal < p.ordinal := by
    rw [← hservers]
    exact List.pairwise_map.mpr (List.pairwise_reverse.mpr (pairwise_ordinals _))
  refine List.pairwise_append.mpr ⟨?_, ?_, fun p hp q hq => ?_⟩
  · refine (hdescending.filter _).imp_of_mem fun hp hq hlt => .inl ⟨?_, hlt⟩
    exact (eq_of_beq (List.mem_filter.mp hp).2).trans (eq_of_beq (List.mem_filter.mp hq).2).symm
  · refine (hdescending.filter _).imp_of_mem fun {p q} hp hq hlt => .inl ⟨?_, hlt⟩
    -- There are two classes, so those that are not the first are the same.
    have hp := bne_iff_ne.mp (List.mem_filter.mp hp).2
    have hq := bne_iff_ne.mp (List.mem_filter.mp hq).2
    revert hp hq
    cases p.serverClass <;> cases q.serverClass <;> cases order.first <;> simp
  · exact .inr ⟨eq_of_beq (List.mem_filter.mp hp).2, bne_iff_ne.mp (List.mem_filter.mp hq).2⟩

theorem serverClass_of_mem_buildPlan {cluster : String} {topology : Topology}
    {hosted : HostedDatabases} {order : UpgradeOrder} {p : PlannedServer}
    (h : p ∈ buildPlan cluster topology hosted order) :
    p.serverClass = classOfServer cluster topology hosted p.ordinal := by
  have hserver : p ∈ (ordinals topology.servers).reverse.map fun ordinal =>
      (⟨ordinal, classOfServer cluster topology hosted ordinal⟩ : PlannedServer) := by
    rcases List.mem_append.mp h with hfirst | hsecond
    · exact (List.mem_filter.mp hfirst).1
    · exact (List.mem_filter.mp hsecond).1
  obtain ⟨ordinal, -, rfl⟩ := List.mem_map.mp hserver
  rfl

theorem classOfServer_eq_primary_iff {cluster : String} {topology : Topology}
    {hosted : HostedDatabases} {i : Ordinal} :
    classOfServer cluster topology hosted i = .primary ↔
      (∃ databases, hosted.find? (podName cluster i) = some databases ∧
        ∃ d ∈ databases, d.isPrimary) ∨ topology.constraintOf i = .primary := by
  have hhosts : ((hosted.find? (podName cluster i)).getD []).any (·.isPrimary) = true ↔
      ∃ databases, hosted.find? (podName cluster i) = some databases ∧
        ∃ d ∈ databases, d.isPrimary := by
    cases hosted.find? (podName cluster i) <;> simp
  rw [← hhosts]
  unfold classOfServer
  split
  · rename_i hprimary
    simpa using hprimary
  · rename_i hprimary
    simpa using hprimary

/-- The declared constraint of a server: the first hint for it, else that of the cluster. -/
def ClusterSpec.constraintOf (spec : ClusterSpec) (ordinal : Ordinal) : Mode :=
  ((knownHints spec.roleHints).lookup ordinal).getD spec.mode

theorem ClusterSpec.Accepted.constraintOf_eq {spec : ClusterSpec} {running : Option String}
    {topology : Topology} (h : spec.Accepted running topology) {i : Ordinal}
    (hpos : 0 ≤ i) (hlt : i < spec.servers) :
    topology.constraintOf i = spec.constraintOf i := by
  have hconstraints := constraints_of_validateRoleHints h.hints
  rw [h.clampServers_eq] at hconstraints
  have hpos := Int32.le_iff_toInt_le.mp hpos
  have hzero : (0 : Int32).toInt = 0 := rfl
  rw [hzero] at hpos
  have hlt := Int32.lt_iff_toInt_lt.mp hlt
  -- An ordinal in range survives the way through natural numbers and back.
  have hsame : Int32.ofNat i.toInt.toNat = i := by
    refine Int32.toInt_inj.mp ?_
    have hbound := Int32.toInt_lt i
    rw [Int32.toInt_ofNat_of_lt (by omega)]
    omega
  have hnonneg : ¬ i < 0 := by
    rw [Int32.lt_iff_toInt_lt, hzero]
    omega
  unfold Topology.constraintOf
  rw [if_neg hnonneg, hconstraints]
  unfold effectiveConstraints ordinals
  rw [List.map_map, List.getD_eq_getElem?_getD, List.getElem?_map, List.getElem?_range (by omega)]
  simp only [Option.map_some, Option.getD_some, Function.comp_apply, hsame]
  rfl

/-- What an order lists that was made of a declaration and of what the servers host. The clauses
determine it: it lists the declared servers, each once, with the class and at the place that the
declaration and the answers give it. -/
structure Situation.Orders (s : Situation) (hosted : HostedDatabases) (plan : List PlannedServer) :
    Prop where
  nodup : (plan.map (·.ordinal)).Nodup
  /-- It lists the declared servers. -/
  declared : ∀ i, (∃ p ∈ plan, p.ordinal = i) ↔ 0 ≤ i ∧ i < s.spec.servers
  /-- One class comes first, and within a class the last server. -/
  sorted : plan.Pairwise (PlannedServer.Precedes s.spec.upgradeStrategy.order.first)
  /-- A server is of the primary class if it hosts a primary database or may host nothing else. -/
  classes : ∀ p ∈ plan, p.serverClass = .primary ↔
    (∃ databases, hosted.find? (podName s.ref.name p.ordinal) = some databases ∧
      ∃ d ∈ databases, d.isPrimary) ∨ s.spec.constraintOf p.ordinal = .primary

theorem Situation.orders_buildPlan {s : Situation} {running : Option String}
    (h : s.spec.Accepted running s.topology) (hosted : HostedDatabases) :
    s.Orders hosted
      (buildPlan s.ref.name s.topology hosted s.spec.upgradeStrategy.order) := by
  have hperm := buildPlan_perm s.ref.name s.topology hosted s.spec.upgradeStrategy.order
  have hdeclared : ∀ i, (∃ p ∈ buildPlan s.ref.name s.topology hosted s.spec.upgradeStrategy.order,
      p.ordinal = i) ↔ 0 ≤ i ∧ i < s.spec.servers := by
    intro i
    rw [← h.servers_eq, ← mem_ordinals, ← hperm.mem_iff, List.mem_map]
  refine ⟨nodup_ordinal_buildPlan _ _ _ _, hdeclared, pairwise_buildPlan _ _ _ _, fun p hp => ?_⟩
  obtain ⟨hpos, hlt⟩ := (hdeclared p.ordinal).mp ⟨p, hp, rfl⟩
  rw [serverClass_of_mem_buildPlan hp, ← h.constraintOf_eq hpos hlt]
  exact classOfServer_eq_primary_iff

/-! ## The pass that fixes the order -/

namespace UpgradeRecord

variable {record : UpgradeRecord} {o : UpgradeObservation}

/-- An upgrade begins only when its first gate is open. -/
theorem gate_of_begun (hpending : record.phase = .pending)
    (hbegun : (record.advance o).record.phase = .inProgress) :
    o.configSettled = true ∧ (o.strategy.preUpgradeHealthCheck = true → o.health = .healthy) := by
  rw [advance_of_open (by rw [hpending]; rfl), phase_step, hpending] at hbegun
  cases hmove : (record.step o).move with
  | none =>
    rw [hmove] at hbegun
    cases hbegun
  | some m =>
    rw [hmove] at hbegun
    obtain ⟨hm, hsource⟩ := move_step hmove
    have hbegins : ∀ m ∈ upgradeMoves, m.source = .pending → m.target = .inProgress →
        m.event = .preChecksPassed := by decide
    have hevent := hbegins m hm (hsource.trans hpending) hbegun
    have hgate : (o.configSettled && (!o.strategy.preUpgradeHealthCheck || o.health == .healthy)) =
        true := (UpgradePhase.grounds_of_event? (event?_of_movesBy ⟨m, hmove, hevent⟩)).2
    simp only [Bool.and_eq_true, Bool.or_eq_true, Bool.not_eq_true', beq_iff_eq] at hgate
    exact ⟨hgate.1, fun hrequired => hgate.2.resolve_left (by simp [hrequired])⟩

/-- A record that begins takes the order of the pass. -/
theorem plan_advance_of_begun (hpending : record.phase = .pending)
    (hbegun : (record.advance o).record.phase = .inProgress) :
    (record.advance o).record.plan = record.planUsed o := by
  rcases plan_advance_of_pending (o := o) hpending with ⟨-, hplan⟩ | ⟨hidle, -⟩
  · exact hplan
  · rw [hbegun] at hidle
    cases hidle

theorem plan_advance_of_not_pending (h : record.phase ≠ .pending) :
    (record.advance o).record.plan = record.plan := by
  cases hover : record.phase.isTerminal with
  | true => rw [(record.continues_advance o).ended hover]
  | false => exact plan_advance_of_holds (UpgradePhase.holdsPods_of_open hover h)

theorem phase_advance_of_not_pending (h : record.phase ≠ .pending) :
    (record.advance o).record.phase ≠ .pending := by
  cases hover : record.phase.isTerminal with
  | true => rwa [(record.continues_advance o).ended hover]
  | false => exact phase_advance_ne_pending (UpgradePhase.holdsPods_of_open hover h)

end UpgradeRecord

/-- That a pass begins an upgrade, and what record it makes of it. A record may be new in the same
pass or may have waited for some; what matters is that it leaves the wait. -/
structure Situation.FixesOrder (s : Situation) (next : UpgradeRecord) : Prop where
  pending : ∃ record, s.openRecord? = some record ∧ record.phase = .pending
  next_eq : s.upgrade? = some next
  begun : next.phase = .inProgress

namespace Situation

variable {s : Situation} {record next : UpgradeRecord}

theorem upgrade?_of_open (h : s.openRecord? = some record) :
    s.upgrade? = some (record.advance s.observation).record := by
  rw [upgrade?_eq, h]
  rfl

/-- The record that a pass takes forward is the one that was stored, or it is new. -/
theorem stored_or_starting (h : s.openRecord? = some record) :
    s.status.upgrade = some record ∨
      ∃ version, record = .starting version s.spec.image.tag s.tokens := by
  have hevolves := s.evolves_upgrade?
  rw [upgrade?_of_open h] at hevolves
  generalize s.status.upgrade = current at hevolves ⊢
  cases hevolves with
  | continued stored _ hopen =>
    cases h.symm.trans hopen
    exact .inl rfl
  | started _ version _ hopen =>
    cases h.symm.trans hopen
    exact .inr ⟨version, rfl⟩

/-- **A pass that begins an upgrade has asked for the hosted databases**, if the record had no order
yet, and takes the order that they give. -/
theorem order_of_begun (hopen : s.openRecord? = some record) (hpending : record.phase = .pending)
    (hplan : record.plan = [])
    (hbegun : (record.advance s.observation).record.phase = .inProgress) :
    s.needsHosted = true ∧ (record.advance s.observation).record.plan = s.observation.order := by
  constructor
  · have hgate := (UpgradeRecord.gate_of_begun hpending hbegun).2
    have hhealthy : s.spec.upgradeStrategy.preUpgradeHealthCheck = true → s.health = .healthy :=
      hgate
    unfold needsHosted
    rw [hopen, Option.any_some, hpending, hplan]
    cases hrequired : s.spec.upgradeStrategy.preUpgradeHealthCheck with
    | false => rfl
    | true => simp [hhealthy hrequired]
  · rw [UpgradeRecord.plan_advance_of_begun hpending hbegun]
    unfold UpgradeRecord.planUsed
    rw [hplan]
    rfl

end Situation

/-! ## Histories -/

namespace History

variable {ref : ClusterRef} {h : History ref} {i j k : Nat} {s : Situation}
  {record next : UpgradeRecord}

/-- What is known of the order of a record: it has none as long as it waits, and while it holds the
pods it has the one of the pass that began it. -/
structure KnowsOrder (h : History ref) (k : Nat) (record : UpgradeRecord) : Prop where
  waits : record.phase = .pending → record.plan = []
  fixed : record.phase.holdsPods → ∃ m t begun, m < k ∧ h.Stores m t ∧ t.FixesOrder begun ∧
    record.plan = begun.plan ∧ begun.plan = t.observation.order

theorem knowsOrder_advance (hs : h.Stores k s) (hopen : s.openRecord? = some record)
    (hknows : h.KnowsOrder k record) :
    h.KnowsOrder (k + 1) (record.advance s.observation).record := by
  by_cases hpending : record.phase = .pending
  · have hnil := hknows.waits hpending
    rcases UpgradeRecord.plan_advance_of_pending (o := s.observation) hpending with
      ⟨hbegun, -⟩ | ⟨hidle, hplan⟩
    · have hfixes : s.FixesOrder (record.advance s.observation).record :=
        ⟨⟨record, hopen, hpending⟩, Situation.upgrade?_of_open hopen, hbegun⟩
      have horder := (Situation.order_of_begun hopen hpending hnil hbegun).2
      refine ⟨fun hwaits => ?_, fun _ => ⟨k, s, _, Nat.lt_succ_self k, hs, hfixes, rfl, horder⟩⟩
      cases hbegun.symm.trans hwaits
    · refine ⟨fun _ => hplan.trans hnil, fun hholds => ?_⟩
      cases hidle.symm.trans hholds
  · have hplan := UpgradeRecord.plan_advance_of_not_pending (o := s.observation) hpending
    refine ⟨fun hwaits => absurd hwaits (UpgradeRecord.phase_advance_of_not_pending hpending),
      fun hholds => ?_⟩
    have hopen := UpgradeRecord.open_of_advance (UpgradePhase.open_of_holdsPods hholds)
    have hbefore := UpgradePhase.holdsPods_of_open hopen hpending
    obtain ⟨m, t, begun, hmk, ht, hfixes, hsame, horder⟩ := hknows.fixed hbefore
    exact ⟨m, t, begun, Nat.lt_succ_of_lt hmk, ht, hfixes, hplan.trans hsame, horder⟩

theorem KnowsOrder.starting (h : History ref) (k : Nat) (version target : String)
    (tokens : UpgradeTokens) : h.KnowsOrder k (.starting version target tokens) :=
  ⟨fun _ => rfl, fun hholds => by cases hholds⟩

theorem KnowsOrder.succ (hknows : h.KnowsOrder k record) : h.KnowsOrder (k + 1) record := by
  refine ⟨hknows.waits, fun hholds => ?_⟩
  obtain ⟨m, t, begun, hmk, ht⟩ := hknows.fixed hholds
  exact ⟨m, t, begun, Nat.lt_succ_of_lt hmk, ht⟩

/-- **A stored record has the order of the pass that began it.** By induction on the passes, from a
cluster that has no record. -/
theorem knowsOrder_stored (hnone : (h.status 0).upgrade = none)
    (hrecord : (h.status k).upgrade = some record) : h.KnowsOrder k record := by
  induction k generalizing record with
  | zero => cases hnone.symm.trans hrecord
  | succ k ih =>
    rcases h.step k with hretouched | ⟨s, hs, -⟩
    · rw [upgrade_succ_of_retouched hretouched] at hrecord
      exact (ih hrecord).succ
    · rw [hs.status_succ] at hrecord
      have hupgrade : s.upgrade? = some record := hrecord
      cases hopen : s.openRecord? with
      | none =>
        rw [Situation.upgrade?_eq, hopen] at hupgrade
        cases hupgrade
      | some current =>
        rw [Situation.upgrade?_of_open hopen] at hupgrade
        cases hupgrade
        refine knowsOrder_advance hs hopen ?_
        rcases Situation.stored_or_starting hopen with hstored | ⟨version, rfl⟩
        · exact ih (hs.1.status_eq ▸ hstored)
        · exact .starting h k version _ _

theorem Finds.accepted (hs : h.Finds k s) :
    ∃ running, s.spec.Accepted running s.topology :=
  ⟨_, (validateCluster_eq_ok_iff.mp (ClusterOperator.Finds.workable hs).valid).2⟩

theorem Finds.ref_eq (hs : h.Finds k s) : s.ref = ref := by
  obtain ⟨cluster, topology, now, seen, rest, -, hseen, -⟩ := hs
  rw [(observed_observe hseen).given]

/-- Once an upgrade has begun, a pass keeps its order or starts the next upgrade. -/
theorem plan_succ (hrecord : (h.status k).upgrade = some record)
    (hbegun : record.phase ≠ .pending) :
    (∃ s version next, h.StartsUpgrade k s version next) ∨
      ∃ next, (h.status (k + 1)).upgrade = some next ∧ next.plan = record.plan ∧
        next.phase ≠ .pending := by
  rcases h.step k with hretouched | ⟨s, hs, hok⟩
  · exact .inr ⟨record, (upgrade_succ_of_retouched hretouched).trans hrecord, rfl, hbegun⟩
  · have hevolves := hs.evolves
    rw [hrecord] at hevolves
    generalize hafter : (h.status (k + 1)).upgrade = after at hevolves
    -- An upgrade that has begun is not dropped, and one that goes on keeps what it has.
    cases hevolves with
    | dropped _ hpending => exact absurd hpending hbegun
    | continued _ next hopen hcontinues =>
      have hnext : s.upgrade? = some next := by
        rw [← hafter, hs.status_succ]
        rfl
      rw [Situation.upgrade?_of_open hopen] at hnext
      cases hnext
      exact .inr ⟨_, rfl, UpgradeRecord.plan_advance_of_not_pending hbegun,
        UpgradeRecord.phase_advance_of_not_pending hbegun⟩
    | started _ version next hopen hversion hdeclared hcurrent hcontinues =>
      rw [hs.1.status_eq] at hversion
      refine .inl ⟨s, version, next, hs, hok, hversion, hdeclared, fun other hother => ?_, hafter,
        hcontinues⟩
      cases hrecord.symm.trans hother
      exact hcurrent record rfl

/-- **Once an upgrade has begun its order stays**, until a pass starts the next upgrade. -/
theorem plan_of_le (hij : i ≤ j) (hrecord : (h.status i).upgrade = some record)
    (hbegun : record.phase ≠ .pending)
    (hsame : ∀ m, i ≤ m → m < j → ∀ s version next, ¬ h.StartsUpgrade m s version next) :
    ∃ later, (h.status j).upgrade = some later ∧ later.plan = record.plan ∧
      later.phase ≠ .pending := by
  induction j, hij using Nat.le_induction with
  | base => exact ⟨record, hrecord, rfl, hbegun⟩
  | succ j hij ih =>
    obtain ⟨later, hlater, hplan, hphase⟩ :=
      ih fun m him hmj => hsame m him (Nat.lt_succ_of_lt hmj)
    rcases plan_succ hlater hphase with ⟨s, version, next, hstarts⟩ | ⟨next, hnext, hkept, hlast⟩
    · exact absurd hstarts (hsame j hij (Nat.lt_succ_self j) s version next)
    · exact ⟨next, hnext, hkept.trans hplan, hlast⟩

end History

end ClusterOperator
