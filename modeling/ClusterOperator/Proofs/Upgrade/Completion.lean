import ClusterOperator.Proofs.Membership.Partition
import ClusterOperator.Proofs.Upgrade.Planning

/-!
# When an upgrade completes

An upgrade completes when every server has arrived: its pod runs the target image, serves, and is in
the majority. Which servers these are is said by the order that was fixed when the upgrade began,
while the majority and the health of the membership are those of the servers that are declared now.
As long as the declaration names all the servers of the order, the two agree:

> **`planned_of_unrecorded`** — an upgrade goes by the order of the pass that began it, and
> completes only when all of that order has arrived.

> **`completes_of_declared`** — a pass that finds every declared server arrived and the membership
> healthy completes the upgrade, if the whole order is declared.

The condition cannot be left out. A server that is taken away while the upgrade goes on stays in its
order, and never arrives (`declared_of_hasArrived`), so the upgrade does not complete although
nothing is left to be done (`not_completes_shrunkPair`).
-/

set_option autoImplicit false

namespace ClusterOperator

/-! ## The event -/

namespace UpgradePhase

theorem holdsPods_of_inProgress {phase : UpgradePhase} (h : phase = .inProgress) :
    phase.holdsPods := by
  rw [h]
  rfl

/-- An upgrade with all servers upgraded completes unless something stands against it. -/
theorem event?_of_allServersUpgraded {c : UpgradeContext} (habort : c.abortRequested = false)
    (hintime : c.stepTimedOut = false) (hwhole : c.clusterSplit = false)
    (hpatient : c.postGateTimedOut = false) (hall : c.allServersUpgraded = true)
    (hgate : c.postGatePassed = true) : inProgress.event? c = some .allServersUpgraded := by
  unfold event?
  simp only [isTerminal, habort, hintime, hwhole, hpatient, hall, hgate]
  rfl

end UpgradePhase

/-- Counting up to a bound loses nothing as long as there are not more. -/
theorem length_le_of_countOf_le {α β : Type} {xs : List α} {ys : List β}
    (hshort : xs.length ≤ 2147483647) (h : countOf xs ≤ countOf ys) : xs.length ≤ ys.length := by
  unfold countOf at h
  have hle := Int32.le_iff_toInt_le.mp h
  rw [Int32.toInt_ofNat_of_lt (by omega), Int32.toInt_ofNat_of_lt (by omega)] at hle
  omega

namespace UpgradeRecord

variable {record : UpgradeRecord} {o : UpgradeObservation}

/-- What is known of an order that was made of a valid declaration. It has few enough servers to be
counted without loss, and at least one, so that an upgrade with nothing to do is not complete for
that. -/
structure HasOrder (record : UpgradeRecord) : Prop where
  populated : record.plan ≠ []
  short : record.plan.length ≤ 64
  ordinal : ∀ p ∈ record.plan, 0 ≤ p.ordinal

theorem HasOrder.planUsed (h : record.HasOrder) (o : UpgradeObservation) :
    record.planUsed o = record.plan := by
  unfold UpgradeRecord.planUsed
  rw [if_neg]
  simpa using h.populated

/-- An upgrade completes out of progress, and by one event. -/
theorem movesBy_of_completed (hopen : record.phase ≠ .completed)
    (hcompleted : (record.advance o).record.phase = .completed) :
    record.phase = .inProgress ∧ (record.step o).MovesBy .allServersUpgraded := by
  have hnotover : record.phase.isTerminal = false := by
    by_contra hover
    rw [(record.continues_advance o).ended (Bool.of_not_eq_false hover)] at hcompleted
    exact hopen hcompleted
  rw [advance_of_open hnotover, phase_step] at hcompleted
  cases hmove : (record.step o).move with
  | none =>
    rw [hmove] at hcompleted
    exact absurd hcompleted hopen
  | some m =>
    rw [hmove] at hcompleted
    obtain ⟨hm, hsource⟩ := move_step hmove
    have hcompletes : ∀ m ∈ upgradeMoves, m.target = .completed →
        m.source = .inProgress ∧ m.event = .allServersUpgraded := by decide
    obtain ⟨hfrom, hevent⟩ := hcompletes m hm hcompleted
    exact ⟨hsource.symm.trans hfrom, m, hmove, hevent⟩

/-- **An upgrade completes only when every planned server is upgraded** and the last gate, where it
is required, is open. -/
theorem upgraded_of_movesBy (hshort : (record.planUsed o).length ≤ 2147483647)
    (h : (record.step o).MovesBy .allServersUpgraded) :
    (∀ p ∈ record.planUsed o, record.isUpgraded o p) ∧
      (o.strategy.postUpgradeHealthCheck = true → o.health = .healthy) := by
  obtain ⟨-, hall, hgate⟩ := UpgradePhase.grounds_of_event? (event?_of_movesBy h)
  constructor
  · have hcounts : countOf (record.serverStates o) ≤
        countOf ((record.serverStates o).filter (·.upgraded)) :=
      of_decide_eq_true (Bool.and_eq_true_iff.mp hall).1
    have hlength : (record.serverStates o).length ≤
        ((record.serverStates o).filter (·.upgraded)).length := by
      refine length_le_of_countOf_le ?_ hcounts
      rw [serverStates_eq, List.length_map]
      exact hshort
    have hevery := List.length_filter_eq_length_iff.mp
      (Nat.le_antisymm (List.length_filter_le _ _) hlength)
    exact fun p hp => hevery _ (List.mem_map_of_mem hp)
  · intro hrequired
    have hopen : (!o.strategy.postUpgradeHealthCheck || o.health == .healthy) = true := hgate
    rw [hrequired] at hopen
    exact eq_of_beq hopen

/-- **An upgrade completes when every planned server is upgraded**, the membership is healthy and
nobody asks to abort it. -/
theorem completed_of_upgraded (hphase : record.phase = .inProgress)
    (habort : isNewToken o.tokens.abort record.handledAbortToken = false)
    (hall : ∀ p ∈ record.planUsed o, record.isUpgraded o p) (hhealthy : o.health = .healthy) :
    (record.advance o).record.phase = .completed := by
  have hholds := UpgradePhase.holdsPods_of_inProgress hphase
  -- Nothing is found in flight: what is in flight is planned and not upgraded.
  have hgrounded : (record.observed o).inFlight = [] := by
    refine List.eq_nil_iff_forall_not_mem.mpr fun f hf => ?_
    obtain ⟨p, hp, -, hnot, -⟩ := mem_inFlight_observed hholds hf
    cases hnot.symm.trans (hall p hp)
  have hundated : (record.observed o).postCheckSince = none := by
    refine Option.eq_none_iff_forall_ne_some.mpr fun text htext => ?_
    exact (waits_of_postCheckSince htext).2.1.closed hhealthy
  have hcounted : (record.serverStates o).filter (·.upgraded) = record.serverStates o := by
    refine List.filter_eq_self.mpr fun state hstate => ?_
    obtain ⟨p, hp, rfl⟩ := List.mem_map.mp hstate
    exact hall p hp
  have hevent : record.phase.event? ((record.observed o).context o (record.serverStates o)) =
      some .allServersUpgraded := by
    rw [hphase]
    refine UpgradePhase.event?_of_allServersUpgraded habort ?_ ?_ ?_ ?_ ?_
    · show ((record.observed o).phase == .inProgress && (record.observed o).inFlight.any _) = false
      rw [hgrounded, List.any_nil, Bool.and_false]
    · show (o.health == .split) = false
      rw [hhealthy]
      rfl
    · show (record.observed o).postCheckSince.any _ = false
      rw [hundated]
      rfl
    · show (decide (countOf ((record.serverStates o).filter (·.upgraded)) ≥
        countOf (record.serverStates o)) && countOf (record.observed o).inFlight == 0) = true
      rw [hcounted, hgrounded]
      simp [countOf]
    · show (!o.strategy.postUpgradeHealthCheck || o.health == .healthy) = true
      rw [hhealthy]
      simp
  obtain ⟨m, hmove⟩ := Option.isSome_iff_exists.mp (UpgradePhase.isSome_move? hevent)
  have hstep : (record.step o).move = some m := by
    show (record.phase.event? _).bind _ = _
    rw [hevent]
    exact hmove
  obtain ⟨hm, -, hby⟩ := UpgradePhase.move?_eq_some hmove
  have hleads : ∀ m ∈ upgradeMoves, m.event = .allServersUpgraded → m.target = .completed := by
    decide
  rw [advance_of_open (by rw [hphase]; rfl), phase_step, hstep]
  exact hleads m hm hby

end UpgradeRecord

/-! ## Servers that have arrived -/

namespace Situation

variable {s : Situation} {record next : UpgradeRecord}

/-- That a server has arrived at a version: it has a pod that runs the image of the version, serves,
and is in the majority. It is stated of what the pass lists and is answered, without the record. -/
def HasArrived (s : Situation) (version : String) (i : Ordinal) : Prop :=
  ∃ pod, s.pods.find? (·.ordinal == i) = some pod ∧
    pod.image = some (s.spec.image.referenceFor version) ∧ pod.isServing ∧
    s.classification.inMajority (podName s.ref.name i)

theorem isUpgraded_iff {p : PlannedServer} :
    record.isUpgraded s.observation p ↔ s.HasArrived record.targetVersion p.ordinal := by
  have hpod : s.observation.podAt? p.ordinal = s.pods.find? (·.ordinal == p.ordinal) := rfl
  have hmember : s.observation.hasRejoined p =
      s.classification.inMajority (podName s.ref.name p.ordinal) := rfl
  have himage : record.targetImage s.observation =
      s.spec.image.referenceFor record.targetVersion := rfl
  unfold UpgradeRecord.isUpgraded UpgradeObservation.runs UpgradeObservation.serves HasArrived
  rw [hpod, hmember, himage]
  cases s.pods.find? (·.ordinal == p.ordinal) <;> simp [and_assoc]

theorem exists_ready_of_inMajority {i : DetectionInput} {name : String}
    (h : (classify i).inMajority name) : ∃ p ∈ i.ready, p.name = name := by
  have hmember : name ∈ i.classes.flatten := by
    have hhead : (i.classes.head?.getD []).contains name = true := h
    cases hclasses : i.classes with
    | nil =>
      rw [hclasses] at hhead
      cases hhead
    | cons majority others =>
      rw [hclasses] at hhead
      exact List.mem_flatten_of_mem List.mem_cons_self (List.contains_iff_mem.mp hhead)
  unfold DetectionInput.classes at hmember
  split at hmember
  · exact (DetectionInput.mem_keys_known.mp (Views.mem_flatten_equivalenceClasses.mp hmember)).2
  · split at hmember
    · cases hmember
    · rw [List.flatten_singleton] at hmember
      obtain ⟨p, hp, hname⟩ := List.mem_map.mp hmember
      exact ⟨p, hp, hname⟩

/-- **A server that is not declared has not arrived**, if pods are named for their ordinals: it is
not asked whom it sees, and so is in no majority. -/
theorem declared_of_hasArrived {version : String} {i : Ordinal}
    (hnamed : ∀ pod ∈ s.pods, pod.name = podName s.ref.name pod.ordinal)
    (h : s.HasArrived version i) : i < s.servers := by
  obtain ⟨-, -, -, -, hmember⟩ := h
  obtain ⟨p, hp, hname⟩ := exists_ready_of_inMajority hmember
  obtain ⟨hlisted, hready⟩ := List.mem_filter.mp hp
  have hordinal : p.ordinal = i :=
    podName_injective ((hnamed p hlisted).symm.trans hname)
  rw [← hordinal]
  exact of_decide_eq_true (Bool.and_eq_true_iff.mp hready).1

theorem openRecord?_of_holds (hcurrent : s.status.upgrade = some record)
    (hholds : record.phase.holdsPods) : s.openRecord? = some record := by
  by_cases htarget : record.targetVersion = s.spec.image.tag
  · exact openRecord?_of_declared hcurrent htarget
  · unfold openRecord? request resolveRequest
    rw [hcurrent]
    cases s.status.version with
    | none => rfl
    | some version => simp only [if_neg htarget, if_pos hholds]

end Situation

/-! ## Histories -/

namespace History

variable {ref : ClusterRef} {h : History ref} {k : Nat} {s : Situation}
  {record next : UpgradeRecord}

theorem hasOrder_of_holds (hnone : (h.status 0).upgrade = none)
    (hrecord : (h.status k).upgrade = some record) (hholds : record.phase.holdsPods) :
    record.HasOrder := by
  obtain ⟨m, t, begun, -, ht, hfixes, hplan, horder⟩ :=
    (knowsOrder_stored hnone hrecord).fixed hholds
  obtain ⟨running, haccepted⟩ := ht.1.accepted
  obtain ⟨hfew, hmany⟩ := haccepted.servers_bounds
  have hservers : t.observation.topology.servers = t.spec.servers := haccepted.servers_eq
  rw [horder] at hplan
  constructor
  case populated =>
    rw [hplan]
    refine UpgradeRun.order_ne_nil ?_
    rw [hservers]
    exact Int32.lt_iff_toInt_lt.mpr hfew
  case short =>
    have hlength := (buildPlan_perm t.ref.name t.topology t.hosted
      t.spec.upgradeStrategy.order).length_eq
    have hplanned : record.plan.length = (ordinals t.topology.servers).length := by
      rw [hplan, ← hlength, List.length_map]
      rfl
    rw [hplanned, haccepted.servers_eq, ordinals, List.length_map, List.length_range]
    omega
  case ordinal =>
    intro p hp
    rw [hplan] at hp
    have horders := Situation.orders_buildPlan haccepted t.hosted
    exact ((horders.declared p.ordinal).mp ⟨p, hp, rfl⟩).1

/-- **A pass that completes an upgrade** has found every planned server arrived, and the membership
healthy where that is required. -/
theorem arrived_of_completed (hnone : (h.status 0).upgrade = none) (hs : h.Finds k s)
    (hopen : s.openRecord? = some record) (hbefore : record.phase ≠ .completed)
    (hnext : s.upgrade? = some next) (hcompleted : next.phase = .completed) :
    next.plan = record.plan ∧ (∀ p ∈ record.plan, s.HasArrived record.targetVersion p.ordinal) ∧
      (s.spec.upgradeStrategy.postUpgradeHealthCheck = true → s.health = .healthy) := by
  rw [Situation.upgrade?_of_open hopen] at hnext
  cases hnext
  obtain ⟨hphase, hmoves⟩ := UpgradeRecord.movesBy_of_completed hbefore hcompleted
  have hholds := UpgradePhase.holdsPods_of_inProgress hphase
  -- A record that completes was in progress before, so it is one that was stored and has its order.
  have hstored : (h.status k).upgrade = some record := by
    rcases Situation.stored_or_starting hopen with hstored | ⟨version, rfl⟩
    · exact hs.status_eq ▸ hstored
    · cases hphase
  have horder := hasOrder_of_holds hnone hstored hholds
  have hused := horder.planUsed s.observation
  have hshort : (record.planUsed s.observation).length ≤ 2147483647 := by
    rw [hused]
    exact le_trans horder.short (by decide)
  obtain ⟨hall, hgate⟩ := UpgradeRecord.upgraded_of_movesBy hshort hmoves
  rw [hused] at hall
  exact ⟨UpgradeRecord.plan_advance_of_holds hholds,
    fun p hp => Situation.isUpgraded_iff.mp (hall p hp), hgate⟩

/-- **No upgrade completes while a server of its order is not declared**, if pods are named for
their ordinals. -/
theorem declared_of_completed (hnone : (h.status 0).upgrade = none) (hs : h.Finds k s)
    (hnamed : ∀ pod ∈ s.pods, pod.name = podName s.ref.name pod.ordinal)
    (hopen : s.openRecord? = some record) (hbefore : record.phase ≠ .completed)
    (hnext : s.upgrade? = some next) (hcompleted : next.phase = .completed) :
    ∀ p ∈ record.plan, p.ordinal < s.servers := by
  obtain ⟨-, harrived, -⟩ := arrived_of_completed hnone hs hopen hbefore hnext hcompleted
  exact fun p hp => Situation.declared_of_hasArrived hnamed (harrived p hp)

/-- A pass that finds every planned server arrived completes the upgrade. -/
theorem completed_of_arrived (hnone : (h.status 0).upgrade = none)
    (hrecord : (h.status k).upgrade = some record) (hphase : record.phase = .inProgress)
    (hs : h.Finds k s) (habort : isNewToken s.tokens.abort record.handledAbortToken = false)
    (hall : ∀ p ∈ record.plan, s.HasArrived record.targetVersion p.ordinal)
    (hhealthy : s.health = .healthy) :
    ∃ next, s.upgrade? = some next ∧ next.phase = .completed := by
  have hholds := UpgradePhase.holdsPods_of_inProgress hphase
  have hopen : s.openRecord? = some record :=
    Situation.openRecord?_of_holds (hs.status_eq ▸ hrecord) hholds
  refine ⟨_, Situation.upgrade?_of_open hopen, ?_⟩
  refine UpgradeRecord.completed_of_upgraded hphase habort (fun p hp => ?_) hhealthy
  rw [(hasOrder_of_holds hnone hrecord hholds).planUsed] at hp
  exact Situation.isUpgraded_iff.mpr (hall p hp)

/-- **A rollout that is finished completes**, as long as nobody takes away a server of its order.
The membership has to be healthy, since the last gate may ask for it, and nobody must have asked to
abort. -/
theorem completes_of_declared (h : History ref) (hnone : (h.status 0).upgrade = none)
    (hrecord : (h.status k).upgrade = some record) (hphase : record.phase = .inProgress)
    (hs : h.Finds k s) (habort : isNewToken s.tokens.abort record.handledAbortToken = false)
    (hdeclared : ∀ p ∈ record.plan, p.ordinal < s.spec.servers)
    (harrived : ∀ i, 0 ≤ i → i < s.spec.servers → s.HasArrived record.targetVersion i)
    (hhealthy : s.health = .healthy) :
    ∃ next, s.upgrade? = some next ∧ next.phase = .completed ∧
      (h.Stores k s → (h.status (k + 1)).upgrade = some next) := by
  have hholds := UpgradePhase.holdsPods_of_inProgress hphase
  have hordinal := (hasOrder_of_holds hnone hrecord hholds).ordinal
  obtain ⟨next, hnext, hcompleted⟩ := completed_of_arrived hnone hrecord hphase hs habort
    (fun p hp => harrived p.ordinal (hordinal p hp) (hdeclared p hp)) hhealthy
  refine ⟨next, hnext, hcompleted, fun hstores => ?_⟩
  rw [hstores.status_succ]
  exact hnext

end History

/-! ## A rollout that finishes -/

/-- The upgrade of the single server when its pod is back on the target image. -/
def finished : Situation := soloAt "2" none (some "neo4j:2") (some raised.nextStatus)

theorem succession_finished :
    Succession ⟨"data", "db"⟩ none [installed, raised, finished] := by
  refine ⟨attainable_soloAt valid_install, rfl, attainable_soloAt valid_raise, rfl,
    attainable_soloAt ?_, rfl, trivial⟩
  show validateCluster (solo "2" none none) (some raised.version) = _
  rw [version_raised]
  exact valid_raise

theorem plan_raisedRecord : raisedRecord.plan = [⟨0, .secondary⟩] :=
  UpgradeRecord.plan_advance_of_begun rfl phase_raisedRecord

theorem hasArrived_finished : finished.HasArrived "2" 0 :=
  ⟨{ name := "db-0", ordinal := 0, image := some "neo4j:2" }, rfl, rfl, rfl, rfl⟩

theorem exists_finished : ∃ h : History ⟨"data", "db"⟩, (h.status 0).upgrade = none ∧
    h.Stores 1 raised ∧ (h.status 2).upgrade = some raisedRecord ∧ h.Stores 2 finished := by
  obtain ⟨h, hstart, hcourse, -⟩ := exists_history succession_finished
  have hraised := (hcourse 1 raised rfl).2
  refine ⟨h, by rw [History.status_zero hstart], hraised, ?_, (hcourse 2 finished rfl).2⟩
  rw [hraised.status_succ]
  exact upgrade?_raised

theorem eq_zero_of_single {i : Ordinal} (hpos : 0 ≤ i) (hlt : i < 1) : i = 0 := by
  have hmem : i ∈ ordinals 1 := mem_ordinals.mpr ⟨hpos, hlt⟩
  have honly : ordinals 1 = [0] := by decide
  rwa [honly, List.mem_singleton] at hmem

theorem completes_of_declared_finished : ∃ h : History ⟨"data", "db"⟩,
    (h.status 0).upgrade = none ∧ (h.status 2).upgrade = some raisedRecord ∧
      raisedRecord.phase = .inProgress ∧ h.Finds 2 finished ∧
      isNewToken finished.tokens.abort raisedRecord.handledAbortToken = false ∧
      (∀ p ∈ raisedRecord.plan, p.ordinal < finished.spec.servers) ∧
      (∀ i, 0 ≤ i → i < finished.spec.servers →
        finished.HasArrived raisedRecord.targetVersion i) ∧
      finished.health = .healthy ∧
      ∃ next, finished.upgrade? = some next ∧ next.phase = .completed ∧
        (h.Stores 2 finished → (h.status 3).upgrade = some next) := by
  obtain ⟨h, hnone, -, hrecord, hstores⟩ := exists_finished
  have habort : isNewToken finished.tokens.abort raisedRecord.handledAbortToken = false := rfl
  have hdeclared : ∀ p ∈ raisedRecord.plan, p.ordinal < finished.spec.servers := by
    rw [plan_raisedRecord]
    decide
  have harrived : ∀ i, 0 ≤ i → i < finished.spec.servers →
      finished.HasArrived raisedRecord.targetVersion i := by
    intro i hpos hlt
    rw [eq_zero_of_single hpos hlt, versions_raisedRecord.1]
    exact hasArrived_finished
  have hhealthy : finished.health = .healthy := rfl
  exact ⟨h, hnone, hrecord, phase_raisedRecord, hstores.1, habort, hdeclared, harrived, hhealthy,
    History.completes_of_declared h hnone hrecord phase_raisedRecord hstores.1 habort hdeclared
      harrived hhealthy⟩

/-- That cluster, declared with another number of servers. -/
def sized (servers : Int32) (tag : String) (status : Option ClusterStatus) : Cluster :=
  { solo tag none status with spec := { (solo tag none status).spec with servers } }

/-- What a pass over it finds, given the images of the servers. -/
def sizedAt (topology : Topology) (tag : String) (images : List String)
    (status : Option ClusterStatus) : Situation :=
  { cluster := sized topology.servers tag status, ref := ⟨"data", "db"⟩, settings := {}
    now := .epoch, topology
    pods := images.zipIdx.map fun (image, n) =>
      { name := podName "db" (Int32.ofNat n), ordinal := Int32.ofNat n, image := some image }
    views := .empty }

def twoServers : Topology := ⟨.cluster 2 2, [.unrestricted, .unrestricted]⟩

def oneServer : Topology := ⟨.standalone, [.unrestricted]⟩

def installedPair : Situation := sizedAt twoServers "1" [] none

def raisedPair : Situation :=
  sizedAt twoServers "2" ["neo4j:1", "neo4j:1"] (some installedPair.nextStatus)

/-- Both servers run the target image when the second is not declared any more. -/
def shrunkPair : Situation :=
  sizedAt oneServer "2" ["neo4j:2", "neo4j:2"] (some raisedPair.nextStatus)

def raisedPairRecord : UpgradeRecord :=
  ((UpgradeRecord.starting "1" "2" {}).advance raisedPair.observation).record

theorem valid_installPair : validateCluster (sized 2 "1" none) none = .ok twoServers := by
  decide +kernel

theorem valid_raisePair : validateCluster (sized 2 "2" none) (some "1") = .ok twoServers := by
  decide +kernel

theorem valid_shrinkPair : validateCluster (sized 1 "2" none) (some "1") = .ok oneServer := by
  decide +kernel

section
variable {topology : Topology} {tag : String} {images : List String}
  {status : Option ClusterStatus}

theorem attainable_sizedAt (hvalid : validateCluster (sized topology.servers tag none)
      (status.getD {}).version = .ok topology) :
    (sizedAt topology tag images status).Attainable ⟨"data", "db"⟩ := by
  have hsame : validateCluster (sized topology.servers tag status) (status.getD {}).version =
      validateCluster (sized topology.servers tag none) (status.getD {}).version :=
    validateCluster_congr rfl rfl
  exact ⟨rfl, ⟨rfl, rfl, hsame.trans hvalid⟩, rfl, fun _ => rfl, ⟨[], rfl⟩, rfl⟩

theorem permits_sizedAt {last : ClusterStatus} (hlast : last.configuration.lastAppliedHash =
      some (sizedAt topology "1" [] none).derived.hash) :
    (sizedAt topology tag images (some last)).permitsApply = true := by
  have hsettled : (sizedAt topology tag images (some last)).status.configuration.lastAppliedHash =
      some (sizedAt topology tag images (some last)).derived.hash := hlast
  unfold Situation.permitsApply Situation.drift Situation.evaluated
  rw [ConfigurationRecord.evaluate_applied _ _ hsettled]
  rfl

end

theorem openRecord?_raisedPair : raisedPair.openRecord? = some (.starting "1" "2" {}) := rfl

theorem permits_raisedPair : raisedPair.permitsApply = true :=
  permits_sizedAt rfl

theorem phase_raisedPairRecord : raisedPairRecord.phase = .inProgress :=
  UpgradeRecord.phase_advance_of_pending rfl rfl permits_raisedPair rfl

theorem upgrade?_raisedPair : raisedPair.upgrade? = some raisedPairRecord :=
  Situation.upgrade?_of_open openRecord?_raisedPair

theorem version_raisedPair : raisedPair.version = "1" := by
  have hversion : raisedPair.status.version = some "1" := rfl
  rcases Situation.version_of_running hversion with hsame | ⟨record, _, hrecord, -⟩
  · exact hsame
  · cases hrecord

theorem plan_raisedPairRecord : raisedPairRecord.plan = [⟨1, .secondary⟩, ⟨0, .secondary⟩] :=
  UpgradeRecord.plan_advance_of_begun rfl phase_raisedPairRecord

theorem succession_shrunkPair :
    Succession ⟨"data", "db"⟩ none [installedPair, raisedPair, shrunkPair] := by
  refine ⟨attainable_sizedAt valid_installPair, rfl, attainable_sizedAt valid_raisePair, rfl,
    attainable_sizedAt ?_, rfl, trivial⟩
  show validateCluster (sized 1 "2" none) (some raisedPair.version) = _
  rw [version_raisedPair]
  exact valid_shrinkPair

theorem hasArrived_shrunkPair : shrunkPair.HasArrived "2" 0 :=
  ⟨{ name := "db-0", ordinal := 0, image := some "neo4j:2" }, rfl, rfl, rfl, rfl⟩

namespace History

/-- **A rollout need not complete when every declared server has arrived.** The order was made when
there were two servers, and the one that is not declared any more is waited for. -/
theorem not_completes_shrunkPair :
    ¬ ∀ (ref : ClusterRef) (h : History ref), (h.status 0).upgrade = none →
      ∀ (k : Nat) (s : Situation) (record : UpgradeRecord),
        (h.status k).upgrade = some record → record.phase = .inProgress → h.Finds k s →
        isNewToken s.tokens.abort record.handledAbortToken = false →
        (∀ i, 0 ≤ i → i < s.spec.servers → s.HasArrived record.targetVersion i) →
        s.health = .healthy → ∃ next, s.upgrade? = some next ∧ next.phase = .completed := by
  intro hall
  obtain ⟨h, hstart, hcourse, -⟩ := exists_history succession_shrunkPair
  have hnone : (h.status 0).upgrade = none := by
    rw [status_zero hstart]
  have hrecord : (h.status 2).upgrade = some raisedPairRecord := by
    rw [(hcourse 1 raisedPair rfl).2.status_succ]
    exact upgrade?_raisedPair
  have hfinds : h.Finds 2 shrunkPair := (hcourse 2 shrunkPair rfl).2.1
  have htarget : raisedPairRecord.targetVersion = "2" :=
    ((UpgradeRecord.starting "1" "2" {}).continues_advance raisedPair.observation).targetVersion
  have harrived : ∀ i, 0 ≤ i → i < shrunkPair.spec.servers →
      shrunkPair.HasArrived raisedPairRecord.targetVersion i := by
    intro i hpos hlt
    rw [eq_zero_of_single hpos hlt, htarget]
    exact hasArrived_shrunkPair
  obtain ⟨next, hnext, hcompleted⟩ := hall _ h hnone 2 shrunkPair raisedPairRecord hrecord
    phase_raisedPairRecord hfinds rfl harrived rfl
  have hopen : shrunkPair.openRecord? = some raisedPairRecord :=
    Situation.openRecord?_of_declared (hfinds.status_eq ▸ hrecord) htarget
  have hbefore : raisedPairRecord.phase ≠ .completed := by
    rw [phase_raisedPairRecord]
    exact UpgradePhase.noConfusion
  -- Had it completed, every server of its order would be declared; the second one is not.
  have hdeclared :=
    declared_of_completed hnone hfinds (by decide) hopen hbefore hnext hcompleted ⟨1, .secondary⟩
  rw [plan_raisedPairRecord] at hdeclared
  have hmissing : ¬ (1 : Ordinal) < shrunkPair.servers := by decide
  exact hmissing (hdeclared List.mem_cons_self)

end History

end ClusterOperator
