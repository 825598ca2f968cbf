import ClusterOperator.Proofs.Membership.Cooldown
import ClusterOperator.Proofs.Membership.Health
import ClusterOperator.Proofs.Pass.Conditions
import ClusterOperator.Proofs.Pass.Telling
import ClusterOperator.Proofs.Upgrade.Completion

/-!
# The moves between phases

A pass derives the phase from the phase that it reads and from what it observes, and only then looks
the move up. Nothing holds it back if the table does not know the move, so the table has to know
every move that the derivation can make.

> **`ClusterPhase.isKnown_next_iff`** — the table knows the move whatever is observed, unless a
> cluster that was being deleted is not being deleted any more.

> **`History.keepsTable_of_fresh`** — so no pass makes an unknown move, if nobody takes a deletion
> back; every move of the stored phase is one that a pass has derived; and whoever stores that the
> cluster is running has found it so.

What running says of the servers is counted: as many declared pods serve as there are servers. Every
server serves only if the pods are numbered, each with a number of its own.
-/

set_option autoImplicit false

namespace ClusterOperator

open Pass

/-! ## The table -/

/-- Whether the table knows a move, or there is nothing to move. -/
def MoveCheck.isKnown : MoveCheck → Bool
  | unchanged | listed _ => true
  | unlisted _ _ _ => false

namespace ClusterPhase

variable {current : ClusterPhase} {seen : PhaseObservation}

/-- What can be derived of a cluster that is not being deleted. There are few of these for each
phase, so that the table can be checked against all of them. -/
def prospects (current : ClusterPhase) : List (ClusterPhase × ClusterEvent) :=
  [(failed, .validationFailed), (upgrading, .upgradeActive), (splitBrain, .splitDetected),
    if current.isCreating then (creating, .resourcesApplied) else (degraded, .replicasDegraded),
    (running, .membershipHealthy), (forming, .podsReady)]

theorem next_of_deleting (h : seen.deleting = true) :
    current.next seen = (deleting, .deletionRequested) := by
  unfold next
  rw [if_pos h]

theorem next_mem_prospects (h : seen.deleting = false) : current.next seen ∈ current.prospects := by
  unfold next prospects
  simp only [h, Bool.false_eq_true, if_false]
  grind

theorem ne_deleting_of_mem_prospects :
    ∀ move ∈ current.prospects, move.1 ≠ deleting := by
  cases current <;> decide

theorem isKnown_of_mem_prospects :
    ∀ move ∈ current.prospects,
      (checkMove current move.1 move.2).isKnown = (current != deleting) := by
  cases current <;> decide

theorem isKnown_deleting : (checkMove current deleting .deletionRequested).isKnown := by
  cases current <;> decide

/-- **The table knows every move that is derived**, but for one out of deletion. -/
theorem isKnown_next_iff : (checkMove current (current.next seen).1 (current.next seen).2).isKnown ↔
    (current = deleting → seen.deleting) := by
  cases hdeleting : seen.deleting with
  | true =>
    rw [next_of_deleting hdeleting]
    exact iff_of_true isKnown_deleting fun _ => rfl
  | false =>
    rw [isKnown_of_mem_prospects _ (next_mem_prospects hdeleting)]
    simp

/-- What it takes to be running. -/
theorem of_next_running (h : (current.next seen).1 = running) :
    seen.upgradeActive = false ∧ seen.membership = .healthy ∧
      ¬ seen.readyReplicas < seen.desiredReplicas := by
  unfold next at h
  grind

end ClusterPhase

/-! ## What a pass derives the phase from -/

/-- That a pass derives a phase, from the status that it has read and from what it observes. There
are three places at which a pass does so, each with the part of the observation that it fills in. -/
inductive Observes (operator : Operator) (ref : ClusterRef) (trace : Trace) :
    ClusterStatus → PhaseObservation → Prop
  | working {s : Situation} (hs : Finds operator ref trace s) :
    Observes operator ref trace s.status
      { readyReplicas := s.ready, desiredReplicas := s.servers, membership := s.health
        upgradeActive := s.upgradeHolds }
  /-- A pass that refuses the declaration looks at no server. -/
  | refusing {cluster : Cluster} {failure : Failure} {status : ClusterStatus}
    (hread : trace.head? = some ⟨.getCluster ref, .ok (some cluster)⟩)
    (hrefused : Refused cluster failure) (hstatus : status = cluster.status.getD {}) :
    Observes operator ref trace status
      { readyReplicas := status.replicas.ready, desiredReplicas := status.replicas.total
        membership := status.membership.health, validationFailed := true }
  | deleting {cluster : Cluster} {status : ClusterStatus}
    (hread : trace.head? = some ⟨.getCluster ref, .ok (some cluster)⟩)
    (hdeleted : cluster.metadata.deletionTimestamp.isSome)
    (hclaimed : cluster.hasFinalizer = true) (hstatus : status = cluster.status.getD {})
    (hphase : status.phase ≠ .deleting) :
    Observes operator ref trace status
      { readyReplicas := 0, desiredReplicas := 0, membership := .unformed, deleting := true }

section
variable {operator : Operator} {ref : ClusterRef} {trace : Trace}
  {result : Except Failure Requeue} {cluster : Cluster}

theorem Finds.head?_eq {s : Situation} (hs : Finds operator ref trace s) :
    trace.head? = some ⟨.getCluster ref, .ok (some s.cluster)⟩ := by
  obtain ⟨cluster, topology, now, seen, rest, -, hseen, rfl⟩ := hs
  rw [(observed_observe hseen).given]
  rfl

theorem status_setStatus (next : ClusterStatus) (latest : Cluster) :
    (setStatus next latest).2.status = some next := by
  unfold setStatus
  split
  · assumption
  · rfl

theorem phase_refusal (cluster latest : Cluster) (violations : List String) (now : Instant) :
    ((refusal cluster violations now latest).2.status.getD {}).phase = .failed := by
  unfold refusal setRejection
  rw [status_setStatus]
  rfl

theorem phase_setDeleting (latest : Cluster) :
    ((setDeleting latest).2.status.getD {}).phase = .deleting := by
  unfold setDeleting
  dsimp only
  split
  · assumption
  · rfl

/-- **A pass writes the phase that it has derived**, and running only with all that the situation
asks for. -/
theorem exists_observes_of_write (hrun : (reconcile operator ref).Runs trace result)
    {answer : Except Failure Cluster} (hwrite : ⟨.replaceStatus cluster, answer⟩ ∈ trace) :
    (∃ s, Finds operator ref trace s ∧ cluster.status = some s.nextStatus) ∨
      (cluster.status.getD {}).phase = .failed ∨ (cluster.status.getD {}).phase = .deleting := by
  obtain ⟨_, hcourse⟩ := phaseRun_of_runs hrun
  cases hcourse with
  | idle _ hsilent => exact (hsilent.kept _ hwrite).elim
  | absent _ hkept => exact (hkept _ hwrite).elim
  | worked hfinds hwrites =>
    obtain ⟨latest, -, rfl⟩ := hwrites.exists_changed hwrite
    exact .inl ⟨_, hfinds, status_setStatus _ latest⟩
  | refused _ _ hwrites =>
    obtain ⟨latest, -, rfl⟩ := hwrites.exists_changed hwrite
    exact .inr (.inl (phase_refusal _ latest _ _))
  | marked _ _ _ _ hwrites =>
    obtain ⟨latest, -, rfl⟩ := hwrites.exists_changed hwrite
    exact .inr (.inr (phase_setDeleting latest))
  | cleaned _ _ _ _ hkept => exact (hkept _ hwrite).elim

end

/-! ## Deletions -/

/-- That a turn reads the cluster and shows that its deletion was requested. -/
def Turn.ShowsDeleted (turn : Turn Call.Answer) : Prop :=
  ∃ (ref : ClusterRef) (cluster : Cluster), turn = ⟨.getCluster ref, .ok (some cluster)⟩ ∧
    cluster.metadata.deletionTimestamp.isSome

/-- That a turn reads the cluster and shows that its deletion was not requested. -/
def Turn.ShowsKept (turn : Turn Call.Answer) : Prop :=
  ∃ (ref : ClusterRef) (cluster : Cluster), turn = ⟨.getCluster ref, .ok (some cluster)⟩ ∧
    cluster.metadata.deletionTimestamp = none

namespace History

variable {ref : ClusterRef} (h : History ref)

/-- That nobody takes a deletion back: once a pass was shown that it was requested, no pass after it
is shown the contrary. The store keeps a request for deletion for good, but the answers of a history
are arbitrary, so it has to be asked of them. -/
def DeletionStays : Prop :=
  ∀ j k, j < k → (∃ turn ∈ (h.pass j).trace, turn.ShowsDeleted) →
    ∀ turn ∈ (h.pass k).trace, ¬ turn.ShowsKept

/-- That a pass derives a phase. -/
def Observes (k : Nat) : ClusterStatus → PhaseObservation → Prop :=
  ClusterOperator.Observes (h.pass k).operator ref (h.pass k).trace

variable {h} {k : Nat} {status : ClusterStatus} {seen : PhaseObservation}

theorem status_of_read {cluster : Cluster}
    (hread : (h.pass k).trace.head? = some ⟨.getCluster ref, .ok (some cluster)⟩) :
    cluster.status.getD {} = h.status k := by
  obtain ⟨rest, hrest⟩ := List.head?_eq_some_iff.mp hread
  have hreads := h.reads k
  rw [hrest, readsStored_cons, findsStatus_getCluster] at hreads
  unfold History.status History.stored
  rw [hreads.1]

theorem Observes.status_eq (hseen : h.Observes k status seen) : status = h.status k := by
  cases hseen with
  | working hs => exact Finds.status_eq hs
  | refusing hread _ hstatus | deleting hread _ _ hstatus =>
    exact hstatus.trans (status_of_read hread)

/-- A write that changes the phase to the one that the pass has derived leaves that one, if it
leaves anything. -/
theorem phase_of_writesStatus {policy : RetryPolicy} {mutate : Mutation} {target : ClusterRef}
    {written : Except Failure (Option Cluster)} (hseen : h.Observes k (h.status k) seen)
    (hwrites : WritesStatus target policy mutate (h.pass k).trace written)
    (hphase : ∀ latest,
      ((mutate latest).2.status.getD {}).phase = ((h.status k).phase.next seen).1) :
    (h.status (k + 1)).phase = (h.status k).phase ∨
      ∃ seen, h.Observes k (h.status k) seen ∧
        (h.status (k + 1)).phase = ((h.status k).phase.next seen).1 := by
  obtain ⟨attempts, hattempts, hreads, hstored⟩ := hwrites.exists_attempts (h.reads k)
  unfold History.status at hphase hseen ⊢
  rw [stored_succ]
  unfold History.stored
  rw [hstored]
  rcases hattempts.storedAfter_status hreads with ⟨hsame, -⟩ | ⟨latest, -, -, -, hnew, -⟩
  · exact .inl (by rw [hsame])
  · exact .inr ⟨seen, hseen, by rw [hnew, hphase latest]; rfl⟩

/-- **A pass leaves the stored phase, or stores the one that it has derived.** -/
theorem phase_step (h : History ref) (k : Nat) :
    (h.status (k + 1)).phase = (h.status k).phase ∨
      ∃ seen, h.Observes k (h.status k) seen ∧
        (h.status (k + 1)).phase = ((h.status k).phase.next seen).1 := by
  have hkept (hkept : ∀ turn ∈ (h.pass k).trace, turn.question.KeepsStatus) :
      (h.status (k + 1)).phase = (h.status k).phase := by
    unfold History.status
    rw [stored_succ, storedAfter_of_keepsStatus hkept]
  obtain ⟨_, hcourse⟩ := phaseRun_of_runs (h.pass k).runs
  -- Three of the courses write a phase, and each the one derived from the status that is stored.
  cases hcourse with
  | idle _ hsilent => exact .inl (hkept hsilent.kept)
  | absent _ hidle => exact .inl (hkept hidle)
  | @worked s _ hfinds hwrites =>
    have hseen : h.Observes k s.status _ := .working hfinds
    have hstatus := hseen.status_eq
    rw [hstatus] at hseen
    refine phase_of_writesStatus hseen hwrites fun latest => ?_
    rw [status_setStatus, ← hstatus]
    rfl
  | refused hread hrefused hwrites =>
    have hseen : h.Observes k (h.status k) _ :=
      .refusing hread hrefused (status_of_read hread).symm
    exact phase_of_writesStatus hseen hwrites fun latest => phase_refusal _ latest _ _
  | marked hread hdeleted hclaimed hphase hwrites =>
    have hseen : h.Observes k (h.status k) _ :=
      .deleting hread hdeleted hclaimed (status_of_read hread).symm (status_of_read hread ▸ hphase)
    exact phase_of_writesStatus hseen hwrites phase_setDeleting
  | cleaned _ _ _ _ hidle => exact .inl (hkept hidle)

/-- A cluster is stored as being deleted only if a pass was shown that this was requested. -/
theorem exists_showsDeleted (hstart : (h.status 0).phase ≠ .deleting)
    (hk : (h.status k).phase = .deleting) :
    ∃ j < k, ∃ turn ∈ (h.pass j).trace, turn.ShowsDeleted := by
  induction k with
  | zero => exact absurd hk hstart
  | succ k ih =>
    rcases h.phase_step k with hsame | ⟨seen, hseen, hnext⟩
    · obtain ⟨j, hj, hshown⟩ := ih (hsame ▸ hk)
      exact ⟨j, Nat.lt_succ_of_lt hj, hshown⟩
    · -- Of what a pass may observe, only a requested deletion leads to the phase.
      have hdeleting : seen.deleting = true := by
        by_contra hkept
        have hmem : (h.status k).phase.next seen ∈ (h.status k).phase.prospects :=
          ClusterPhase.next_mem_prospects (Bool.eq_false_iff.mpr hkept)
        exact ClusterPhase.ne_deleting_of_mem_prospects _ hmem (hnext ▸ hk)
      generalize h.status k = status at hseen
      cases hseen with
      | working | refusing => cases hdeleting
      | deleting hread hdeleted =>
        exact ⟨k, Nat.lt_succ_self k, _, List.mem_of_head? hread, _, _, rfl, hdeleted⟩

end History

/-! ## What running says -/

/-- That pods are numbered: each has a number of its own, from zero on. Names can end with one
number in two ways, so this is not a matter of course for pods that were only listed. -/
def Numbered (pods : List ServerPod) : Prop :=
  (pods.map (·.ordinal)).Nodup ∧ ∀ p ∈ pods, 0 ≤ p.ordinal

/-- If as many numbered pods as there are numbers are below a bound, every number is taken. -/
theorem Numbered.exists_of_length {pods : List ServerPod} (h : Numbered pods) {servers : Int32}
    (hbelow : ∀ p ∈ pods, p.ordinal < servers) (hlength : servers.toInt ≤ pods.length)
    {i : Ordinal} (hpos : 0 ≤ i) (hlt : i < servers) : ∃ p ∈ pods, p.ordinal = i := by
  have hsub : pods.map (·.ordinal) ⊆ ordinals servers := by
    intro ordinal hmem
    obtain ⟨p, hp, rfl⟩ := List.mem_map.mp hmem
    exact mem_ordinals.mpr ⟨h.2 p hp, hbelow p hp⟩
  have hlength : (ordinals servers).length ≤ (pods.map (·.ordinal)).length := by
    unfold ordinals
    rw [List.length_map, List.length_range, List.length_map]
    omega
  have hperm := (List.subperm_of_subset h.1 hsub).perm_of_length_le hlength
  exact List.mem_map.mp (hperm.mem_iff.mpr (mem_ordinals.mpr ⟨hpos, hlt⟩))

namespace Situation

variable {s : Situation}

/-- The declared pods that serve, which are counted. -/
def counted (s : Situation) : List ServerPod :=
  s.pods.filter fun p => p.ordinal < s.servers && p.isServing

theorem mem_counted {p : ServerPod} :
    p ∈ s.counted ↔ p ∈ s.pods ∧ p.ordinal < s.servers ∧ p.isServing = true := by
  unfold counted
  rw [List.mem_filter, Bool.and_eq_true, decide_eq_true_iff]

/-- That a status says no more of a running cluster than a pass has found. The count of those that
serve is what the pass compares; that they are the declared servers, one by one, follows only for
numbered pods. -/
structure Bears (s : Situation) (status : ClusterStatus) : Prop where
  ready : conditionHolds status.conditions .ready = true
  counted : s.spec.servers.toInt ≤ s.counted.length
  /-- Every declared server serves. -/
  serving : Numbered s.counted → ∀ i, 0 ≤ i → i < s.spec.servers →
    ∃ p ∈ s.pods, p.ordinal = i ∧ p.isServing = true
  healthy : s.health = .healthy ∧ status.membership.health = .healthy
  /-- No upgrade holds the pods. -/
  settled : ∀ record, status.upgrade = some record →
    record.phase ≠ .inProgress ∧ record.phase ≠ .paused

theorem health_membership (s : Situation) : s.membership.health = s.health := by
  unfold membership
  dsimp only
  split <;> rfl

/-- **A situation that asks for running bears it out.** -/
theorem bears_of_running {running : Option String} (h : s.spec.Accepted running s.topology)
    (hphase : s.phase = .running) : s.Bears s.nextStatus := by
  obtain ⟨hholds, hhealthy, hready⟩ := ClusterPhase.of_next_running hphase
  have hservers : s.servers = s.spec.servers := h.servers_eq
  -- Nothing else makes a cluster run than that as many pods serve as servers are declared.
  have hcounted : s.spec.servers.toInt ≤ s.counted.length := by
    rw [← hservers]
    exact Int.not_lt.mp (mt countOf_lt_iff.mpr hready)
  refine ⟨?_, hcounted, fun hnumbered i hpos hlt => ?_, ⟨hhealthy, ?_⟩, ?_⟩
  · obtain ⟨time, hshown⟩ := s.shown_of_mem_phaseFindings List.mem_cons_self
    have hfound : findCondition? s.nextStatus.conditions .ready = some _ := hshown
    unfold conditionHolds
    rw [hfound, hphase]
    rfl
  · rw [← hservers] at hcounted hlt
    obtain ⟨p, hp, hordinal⟩ :=
      hnumbered.exists_of_length (fun p hp => (mem_counted.mp hp).2.1) hcounted hpos hlt
    obtain ⟨hmem, -, hserving⟩ := mem_counted.mp hp
    exact ⟨p, hmem, hordinal, hserving⟩
  · exact s.health_membership.trans hhealthy
  · exact phase_of_upgradeHolds hholds

end Situation

namespace History

variable {ref : ClusterRef} {h : History ref} {k : Nat}

/-- That the moves of a history are those of the table. What a pass derives and what gets stored are
told apart, because a write may fail or be overtaken after the phase was derived. -/
structure KeepsTable (h : History ref) : Prop where
  /-- No pass derives a phase that the table does not let it move to from the stored one. -/
  known : ∀ k status seen, h.Observes k status seen → status = h.status k ∧
    (checkMove status.phase (status.phase.next seen).1 (status.phase.next seen).2).isKnown
  /-- The stored phase moves only to what a pass has derived. -/
  moved : ∀ k, (h.status (k + 1)).phase ≠ (h.status k).phase →
    ∃ seen, h.Observes k (h.status k) seen ∧
      (h.status (k + 1)).phase = ((h.status k).phase.next seen).1
  /-- Whenever a pass writes that the cluster is running, it has found it so. -/
  running : ∀ k cluster answer status, ⟨.replaceStatus cluster, answer⟩ ∈ (h.pass k).trace →
    cluster.status = some status → status.phase = .running →
    ∃ s, h.Finds k s ∧ status = s.nextStatus ∧ s.Bears status

/-- Where a pass derives a phase of a cluster whose deletion was recorded, the cluster is still
being deleted. -/
theorem Observes.deleting_of_recorded (hstart : (h.status 0).phase ≠ .deleting)
    (hstays : h.DeletionStays) {seen : PhaseObservation}
    (hseen : h.Observes k (h.status k) seen) (hk : (h.status k).phase = .deleting) :
    seen.deleting = true := by
  obtain ⟨j, hj, hshown⟩ := exists_showsDeleted hstart hk
  have hdeleted {cluster : Cluster}
      (hread : (h.pass k).trace.head? = some ⟨.getCluster ref, .ok (some cluster)⟩)
      (hkept : cluster.metadata.deletionTimestamp = none) : False :=
    hstays j k hj hshown _ (List.mem_of_head? hread) ⟨ref, cluster, rfl, hkept⟩
  generalize h.status k = status at hseen
  cases hseen with
  | working hs => exact (hdeleted (Finds.head?_eq hs) (Finds.workable hs).kept).elim
  | refusing hread hrefused => exact (hdeleted hread hrefused.kept).elim
  | deleting => rfl

/-- **No pass over a new cluster makes a move that the table does not know**, and whoever stores
that the cluster is running has found it so. The one move that the table lacks is out of deletion,
so it is assumed that a cluster which is being deleted stays so. -/
theorem keepsTable_of_fresh (h : History ref) (hstart : h.start = none) (hstays : h.DeletionStays) :
    h.KeepsTable := by
  have hfresh : (h.status 0).phase ≠ .deleting := by
    rw [status_zero hstart]
    decide
  constructor
  case known =>
    intro k status seen hseen
    obtain rfl := hseen.status_eq
    -- The one move that the table lacks is out of deletion, and there the cluster is still being
    -- deleted.
    exact ⟨rfl, ClusterPhase.isKnown_next_iff.mpr fun hk =>
      hseen.deleting_of_recorded hfresh hstays hk⟩
  case moved =>
    intro k hmoved
    exact (h.phase_step k).resolve_left hmoved
  case running =>
    intro k cluster answer status hwrite hstatus hphase
    rcases exists_observes_of_write (h.pass k).runs hwrite with ⟨s, hs, hnext⟩ | hfailed | hdeleting
    · obtain rfl := Option.some.inj (hstatus.symm.trans hnext)
      obtain ⟨running, haccepted⟩ := Finds.accepted (h := h) (k := k) hs
      exact ⟨s, hs, rfl, Situation.bears_of_running haccepted hphase⟩
    · rw [hstatus, Option.getD_some, hphase] at hfailed
      cases hfailed
    · rw [hstatus, Option.getD_some, hphase] at hdeleting
      cases hdeleting

end History

/-! ## Two servers that are found at once -/

/-- What a first pass finds of a cluster of two servers whose pods all list all of them. -/
def foundPair (pods : List ServerPod) : Situation :=
  { sizedAt twoServers "1" [] none with
    pods
    views := collectAnswers (pods.map fun p => (p.name, .answered (pods.map (·.name)))) }

/-- One pod for each server. -/
def numberedPair : Situation :=
  foundPair [{ name := "db-0", ordinal := 0 }, { name := "db-1", ordinal := 1 }]

/-- Two pods for one server: both names end with its number. -/
def doubledPair : Situation :=
  foundPair [{ name := "db-0", ordinal := 0 }, { name := "db-00", ordinal := 0 }]

theorem attainable_foundPair (pods : List ServerPod) :
    (foundPair pods).Attainable ⟨"data", "db"⟩ := by
  have hpair : installedPair.Attainable ⟨"data", "db"⟩ := attainable_sizedAt valid_installPair
  exact ⟨rfl, hpair.workable, rfl, nofun, ⟨_, rfl⟩, rfl⟩

theorem mem_views_foundPair {pods : List ServerPod} (hnames : (pods.map (·.name)).Nodup)
    {view : String × List String} :
    view ∈ (foundPair pods).views.entries ↔ ∃ p ∈ pods, view = (p.name, pods.map (·.name)) := by
  have hviews : (foundPair pods).views =
      .ofList (pods.map fun p => (p.name, pods.map (·.name))) := by
    show collectAnswers _ = _
    unfold collectAnswers
    rw [List.filterMap_map]
    exact congrArg _ (congrFun List.filterMap_eq_map pods)
  rw [hviews, SortedMap.mem_ofList_iff (by rwa [List.map_map])]
  simp only [List.mem_map, eq_comm]

/-- Two pods that serve make the cluster run, whatever their numbers are. -/
theorem phase_foundPair {pods : List ServerPod} (hnames : (pods.map (·.name)).Nodup)
    (htwo : pods.length = 2) (hserve : ∀ p ∈ pods, (p.ordinal < 2 && p.isServing) = true) :
    (foundPair pods).phase = .running := by
  have hcounted : (pods.filter fun p => p.ordinal < 2 && p.isServing) = pods :=
    List.filter_eq_self.mpr hserve
  have hhealthy : (foundPair pods).health = .healthy := by
    have hmany : 2 ≤ (2 : Int32).toInt := by decide
    have hself : (foundPair pods).views.SeesItself := by
      intro view hview
      obtain ⟨p, hp, rfl⟩ := (mem_views_foundPair hnames).mp hview
      exact List.mem_map_of_mem hp
    have hdeployment : (foundPair pods).detection.deployment = .cluster 2 2 := rfl
    refine (DetectionInput.health_eq_healthy_iff_whole hdeployment hmany hself hnames).mpr ⟨?_, ?_⟩
    · show ((pods.filter fun p => p.ordinal < 2 && p.isServing).length : Int) = 2
      rw [hcounted, htwo]
      rfl
    · intro p hp
      have hmem : p ∈ pods := (List.mem_filter.mp hp).1
      refine ⟨pods.map (·.name), ⟨hp, SortedMap.find?_eq_some_iff.mpr ?_⟩, fun q hq => ?_⟩
      · exact (mem_views_foundPair hnames).mpr ⟨p, hmem, rfl⟩
      · exact List.mem_map_of_mem (List.mem_filter.mp hq).1
  have hready : (foundPair pods).ready = 2 := by
    show countOf (pods.filter fun p => p.ordinal < 2 && p.isServing) = 2
    unfold countOf
    rw [hcounted, htwo]
    rfl
  unfold Situation.phase Situation.phaseAndEvent
  rw [hhealthy, hready]
  rfl

theorem phase_numberedPair : numberedPair.phase = .running :=
  phase_foundPair (by decide) rfl (by decide)

theorem phase_doubledPair : doubledPair.phase = .running :=
  phase_foundPair (by decide) rfl (by decide)

/-- A turn that changes what is stored writes it. -/
theorem exists_write_of_changed {stored : Option ClusterStatus} {turn : Turn Call.Answer}
    (h : turn.statusAfter stored ≠ stored) : ∃ cluster answer,
      turn = ⟨.replaceStatus cluster, .ok answer⟩ ∧
        cluster.status = turn.statusAfter stored := by
  unfold Turn.statusAfter at h ⊢
  split at h
  · exact ⟨_, _, rfl, rfl⟩
  · exact absurd rfl h

/-- A status that is stored anew is written. -/
theorem exists_write_of_stored {stored : Option ClusterStatus} {trace : Trace}
    (h : storedAfter stored trace ≠ stored) : ∃ cluster answer,
      ⟨.replaceStatus cluster, .ok answer⟩ ∈ trace ∧ cluster.status = storedAfter stored trace := by
  induction trace generalizing stored with
  | nil => exact absurd rfl h
  | cons turn trace ih =>
    rw [storedAfter_cons] at h ⊢
    by_cases hlater : storedAfter (turn.statusAfter stored) trace = turn.statusAfter stored
    · rw [hlater] at h ⊢
      obtain ⟨cluster, answer, rfl, hstatus⟩ := exists_write_of_changed h
      exact ⟨cluster, answer, List.mem_cons_self, hstatus⟩
    · obtain ⟨cluster, answer, hmem, hstatus⟩ := ih hlater
      exact ⟨cluster, answer, List.mem_cons_of_mem _ hmem, hstatus⟩

/-- A new cluster that is found in a situation by one pass, and not read any more after it. -/
theorem exists_brief_history {ref : ClusterRef} {s : Situation} (hs : s.Attainable ref)
    (hfresh : s.cluster.status = none) :
    ∃ h : History ref, h.start = none ∧ h.DeletionStays ∧ (∀ k t, h.Finds k t → t = s) ∧
      ∃ cluster answer, ⟨.replaceStatus cluster, .ok answer⟩ ∈ (h.pass 0).trace ∧
        cluster.status = some s.nextStatus := by
  obtain ⟨pass, -, -, -, -, hpass, -⟩ := exists_pass_storing hs
  have hchained : Chained none [pass] := ⟨hfresh ▸ hpass.reads, trivial⟩
  have hstored : storedAfter none pass.trace = some s.nextStatus := hfresh ▸ hpass.stored
  refine ⟨.ofChained hchained, rfl, ?_, fun k t ht => ?_, ?_⟩
  · rintro j (_ | k) hlt - turn hturn ⟨_, _, rfl, -⟩
    · cases hlt
    · cases List.mem_singleton.mp hturn
  · obtain ⟨other, hother, hfinds⟩ := finds_ofChained ht
    obtain rfl := List.mem_singleton.mp (List.mem_of_getElem? hother)
    exact hfinds.unique hpass.finds
  · rw [← hstored]
    refine exists_write_of_stored (fun hnone => ?_)
    cases hnone.symm.trans hstored

namespace History

/-- **That a cluster runs does not say that every declared server serves**: of two servers one may
have no pod, if the other has two. -/
theorem not_serving_doubledPair :
    ¬ ∀ (ref : ClusterRef) (h : History ref), h.start = none → h.DeletionStays →
      ∀ k cluster answer status, ⟨.replaceStatus cluster, .ok answer⟩ ∈ (h.pass k).trace →
        cluster.status = some status → status.phase = .running →
        ∃ s, h.Finds k s ∧ ∀ i, 0 ≤ i → i < s.spec.servers →
          ∃ p ∈ s.pods, p.ordinal = i ∧ p.isServing = true := by
  intro hall
  obtain ⟨h, hstart, hstays, honly, cluster, answer, hwrite, hstatus⟩ :=
    exists_brief_history (attainable_foundPair _) (s := doubledPair) rfl
  -- Both pods of the list have the number zero, so nothing serves for the server one.
  obtain ⟨s, hs, hserving⟩ := hall _ h hstart hstays 0 cluster answer _ hwrite hstatus
    phase_doubledPair
  obtain rfl := honly 0 s hs
  obtain ⟨p, hp, hordinal, -⟩ := hserving 1 (by decide) (by decide)
  rcases List.mem_pair.mp hp with rfl | rfl <;> exact absurd hordinal (by decide)

/-- A new cluster of two servers that is found running at once. -/
theorem keepsTable_numberedPair : ∃ h : History ⟨"data", "db"⟩, h.start = none ∧
    h.DeletionStays ∧ h.KeepsTable ∧ ∃ cluster answer,
      ⟨.replaceStatus cluster, .ok answer⟩ ∈ (h.pass 0).trace ∧
        cluster.status = some numberedPair.nextStatus ∧ numberedPair.nextStatus.phase = .running ∧
          Numbered numberedPair.counted := by
  obtain ⟨h, hstart, hstays, -, cluster, answer, hwrite, hstatus⟩ :=
    exists_brief_history (attainable_foundPair _) (s := numberedPair) rfl
  exact ⟨h, hstart, hstays, h.keepsTable_of_fresh hstart hstays, cluster, answer, hwrite, hstatus,
    phase_numberedPair, by unfold Numbered; decide⟩

end History

end ClusterOperator
