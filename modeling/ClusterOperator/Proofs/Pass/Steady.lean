import ClusterOperator.Proofs.Configuration.Debounce
import ClusterOperator.Proofs.Configuration.Digest
import ClusterOperator.Proofs.Configuration.Rollout
import ClusterOperator.Proofs.Membership.Cooldown
import ClusterOperator.Proofs.Membership.Minority
import ClusterOperator.Proofs.Pass.Conditions
import ClusterOperator.Proofs.Upgrade.Planning

/-!
# A cluster at rest

A pass derives the whole status anew, from what it finds and from the status that it reads. When
nothing is left to be done and nothing has changed, what it derives has to be what it read: a write
would be seen as a change of the cluster, and the passes would wake each other forever.

> **`History.steady_of_repeats`** — a pass that finds again what the pass before it has found, and
> that one came to rest, makes the status that is stored, and does not write it.

The first pass may have changed everything: it may have applied a configuration, completed or
dropped an upgrade, installed a version and moved the phase. So each part of the status is shown to
be a fixed point of the way in which it is derived: `evaluate_again` for the configuration,
`observedSince_of_toRecord` for the membership, `step?_of_echoes` for the upgrade, `next_next` for
the phase, and `announce_announce` for the conditions. No order of the two clocks is assumed.
-/

set_option autoImplicit false

namespace ClusterOperator

open Pass

/-! ## The parts of the status -/

namespace ConfigurationRecord

variable {c : ConfigurationRecord} {hash : String} {now : Instant} {window : Nat}

theorem settled_of_permitsApply (h : (c.evaluate hash now window).1.permitsApply) :
    (c.evaluate hash now window).2.settled = (c.evaluate hash now window).2 := by
  cases hlast : c.lastAppliedHash with
  | none =>
    rw [evaluate_new now window hlast]
    rfl
  | some last =>
    by_cases hsame : last = hash
    · rw [hsame] at hlast
      rw [evaluate_applied now window hlast]
      rfl
    · -- Of the decisions about another hash only the one to apply it lets resources be written.
      cases hsince : c.waitingSince? hash with
      | none =>
        rw [evaluate_changed now window hlast hsame hsince] at h ⊢
        split at h
        · rw [if_pos ‹_›]
          rfl
        · cases h
      | some since =>
        rw [evaluate_waiting now window hlast hsame hsince] at h ⊢
        split at h
        · rw [if_pos ‹_›]
          rfl
        · cases h

/-- **A configuration that was applied is not applied again**, and its record stays. -/
theorem evaluate_again (h : (c.evaluate hash now window).1.permitsApply) (later : Instant)
    (other : Nat) : (c.evaluate hash now window).2.evaluate hash later other =
      (.noOp, (c.evaluate hash now window).2) := by
  rw [evaluate_applied later other (lastAppliedHash_of_permitsApply now window h),
    settled_of_permitsApply h]

end ConfigurationRecord

theorem ClusterPhase.next_next (current : ClusterPhase) (seen : PhaseObservation) :
    ((current.next seen).1.next seen).1 = (current.next seen).1 := by
  have hcreating : creating.isCreating = true := rfl
  have hdegraded : degraded.isCreating = false := rfl
  -- The phase before counts only where servers are missing, and there it decides on itself.
  by_cases hmissing : seen.readyReplicas < seen.desiredReplicas
  · cases hcurrent : current.isCreating with
    | true => grind [next]
    | false => grind [next]
  · grind [next]

namespace DetectionInput

variable {i j : DetectionInput}

/-- What is digested is what is declared, listed and answered. -/
theorem digest_congr (hdeployment : i.deployment = j.deployment) (hpods : i.pods = j.pods)
    (hviews : i.views = j.views) :
    i.classes = j.classes ∧ i.unknown = j.unknown ∧ i.digest = j.digest := by
  obtain ⟨deployment, pods, views, previous, now, grace⟩ := i
  obtain rfl : deployment = j.deployment := hdeployment
  obtain rfl : pods = j.pods := hpods
  obtain rfl : views = j.views := hviews
  exact ⟨rfl, rfl, rfl⟩

/-- **The time of an observation that is made again is read as it was written.** -/
theorem observedSince_of_toRecord {membership : MembershipRecord}
    (hprevious : j.previous = (classify i).toRecord membership) (hdigest : j.digest = i.digest) :
    j.observedSince = i.observedSince := by
  have hfingerprint : j.previous.fingerprint = some j.digest := by
    rw [hprevious, hdigest]
    rfl
  have hsince : j.previous.observedSince = some i.observedSince.toText := by
    rw [hprevious]
    rfl
  rw [observedSince, if_pos hfingerprint, hsince, Option.bind_some, Instant.parse?_toText,
    Option.getD_some]

end DetectionInput

namespace UpgradeRecord

variable {record : UpgradeRecord} {o : UpgradeObservation}

theorem advance_of_over (h : record.phase.isTerminal) : record.advance o = { record } := by
  unfold advance
  rw [if_pos h]

theorem blocked_advance (h : (record.advance o).record.phase.isTerminal) :
    (record.advance o).blocked = none := by
  cases hover : record.phase.isTerminal with
  | true => rw [advance_of_over hover]
  | false =>
    rw [advance_of_open hover] at h ⊢
    rcases record.step_cases o with ⟨_, -, hnone, -⟩ | ⟨hstay, hpending, -⟩ | ⟨-, -, hnone, -⟩
    · exact hnone
    · rw [phase_step, hstay, hpending] at h
      cases h
    · exact hnone

end UpgradeRecord

/-! ## A pass that comes to rest -/

namespace Situation

variable {s : Situation}

/-- That a pass leaves nothing to be done: no configuration waits, no split is to be repaired, and
there is no upgrade but one to the declared tag that is over. A pass at rest may still write: its
status is new when it has only just come to rest. -/
structure AtRest (s : Situation) : Prop where
  applied : s.permitsApply = true
  whole : s.repair = .notNeeded
  ended : ∀ record, s.upgrade? = some record →
    record.phase.isTerminal ∧ record.targetVersion = s.spec.image.tag

theorem AtRest.upgradeHolds_eq (h : s.AtRest) : s.upgradeHolds = false := by
  unfold upgradeHolds
  cases hrecord : s.upgrade? with
  | none => rfl
  | some record => exact UpgradePhase.holdsPods_of_isTerminal (h.ended record hrecord).1

theorem AtRest.blocked_eq (h : s.AtRest) : s.step?.bind (·.blocked) = none := by
  rw [step?_eq]
  cases hopen : s.openRecord? with
  | none => rfl
  | some record =>
    exact UpgradeRecord.blocked_advance (h.ended _ (upgrade?_of_open hopen)).1

/-- The version stays unless an upgrade completes. -/
theorem version_of_not_completed
    (h : ∀ record, s.upgrade? = some record → record.phase ≠ .completed) :
    s.version = s.status.version.getD s.spec.image.tag := by
  unfold version
  cases hopen : s.openRecord? with
  | none => rw [step?_eq, hopen, Option.map_none]
  | some record =>
    have hcompletes : ¬ (record.advance s.observation).completes = true := fun hcompletes =>
      h _ (upgrade?_of_open hopen) (UpgradeRecord.completes_advance hcompletes).2
    rw [step?_eq, hopen, Option.map_some]
    exact if_neg hcompletes

/-- The tag is the same by the version before the pass and by the one after it. -/
theorem tag_eq_after : s.tag =
    effectiveTag s.spec.image.tag (some s.version) s.upgrade? s.spec.image s.pods := by
  unfold tag
  by_cases hcompleted : ∃ record, s.upgrade? = some record ∧ record.phase = .completed
  · obtain ⟨record, hrecord, hphase⟩ := hcompleted
    unfold effectiveTag
    rw [hrecord]
    simp only [hphase]
  · have hversion := version_of_not_completed fun record hrecord hphase =>
      hcompleted ⟨record, hrecord, hphase⟩
    rw [hversion]
    unfold effectiveTag
    rfl

theorem version_of_idle (h : s.upgrade? = none) : s.version = s.spec.image.tag := by
  have hopen : s.openRecord? = none := by
    rw [upgrade?_eq] at h
    exact Option.map_eq_none_iff.mp h
  rw [version_of_not_completed fun record hrecord => by cases h.symm.trans hrecord]
  cases hversion : s.status.version with
  | none => rfl
  | some version =>
    show version = s.spec.image.tag
    by_contra hne
    unfold openRecord? request resolveRequest at hopen
    cases hcurrent : s.status.upgrade with
    | none =>
      simp only [hversion, hcurrent, if_neg hne] at hopen
      cases hopen
    | some record =>
      simp only [hversion, hcurrent, if_neg hne] at hopen
      -- Whether the record goes on or gives way to a new one, there is one.
      by_cases htarget : record.targetVersion = s.spec.image.tag
      · rw [if_pos htarget] at hopen
        cases hopen
      · rw [if_neg htarget] at hopen
        by_cases hholds : record.phase.holdsPods
        · rw [if_pos hholds] at hopen
          cases hopen
        · rw [if_neg hholds] at hopen
          cases hopen

theorem openRecord?_of_current (hversion : s.status.version = some s.spec.image.tag)
    (hcurrent : s.status.upgrade = none) : s.openRecord? = none := by
  unfold openRecord? request resolveRequest
  simp only [hversion, hcurrent, if_true]

theorem AtRest.health_ne_split (h : s.AtRest) : s.health ≠ .split := by
  intro hsplit
  have hminority : s.classification.minority ≠ [] :=
    (DetectionInput.safe_minority (i := s.detection) hsplit).ne_nil
  have hrepair := h.whole
  cases hcool : cooldownLeft? s.status.membership s.now s.tunables.repairCooldown with
  | none =>
    rw [repair_eq_restart hsplit h.upgradeHolds_eq hcool hminority] at hrepair
    cases hrepair
  | some remaining =>
    have hfound : ¬ s.classification.health ≠ .split := not_not.mpr hsplit
    have hholds : ¬ (s.upgrade?.any (·.phase.holdsPods)) = true :=
      Bool.eq_false_iff.mp h.upgradeHolds_eq
    unfold repair planRepair at hrepair
    rw [if_neg hfound, if_neg hholds, hcool] at hrepair
    cases hrepair

theorem repair_of_health (h : s.health ≠ .split) : s.repair = .notNeeded := if_pos h

theorem AtRest.membership_eq (h : s.AtRest) :
    s.membership = s.classification.toRecord s.status.membership := by
  unfold membership
  rw [h.whole]

end Situation

/-! ## The pass after it -/

/-- The metadata without the version of the object, which every write changes. -/
def Metadata.unversioned (m : Metadata) : Metadata := { m with resourceVersion := none }

namespace Situation

variable {s t : Situation}

/-- That a pass finds again what another has found: the same metadata but for the version of the
object, the same declaration, pods and views. It also has to judge the membership in the same way,
because a disagreement that lasts becomes a split by time alone. The times of the two passes are
free. -/
structure Repeats (t s : Situation) : Prop where
  metadata : t.cluster.metadata.unversioned = s.cluster.metadata.unversioned
  spec : t.spec = s.spec
  pods : t.pods = s.pods
  views : t.views = s.views
  health : t.health = s.health

/-- That a pass finds again what the pass before it has found, and the status that it left when it
came to rest. -/
structure Echoes (t s : Situation) : Prop extends t.Repeats s where
  rest : s.AtRest
  ref : t.ref = s.ref
  topology : t.topology = s.topology
  status : t.status = s.nextStatus

theorem Repeats.annotations_eq (h : t.Repeats s) :
    t.cluster.metadata.annotations = s.cluster.metadata.annotations := by
  have hsame := congrArg Metadata.annotations h.metadata
  exact hsame

theorem Repeats.generation_eq (h : t.Repeats s) :
    t.cluster.metadata.generation = s.cluster.metadata.generation := by
  have hsame := congrArg Metadata.generation h.metadata
  exact hsame

/-! ### The upgrade -/

/-- The step of an upgrade that is over does nothing. -/
theorem step?_of_echoes (h : t.Echoes s) :
    t.step? = s.upgrade?.map fun record => { record } := by
  have hcurrent : t.status.upgrade = s.upgrade? := congrArg ClusterStatus.upgrade h.status
  have hversion : t.status.version = some s.version := congrArg ClusterStatus.version h.status
  cases hrecord : s.upgrade? with
  | none =>
    rw [version_of_idle hrecord, ← h.spec] at hversion
    rw [step?_eq, openRecord?_of_current hversion (hcurrent.trans hrecord)]
    rfl
  | some record =>
    obtain ⟨hended, htarget⟩ := h.rest.ended record hrecord
    rw [← h.spec] at htarget
    rw [step?_eq, openRecord?_of_declared (hcurrent.trans hrecord) htarget, Option.map_some,
      UpgradeRecord.advance_of_over hended]
    rfl

namespace Echoes

theorem upgrade?_eq (h : t.Echoes s) : t.upgrade? = s.upgrade? := by
  unfold upgrade?
  rw [step?_of_echoes h, Option.map_map]
  exact Option.map_id'

theorem version_eq (h : t.Echoes s) : t.version = s.version := by
  have hversion : t.status.version = some s.version := congrArg ClusterStatus.version h.status
  unfold version
  rw [step?_of_echoes h, hversion]
  cases s.upgrade? with
  | none => rfl
  | some record => rfl

theorem upgradeHolds_eq (h : t.Echoes s) : t.upgradeHolds = false := by
  unfold upgradeHolds
  rw [h.upgrade?_eq]
  exact h.rest.upgradeHolds_eq

theorem tag_eq (h : t.Echoes s) : t.tag = s.tag := by
  have hversion : t.status.version = some s.version := congrArg ClusterStatus.version h.status
  rw [s.tag_eq_after]
  unfold tag
  rw [h.upgrade?_eq, hversion, h.spec, h.pods]

/-! ### The configuration -/

theorem derived_eq (h : t.Echoes s) : t.derived = s.derived := by
  unfold derived Cluster.annotation?
  rw [h.topology, h.ref, h.spec, h.annotations_eq]

theorem evaluated_eq (h : t.Echoes s) : t.evaluated = (.noOp, s.configuration) := by
  have hconfiguration : t.status.configuration = s.configuration :=
    congrArg ClusterStatus.configuration h.status
  unfold evaluated
  rw [hconfiguration, h.derived_eq]
  exact ConfigurationRecord.evaluate_again h.rest.applied _ _

theorem manifest_eq (h : t.Echoes s) : t.manifest = s.manifest := by
  unfold manifest
  rw [h.topology, h.spec, h.tag_eq, h.derived_eq]

/-! ### The membership -/

theorem classification_eq (h : t.Echoes s) : t.classification = s.classification := by
  have hprevious : t.status.membership = s.classification.toRecord s.status.membership :=
    (congrArg ClusterStatus.membership h.status).trans h.rest.membership_eq
  have hdeployment : t.detection.deployment = s.detection.deployment :=
    congrArg Topology.deployment h.topology
  obtain ⟨hclasses, hunknown, hdigest⟩ := DetectionInput.digest_congr hdeployment h.pods h.views
  have hsince : t.detection.observedSince = s.detection.observedSince :=
    DetectionInput.observedSince_of_toRecord hprevious hdigest
  have hhealth : t.detection.health = s.detection.health := h.health
  show classify t.detection = classify s.detection
  unfold classify
  rw [hhealth, hclasses, hunknown, hdigest, hsince]

theorem repair_eq (h : t.Echoes s) : t.repair = .notNeeded := by
  refine repair_of_health ?_
  rw [h.health]
  exact h.rest.health_ne_split

theorem membership_eq (h : t.Echoes s) : t.membership = s.membership := by
  have hprevious : t.status.membership = s.membership := congrArg ClusterStatus.membership h.status
  have hagain : t.membership = t.classification.toRecord t.status.membership := by
    unfold membership
    rw [h.repair_eq]
  rw [hagain, h.classification_eq, hprevious, h.rest.membership_eq]
  rfl

/-! ### The phase and the conditions -/

theorem ready_eq (h : t.Echoes s) : t.ready = s.ready := by
  unfold ready servers
  rw [h.pods, h.topology]

theorem servers_eq (h : t.Echoes s) : t.servers = s.servers := congrArg Topology.servers h.topology

theorem phase_eq (h : t.Echoes s) : t.phase = s.phase := by
  have hphase : t.status.phase = s.phase := congrArg ClusterStatus.phase h.status
  unfold phase phaseAndEvent
  rw [hphase, h.ready_eq, h.servers_eq, h.health, h.upgradeHolds_eq]
  unfold phase phaseAndEvent
  rw [h.rest.upgradeHolds_eq]
  exact ClusterPhase.next_next _ _

theorem phaseFindings_eq (h : t.Echoes s) : t.phaseFindings = s.phaseFindings := by
  have hpermits : t.permitsApply = s.permitsApply := by
    unfold permitsApply drift
    rw [h.evaluated_eq]
    exact h.rest.applied.symm
  unfold phaseFindings progressing serversReady
  rw [h.phase_eq, h.ready_eq, h.servers_eq, h.health, hpermits]

theorem setSplitCondition_eq (h : t.Echoes s) : t.setSplitCondition = s.setSplitCondition := by
  unfold setSplitCondition
  rw [h.repair_eq, h.rest.whole, h.health]

theorem setConfigurationCondition_eq (h : t.Echoes s) :
    t.setConfigurationCondition = s.setConfigurationCondition := by
  have happlied := h.rest.applied
  unfold permitsApply at happlied
  funext u
  unfold setConfigurationCondition
  rw [show t.drift = .noOp from congrArg Prod.fst h.evaluated_eq]
  cases hdrift : s.drift with
  | noOp | apply => rfl
  | debounce =>
    rw [hdrift] at happlied
    cases happlied

theorem setUpgradeCondition_eq (h : t.Echoes s) :
    t.setUpgradeCondition = s.setUpgradeCondition := by
  have hblocked : t.step?.bind (·.blocked) = none := by
    rw [step?_of_echoes h]
    cases s.upgrade? with
    | none => rfl
    | some record => rfl
  unfold setUpgradeCondition
  rw [hblocked, h.rest.blocked_eq]

theorem setSkewCondition_eq (h : t.Echoes s) : t.setSkewCondition = s.setSkewCondition := by
  have hskewed : t.skewed = s.skewed := by
    unfold skewed
    rw [h.upgradeHolds_eq, h.rest.upgradeHolds_eq, h.pods, h.topology, h.manifest_eq]
  unfold setSkewCondition
  rw [hskewed, h.manifest_eq]

theorem announce_eq (h : t.Echoes s) : t.announce = s.announce := by
  unfold announce
  rw [h.phaseFindings_eq, h.setSplitCondition_eq, h.setConfigurationCondition_eq,
    h.setUpgradeCondition_eq, h.setSkewCondition_eq]

theorem conditions_eq (h : t.Echoes s) : t.conditions = s.conditions := by
  have hconditions : t.status.conditions = s.conditions :=
    congrArg ClusterStatus.conditions h.status
  let u : ConditionUpdate := ⟨s.status.conditions, s.cluster.metadata.generation, s.now⟩
  have hgeneration : (s.announce u).generation = s.cluster.metadata.generation :=
    s.generation_announce u
  calc t.conditions
      = (t.announce ⟨t.status.conditions, t.cluster.metadata.generation, t.now⟩).conditions := rfl
    _ = (s.announce ⟨s.conditions, s.cluster.metadata.generation, t.now⟩).conditions := by
      rw [h.announce_eq, hconditions, h.generation_eq]
    _ = (s.announce { s.announce u with now := t.now }).conditions := by
      rw [← hgeneration]
      rfl
    _ = s.conditions := by
      rw [s.announce_announce u t.now]
      rfl

/-- **A pass that finds again what came to rest makes the same status.** -/
theorem nextStatus_eq (h : t.Echoes s) : t.nextStatus = s.nextStatus := by
  have hconfiguration : t.configuration = s.configuration := by
    unfold configuration
    rw [h.evaluated_eq]
    rfl
  unfold nextStatus
  rw [h.phase_eq, h.ready_eq, h.servers_eq, h.version_eq, h.upgrade?_eq, hconfiguration,
    h.membership_eq, h.topology, h.generation_eq, h.conditions_eq, h.ref]

end Echoes

end Situation

/-! ## The write -/

section
variable {ref : ClusterRef} {next : ClusterStatus} {trace : Trace}

theorem unchanged_setStatus {latest : Cluster} (h : latest.status = some next) :
    (setStatus next latest).1 = false := by
  unfold setStatus
  rw [if_pos h]

/-- **A status that is stored already is not written.** -/
theorem Attempts.keepsStatus_of_stored {policy : RetryPolicy} {left attempt : Nat}
    {result : Except Failure (Option Cluster)}
    (h : Attempts ref .status policy (setStatus next) left attempt trace result)
    (hreads : ReadsStored (some next) trace) : ∀ turn ∈ trace, turn.question.KeepsStatus := by
  cases h with
  | exhausted => simp
  | unread | absent | unchanged =>
    intro turn hturn
    rw [List.mem_singleton.mp hturn]
    trivial
  | written _ _ latest _ hchanged | refused _ _ latest _ hchanged
  | overtaken _ _ latest _ hchanged =>
    rw [readsStored_cons, findsStatus_getCluster] at hreads
    cases (unchanged_setStatus hreads.1).symm.trans hchanged

theorem keepsStatus_of_stored {operator : Operator} {result : Except Failure Requeue}
    {s : Situation} (hrun : (reconcile operator ref).Runs trace result)
    (hs : Finds operator ref trace s) (hreads : ReadsStored (some s.nextStatus) trace) :
    ∀ turn ∈ trace, turn.question.KeepsStatus := by
  have hopening : ∀ turn ∈ opening ref s.cluster s.now, turn.question.KeepsStatus :=
    fun turn hturn => (isPassive_opening turn hturn).1
  -- Before its last write a pass never writes the status, so that write reads what was stored,
  -- finds its own status there and is not made.
  cases course_of_finds hrun hs with
  | stopped hseen hdone hcounted =>
    have hdone := keepsStatus_of_runs_performAll hdone
    simp only [List.forall_mem_append]
    exact ⟨hopening, fun turn hturn => (hseen turn hturn).1, hdone,
      fun turn hturn => (hcounted turn hturn).1⟩
  | through hseen hdone hwritten hcounted =>
    have hdone := keepsStatus_of_runs_performAll hdone
    have hseen := fun turn hturn => (hseen turn hturn).1
    simp only [readsStored_append, storedAfter_of_keepsStatus hopening,
      storedAfter_of_keepsStatus hseen, storedAfter_of_keepsStatus hdone] at hreads
    simp only [List.forall_mem_append]
    exact ⟨hopening, hseen, hdone, hwritten.keepsStatus_of_stored hreads.2.2.2.1,
      fun turn hturn => (hcounted turn hturn).1⟩

end

namespace History

variable {ref : ClusterRef} {h : History ref} {k : Nat} {s t : Situation}

theorem echoes_of_repeats (hs : h.Stores k s) (hrest : s.AtRest) (ht : h.Finds (k + 1) t)
    (hrepeats : t.Repeats s) : t.Echoes s := by
  have hcluster : t.ref = s.ref := ht.ref_eq.trans hs.1.ref_eq.symm
  obtain ⟨running, haccepted⟩ := hs.1.accepted
  obtain ⟨running', haccepted'⟩ := ht.accepted
  have hconstraints : t.topology.constraints = s.topology.constraints := by
    rw [constraints_of_validateRoleHints haccepted.hints,
      constraints_of_validateRoleHints haccepted'.hints, hrepeats.spec]
  exact ⟨hrepeats, hrest, hcluster, haccepted'.topology_eq haccepted hconstraints,
    ht.status_eq.trans hs.status_succ⟩

/-- **A cluster at rest is left alone.** A pass that finds again what the pass before it has found,
when that came to rest, makes the status that is stored and writes none. -/
theorem steady_of_repeats (h : History ref) (hs : h.Stores k s) (hrest : s.AtRest)
    (ht : h.Finds (k + 1) t) (hrepeats : t.Repeats s) :
    t.nextStatus = s.nextStatus ∧ h.stored (k + 1) = some t.nextStatus ∧
      h.stored (k + 2) = h.stored (k + 1) ∧
      ∀ turn ∈ (h.pass (k + 1)).trace, turn.question.KeepsStatus := by
  have hsame : t.nextStatus = s.nextStatus :=
    (echoes_of_repeats hs hrest ht hrepeats).nextStatus_eq
  have hstored : h.stored (k + 1) = some t.nextStatus := by
    rw [hsame]
    exact hs.2
  have hreads : ReadsStored (some t.nextStatus) (h.pass (k + 1)).trace := by
    rw [← hstored]
    exact h.reads (k + 1)
  have hkept := keepsStatus_of_stored (h.pass (k + 1)).runs ht hreads
  exact ⟨hsame, hstored, storedAfter_of_keepsStatus hkept, hkept⟩

end History

/-! ## A single server at rest -/

def resting : Situation := caughtUp (some installed.nextStatus)

/-- The same a minute later. -/
def restingStill : Situation :=
  { caughtUp (some resting.nextStatus) with now := Instant.epoch.addSeconds 60 }

theorem upgrade?_resting : resting.upgrade? = none := rfl

theorem version_resting : resting.version = "1" := rfl

theorem succession_resting :
    Succession ⟨"data", "db"⟩ none [installed, resting, restingStill] := by
  have hstill : (caughtUp (some resting.nextStatus)).Attainable ⟨"data", "db"⟩ := by
    refine attainable_caughtUp ?_
    show validateCluster (solo "1" none none) (some resting.version) = _
    rw [version_resting]
    rfl
  exact ⟨attainable_soloAt valid_install, rfl, attainable_caughtUp rfl, rfl,
    ⟨hstill.ref_eq, hstill.workable, hstill.auth, hstill.single, hstill.views, hstill.hosted⟩, rfl,
    trivial⟩

theorem atRest_resting : resting.AtRest := by
  refine ⟨permits_caughtUp applied_installed, rfl, fun record hrecord => ?_⟩
  cases upgrade?_resting.symm.trans hrecord

theorem repeats_restingStill : restingStill.Repeats resting := ⟨rfl, rfl, rfl, rfl, rfl⟩

/-- The first pass installs the cluster, the second has conditions to set, the third has nothing to
do. -/
theorem steady_resting : ∃ h : History ⟨"data", "db"⟩, h.Stores 1 resting ∧ resting.AtRest ∧
    h.Finds 2 restingStill ∧ restingStill.Repeats resting ∧ restingStill.now ≠ resting.now ∧
    restingStill.nextStatus = resting.nextStatus ∧ h.stored 2 = some restingStill.nextStatus ∧
      h.stored 3 = h.stored 2 ∧ ∀ turn ∈ (h.pass 2).trace, turn.question.KeepsStatus := by
  obtain ⟨h, -, hcourse, -⟩ := exists_history succession_resting
  have hs : h.Stores 1 resting := (hcourse 1 resting rfl).2
  have ht : h.Finds 2 restingStill := (hcourse 2 restingStill rfl).2.1
  exact ⟨h, hs, atRest_resting, ht, repeats_restingStill, by decide,
    History.steady_of_repeats h hs atRest_resting ht repeats_restingStill⟩

end ClusterOperator
