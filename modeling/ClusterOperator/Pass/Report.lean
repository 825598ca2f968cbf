import ClusterOperator.Conditions
import ClusterOperator.Pass.Situation

/-!
# The status that a pass leaves

The status is derived from the same observation as the decisions. The conditions say in words what
holds the cluster up: each pass sets all of them, so that one that no longer applies turns false.
-/

set_option autoImplicit false

namespace ClusterOperator

/-- The first digits of a digest, enough to tell it apart. -/
def shortHash (hash : String) : String := String.ofList (hash.toList.take 12)

/-- Where clients reach a cluster. -/
def Endpoints.of (ref : ClusterRef) : Endpoints :=
  let host := ref.name ++ "." ++ ref.namespace ++ ".svc.cluster.local"
  { bolt := "neo4j://" ++ host ++ ":" ++ toString boltPort
    http := "http://" ++ host ++ ":" ++ toString httpPort }

namespace Situation

/-! ## Conditions -/

def serversReady (s : Situation) : String :=
  toString s.ready.toInt ++ "/" ++ toString s.servers.toInt ++ " servers ready"

/-- Whether the cluster is being moved toward its declaration. A configuration that waits counts:
the servers do not run what is declared. -/
def progressing (s : Situation) : Bool :=
  s.phase == .creating || s.phase == .forming || s.phase == .upgrading || !s.permitsApply

/-- Sets the condition about a split. -/
def setSplitCondition (s : Situation) (u : ConditionUpdate) : ConditionUpdate :=
  let seen := "Membership " ++ s.classification.snapshot ++ "; "
  match s.repair with
  | .restart pods =>
    u.set .splitBrainDetected true "MinorityRestarted"
      (seen ++ "restarted " ++ ",".intercalate pods ++ " to repair the partition")
  | .upgradeActive =>
    u.set .splitBrainDetected true "RepairDeferred"
      (seen ++ "repair waits for the upgrade to finish or be aborted")
  | .coolingDown remaining =>
    u.set .splitBrainDetected true "RepairCoolingDown"
      (seen ++ "last repair restarted " ++ ",".intercalate s.membership.lastRepairedPods ++
        ", next attempt in " ++ toString remaining ++ "s")
  | .notNeeded => u.set .splitBrainDetected false s.health.name ""

/-- Sets the condition about a configuration that waits. -/
def setConfigurationCondition (s : Situation) (u : ConditionUpdate) : ConditionUpdate :=
  match s.drift with
  | .debounce hash remaining _ =>
    u.set .configurationPending true "Debouncing"
      ("Configuration " ++ shortHash hash ++ " applies in " ++ toString remaining ++
        "s unless it changes again")
  | _ => u.set .configurationPending false "Applied" ""

/-- Sets the condition about the gate before an upgrade. -/
def setUpgradeCondition (s : Situation) (u : ConditionUpdate) : ConditionUpdate :=
  match s.step?.bind (·.blocked) with
  | some message => u.set .upgradeBlocked true "HealthGate" message
  | none => u.set .upgradeBlocked false "NotBlocked" ""

/-- Sets the condition about servers that run another image. -/
def setSkewCondition (s : Situation) (u : ConditionUpdate) : ConditionUpdate :=
  if s.skewed.isEmpty then u.set .versionSkew false "Uniform" ""
  else
    u.set .versionSkew true "MixedImages"
      (",".intercalate s.skewed ++ " not on " ++ s.manifest.image ++
        "; configuration restarts skip them until an upgrade moves them")

def conditions (s : Situation) : List Condition :=
  let u : ConditionUpdate := ⟨s.status.conditions, s.cluster.metadata.generation, s.now⟩
  let u := u.set .ready (s.phase == .running) s.phase.name
    (s.serversReady ++ ", membership " ++ s.health.name)
  -- Each condition is set on what the one before it left; they are of different kinds, so none
  -- covers another.
  let u := u.set .progressing s.progressing s.phase.name s.serversReady
  let u := u.set .degraded (s.phase == .degraded || s.phase == .splitBrain) s.phase.name
    s.serversReady
  (s.setSkewCondition (s.setUpgradeCondition (s.setConfigurationCondition
    (s.setSplitCondition u)))).conditions

/-! ## Status -/

/-- The version of the cluster after the pass: the declared one when it starts, and the target of an
upgrade when that is complete. In between it stays the version that the upgrade came from. -/
def version (s : Situation) : String :=
  match s.step? with
  | some step =>
    if step.completes then step.record.targetVersion else s.status.version.getD s.spec.image.tag
  | none => s.status.version.getD s.spec.image.tag

/-- The status after the pass. Every field is set anew, and nothing in it depends on what the
effects of the pass came to: a pass whose effects fail does not get here. -/
def nextStatus (s : Situation) : ClusterStatus :=
  { phase := s.phase
    replicas := { ready := s.ready, total := s.servers }
    version := some s.version
    upgrade := s.upgrade?
    configuration := s.configuration
    membership := s.membership
    servers := s.topology.serverStatuses
    observedGeneration := s.cluster.metadata.generation
    conditions := s.conditions
    endpoints := some (.of s.ref) }

end Situation

end ClusterOperator
