import ClusterOperator.Configuration.Drift
import ClusterOperator.Lifecycle
import ClusterOperator.Membership.Repair
import ClusterOperator.Pass.Call
import ClusterOperator.Settings
import ClusterOperator.Upgrade.Advance

/-!
# What a pass decides

A pass first observes everything it needs: the cluster with its status, the pods, the views of the
servers, and the time. Every decision is then a function of that `Situation` alone: how healthy the
membership is, whether the configuration is applied, where the upgrade stands, which manifest is
right, and which pods have to go.
-/

set_option autoImplicit false

namespace ClusterOperator

/-- What a pass has observed. It is read once, at the start: decisions that are made from it agree
with each other even if the cluster changes while the pass goes on. -/
structure Situation where
  /-- The cluster as it was read, with a valid declaration. -/
  cluster : Cluster
  ref : ClusterRef
  topology : Topology
  settings : Settings
  now : Instant
  pods : List ServerPod
  /-- The views of the servers that answered. -/
  views : Views
  /-- The hosted databases, when they are needed to fix the order of an upgrade. -/
  hosted : HostedDatabases := .empty

namespace Situation

def spec (s : Situation) : ClusterSpec := s.cluster.spec

/-- The status as the last pass left it. -/
def status (s : Situation) : ClusterStatus := s.cluster.status.getD {}

def tunables (s : Situation) : Tunables := s.settings.tunablesFor s.spec.consistency

/-! ## Membership -/

/-- What the views say about the membership. -/
def classification (s : Situation) : Classification :=
  classify
    { deployment := s.topology.deployment
      pods := s.pods
      views := s.views
      previous := s.status.membership
      now := s.now
      grace := s.tunables.splitBrainGrace }

def health (s : Situation) : MembershipHealth := s.classification.health

/-- Whether the membership is split and was not before. -/
def newlySplit (s : Situation) : Bool :=
  s.health == .split && s.status.membership.health != .split

/-! ## Configuration -/

/-- The configuration that the declaration derives. -/
def derived (s : Situation) : DerivedConfig :=
  deriveConfig s.topology
    { clusterName := s.ref.name
      «namespace» := s.ref.namespace
      userConfig := s.spec.config
      restart := s.cluster.annotation? restartAnnotation }

/-- What is done about the configuration, and its record after that. The digest is taken of the
files as they are derived now, whatever the resources hold. -/
def evaluated (s : Situation) : DriftDecision × ConfigurationRecord :=
  s.status.configuration.evaluate s.derived.hash s.now s.tunables.configDebounce

/-- What is done about the configuration. -/
def drift (s : Situation) : DriftDecision := s.evaluated.1

/-- The record of the configuration after the pass. -/
def configuration (s : Situation) : ConfigurationRecord := s.evaluated.2

def permitsApply (s : Situation) : Bool := s.drift.permitsApply

/-! ## Upgrade -/

/-- The requests that the annotations carry. -/
def tokens (s : Situation) : UpgradeTokens :=
  { resume := s.cluster.annotation? resumeAnnotation
    abort := s.cluster.annotation? abortAnnotation }

/-- What becomes of the upgrade record. -/
def request (s : Situation) : UpgradeRequest :=
  resolveRequest s.spec.image.tag s.status.version s.status.upgrade s.tokens

/-- The record that the pass takes a step forward. -/
def openRecord? (s : Situation) : Option UpgradeRecord :=
  match s.request with
  | .start record | .proceed record _ => some record
  | .idle | .cancel => none

/-- Whether this pass may fix the order of an upgrade, for which it has to know the hosted
databases. -/
def needsHosted (s : Situation) : Bool :=
  s.openRecord?.any fun record =>
    record.phase == .pending && record.plan.isEmpty &&
      -- The gate itself is closed by a configuration that waits as well; asking in that case is
      -- harmless.
      (!s.spec.upgradeStrategy.preUpgradeHealthCheck || s.health == .healthy)

/-- The step that the upgrade takes. The manifest is counted as applied here although it is applied
later in the pass: if that fails the pass ends, and neither the restarts nor the record come
about. -/
def step? (s : Situation) : Option UpgradeStep :=
  s.openRecord?.map fun record =>
    record.advance
      { clusterName := s.ref.name
        strategy := s.spec.upgradeStrategy
        image := s.spec.image
        topology := s.topology
        pods := s.pods
        classification := s.classification
        hosted := s.hosted
        tokens := s.tokens
        configSettled := s.permitsApply
        manifestApplied := s.permitsApply
        now := s.now }

def upgrade? (s : Situation) : Option UpgradeRecord := s.step?.map (·.record)

def upgradeHolds (s : Situation) : Bool := s.upgrade?.any (·.phase.holdsPods)

/-- The tag that pods are created with. It is taken of the record after the step, so the pass that
starts an upgrade already applies the target's image. -/
def tag (s : Situation) : String :=
  effectiveTag s.spec.image.tag s.status.version s.upgrade? s.spec.image s.pods

/-- The manifest that is right for the cluster. -/
def manifest (s : Situation) : Manifest :=
  .of s.topology (s.spec.image.referenceFor s.tag) s.derived

/-! ## Repair and rollout -/

/-- What is done about a split. -/
def repair (s : Situation) : RepairDecision :=
  planRepair s.classification s.status.membership s.upgrade? s.now s.tunables.repairCooldown

/-- The record of the membership after the pass. A repair is recorded by the pass that makes it,
with the time the pass began. -/
def membership (s : Situation) : MembershipRecord :=
  let found := s.classification.toRecord s.status.membership
  match s.repair with
  | .restart pods => { found with lastRepairTime := some s.now.toText, lastRepairedPods := pods }
  | _ => found

/-- The pod that is restarted so that it takes up the configuration. It is looked for on the record
after the pass: a configuration that is applied now counts as applied. -/
def rollout? (s : Situation) : Option ServerPod :=
  if s.permitsApply && !s.upgradeHolds && s.health != .split then
    s.configuration.lastAppliedHash.bind fun applied =>
      nextConfigRestart s.pods s.topology.servers applied s.manifest.image
  else none

/-- The declared servers that run another image although no upgrade is moving them. -/
def skewed (s : Situation) : List String :=
  if s.upgradeHolds then [] else versionSkew s.pods s.topology.servers s.manifest.image

/-! ## Phase -/

def servers (s : Situation) : Int32 := s.topology.servers

/-- The number of declared servers that serve. -/
def ready (s : Situation) : Int32 :=
  countOf (s.pods.filter fun p => p.ordinal < s.servers && p.isServing)

def phaseAndEvent (s : Situation) : ClusterPhase × ClusterEvent :=
  s.status.phase.next
    { readyReplicas := s.ready
      desiredReplicas := s.servers
      membership := s.health
      upgradeActive := s.upgradeHolds }

def phase (s : Situation) : ClusterPhase := s.phaseAndEvent.1

/-- What the table says of the move to the derived phase. -/
def phaseCheck (s : Situation) : MoveCheck :=
  checkMove s.status.phase s.phase s.phaseAndEvent.2

/-! ## The next pass -/

/-- The seconds after which a cluster that is not where it should be is looked at again. -/
def progressSeconds : Nat := 10

/-- The seconds after which the cluster is looked at again. -/
def requeue (s : Situation) : Nat :=
  let calm := s.settings.resyncInterval
  let unsettled := s.phase != .running || s.upgrade?.any (!·.phase.isTerminal)
  let soon := if unsettled then min calm progressSeconds else calm
  match s.drift with
  -- A window that ends before that is waited for, but never for less than a second.
  | .debounce _ remaining _ => min soon (max remaining 1)
  | _ => soon

end Situation

end ClusterOperator
