import ClusterOperator.Json.Record

/-!
# Phases and classes

The closed vocabularies of the status: the phases of a cluster and of an upgrade, the health of the
membership, the classes that an upgrade orders servers by, and the kinds of conditions.
-/

set_option autoImplicit false

namespace ClusterOperator

/-- The phase of a cluster's life. -/
inductive ClusterPhase
  /-- Nothing has been done yet. -/
  | pending
  /-- Resources are applied, pods are starting. -/
  | creating
  /-- All pods are ready, the servers still look for each other. -/
  | forming
  | running
  /-- Some servers are missing. -/
  | degraded
  /-- The servers disagree on who belongs to the cluster. -/
  | splitBrain
  | upgrading
  /-- The declaration is invalid. -/
  | failed
  | deleting
  deriving DecidableEq, Repr, Inhabited

namespace ClusterPhase

def all : List ClusterPhase :=
  [pending, creating, forming, running, degraded, splitBrain, upgrading, failed, deleting]

def name : ClusterPhase → String
  | pending => "Pending"
  | creating => "Creating"
  | forming => "Forming"
  | running => "Running"
  | degraded => "Degraded"
  | splitBrain => "SplitBrain"
  | upgrading => "Upgrading"
  | failed => "Failed"
  | deleting => "Deleting"

def ofJson? : Json → Option ClusterPhase := Json.asChoice? all name

end ClusterPhase

/-- What a detection pass makes of the membership. -/
inductive MembershipHealth
  /-- Fewer pods serve than servers are declared. -/
  | unformed
  /-- The views disagree, but not for long enough. -/
  | converging
  /-- The views have disagreed for the whole grace period. -/
  | split
  /-- Every server sees every server. -/
  | healthy
  deriving DecidableEq, Repr, Inhabited

namespace MembershipHealth

def all : List MembershipHealth := [unformed, converging, split, healthy]

def name : MembershipHealth → String
  | unformed => "Unformed"
  | converging => "Converging"
  | split => "Split"
  | healthy => "Healthy"

def ofJson? : Json → Option MembershipHealth := Json.asChoice? all name

end MembershipHealth

inductive UpgradePhase
  /-- The health gate before the first restart is closed. -/
  | pending
  | inProgress
  /-- Halted; waits to be resumed or aborted. -/
  | paused
  | completed
  | failed
  deriving DecidableEq, Repr, Inhabited

namespace UpgradePhase

def all : List UpgradePhase := [pending, inProgress, paused, completed, failed]

def name : UpgradePhase → String
  | pending => "Pending"
  | inProgress => "InProgress"
  | paused => "Paused"
  | completed => "Completed"
  | failed => "Failed"

def ofJson? : Json → Option UpgradePhase := Json.asChoice? all name

def isTerminal : UpgradePhase → Bool
  | completed | failed => true
  | _ => false

/-- Whether the pods belong to the upgrade, so that nothing else may restart them. -/
def holdsPods : UpgradePhase → Bool
  | inProgress | paused => true
  | _ => false

end UpgradePhase

/-- The class of a server in the order of an upgrade. -/
inductive ServerClass
  | primary
  | secondary
  deriving DecidableEq, Repr, Inhabited

namespace ServerClass

def all : List ServerClass := [primary, secondary]

def name : ServerClass → String
  | primary => "Primary"
  | secondary => "Secondary"

def ofJson? : Json → Option ServerClass := Json.asChoice? all name

end ServerClass

/-- What a condition is about. -/
inductive ConditionKind
  /-- The cluster works and is healthy. -/
  | ready
  /-- The cluster is being moved toward its declaration. -/
  | progressing
  | degraded
  /-- The servers disagree on who belongs to the cluster. -/
  | splitBrainDetected
  /-- A change of the configuration waits for its window. -/
  | configurationPending
  /-- The gate before an upgrade is closed. -/
  | upgradeBlocked
  /-- Servers run different images although no upgrade is active. -/
  | versionSkew
  deriving DecidableEq, Repr, Inhabited

namespace ConditionKind

def all : List ConditionKind :=
  [ready, progressing, degraded, splitBrainDetected, configurationPending, upgradeBlocked,
    versionSkew]

def name : ConditionKind → String
  | ready => "Ready"
  | progressing => "Progressing"
  | degraded => "Degraded"
  | splitBrainDetected => "SplitBrainDetected"
  | configurationPending => "ConfigurationPending"
  | upgradeBlocked => "UpgradeBlocked"
  | versionSkew => "VersionSkew"

def ofJson? : Json → Option ConditionKind := Json.asChoice? all name

end ConditionKind

end ClusterOperator
