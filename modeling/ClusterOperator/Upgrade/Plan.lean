import ClusterOperator.Topology

/-!
# The order of an upgrade

Servers are upgraded one class after the other, and within a class from the highest ordinal down. A
server is of the primary class if it hosts a primary database or may host nothing else. The order is
fixed when the upgrade starts.
-/

set_option autoImplicit false

namespace ClusterOperator

structure HostedDatabase where
  name : String
  role : String
  status : String
  deriving DecidableEq, Repr

/-- Whether two texts are the same but for the case of ASCII letters. -/
def sameLetters (a b : String) : Bool := a.toList.map Char.toLower == b.toList.map Char.toLower

def HostedDatabase.isPrimary (d : HostedDatabase) : Bool := sameLetters d.role "primary"

/-- The databases that each server hosts, by the name of its pod. -/
abbrev HostedDatabases := SortedMap (List HostedDatabase)

/-- The class of a server: a primary if it hosts any database as one, or if it is declared to. A
server whose databases are not known counts by its declaration alone. -/
def classOfServer (clusterName : String) (topology : Topology) (hosted : HostedDatabases)
    (ordinal : Ordinal) : ServerClass :=
  if ((hosted.find? (podName clusterName ordinal)).getD []).any (·.isPrimary) ||
      topology.constraintOf ordinal = .primary then .primary
  else .secondary

def UpgradeOrder.first : UpgradeOrder → ServerClass
  | secondariesFirst => .secondary
  | primariesFirst => .primary

/-- The order of the servers: one class after the other and, within a class, from the largest
ordinal down. The classes are those of the moment: the order is fixed with them when the upgrade
starts. -/
def buildPlan (clusterName : String) (topology : Topology) (hosted : HostedDatabases)
    (order : UpgradeOrder) : List PlannedServer :=
  let servers := (ordinals topology.servers).reverse.map fun ordinal =>
    (⟨ordinal, classOfServer clusterName topology hosted ordinal⟩ : PlannedServer)
  servers.filter (·.serverClass == order.first) ++ servers.filter (·.serverClass != order.first)

end ClusterOperator
