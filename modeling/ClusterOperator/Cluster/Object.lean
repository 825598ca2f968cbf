import ClusterOperator.Cluster.Status
import ClusterOperator.Time.Instant

/-!
# The cluster object

A declaration with its metadata and, once a pass has written it, its status. The platform owns most
of the metadata; the operator adds and removes one finalizer, which holds up the deletion of the
object until the operator has cleaned up.
-/

set_option autoImplicit false

namespace ClusterOperator

/-- What the platform knows of an object. Everything is optional, as it is in what the platform
sends; what to take in place of a part that is absent is said where the part is used. -/
structure Metadata where
  name : Option String := none
  «namespace» : Option String := none
  uid : Option String := none
  generation : Option Int64 := none
  labels : Option (SortedMap String) := none
  annotations : Option (SortedMap String) := none
  finalizers : Option (List String) := none
  resourceVersion : Option String := none
  creationTimestamp : Option Instant := none
  deletionTimestamp : Option Instant := none
  deriving DecidableEq, Inhabited

/-- A cluster: what the user declares, and what the operator has written of it. The status is absent
until a pass has written one. -/
structure Cluster where
  metadata : Metadata := {}
  spec : ClusterSpec := {}
  status : Option ClusterStatus := none
  deriving DecidableEq, Inhabited

/-- The group and version of cluster objects. -/
def clusterApiVersion : String := "neo4joperator.smoketurner.com/v1alpha1"

def clusterKind : String := "Neo4jCluster"

/-- The finalizer that holds up the deletion of a cluster. -/
def finalizerName : String := "neo4joperator.smoketurner.com/finalizer"

/-- The annotation whose value asks for a rolling restart. -/
def restartAnnotation : String := "neo4joperator.smoketurner.com/restart-requested-at"

/-- The annotation whose value asks for a paused upgrade to go on. -/
def resumeAnnotation : String := "neo4joperator.smoketurner.com/upgrade-resume"

/-- The annotation whose value asks for the upgrade to be given up. -/
def abortAnnotation : String := "neo4joperator.smoketurner.com/upgrade-abort"

/-- The port that clients use. -/
def boltPort : Nat := 7687

/-- The port for administrative queries. -/
def httpPort : Nat := 7474

/-- The port for discovery and transactions between servers. -/
def clusterPort : Nat := 6000

/-- The port for consensus. -/
def raftPort : Nat := 7000

namespace Cluster

/-- The name of the cluster, empty if it has none. -/
def name (c : Cluster) : String := c.metadata.name.getD ""

/-- The namespace that names are resolved in. -/
def namespaceOrDefault (c : Cluster) : String := c.metadata.namespace.getD "default"

def annotation? (c : Cluster) (key : String) : Option String :=
  c.metadata.annotations.bind (·.find? key)

def annotate (c : Cluster) (key value : String) : Cluster :=
  { c with metadata := { c.metadata with
      annotations := some ((c.metadata.annotations.getD .empty).insert key value) } }

/-- What decides whether a change of the object is worth a pass: its generation and its
annotations. Writing the status changes neither. -/
def changeKey (c : Cluster) : Option Int64 × SortedMap String :=
  (c.metadata.generation, c.metadata.annotations.getD .empty)

/-! ## The finalizer -/

def hasFinalizer (c : Cluster) : Bool := (c.metadata.finalizers.getD []).contains finalizerName

def withFinalizers (c : Cluster) (finalizers : List String) : Cluster :=
  { c with metadata := { c.metadata with finalizers := some finalizers } }

/-- The object with the finalizer, after those it already has, and whether it was missing. -/
def addFinalizer (c : Cluster) : Bool × Cluster :=
  let present := c.metadata.finalizers.getD []
  if present.contains finalizerName then (false, c.withFinalizers present)
  else (true, c.withFinalizers (present ++ [finalizerName]))

/-- The object without the finalizer, and whether it was there. -/
def removeFinalizer (c : Cluster) : Bool × Cluster :=
  let present := c.metadata.finalizers.getD []
  (present.contains finalizerName, c.withFinalizers (present.filter (· != finalizerName)))

end Cluster

end ClusterOperator
