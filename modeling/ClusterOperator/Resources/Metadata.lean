import ClusterOperator.Pod

/-!
# What every resource carries

Every resource of a cluster is named after it, owned by it, and labelled with it. Labels and
annotations of the user are put on all of them; the labels that select the pods are the operator's
own, so that they never change.
-/

set_option autoImplicit false

namespace ClusterOperator

/-! ## Labels -/

/-- The label that names the cluster. -/
def nameLabel : String := "app.kubernetes.io/name"

/-- The label that names the operator. -/
def managedByLabel : String := "app.kubernetes.io/managed-by"

/-- The label that names the kind of program. -/
def componentLabel : String := "app.kubernetes.io/component"

/-- The label that tells the services of a cluster apart. -/
def serviceTypeLabel : String := "app.kubernetes.io/service-type"

/-- The annotation that names the configuration a pod was created with. -/
def configHashAnnotation : String := "neo4joperator.smoketurner.com/config-hash"

/-- The name under which the operator writes. -/
def operatorName : String := "neo4j-operator"

namespace Cluster

/-- The labels that select the server pods. -/
def selectorLabels (c : Cluster) : SortedMap String :=
  .ofList [(nameLabel, c.name), (managedByLabel, operatorName)]

/-- The labels of a resource: the operator's, with the user's put over them. -/
def standardLabels (c : Cluster) : SortedMap String :=
  (SortedMap.ofList
    [(nameLabel, c.name), (managedByLabel, operatorName), (componentLabel, "neo4j")]).union
    c.spec.labels

/-- The annotations of a resource that carries a configuration. -/
def annotationsWith (c : Cluster) (configHash : String) : SortedMap String :=
  c.spec.annotations.insert configHashAnnotation configHash

/-! ## Names -/

def headlessServiceName (c : Cluster) : String := ClusterOperator.headlessServiceName c.name

def clientServiceName (c : Cluster) : String := c.name

def configMapName (c : Cluster) : String := c.name ++ "-config"

end Cluster

/-! ## Owner -/

/-- The reference of a resource to the cluster that owns it. The platform deletes a resource with
its owner, so the operator deletes none of them itself. -/
structure OwnerReference where
  name : String
  uid : String
  deriving DecidableEq

def Cluster.ownerReference (c : Cluster) : OwnerReference := ⟨c.name, c.metadata.uid.getD ""⟩

def OwnerReference.toJson (o : OwnerReference) : Json :=
  .obj [("apiVersion", .str clusterApiVersion), ("kind", .str clusterKind), ("name", .str o.name),
    ("uid", .str o.uid), ("controller", .bool true), ("blockOwnerDeletion", .bool true)]

/-! ## Metadata -/

structure ResourceMetadata where
  name : String
  «namespace» : Option String
  labels : SortedMap String
  annotations : SortedMap String
  owner : OwnerReference
  deriving DecidableEq

def Cluster.resourceMetadata (c : Cluster) (name : String) (labels annotations : SortedMap String) :
    ResourceMetadata :=
  { name, «namespace» := c.metadata.namespace, labels, annotations, owner := c.ownerReference }

/-- A map as a document, left out when it is empty. -/
def nonEmptyMap (m : SortedMap String) : Option Json :=
  if m.isEmpty then none else some (Json.ofMap .str m)

def ResourceMetadata.toJson (m : ResourceMetadata) : Json :=
  .ofFields [("name", some (.str m.name)), ("namespace", m.namespace.map .str),
    ("labels", some (Json.ofMap .str m.labels)), ("annotations", nonEmptyMap m.annotations),
    ("ownerReferences", some (.arr [m.owner.toJson]))]

end ClusterOperator
