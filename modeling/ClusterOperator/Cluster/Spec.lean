import ClusterOperator.Cluster.Mode

/-!
# What the user declares

The declaration of a cluster: how many servers, which roles they may host, the image they run,
their settings, how an upgrade proceeds and how patient the operator is. Every part has a default,
so an empty declaration asks for three servers.
-/

set_option autoImplicit false

namespace ClusterOperator

/-- A mode constraint for one server, as the user wrote it. The mode is a text, so that one which is
not known can be reported with the other faults of the declaration and does not make the document
unreadable. -/
structure RoleHint where
  serverIndex : Int32
  mode : String
  deriving DecidableEq, Repr

/-- The container image. Its tag is also the version. -/
structure ImageSpec where
  repository : String := "neo4j"
  tag : String := "5.26.0-enterprise"
  pullPolicy : String := "IfNotPresent"
  deriving DecidableEq, Repr, Inhabited

def ImageSpec.referenceFor (image : ImageSpec) (tag : String) : String :=
  image.repository ++ ":" ++ tag

structure SecretRef where
  name : String
  key : String := "password"
  deriving DecidableEq, Repr

/-- Where the credentials for administrative queries are found. -/
structure Auth where
  secretRef : SecretRef
  deriving DecidableEq, Repr

/-- Which class of servers is upgraded first. -/
inductive UpgradeOrder
  | secondariesFirst
  | primariesFirst
  deriving DecidableEq, Repr, Inhabited

/-- How a rolling upgrade proceeds. -/
structure UpgradeStrategy where
  /-- Require a healthy cluster before the first restart. -/
  preUpgradeHealthCheck : Bool := true
  /-- Require a healthy cluster before the upgrade is completed. -/
  postUpgradeHealthCheck : Bool := true
  /-- Pause rather than fail when a step times out or a gate fails. -/
  autoPause : Bool := true
  /-- How many servers may be down at the same time. -/
  maxUnavailable : Int32 := 1
  /-- How long a single server may take to come back. -/
  stepTimeoutSeconds : UInt64 := 600
  order : UpgradeOrder := .secondariesFirst
  deriving DecidableEq, Repr, Inhabited

/-- A cluster's own values for the operator's waiting times. An absent value leaves the
operator's. -/
structure ConsistencyOverrides where
  splitBrainGraceSeconds : Option UInt64 := none
  repairCooldownSeconds : Option UInt64 := none
  configDebounceSeconds : Option UInt64 := none
  deriving DecidableEq, Repr, Inhabited

/-- The volume of each server. -/
structure StorageSpec where
  /-- The storage class; the platform's default if absent. -/
  storageClassName : Option String := none
  size : String := "10Gi"
  deriving DecidableEq, Repr, Inhabited

/-- What each server may use. -/
structure ComputeSpec where
  cpu : String := "1"
  memory : String := "2Gi"
  deriving DecidableEq, Repr, Inhabited

/-- What the user declares. Nothing in it is checked yet: a document with any number of servers and
any sizes can be read, and a pass reports all that is wrong with it at once. -/
structure ClusterSpec where
  servers : Int32 := 3
  /-- The constraint of every server without a hint. -/
  mode : Mode := .unrestricted
  roleHints : List RoleHint := []
  image : ImageSpec := {}
  auth : Option Auth := none
  /-- Settings of the user, for every server. -/
  config : SortedMap String := .empty
  upgradeStrategy : UpgradeStrategy := {}
  consistency : ConsistencyOverrides := {}
  storage : StorageSpec := {}
  resources : ComputeSpec := {}
  /-- Labels for everything the operator creates. -/
  labels : SortedMap String := .empty
  /-- Annotations for everything the operator creates. -/
  annotations : SortedMap String := .empty
  deriving DecidableEq, Inhabited

/-! ## The document form -/

open Json

def Int32.toJson (n : Int32) : Json := .int n.toInt

def UInt64.toJson (n : UInt64) : Json := .int n.toNat

namespace RoleHint

def toJson (h : RoleHint) : Json :=
  .obj [("serverIndex", Int32.toJson h.serverIndex), ("modeConstraint", .str h.mode)]

def ofJson? : Json → Option RoleHint := asRecord? do
  return { serverIndex := ← required "serverIndex" asInt32?
           mode := ← required "modeConstraint" asString? }

end RoleHint

namespace ImageSpec

def toJson (i : ImageSpec) : Json :=
  .obj [("repository", .str i.repository), ("tag", .str i.tag), ("pullPolicy", .str i.pullPolicy)]

def ofJson? : Json → Option ImageSpec := asRecord? do
  return { repository := ← defaulted "repository" "neo4j" asString?
           tag := ← defaulted "tag" "5.26.0-enterprise" asString?
           pullPolicy := ← defaulted "pullPolicy" "IfNotPresent" asString? }

end ImageSpec

namespace SecretRef

def toJson (s : SecretRef) : Json := .obj [("name", .str s.name), ("key", .str s.key)]

def ofJson? : Json → Option SecretRef := asRecord? do
  return { name := ← required "name" asString?, key := ← defaulted "key" "password" asString? }

end SecretRef

namespace Auth

def toJson (a : Auth) : Json := .obj [("secretRef", a.secretRef.toJson)]

def ofJson? : Json → Option Auth := asRecord? do
  return { secretRef := ← required "secretRef" SecretRef.ofJson? }

end Auth

namespace UpgradeOrder

def all : List UpgradeOrder := [secondariesFirst, primariesFirst]

def name : UpgradeOrder → String
  | secondariesFirst => "SecondariesFirst"
  | primariesFirst => "PrimariesFirst"

def ofJson? : Json → Option UpgradeOrder := asChoice? all name

end UpgradeOrder

namespace UpgradeStrategy

def toJson (s : UpgradeStrategy) : Json :=
  .obj [("preUpgradeHealthCheck", .bool s.preUpgradeHealthCheck),
    ("postUpgradeHealthCheck", .bool s.postUpgradeHealthCheck),
    ("autoPause", .bool s.autoPause),
    ("maxUnavailable", Int32.toJson s.maxUnavailable),
    ("stepTimeoutSeconds", UInt64.toJson s.stepTimeoutSeconds),
    ("order", .str s.order.name)]

def ofJson? : Json → Option UpgradeStrategy := asRecord? do
  return { preUpgradeHealthCheck := ← defaulted "preUpgradeHealthCheck" true asBool?
           postUpgradeHealthCheck := ← defaulted "postUpgradeHealthCheck" true asBool?
           autoPause := ← defaulted "autoPause" true asBool?
           maxUnavailable := ← defaulted "maxUnavailable" 1 asInt32?
           stepTimeoutSeconds := ← defaulted "stepTimeoutSeconds" 600 asUInt64?
           order := ← defaulted "order" .secondariesFirst UpgradeOrder.ofJson? }

end UpgradeStrategy

namespace ConsistencyOverrides

def toJson (c : ConsistencyOverrides) : Json :=
  ofFields [("splitBrainGraceSeconds", c.splitBrainGraceSeconds.map UInt64.toJson),
    ("repairCooldownSeconds", c.repairCooldownSeconds.map UInt64.toJson),
    ("configDebounceSeconds", c.configDebounceSeconds.map UInt64.toJson)]

def ofJson? : Json → Option ConsistencyOverrides := asRecord? do
  return { splitBrainGraceSeconds := ← optional "splitBrainGraceSeconds" asUInt64?
           repairCooldownSeconds := ← optional "repairCooldownSeconds" asUInt64?
           configDebounceSeconds := ← optional "configDebounceSeconds" asUInt64? }

end ConsistencyOverrides

namespace StorageSpec

def toJson (s : StorageSpec) : Json :=
  ofFields [("storageClassName", s.storageClassName.map .str), ("size", some (.str s.size))]

def ofJson? : Json → Option StorageSpec := asRecord? do
  return { storageClassName := ← optional "storageClassName" asString?
           size := ← defaulted "size" "10Gi" asString? }

end StorageSpec

namespace ComputeSpec

def toJson (c : ComputeSpec) : Json := .obj [("cpu", .str c.cpu), ("memory", .str c.memory)]

def ofJson? : Json → Option ComputeSpec := asRecord? do
  return { cpu := ← defaulted "cpu" "1" asString?, memory := ← defaulted "memory" "2Gi" asString? }

end ComputeSpec

/-- A list as a field that is left out when it is empty. -/
def listField {α : Type} (write : α → Json) (items : List α) : Option Json :=
  if items.isEmpty then none else some (.ofList write items)

namespace ClusterSpec

def toJson (s : ClusterSpec) : Json :=
  ofFields [("servers", some (Int32.toJson s.servers)),
    ("modeConstraint", some s.mode.toJson),
    ("serverRoleHints", listField RoleHint.toJson s.roleHints),
    ("image", some s.image.toJson),
    ("auth", s.auth.map Auth.toJson),
    ("config", some (ofMap .str s.config)),
    ("upgradeStrategy", some s.upgradeStrategy.toJson),
    ("consistency", some s.consistency.toJson),
    ("storage", some s.storage.toJson),
    ("resources", some s.resources.toJson),
    ("labels", some (ofMap .str s.labels)),
    ("annotations", some (ofMap .str s.annotations))]

def ofJson? : Json → Option ClusterSpec := asRecord? do
  return { servers := ← defaulted "servers" 3 asInt32?
           mode := ← defaulted "modeConstraint" .unrestricted Mode.ofJson?
           roleHints := ← defaulted "serverRoleHints" [] (asList? RoleHint.ofJson?)
           image := ← defaulted "image" {} ImageSpec.ofJson?
           auth := ← optional "auth" Auth.ofJson?
           config := ← defaulted "config" .empty (asMap? asString?)
           upgradeStrategy := ← defaulted "upgradeStrategy" {} UpgradeStrategy.ofJson?
           consistency := ← defaulted "consistency" {} ConsistencyOverrides.ofJson?
           storage := ← defaulted "storage" {} StorageSpec.ofJson?
           resources := ← defaulted "resources" {} ComputeSpec.ofJson?
           labels := ← defaulted "labels" .empty (asMap? asString?)
           annotations := ← defaulted "annotations" .empty (asMap? asString?) }

end ClusterSpec

end ClusterOperator
