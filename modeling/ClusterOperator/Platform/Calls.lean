import ClusterOperator.Cluster.Ref
import ClusterOperator.Event
import ClusterOperator.Platform.Exchange
import ClusterOperator.Platform.Record
import ClusterOperator.Resources.ConfigMap
import ClusterOperator.Text.FormEncoded
import ClusterOperator.Text.Utf8

/-!
# Calls of the platform

Each call of a pass that the platform answers, as the exchange that it is. A manifest takes four
requests: the files first, the services next, and the servers last, so that a server never starts
before the files that it reads are there. A failure ends the exchange and leaves what was applied
before it.
-/

set_option autoImplicit false

namespace ClusterOperator.Platform

open Json

/-- The namespace of a cluster, empty if it has none. -/
def namespaceOf (cluster : Cluster) : String := cluster.metadata.namespace.getD ""

def pathOf (cluster : Cluster) : String := namespaceOf cluster ++ "/" ++ cluster.name

def clusters («namespace» : String) : Collection :=
  ⟨"apis/" ++ clusterApiVersion, «namespace», "neo4jclusters"⟩

/-! ## Clusters -/

def getCluster (millis : Nat) (ref : ClusterRef) : Exchange (Option Cluster) := orAbsent do
  let path ← (clusters ref.namespace).item ref.name
  send ⟨"get " ++ ref.path, millis⟩ Cluster.ofJson? { method := .read, path }

/-- Writes everything of a cluster but its status. -/
def replaceCluster (millis : Nat) (cluster : Cluster) : Exchange Cluster := do
  let path ← (clusters (namespaceOf cluster)).item cluster.name
  send ⟨"replace " ++ pathOf cluster, millis⟩ Cluster.ofJson?
    { method := .replace, path, contentType := jsonContent, body := cluster.toJson }

def replaceStatus (millis : Nat) (cluster : Cluster) : Exchange Cluster := do
  let path ← (clusters (namespaceOf cluster)).item cluster.name
  send ⟨"replace status " ++ pathOf cluster, millis⟩ Cluster.ofJson?
    { method := .replace, path := path ++ "/status", contentType := jsonContent
      body := cluster.toJson }

/-! ## Resources -/

/-- What the operator creates for a cluster. The kinds are told apart only by where they are sent to
and by their document; they are applied alike. -/
inductive Resource
  | configMap (map : ConfigMap)
  | service (service : Service)
  | statefulSet (set : StatefulSet)
  deriving DecidableEq

namespace Resource

def apiVersion : Resource → String
  | configMap _ | service _ => "v1"
  | statefulSet _ => "apps/v1"

def kind : Resource → String
  | configMap _ => "ConfigMap"
  | service _ => "Service"
  | statefulSet _ => "StatefulSet"

def collection («namespace» : String) : Resource → Collection
  | configMap _ => ⟨"api/v1", «namespace», "configmaps"⟩
  | service _ => ⟨"api/v1", «namespace», "services"⟩
  | statefulSet _ => ⟨"apis/apps/v1", «namespace», "statefulsets"⟩

def metadata : Resource → ResourceMetadata
  | configMap map => map.metadata
  | service s => s.metadata
  | statefulSet set => set.metadata

def toJson : Resource → Json
  | configMap map => map.toJson
  | service s => s.toJson
  | statefulSet set => set.toJson

end Resource

/-- The resources of a manifest, in the order in which they are applied. -/
def manifestResources (cluster : Cluster) (manifest : Manifest) : List Resource :=
  [.configMap (cluster.configMap manifest), .service cluster.headlessService,
    .service cluster.clientService, .statefulSet (cluster.statefulSet manifest)]

/-- Applies a resource. The operator takes over the fields that it sets. -/
def applyResource (millis : Nat) («namespace» : String) (resource : Resource) : Exchange Unit := do
  let name := resource.metadata.name
  let path ← (resource.collection «namespace»).item name
  send ⟨"apply " ++ name, millis⟩ (resourceOf? resource.apiVersion resource.kind)
    { method := .apply, path, query := "force=true&fieldManager=" ++ operatorName
      contentType := applyContent, body := resource.toJson }

def applyManifest (millis : Nat) (cluster : Cluster) (manifest : Manifest) : Exchange Unit :=
  (manifestResources cluster manifest).forM (applyResource millis (namespaceOf cluster))

/-! ## Pods -/

def podsIn («namespace» : String) : Collection := ⟨"api/v1", «namespace», "pods"⟩

/-- The labels that select pods, as the platform is asked for them. -/
def selectorText (labels : SortedMap String) : String :=
  ",".intercalate (labels.entries.map fun label => label.1 ++ "=" ++ label.2)

/-- Lists the server pods, in the order of their ordinals. -/
def listServerPods (millis : Nat) (cluster : Cluster) : Exchange (List ServerPod) := do
  let records ← send ⟨"list pods " ++ pathOf cluster, millis⟩ podList?
    { method := .read, path := (podsIn (namespaceOf cluster)).path
      query := "labelSelector=" ++ Text.formEncoded (selectorText cluster.selectorLabels) }
  return serversOf cluster records

/-- What may answer a deletion: the pod, or a report on it. -/
def deletionReply? (j : Json) : Option Unit :=
  if j.field? "kind" == some (.str "Status") then some () else resourceOf? "v1" "Pod" j

/-- Deletes a pod; that it is gone already is no failure. -/
def deletePod (millis : Nat) («namespace» name : String) : Exchange Unit := do
  let _ ← orAbsent do
    let path ← (podsIn «namespace»).item name
    send ⟨"delete pod " ++ «namespace» ++ "/" ++ name, millis⟩ deletionReply?
      { method := .delete, path, contentType := jsonContent, body := some (.obj []) }

/-! ## Secrets -/

def secretsIn («namespace» : String) : Collection := ⟨"api/v1", «namespace», "secrets"⟩

def secretText (name key : String) (bytes : List UInt8) : Except Failure String :=
  match Text.Utf8.decode bytes with
  | .ok value => .ok value
  | .error fault =>
    .error (.validation ["secret " ++ name ++ "/" ++ key ++ " is not UTF-8: " ++ fault.message])

def readSecret (millis : Nat) («namespace» name key : String) : Exchange (Option String) := do
  let data? ← orAbsent do
    let path ← (secretsIn «namespace»).item name
    send ⟨"get secret " ++ «namespace» ++ "/" ++ name, millis⟩ secretData? { method := .read, path }
  match data?.bind (·.find? key) with
  | none => return none
  | some bytes => return some (← ExceptT.mk (pure (secretText name key bytes)))

/-! ## Events -/

def eventDocument (event : Event) : Json :=
  .obj [("type", .str (if event.warning then "Warning" else "Normal")),
    ("reason", .str event.reason), ("note", .str event.note), ("action", .str event.action),
    ("reportingController", .str operatorName), ("reportingInstance", .str operatorName)]

/-- Publishes an event; what comes of it changes nothing. -/
def publishEvent (cluster : Cluster) (event : Event) : Program Request (fun _ => Reply) Unit :=
  (Program.query
    { method := .create
      path := Collection.path ⟨"apis/events.k8s.io/v1", cluster.namespaceOrDefault, "events"⟩
      contentType := jsonContent, body := some (eventDocument event) }).bind fun _ => .done ()

end ClusterOperator.Platform
