import ClusterOperator.Simulation.Step

/-!
# Sketches

The parts of a scenario, and what is told of its passes, are written as documents. A sketch of a
cluster has its metadata beside its declaration; what it leaves out is absent. A failure is sketched
by its kind, and told by its kind and its words.
-/

set_option autoImplicit false

namespace ClusterOperator.Simulation

open Json

/-! ## Reading -/

def asInstant? (j : Json) : Option Instant := j.asString?.bind Instant.parse?

def asInteger? (j : Json) : Option Int := j.asInt64?.map Int64.toInt

def sketchedMetadata : Reader Metadata := do
  return { name := ← optional "name" asString?
           «namespace» := ← optional "namespace" asString?
           uid := ← optional "uid" asString?
           generation := ← optional "generation" asInt64?
           annotations := ← optional "annotations" (asMap? asString?)
           finalizers := ← optional "finalizers" asTexts?
           resourceVersion := ← optional "resource_version" asString?
           deletionTimestamp := ← optional "deletion_timestamp" asInstant? }

def asCluster? : Json → Option Cluster := asObject? do
  return { metadata := ← sketchedMetadata
           spec := (← optional "spec" ClusterSpec.ofJson?).getD {}
           status := ← optional "status" ClusterStatus.ofJson? }

def asPod? : Json → Option ServerPod := asObject? do
  return { name := ← required "name" asString?
           ordinal := ← required "ordinal" asInt32?
           ready := ← defaulted "ready" true asBool?
           readySince := ← optional "ready_since" asInstant?
           image := ← optional "image" asString?
           configHash := ← optional "config_hash" asString?
           terminating := ← defaulted "terminating" false asBool?
           host := ← defaulted "host" "" asString? }

def asDeployment? (j : Json) : Option Deployment := do
  match ← (← j.field? "kind") |> asString? with
  | "Cluster" =>
    return .cluster (← asInt32? (← j.field? "servers")) (← asInt32? (← j.field? "quorum"))
  | "Standalone" => return .standalone
  | _ => none

def asTopology? : Json → Option Topology := asObject? do
  let constraints ← required "constraints" (asList? Mode.ofJson?)
  let deployment ← optional "deployment" asDeployment?
  return { deployment := deployment.getD (.ofConstraints constraints), constraints }

def asManifest? : Json → Option Manifest := asObject? do
  return .of (← required "topology" asTopology?) (← required "image" asString?)
    { files := ← defaulted "files" .empty (asMap? asString?)
      hash := ← defaulted "hash" "" asString? }

def asHosted? : Json → Option HostedDatabases := asMap? <| asList? <| asObject? do
  return { name := ← defaulted "name" "" asString?
           role := ← required "role" asString?
           status := ← defaulted "status" "" asString? }

def asViews? : Json → Option Views := asMap? asTexts?

def failureOfKind? (kind : String) : Option (Reader Failure) :=
  match kind with
  | "KubeApi" => some do
    return .platform (.refused (← defaulted "status" "" asString?)
      (← defaulted "message" "" asString?) (← defaulted "reason" "" asString?)
      (← required "code" asUInt16?))
  | "KubeService" => some do return .platform (.unreachable (← required "message" asString?))
  | "Conflict" => some do return .conflict (← required "name" asString?)
  | "ConflictRetriesExhausted" => some do
    return .retriesExhausted (← required "name" asString?) (← required "attempts" asUInt32?)
  | "Timeout" => some do
    return .timeout (← required "operation" asString?) (← required "after_ms" asNat64?)
  | "Validation" => some do return .validation (← required "violations" asTexts?)
  | "MissingField" => some do return .missingField (← required "name" asString?)
  | "AdminQuery" => some do
    return .adminQuery (← required "pod" asString?) (← required "message" asString?)
  | "Transient" => some do return .transient (← required "message" asString?)
  | "Serialization" => some (return .serialization)
  | _ => none

def asFailure? (j : Json) : Option Failure := do
  let read ← failureOfKind? (← (← j.field? "kind").asString?)
  asObject? read j

def asScript? : Json → Option Script := asList? (asNullable? asFailure?)

/-! ## Writing -/

def instantJson (t : Instant) : Json := .str t.toText

def podJson (p : ServerPod) : Json :=
  .obj [("name", .str p.name), ("ordinal", Int32.toJson p.ordinal), ("ready", .bool p.ready),
    ("ready_since", ofOption instantJson p.readySince), ("image", ofOption .str p.image),
    ("config_hash", ofOption .str p.configHash), ("terminating", .bool p.terminating),
    ("host", .str p.host), ("serving", .bool p.isServing)]

def deploymentJson : Deployment → Json
  | .cluster servers quorum =>
    .obj [("kind", .str "Cluster"), ("servers", Int32.toJson servers),
      ("quorum", Int32.toJson quorum)]
  | .standalone => .obj [("kind", .str "Standalone")]

def manifestJson (m : Manifest) : Json :=
  .obj [("deployment", deploymentJson m.deployment), ("replicas", Int32.toJson m.replicas),
    ("image", .str m.image), ("config_hash", .str m.configHash), ("files", .texts m.files.keys)]

def eventJson (e : Event) : Json :=
  .obj [("severity", .str (if e.warning then "Warning" else "Normal")), ("reason", .str e.reason),
    ("action", .str e.action), ("note", .str e.note)]

def failureKind : Failure → String
  | .platform _ => "Kube"
  | .conflict _ => "Conflict"
  | .retriesExhausted _ _ => "ConflictRetriesExhausted"
  | .timeout _ _ => "Timeout"
  | .validation _ => "Validation"
  | .missingField _ => "MissingField"
  | .adminQuery _ _ => "AdminQuery"
  | .transient _ => "Transient"
  | .serialization => "Serialization"

/-- The fields of a failure: its kind, its words if it has any, and its faults if it has any. -/
def failureFields (f : Failure) : List (String × Json) :=
  ("error", .str (failureKind f)) :: (f.message.toList.map fun m => ("message", .str m)) ++
    if f.violations.isEmpty then [] else [("violations", .texts f.violations)]

def failureJson (f : Failure) : Json := .obj (failureFields f)

def storedJson (c : Cluster) : Json :=
  .obj [("finalizers", ofOption .texts c.metadata.finalizers),
    ("generation", ofOption Int64.toJson c.metadata.generation),
    ("status", ofOption ClusterStatus.toJson c.status)]

def resultJson : World.PassResult → Json
  | .ok requeue => .obj [("ok", .obj [("requeue", ofOption .nat requeue)])]
  | .error (f, requeue) => .obj (failureFields f ++ [("requeue", ofOption .nat requeue)])

def World.Report.toJson (r : World.Report) : Json :=
  let w := r.world
  .obj [("result", resultJson r.result), ("slept_ms", .nat w.waitedMillis),
    ("cluster", ofOption storedJson w.store.object),
    ("applied", ofList manifestJson w.store.applied), ("deleted", .texts w.store.deleted),
    ("events", ofList eventJson w.store.events), ("queries", .texts w.servers.queries.mergeSort),
    ("credentials", ofOption (fun c => .texts [c.username, c.password]) w.servers.credentials),
    ("status_writes", .nat w.store.statusWrites), ("object_writes", .nat w.store.objectWrites),
    ("hooks", ofList (.nat ·.runs) w.hooks), ("metrics", .texts r.newLines.mergeSort),
    ("last_reconcile", .nat w.health.lastReconcile)]

end ClusterOperator.Simulation
