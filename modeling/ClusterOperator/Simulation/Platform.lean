import ClusterOperator.Json.Printer
import ClusterOperator.Platform.Calls
import ClusterOperator.Simulation.Sketch

/-!
# A platform that follows a script

The replies of the platform are given in advance, one for each request, and the requests are
recorded. When the script ends, every further reply is an empty document. A call is sketched by its
name and its fields.
-/

set_option autoImplicit false

namespace ClusterOperator.Simulation

open Json Platform

/-- The replies to come, and the requests so far. -/
structure Dialogue where
  replies : List Reply
  requests : List Request := []

/-- Takes the next reply and records the request. -/
def Dialogue.answer (request : Request) : StateM Dialogue Reply := fun d =>
  (d.replies.headD (.response 200 "\x7b\x7d"),
    { replies := d.replies.tail, requests := d.requests ++ [request] })

/-- Runs a program against a script: its result, and the requests that it sent. -/
def converse {α : Type} (replies : List Reply) (p : Program Request (fun _ => Reply) α) :
    α × List Request :=
  let (result, d) := (p.run Dialogue.answer).run { replies }
  (result, d.requests)

/-! ## Calls -/

inductive PlatformCall
  | get (ref : ClusterRef)
  | replace (cluster : Cluster)
  | replaceStatus (cluster : Cluster)
  | apply (cluster : Cluster) (manifest : Manifest)
  | listPods (cluster : Cluster)
  | deletePod («namespace» name : String)
  | readSecret («namespace» name key : String)
  | event (cluster : Cluster) (event : Event)

/-- What a call comes to, as a document, and the requests that it sends. -/
def PlatformCall.converse (millis : Nat) (replies : List Reply) (call : PlatformCall) :
    Except Failure Json × List Request :=
  let run {α : Type} (write : α → Json) (exchange : Exchange α) :
      Except Failure Json × List Request :=
    let (result, requests) := Simulation.converse replies (ExceptT.run exchange)
    (result.map write, requests)
  let nothing : Unit → Json := fun _ => .null
  match call with
  | get ref => run (ofOption Cluster.toJson) (Platform.getCluster millis ref)
  | replace cluster => run Cluster.toJson (Platform.replaceCluster millis cluster)
  | replaceStatus cluster => run Cluster.toJson (Platform.replaceStatus millis cluster)
  | apply cluster manifest => run nothing (Platform.applyManifest millis cluster manifest)
  | listPods cluster => run (ofList podJson) (Platform.listServerPods millis cluster)
  | deletePod ns name => run nothing (Platform.deletePod millis ns name)
  | readSecret ns name key => run (ofOption .str) (Platform.readSecret millis ns name key)
  | event cluster e => run nothing (ExceptT.lift (Platform.publishEvent cluster e))

/-! ## Sketches -/

def responseReply : Reader Reply := do
  let status ← required "status" asUInt16?
  let body ← required "body" some
  return .response status.toNat (match body with | .str s => s | j => j.compress)

def asReply? (j : Json) : Option Reply :=
  if (j.field? "hang").isSome then some .silence
  else if (j.field? "broken").isSome then
    asObject? (return .broken (← required "broken" asString?)) j
  else asObject? responseReply j

def callOfName? (name : String) : Option (Reader PlatformCall) :=
  match name with
  | "get" => some do
    return .get ⟨← required "namespace" asString?, ← required "name" asString?⟩
  | "replace" => some do return .replace (← required "cluster" asCluster?)
  | "replace_status" => some do return .replaceStatus (← required "cluster" asCluster?)
  | "apply" => some do
    return .apply (← required "cluster" asCluster?) (← required "manifest" asManifest?)
  | "list_pods" => some do return .listPods (← required "cluster" asCluster?)
  | "delete_pod" => some do
    return .deletePod (← required "namespace" asString?) (← required "name" asString?)
  | "read_secret" => some do
    return .readSecret (← required "namespace" asString?) (← required "name" asString?)
      (← required "key" asString?)
  | "event" => some do
    return .event (← required "cluster" asCluster?)
      { warning := ← defaulted "warning" false asBool?, reason := ← required "reason" asString?
        action := ← required "action" asString?, note := ← required "note" asString? }
  | _ => none

/-- A call with the replies to it. -/
structure ScriptedCall where
  call : PlatformCall
  replies : List Reply

/-- The call that a sketch gives, with the replies to it. -/
def asScriptedCall? (j : Json) : Option ScriptedCall := do
  let read ← callOfName? (← (← j.field? "call").asString?)
  let call ← asObject? read j
  let replies ← asObject? (defaulted "responses" [] (asList? asReply?)) j
  return { call, replies }

def requestJson (r : Request) : Json :=
  .obj [("method", .str r.method.name), ("path", .str r.path), ("query", .str r.query),
    ("content_type", ofOption .str r.contentType), ("body", r.body.getD .null)]

end ClusterOperator.Simulation
