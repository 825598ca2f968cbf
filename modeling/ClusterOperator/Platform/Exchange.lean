import ClusterOperator.Failure
import ClusterOperator.Http.Status
import ClusterOperator.Json.Parser
import ClusterOperator.Json.Record
import ClusterOperator.Program

/-!
# Exchanges with the platform

The platform is asked by requests and answers each with a reply. A reply that reports an error says
in its body what is wrong; one that does not say it is told by its number. An object that changed
since it was read is a failure of its own, because only then is it right to read it again.
-/

set_option autoImplicit false

namespace ClusterOperator.Platform

/-- What a request does to what its path names. -/
inductive Method
  | read
  | create
  | replace
  | apply
  | delete
  deriving DecidableEq, Repr

def Method.name : Method → String
  | read => "GET"
  | create => "POST"
  | replace => "PUT"
  | apply => "PATCH"
  | delete => "DELETE"

/-- A request, down to its body. Everything that the platform is asked for can be read off the
requests of an exchange. -/
structure Request where
  method : Method
  path : String
  query : String := ""
  contentType : Option String := none
  body : Option Json := none

/-- What comes back of a request. A reply that does not come is one of the cases, so an exchange has
an answer to every request and ends whatever the platform does. -/
inductive Reply
  | response (status : Nat) (body : String)
  /-- The connection broke. -/
  | broken (message : String)
  /-- There is none in time. -/
  | silence

/-- An exchange: it sends requests, and ends with a result or a failure. -/
abbrev Exchange (α : Type) := ExceptT Failure (Program Request fun _ => Reply) α

/-- What is told of a call that takes too long: what it does, and how long it may take. -/
structure Deadline where
  operation : String
  millis : Nat

/-! ## Replies -/

open Json

/-- The refusal that a body reports. -/
def refusal? : Json → Option PlatformFailure := asRecord? do
  return .refused (← required "status" asString?) (← defaulted "message" "" asString?)
    (← defaulted "reason" "" asString?) (← required "code" asUInt16?)

/-- The refusal of a reply with an error, told by its number if its body does not report one. -/
def refusalOf (status : Nat) (body : String) : PlatformFailure :=
  ((Json.parse? body).bind refusal?).getD
    (.refused (Http.statusText status) (Text.quoted body) "Failed to parse error data"
      (UInt16.ofNat status))

/-- The body of a reply, or why there is none. -/
def Reply.body (deadline : Deadline) : Reply → Except Failure String
  | response status body =>
    if Http.isError status then
      match refusalOf status body with
      | .refused _ _ _ 409 => .error (.conflict deadline.operation)
      | failure => .error (.platform failure)
    else .ok body
  | broken message => .error (.platform (.unreachable message))
  | silence => .error (.timeout deadline.operation deadline.millis)

def decodeBody {α : Type} (read : Json → Option α) (body : String) : Except Failure α :=
  match (Json.parse? body).bind read with
  | some value => .ok value
  | none => .error (.platform .unreadable)

def send {α : Type} (deadline : Deadline) (read : Json → Option α) (request : Request) :
    Exchange α :=
  .mk ((Program.query request).bind fun reply => .done (reply.body deadline >>= decodeBody read))

/-- A result that is absent when it does not exist. -/
def orAbsent {α : Type} (exchange : Exchange α) : Exchange (Option α) :=
  tryCatch (some <$> exchange) fun failure =>
    if failure.isNotFound then pure none else throw failure

/-! ## Paths -/

/-- The objects of one kind in a namespace. A collection has a path of its own, and every object in
it the path below that by its name. -/
structure Collection where
  /-- The group and version that the kind belongs to. -/
  group : String
  «namespace» : String
  plural : String

def Collection.path (c : Collection) : String :=
  "/" ++ c.group ++ "/namespaces/" ++ c.namespace ++ "/" ++ c.plural

/-- The path of an object of a collection; a call that names no object is not made. -/
def Collection.item (c : Collection) (name : String) : Exchange String :=
  if name.isEmpty then throw (.platform .unnamed) else pure (c.path ++ "/" ++ name)

def jsonContent : String := "application/json"

def applyContent : String := "application/apply-patch+yaml"

end ClusterOperator.Platform
