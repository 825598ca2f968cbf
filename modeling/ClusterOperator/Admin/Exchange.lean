import ClusterOperator.Admin.Probe
import ClusterOperator.Admin.Query
import ClusterOperator.Http.Status
import ClusterOperator.Json.Parser
import ClusterOperator.Text.Base64

/-!
# Exchanges with a server

A server is asked at its own host, never through a service, so that the answer is its own view. The
request carries one statement; credentials go with it if there are any. Whatever is wrong with the
response, or with the tables in it, is a failure of that server's query.
-/

set_option autoImplicit false

namespace ClusterOperator

/-- What a server is asked about. -/
inductive AdminSubject
  /-- The servers that it sees. -/
  | servers
  /-- The databases that it hosts. -/
  | databases
  deriving DecidableEq, Repr

/-- The statement that asks. -/
def AdminSubject.statement : AdminSubject → String
  | servers => "SHOW SERVERS YIELD name, address, state, health"
  | databases => "SHOW DATABASES YIELD name, address, role, currentStatus"

structure AdminRequest where
  method : String
  path : String
  accept : String
  contentType : String
  authorization : Option String
  body : Json

def adminPath : String := "/db/system/tx/commit"

def ProbeTarget.url (t : ProbeTarget) : String :=
  "http://" ++ t.host ++ ":" ++ toString httpPort ++ adminPath

/-- Credentials as a request carries them. -/
def Credentials.basic (c : Credentials) : String :=
  "Basic " ++ Text.Base64.encode (c.username ++ ":" ++ c.password)

def ProbeTarget.request (t : ProbeTarget) (subject : AdminSubject) : AdminRequest :=
  { method := "POST"
    path := adminPath
    accept := "application/json"
    contentType := "application/json"
    authorization := t.credentials.map (·.basic)
    body := .obj [("statements", .arr [.obj [("statement", .str subject.statement)]])] }

def AdminRequest.line (r : AdminRequest) : String := r.method ++ " " ++ r.path ++ " HTTP/1.1"

/-! ## Responses -/

namespace ProbeTarget

def failure (t : ProbeTarget) (message : String) : Failure := .adminQuery t.pod message

def readResponse (t : ProbeTarget) (status : Nat) (body : String) : Except Failure QueryResponse :=
  if Http.isError status then
    let blamed := if Http.isClientError status then "client" else "server"
    .error (t.failure ("HTTP status " ++ blamed ++ " error (" ++ Http.statusText status ++
      ") for url (" ++ t.url ++ ")"))
  else
    match (Json.parse? body).bind QueryResponse.ofJson? with
    | some response => .ok response
    | none => .error (t.failure "error decoding response body")

/-- The value that an answer gives, or the fault of the answer as a failure of the query. -/
def judge {α : Type} (t : ProbeTarget) (value : Except QueryFault α) : Except Failure α :=
  value.mapError fun fault => t.failure fault.message

/-- The servers that a server sees, from its response. -/
def viewIn (t : ProbeTarget) (status : Nat) (body : String) : Except Failure (List String) := do
  let response ← t.readResponse status body
  t.judge (response.serverView t.pod)

/-- The databases that a server hosts, from its response. -/
def databasesIn (t : ProbeTarget) (status : Nat) (body : String) :
    Except Failure (List HostedDatabase) := do
  let response ← t.readResponse status body
  t.judge (response.hostedDatabases t.pod)

end ProbeTarget

end ClusterOperator
