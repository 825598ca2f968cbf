import ClusterOperator.Json.Record
import ClusterOperator.Membership.Classes
import ClusterOperator.Upgrade.Plan

/-!
# Answers of the servers

A server answers an administrative query with tables, or with errors; errors count first. From the
table of servers comes the view of the server that was asked, which always sees itself; from the
table of databases, what that server hosts. Cells that are missing or hold no text are empty texts.
-/

set_option autoImplicit false

namespace ClusterOperator

/-- Why an answer is of no use. Whichever it is, nothing is taken from the answer, and the server
that gave it counts as unknown. -/
inductive QueryFault
  /-- The server reported errors. -/
  | failed (errors : String)
  /-- There is no table. -/
  | noResult
  | missingColumn (name : String)
  deriving DecidableEq, Repr

def QueryFault.message : QueryFault → String
  | failed errors => "Query returned errors: " ++ errors
  | noResult => "Query returned no result set"
  | missingColumn name => "Missing column: " ++ name

/-- A table: the names of its columns, and its rows. A column is found by its name, wherever it
stands. -/
structure QueryTable where
  columns : List String
  rows : List (List Json)

/-- An error that a server reports. -/
structure QueryError where
  code : String
  message : String

structure QueryResponse where
  tables : List QueryTable
  errors : List QueryError

/-! ## Reading -/

open Json

def queryRow? : Json → Option (List Json) := asRecord? (required "row" (asList? some))

def QueryTable.ofJson? : Json → Option QueryTable := asRecord? do
  return { columns := ← required "columns" (asList? asString?)
           rows := ← defaulted "data" [] (asList? queryRow?) }

def QueryError.ofJson? : Json → Option QueryError := asRecord? do
  return { code := ← required "code" asString?, message := ← required "message" asString? }

def QueryResponse.ofJson? : Json → Option QueryResponse := asRecord? do
  return { tables := ← defaulted "results" [] (asList? QueryTable.ofJson?)
           errors := ← defaulted "errors" [] (asList? QueryError.ofJson?) }

/-! ## Tables -/

/-- The first table of an answer without errors. -/
def QueryResponse.table (r : QueryResponse) : Except QueryFault QueryTable :=
  if !r.errors.isEmpty then
    .error (.failed ("; ".intercalate (r.errors.map fun e => e.code ++ ": " ++ e.message)))
  else
    match r.tables with
    | table :: _ => .ok table
    | [] => .error .noResult

namespace QueryTable

def column (t : QueryTable) (name : String) : Except QueryFault Nat :=
  match t.columns.findIdx? (· == name) with
  | some i => .ok i
  | none => .error (.missingColumn name)

/-- The text at a place of a row. -/
def cell (row : List Json) (i : Nat) : String := (row[i]?.bind asString?).getD ""

/-- The texts of a column, row by row. -/
def texts (t : QueryTable) (name : String) : Except QueryFault (List String) :=
  (t.column name).map fun i => t.rows.map (cell · i)

/-- Puts a name into an ascending list of names, unless it is in it. -/
def insertName (name : String) : List String → List String
  | [] => [name]
  | other :: rest =>
    if name < other then name :: other :: rest
    else if name = other then other :: rest
    else other :: insertName name rest

def sortedNames (names : List String) : List String := names.foldr insertName []

/-- The servers that a server sees, in ascending order: those it reports as available, and
itself. -/
def serverView (t : QueryTable) (pod : String) : Except QueryFault (List String) := do
  let addresses ← t.texts "address"
  let health ← t.texts "health"
  let available := (addresses.zip health).filter fun server => sameLetters server.2 "available"
  return sortedNames (pod :: (available.map (podOfAddress ·.1)).filter (· != "unknown"))

def hostedDatabases (t : QueryTable) (pod : String) : Except QueryFault (List HostedDatabase) := do
  let names ← t.texts "name"
  let addresses ← t.texts "address"
  let roles ← t.texts "role"
  let statuses ← t.texts "currentStatus"
  let databases := (names.zip addresses).zip (roles.zip statuses)
  return (databases.filter (podOfAddress ·.1.2 == pod)).map fun d => ⟨d.1.1, d.2.1, d.2.2⟩

end QueryTable

def QueryResponse.serverView (r : QueryResponse) (pod : String) :
    Except QueryFault (List String) := do
  (← r.table).serverView pod

def QueryResponse.hostedDatabases (r : QueryResponse) (pod : String) :
    Except QueryFault (List HostedDatabase) := do
  (← r.table).hostedDatabases pod

end ClusterOperator
