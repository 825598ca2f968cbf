import ClusterOperator.Json.Record
import ClusterOperator.Text.Quoted

/-!
# Mode constraints

Which roles the databases on a server may have. A cluster has one constraint for all its servers
and may override it for single ones; overrides are kept as the text the user wrote, so that an
unknown one is reported with every other fault of the declaration.
-/

set_option autoImplicit false

namespace ClusterOperator

/-- Which database roles a server may host. -/
inductive Mode
  /-- Primaries and secondaries. -/
  | unrestricted
  /-- Primaries only. -/
  | primary
  /-- Secondaries only. -/
  | secondary
  deriving DecidableEq, Repr, Inhabited

namespace Mode

def all : List Mode := [unrestricted, primary, secondary]

def name : Mode → String
  | unrestricted => "NONE"
  | primary => "PRIMARY"
  | secondary => "SECONDARY"

def allowsPrimary : Mode → Bool
  | secondary => false
  | _ => true

/-- The constraint that a text names, or what is wrong with the text. -/
def parse (s : String) : Except String Mode :=
  match all.find? (·.name == s) with
  | some mode => .ok mode
  | none =>
    .error ("unknown mode constraint " ++ Text.quoted s ++ " (expected NONE, PRIMARY or SECONDARY)")

def toJson (m : Mode) : Json := .str m.name

def ofJson? : Json → Option Mode := Json.asChoice? all name

end Mode

end ClusterOperator
