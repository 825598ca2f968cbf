import ClusterOperator.Text.Quoted

/-!
# Credentials

The name and the password with which servers are queried. A secret holds both, separated by a
slash, or the password alone. Shown in a log, credentials never give the password away.
-/

set_option autoImplicit false

namespace ClusterOperator

/-- A name and a password. -/
structure Credentials where
  username : String
  password : String
  deriving DecidableEq

namespace Credentials

/-- The name that goes with a password alone. -/
def defaultUsername : String := "neo4j"

def ofSecret (value : String) : Credentials :=
  let cs := value.toList
  if cs.contains '/' then
    { username := String.ofList (cs.takeWhile (· != '/'))
      password := String.ofList ((cs.dropWhile (· != '/')).drop 1) }
  else { username := defaultUsername, password := value }

/-- The credentials as they may be logged. -/
def redacted (c : Credentials) : String :=
  "Credentials \x7b username: " ++ Text.quoted c.username ++ ", password: " ++
    Text.quoted "<redacted>" ++ " \x7d"

end Credentials

end ClusterOperator
