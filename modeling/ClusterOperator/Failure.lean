import ClusterOperator.Text.Quoted

/-!
# Failures of a pass

What can end a pass early, in words, and how soon the pass is worth repeating. A partition of the
cluster is not among them: it is a state that a pass detects and records.
-/

set_option autoImplicit false

namespace ClusterOperator

inductive PlatformFailure
  /-- The platform refused the call. -/
  | refused (status message reason : String) (code : UInt16)
  /-- The call did not reach the platform. -/
  | unreachable (message : String)
  /-- The answer could not be read. -/
  | unreadable
  /-- The call was not made: it names no object. -/
  | unnamed
  deriving DecidableEq, Repr

/-- Why a pass ended early. What a failure is decides when the pass is repeated, and whether the
call that failed is tried again within it. -/
inductive Failure
  | platform (cause : PlatformFailure)
  /-- The object changed since it was read. -/
  | conflict (name : String)
  | retriesExhausted (name : String) (attempts : UInt32)
  /-- A call took longer than it may. -/
  | timeout (operation : String) (afterMillis : Nat)
  | validation (violations : List String)
  | missingField (name : String)
  /-- A server did not answer an administrative query. -/
  | adminQuery (pod message : String)
  | transient (message : String)
  | serialization
  deriving DecidableEq, Repr

/-- A duration in words: in seconds from one second on, else in milliseconds, with only the digits
that it needs. -/
def durationText (millis : Nat) : String :=
  if millis = 0 then "0ns"
  else if millis < 1000 then toString millis ++ "ms"
  else
    let digits := Nat.toDigits 10 (millis % 1000 + 1000)
    let fraction := ((digits.drop 1).reverse.dropWhile (· == '0')).reverse
    let point := if fraction.isEmpty then "" else "." ++ String.ofList fraction
    toString (millis / 1000) ++ point ++ "s"

/-- The words of a failure of the platform, as far as they are fixed. -/
def PlatformFailure.message : PlatformFailure → Option String
  | .refused status message reason code =>
    some ("Kubernetes API error: ApiError: " ++ message ++ ": " ++ reason ++
      " (ErrorResponse \x7b status: " ++ Text.quoted status ++ ", message: " ++
      Text.quoted message ++ ", reason: " ++ Text.quoted reason ++ ", code: " ++
      toString code.toNat ++ " \x7d)")
  | .unreachable message => some ("Kubernetes API error: ServiceError: " ++ message)
  | .unreadable | .unnamed => none

namespace Failure

/-- The failure in words; a few have none that are fixed. -/
def message : Failure → Option String
  | platform cause => cause.message
  | conflict name => some ("Version conflict writing " ++ name)
  | retriesExhausted name attempts =>
    some ("Gave up writing " ++ name ++ " after " ++ toString attempts.toNat ++
      " conflicting attempts")
  | timeout operation afterMillis =>
    some ("Timed out after " ++ durationText afterMillis ++ ": " ++ operation)
  | validation violations => some ("Validation failed: " ++ "; ".intercalate violations)
  | missingField name => some ("Missing required field: " ++ name)
  | adminQuery pod message => some ("Admin query to " ++ pod ++ " failed: " ++ message)
  | transient message => some ("Transient error: " ++ message)
  | serialization => none

/-- The faults of a declaration, if they are the failure. -/
def violations : Failure → List String
  | validation violations => violations
  | _ => []

def isNotFound : Failure → Bool
  | platform (.refused _ _ _ code) => code == 404
  | _ => false

def isConflict : Failure → Bool
  | conflict _ => true
  | platform (.refused _ _ _ code) => code == 409
  | _ => false

/-- Whether the same call may succeed later. -/
def isRetryable : Failure → Bool
  | platform (.refused _ _ _ code) => code ≥ 500 || code == 429 || code == 409
  | platform (.unreachable _) => true
  | platform .unreadable | platform .unnamed => false
  | conflict _ | retriesExhausted _ _ | timeout _ _ | adminQuery _ _ | transient _ => true
  | validation _ | missingField _ | serialization => false

/-- The seconds after which a pass is repeated: contention clears quickly, and a declaration has to
be edited first. -/
def requeueSeconds (f : Failure) : Nat :=
  match f with
  | conflict _ | retriesExhausted _ _ | timeout _ _ => 10
  | f => if f.isRetryable then 30 else 300

end Failure

end ClusterOperator
