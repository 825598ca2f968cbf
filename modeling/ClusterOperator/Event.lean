/-!
# Events

What a pass tells the user: a short reason, the action it belongs to, and a note.
-/

set_option autoImplicit false

namespace ClusterOperator

/-- An event published on a cluster. -/
structure Event where
  /-- Whether the event is a warning. -/
  warning : Bool
  reason : String
  action : String
  note : String
  deriving DecidableEq, Repr

def Event.normal (reason action note : String) : Event := ⟨false, reason, action, note⟩

def Event.warn (reason action note : String) : Event := ⟨true, reason, action, note⟩

end ClusterOperator
