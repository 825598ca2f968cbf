import ClusterOperator.Cluster.Status
import ClusterOperator.Time.Instant

/-!
# Conditions

A list of conditions holds one of each type. Setting a condition replaces it at its place, and a
condition whose status stays the same keeps the time of its last transition, so a pass that finds
nothing new changes nothing.
-/

set_option autoImplicit false

namespace ClusterOperator

/-- A condition as a pass sets it. -/
def Condition.of (kind : ConditionKind) (holds : Bool) (reason message : String)
    (generation : Option Int64) (time : String) : Condition :=
  { type := kind.name, status := if holds then "True" else "False", reason, message
    lastTransitionTime := time, observedGeneration := generation }

namespace Condition

/-- A condition that takes the place of an older one of its type. The time of the older one is kept
as long as the condition holds or does not hold as before: it tells of changes, not of passes. -/
def replacing (c old : Condition) : Condition :=
  if old.status = c.status then { c with lastTransitionTime := old.lastTransitionTime } else c

@[simp] theorem type_replacing (c old : Condition) : (c.replacing old).type = c.type := by
  unfold replacing
  split <;> rfl

/-- Puts a condition over the first of its type, or at the end. -/
def put (c : Condition) : List Condition → List Condition
  | [] => [c]
  | old :: rest => if old.type = c.type then c.replacing old :: rest else old :: c.put rest

end Condition

/-- A change of the conditions at a time, for a generation of the declaration. All conditions of a
pass are set at the same time and for the same generation. -/
structure ConditionUpdate where
  conditions : List Condition
  generation : Option Int64
  now : Instant

def ConditionUpdate.set (u : ConditionUpdate) (kind : ConditionKind) (holds : Bool)
    (reason message : String) : ConditionUpdate :=
  { u with
    conditions := (Condition.of kind holds reason message u.generation u.now.toText).put
      u.conditions }

def findCondition? (conditions : List Condition) (kind : ConditionKind) : Option Condition :=
  conditions.find? (·.type == kind.name)

def conditionHolds (conditions : List Condition) (kind : ConditionKind) : Bool :=
  (findCondition? conditions kind).any Condition.isTrue

end ClusterOperator
