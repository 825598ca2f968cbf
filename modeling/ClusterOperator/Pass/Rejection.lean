import ClusterOperator.Pass.Effects
import ClusterOperator.Retry

/-!
# A pass over an invalid declaration

Nothing is touched. The faults are recorded in the conditions, told once for as long as they stay
the same, and returned as the failure of the pass; everything else in the status is kept.
-/

set_option autoImplicit false

namespace ClusterOperator

def faultsText (violations : List String) : String := "; ".intercalate violations

/-- Whether the status already says what is wrong. The words are compared, so a declaration whose
faults changed is told of again. -/
def alreadyRejected (status : ClusterStatus) (message : String) : Bool :=
  status.phase == .failed && (findCondition? status.conditions .ready).any (·.message == message)

/-- The conditions of a cluster whose declaration is invalid. -/
def rejectionConditions (conditions : List Condition) (generation : Option Int64) (now : Instant)
    (message : String) : List Condition :=
  let u : ConditionUpdate := ⟨conditions, generation, now⟩
  let u := u.set .ready false "ValidationFailed" message
  let u := u.set .progressing false "ValidationFailed" "Spec must be corrected"
  (u.set .degraded true "ValidationFailed" message).conditions

def setRejection (conditions : List Condition) (generation : Option Int64) : Mutation :=
  fun latest =>
    setStatus
      { latest.status.getD {} with phase := .failed, conditions, observedGeneration := generation }
      latest

/-- A pass over a cluster whose declaration has faults. It ends with the failure to record them, or
with the faults. -/
def rejectionPass {α : Type} (settings : Settings) (cluster : Cluster) (violations : List String)
    (now : Instant) : Pass α := do
  let status := cluster.status.getD {}
  let message := faultsText violations
  let ref : ClusterRef := ⟨cluster.namespaceOrDefault, cluster.name⟩
  if !alreadyRejected status message then
    Pass.publish cluster (.warn "ValidationFailed" "Validating" message)
  -- The metric is set in every pass: it is kept in memory and may have been lost since the last
  -- one.
  Pass.measure ref (.phase (some ClusterPhase.failed.name))
  let conditions := rejectionConditions status.conditions cluster.metadata.generation now message
  let _ ← modifyWithRetry ref .status settings.retryPolicy
    (setRejection conditions cluster.metadata.generation)
  throw (.validation violations)

end ClusterOperator
