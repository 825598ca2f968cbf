import ClusterOperator.Pass.Deletion
import ClusterOperator.Pass.Rejection
import ClusterOperator.Pass.Working
import ClusterOperator.Validation

/-!
# Reconciliation

One pass over one cluster: it is forgotten if it is gone, cleaned up if it is being deleted, claimed
by the finalizer before anything is created for it, rejected if its declaration is invalid, and else
moved one step toward its declaration. A pass never waits for the cluster to get there; it says when
it wants to be run again.
-/

set_option autoImplicit false

namespace ClusterOperator

/-- An operator: its settings and the names of its cleanup hooks, in the order they run. -/
structure Operator where
  settings : Settings := {}
  hooks : List String := []

/-- When a pass wants to be run again: after some seconds, or only when the cluster changes. -/
abbrev Requeue := Option Nat

/-- Moves an existing cluster, which is not being deleted, one step. A cluster without the finalizer
is only claimed; the pass asks to be run again at once and does the rest then. -/
def advanceCluster (operator : Operator) (cluster : Cluster) (ref : ClusterRef) : Pass Requeue := do
  if !cluster.hasFinalizer then
    -- Nothing may be created before this is stored, or a deletion could leave it behind.
    let _ ← modifyWithRetry ref .object operator.settings.retryPolicy Cluster.addFinalizer
    return some 0
  let now ← Pass.call .now
  match validateCluster cluster (cluster.status.getD {}).version with
  | .ok topology => return some (← workingPass operator.settings cluster ref topology now)
  | .error (.validation violations) =>
    rejectionPass operator.settings cluster violations now
  | .error failure => throw failure

/-- One pass over a cluster. A deletion that was asked for goes before everything else: a cluster
that is being deleted is not validated, so a declaration that is invalid does not hold its deletion
up. -/
def reconcileCluster (operator : Operator) (ref : ClusterRef) : Pass Requeue := do
  match ← Pass.getCluster ref with
  | none =>
    -- It is gone, and its phase with it.
    Pass.measure ref (.phase none)
    return none
  | some cluster =>
    if cluster.metadata.deletionTimestamp.isSome then
      deletionPass operator.settings operator.hooks cluster ref
      return none
    else advanceCluster operator cluster ref

/-- One pass over a cluster, counted when it succeeds. The time of the last success is what the
operator's own health is told by. -/
def reconcile (operator : Operator) (ref : ClusterRef) : Pass Requeue := do
  let requeue ← reconcileCluster operator ref
  Pass.measure ref (.reconcile (← Pass.call .stopwatch))
  let now ← Pass.call .now
  Pass.call (.markReconciled now.second.toNat)
  return requeue

/-- What follows a pass that failed: the failure is counted, and the pass is repeated unless what it
was about does not exist. -/
def onFailure (ref : ClusterRef) (failure : Failure) : Program Call Call.Answer Requeue :=
  (Program.query (Call.measure ref .failure)).bind fun _ =>
    .done (if failure.isNotFound then none else some failure.requeueSeconds)

end ClusterOperator
