import ClusterOperator.Pass.Call
import ClusterOperator.Retry

/-!
# A pass over a cluster that is being deleted

The hooks run in their order, and the finalizer is released only when all of them have succeeded in
the same pass. A hook that fails ends the pass and keeps the finalizer, so every hook runs again.
-/

set_option autoImplicit false

namespace ClusterOperator

/-- Records that the cluster is being deleted. -/
def setDeleting : Mutation := fun latest =>
  let status := latest.status.getD {}
  if status.phase = .deleting then (false, latest)
  else (true, { latest with status := some { status with phase := .deleting } })

/-- The words of a failure that end up in an event. -/
def Failure.text (f : Failure) : String := f.message.getD ""

/-- Runs the hooks from a place on. -/
def runHooks (cluster : Cluster) : Nat → List String → Pass Unit
  | _, [] => pure ()
  | index, name :: rest => do
    tryCatch (Pass.runHook index cluster) fun failure => do
      Pass.publish cluster (.warn "CleanupFailed" "Deleting"
        ("Cleanup hook " ++ name ++ " failed: " ++ failure.text))
      -- The event tells of the hook; the failure goes on, so that the finalizer stays.
      throw failure
    runHooks cluster (index + 1) rest

/-- A pass over a cluster that is being deleted. Without the finalizer there is nothing left to hold
the deletion up, and the pass does nothing. -/
def deletionPass (settings : Settings) (hooks : List String) (cluster : Cluster)
    (ref : ClusterRef) : Pass Unit :=
  if !cluster.hasFinalizer then pure ()
  else do
    if (cluster.status.getD {}).phase ≠ .deleting then
      let _ ← modifyWithRetry ref .status settings.retryPolicy setDeleting
    -- From here on nothing is remembered: a pass that fails below starts again with the first hook.
    runHooks cluster 0 hooks
    Pass.publish cluster (.normal "Deleted" "Deleting" "Cleanup complete, releasing finalizer")
    let _ ← modifyWithRetry ref .object settings.retryPolicy Cluster.removeFinalizer
    Pass.measure ref (.phase none)

end ClusterOperator
