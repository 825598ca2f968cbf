import ClusterOperator.Pass.Effects
import ClusterOperator.Retry

/-!
# A pass over a working cluster

The pass observes, carries out what it decides, and writes the status last, on the freshest state of
the cluster. A pass that fails on the way leaves the status as it was, so the next one decides from
the same memory.
-/

set_option autoImplicit false

namespace ClusterOperator

/-- The credentials for the servers: those in the declared secret, if it exists. -/
def readCredentials (cluster : Cluster) (ref : ClusterRef) : Pass (Option Credentials) :=
  match cluster.spec.auth with
  | none => pure none
  | some auth => do
    let value ← Pass.readSecret ref.namespace auth.secretRef.name auth.secretRef.key
    return value.map Credentials.ofSecret

def Settings.probeLimits (s : Settings) : ProbeLimits :=
  { timeout := s.probeTimeout, concurrency := s.probeConcurrency }

/-- Asks the servers of a cluster whom they see; a single server is not asked. -/
def askViews (settings : Settings) (deployment : Deployment) (targets : List ProbeTarget) :
    Pass Views :=
  match deployment with
  | .standalone => pure .empty
  | .cluster _ _ => do return collectAnswers (← Pass.call (.askViews targets settings.probeLimits))

/-- Observes everything that a pass decides by. The databases are asked for only when the order of
an upgrade may be fixed in this pass, which the other observations decide. -/
def observe (settings : Settings) (cluster : Cluster) (ref : ClusterRef) (topology : Topology)
    (now : Instant) : Pass Situation := do
  let pods ← Pass.listServerPods cluster
  let targets := probeTargets pods (← readCredentials cluster ref)
  let views ← askViews settings topology.deployment targets
  let s : Situation := { cluster, ref, topology, settings, now, pods, views }
  if s.needsHosted then
    let outcomes ← Pass.call (.askDatabases targets settings.probeLimits)
    return { s with hosted := collectAnswers outcomes }
  else return s

/-- A pass over a cluster with a valid declaration. The result is the number of seconds after which
the cluster is looked at again. -/
def workingPass (settings : Settings) (cluster : Cluster) (ref : ClusterRef) (topology : Topology)
    (now : Instant) : Pass Nat := do
  let s ← observe settings cluster ref topology now
  performAll cluster ref s.effects
  -- The status is set as a whole, on the latest object, whoever wrote to it since it was read.
  let _ ← modifyWithRetry ref .status settings.retryPolicy (setStatus s.nextStatus)
  return s.requeue

end ClusterOperator
