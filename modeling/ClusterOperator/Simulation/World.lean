import ClusterOperator.Health
import ClusterOperator.Pass.Call
import ClusterOperator.Reconcile
import ClusterOperator.Simulation.Servers
import ClusterOperator.Simulation.Store

/-!
# A world in memory

Everything that a pass may ask is answered from one value: the store, the servers, two clocks, the
outcomes of the cleanup hooks, and what the operator tells of itself. One clock is the operator's
and moves only when it is told to; the other adds up the time spent waiting.
-/

set_option autoImplicit false

namespace ClusterOperator.Simulation

structure Hook where
  name : String
  /-- What the hook fails with. -/
  failure : Option Failure := none
  /-- How often the hook was run. -/
  runs : Nat := 0

/-- All that the answers to a pass depend on. A pass changes it through its calls alone; what
happens between passes are the steps of a scenario. -/
structure World where
  operator : Operator
  store : Store
  servers : Servers := {}
  now : Instant
  /-- The time spent waiting. -/
  waitedMillis : Nat := 0
  hooks : List Hook := []
  health : Health := {}
  /-- The lines of the metrics after the last pass. -/
  lastLines : List String := []

namespace World

def withStore {α : Type} (act : Store → α × Store) : StateM World α := fun w =>
  let (answer, store) := act w.store
  (answer, { w with store })

def askServers {α : Type} (subject : String) (value : Servers → String → α)
    (targets : List ProbeTarget) (limits : ProbeLimits) : StateM World (ProbeOutcomes α) := fun w =>
  (targets.map fun t => (t.pod, w.servers.outcome (value w.servers) t.pod),
    { w with
      servers := w.servers.asked subject targets
      waitedMillis := w.waitedMillis + 1000 * w.servers.secondsFor targets limits })

def runHook (index : Nat) : StateM World (Except Failure Unit) := fun w =>
  match w.hooks[index]? with
  | none => (.ok (), w)
  | some hook =>
    (match hook.failure with
      | some failure => .error failure
      | none => .ok (),
      { w with hooks := w.hooks.set index { hook with runs := hook.runs + 1 } })

def answer : (c : Call) → StateM World c.Answer
  | .getCluster _ => withStore (·.getCluster)
  | .replaceCluster cluster => withStore (·.replaceCluster cluster)
  | .replaceStatus cluster => withStore (·.replaceStatus cluster)
  | .applyManifest _ manifest => withStore (·.applyManifest manifest)
  | .listServerPods _ => withStore (·.listServerPods)
  | .deletePod _ name => withStore (·.deletePod name)
  | .readSecret _ name key => withStore (·.readSecret name key)
  | .publishEvent _ event =>
    modify fun w => { w with store := { w.store with events := w.store.events ++ [event] } }
  | .askViews targets limits => askServers "servers" Servers.viewOf targets limits
  | .askDatabases targets limits => askServers "databases" Servers.hostedBy targets limits
  | .pause millis => modify fun w => { w with waitedMillis := w.waitedMillis + millis }
  | .now => do return (← get).now
  | .stopwatch => pure (0.0 : Float)
  | .runHook index _ => runHook index
  | .measure ref measurement =>
    modify fun w =>
      { w with health := { w.health with metrics := w.health.metrics.record ref measurement } }
  | .markReconciled second =>
    modify fun w => { w with health := { w.health with lastReconcile := second } }

def run {α : Type} (p : Program Call Call.Answer α) : StateM World α := p.run answer

def runPass {α : Type} (p : Pass α) : StateM World (Except Failure α) := run (ExceptT.run p)

/-- The world of a cluster at a time. Its servers see each other, and there are no pods. -/
def of (operator : Operator) (cluster : Cluster) (now : Instant) : World :=
  let servers := max 0 (min cluster.spec.servers 100)
  { operator
    store := .of cluster
    servers := { groups := [(ordinals servers).map (podName cluster.name)] }
    now
    hooks := operator.hooks.map fun name => { name } }

/-! ## Passes -/

/-- What became of a pass, and when the next one is due. -/
abbrev PassResult := Except (Failure × Requeue) Requeue

def ref (w : World) : ClusterRef :=
  ⟨w.store.initial.namespaceOrDefault, w.store.initial.name⟩

/-- The world with nothing noted of the passes before. -/
def forgotten (w : World) : World :=
  { w with
    waitedMillis := 0
    store := { w.store with applied := [], deleted := [], events := [] }
    servers := { w.servers with queries := [] } }

/-- Runs a pass, and what follows one that fails. -/
def reconcileOnce : StateM World PassResult := do
  let ref := (← get).ref
  match ← runPass (reconcile (← get).operator ref) with
  | .ok requeue => return .ok requeue
  | .error failure => return .error (failure, ← run (onFailure ref failure))

/-- The lines of samples, durations aside. -/
def sampleLines (w : World) : List String :=
  (w.health.metrics.toText.splitOn "\n").filter fun line =>
    !line.isEmpty && !line.startsWith "#" &&
      !line.startsWith "neo4joperator_reconcile_duration_seconds"

structure Report where
  result : PassResult
  /-- The world right after the pass. -/
  world : World
  /-- The lines of the metrics that the pass changed. -/
  newLines : List String

def reportPass : StateM World Report := do
  modify forgotten
  let result ← reconcileOnce
  let world ← get
  let lines := world.sampleLines
  set { world with lastLines := lines }
  return { result, world, newLines := lines.filter (!world.lastLines.contains ·) }

/-- Runs a pass a number of times, once at least, and tells of the last one. -/
def reportPasses : Nat → StateM World Report
  | 0 | 1 => reportPass
  | n + 1 => do
    let _ ← reportPass
    reportPasses n

end World

end ClusterOperator.Simulation
