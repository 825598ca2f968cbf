import ClusterOperator.Simulation.Sketch

/-!
# Scenarios

A scenario is a cluster, an environment, a time, and a list of actions: passes, and what happens
between them. Every action has an outcome. An action that cannot be read or is impossible has one
too, and changes nothing.
-/

set_option autoImplicit false

namespace ClusterOperator.Simulation

open Json

inductive Action
  /-- Runs passes, and tells of the last one. -/
  | reconcile (times : Nat)
  | step (step : Step)

inductive Outcome
  | done
  /-- The pods that there are now. -/
  | pods (pods : List ServerPod)
  | report (report : World.Report)
  | impossible (fault : StepFault)
  | unreadable

/-- What is given beforehand, and then what happens. The environment is that of the operator, so a
scenario whose settings are refused does not begin. -/
structure Scenario where
  cluster : Cluster
  environment : Environment
  hooks : List String
  start : Instant
  /-- The actions; those that could not be read are absent. -/
  actions : List (Option Action)

/-! ## Running -/

def World.perform (w : World) (step : Step) : Outcome × World :=
  match w.after step, step with
  | .error fault, _ => (.impossible fault, w)
  | .ok w, .settle _ => (.pods w.store.pods, w)
  | .ok w, _ => (.done, w)

def World.act (w : World) : Option Action → Outcome × World
  | none => (.unreadable, w)
  | some (.reconcile times) =>
    let (report, w) := World.reportPasses times w
    (.report report, w)
  | some (.step step) => w.perform step

def World.actAll : World → List (Option Action) → List Outcome
  | _, [] => []
  | w, action :: rest =>
    let (outcome, w) := w.act action
    outcome :: w.actAll rest

/-- The cluster that a scenario starts with: a finalizer is put on it unless it says which ones it
has. -/
def Scenario.startCluster (s : Scenario) : Cluster :=
  if s.cluster.metadata.finalizers.isNone then s.cluster.addFinalizer.2 else s.cluster

def Scenario.run (s : Scenario) : Except SettingsError (List Outcome) :=
  (Settings.load s.environment).map fun settings =>
    (World.of { settings, hooks := s.hooks } s.startCluster s.start).actAll s.actions

/-! ## Reading -/

def podChange? : String × Json → Option PodChange
  | ("ready", j) => j.asBool?.map .ready
  | ("ready_since", j) => (asNullable? asInstant? j).map .readySince
  | ("image", j) => (asNullable? asString? j).map .image
  | ("config_hash", j) => (asNullable? asString? j).map .configHash
  | ("terminating", j) => j.asBool?.map .terminating
  | _ => none

def asPodChanges? : Json → Option (List PodChange)
  | .obj fields => fields.mapM podChange?
  | _ => none

def asTrouble? : Json → Option Trouble
  | .str "error" => some .refuses
  | .str "hang" => some .hangs
  | _ => none

def stepOfName? (name : String) : Option (Reader Step) :=
  match name with
  | "advance" => some do return .advance (← required "secs" asInteger?)
  | "settle" => some do return .settle (← defaulted "not_ready" [] (asList? asInt32?))
  | "edit_spec" => some do return .edit (.spec (← required "patch" some))
  | "annotate" => some do
    return .edit (.annotate (← required "key" asString?) (← optional "value" asString?))
  | "delete" => some (return .edit .deletion)
  | "set_status" => some do return .edit (.status (← optional "status" ClusterStatus.ofJson?))
  | "add_pod" => some do return .addPod (← required "pod" asPod?)
  | "set_pod" => some do
    return .setPod (← required "pod" asString?) (← required "set" asPodChanges?)
  | "remove_pod" => some do return .removePod (← required "pod" asString?)
  | "partition" => some do return .partition (← required "groups" (asList? asTexts?))
  | "views" => some do return .views (← required "views" asViews?)
  | "broken" => some do return .trouble (← required "pods" (asMap? asTrouble?))
  | "host" => some do return .hosted (← required "hosted" asHosted?)
  | "secret" => some do
    return .secret (← required "name" asString?) (← required "key" asString?)
      (← required "value" asString?)
  | "conflicts" => some do return .conflicts (← required "count" asNat32?)
  | "fail" => some do
    return .script (← required "method" (asChoice? Operation.all Operation.name))
      (← required "outcomes" asScript?)
  | "hook_fail" => some do
    return .hookOutcome (← required "hook" asNat64?) (← optional "error" asFailure?)
  | "vanish" => some (return .vanish)
  | _ => none

def asAction? (j : Json) : Option Action := do
  let name ← (← j.field? "do").asString?
  if name = "reconcile" then
    return .reconcile (← asObject? (defaulted "times" 1 asNat32?) j)
  else
    return .step (← asObject? (← stepOfName? name) j)

def Scenario.ofJson? : Json → Option Scenario := asObject? do
  return { cluster := ← required "cluster" asCluster?
           environment := (← defaulted "env" .empty (asMap? asString?)).find?
           hooks := ← defaulted "hooks" [] asTexts?
           start := ← required "start" asInstant?
           actions := ← required "steps" (asList? (some <| asAction? ·)) }

/-! ## Writing -/

def Outcome.toJson : Outcome → Json
  | done => .null
  | pods ps => ofList podJson ps
  | report r => r.toJson
  | impossible .noCluster => .obj [("error", "NoCluster")]
  | impossible .noPod => .obj [("error", "NoPod")]
  | impossible .malformed | unreadable => .obj [("error", "Deserialize")]

end ClusterOperator.Simulation
