import ClusterOperator.Json.MergePatch
import ClusterOperator.Simulation.World

/-!
# What happens between passes

Users edit the cluster, pods come and go, servers lose sight of each other, operations fail. Every
edit of the cluster raises its version, and one that changes the declaration raises its generation.
-/

set_option autoImplicit false

namespace ClusterOperator.Simulation

/-- An edit of the cluster by its user. -/
inductive Edit
  /-- Changes the declaration by a merge patch. -/
  | spec (patch : Json)
  /-- Sets an annotation, or removes it. -/
  | annotate (key : String) (value : Option String)
  /-- Asks for the deletion. -/
  | deletion
  | status (value : Option ClusterStatus)

inductive PodChange
  | ready (value : Bool)
  | readySince (value : Option Instant)
  | image (value : Option String)
  | configHash (value : Option String)
  | terminating (value : Bool)

/-- Something that happens between passes. -/
inductive Step
  | advance (seconds : Int)
  /-- Brings up every pod of the last manifest that is missing, ready unless listed. -/
  | settle (notReady : List Ordinal)
  | edit (edit : Edit)
  | addPod (pod : ServerPod)
  | setPod (name : String) (changes : List PodChange)
  | removePod (name : String)
  /-- Splits the servers into groups that see each other. -/
  | partition (groups : List (List String))
  | views (views : SortedMap (List String))
  | trouble (troubles : SortedMap Trouble)
  | hosted (databases : SortedMap (List HostedDatabase))
  | secret (name key value : String)
  | conflicts (count : Nat)
  | script (operation : Operation) (outcomes : Script)
  | hookOutcome (index : Nat) (failure : Option Failure)
  /-- Removes the cluster. -/
  | vanish

/-- Why a step is impossible. A scenario goes on after one, with the world as it was. -/
inductive StepFault
  | noCluster
  | noPod
  /-- The edited declaration cannot be read. -/
  | malformed
  deriving DecidableEq, Repr

/-- The declaration that a merge patch makes of another. -/
def patchedSpec? (spec : ClusterSpec) (patch : Json) : Option ClusterSpec :=
  ClusterSpec.ofJson? (spec.toJson.mergePatch patch)

/-- A cluster with an annotation set or removed. -/
def withNote (c : Cluster) (key : String) : Option String → Cluster
  | some value => c.annotate key value
  | none =>
    { c with metadata := { c.metadata with
        annotations := c.metadata.annotations.map (·.erase key) } }

def Edit.apply (now : Instant) (c : Cluster) : Edit → Option Cluster
  | spec patch => (patchedSpec? c.spec patch).map fun spec => { c with spec }
  | annotate key value => some (withNote c key value)
  | deletion => some { c with metadata := { c.metadata with deletionTimestamp := some now } }
  | status value => some { c with status := value }

/-- A cluster with its generation raised if its declaration is not what it was. -/
def countGeneration (before after : Cluster) : Cluster :=
  if before.spec = after.spec then after
  else
    { after with metadata := { after.metadata with
        generation := some (after.metadata.generation.getD 0 + 1) } }

def PodChange.apply (p : ServerPod) : PodChange → ServerPod
  | ready value => { p with ready := value }
  | readySince value => { p with readySince := value }
  | image value => { p with image := value }
  | configHash value => { p with configHash := value }
  | terminating value => { p with terminating := value }

def changeFirst (name : String) (change : ServerPod → ServerPod) : List ServerPod → List ServerPod
  | [] => []
  | p :: rest => if p.name = name then change p :: rest else p :: changeFirst name change rest

def byOrdinal (pods : List ServerPod) : List ServerPod := pods.mergeSort (·.ordinal ≤ ·.ordinal)

namespace World

def withPods (w : World) (pods : List ServerPod) : World :=
  { w with store := { w.store with pods } }

def edited (w : World) (edit : Edit) : Except StepFault World :=
  match w.store.object with
  | none => .error .noCluster
  | some before =>
    match edit.apply w.now before with
    | none => .error .malformed
    | some after =>
      .ok { w with store := { w.store with object := some (countGeneration before after) }.bump }

def createdPod (w : World) (manifest : Manifest) (notReady : List Ordinal) (ordinal : Ordinal) :
    ServerPod :=
  let name := podName w.store.initial.name ordinal
  { name, ordinal
    ready := !notReady.contains ordinal
    readySince := some w.now
    image := some manifest.image
    configHash := some manifest.configHash
    host := w.store.initial.podHost name }

/-- The world in which every pod of the last manifest exists. -/
def settled (w : World) (notReady : List Ordinal) : World :=
  match w.store.lastApplied with
  | none => w
  | some manifest =>
    let missing := (ordinals manifest.replicas).filter fun ordinal =>
      !w.store.pods.any (·.ordinal == ordinal)
    w.withPods (byOrdinal (w.store.pods ++ missing.map (w.createdPod manifest notReady)))

def after (w : World) : Step → Except StepFault World
  | .advance seconds => .ok { w with now := w.now.addSeconds seconds }
  | .settle notReady => .ok (w.settled notReady)
  | .edit edit => w.edited edit
  | .addPod pod => .ok (w.withPods (byOrdinal (w.store.pods ++ [pod])))
  | .setPod name changes =>
    if w.store.pods.any (·.name == name) then
      .ok (w.withPods (changeFirst name (fun p => changes.foldl PodChange.apply p) w.store.pods))
    else .error .noPod
  | .removePod name => .ok (w.withPods (w.store.pods.filter (·.name != name)))
  | .partition groups => .ok { w with servers := { w.servers with groups, views := .empty } }
  | .views views => .ok { w with servers := { w.servers with views } }
  | .trouble troubles => .ok { w with servers := { w.servers with troubles } }
  | .hosted databases => .ok { w with servers := { w.servers with hosted := databases } }
  | .secret name key value =>
    .ok { w with store := { w.store with secrets := ((name, key), value) :: w.store.secrets } }
  | .conflicts count => .ok { w with store := { w.store with conflicts := count } }
  | .script operation outcomes =>
    .ok { w with store := { w.store with
      scripts := fun o => if o = operation then outcomes else w.store.scripts o } }
  | .hookOutcome index failure =>
    .ok { w with hooks := w.hooks.modify index fun hook => { hook with failure } }
  | .vanish => .ok { w with store := { w.store with object := none } }

end World

end ClusterOperator.Simulation
