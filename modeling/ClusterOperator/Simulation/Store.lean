import ClusterOperator.Configuration.Rendering
import ClusterOperator.Event
import ClusterOperator.Failure
import ClusterOperator.Pod

/-!
# A store in memory

One cluster object with a version that every write raises, a list of pods, and secrets. A write of
an object whose version is not the stored one is a conflict; conflicts may also be injected, and any
operation may be told to fail.
-/

set_option autoImplicit false

namespace ClusterOperator.Simulation

inductive Operation
  | getCluster
  | replaceCluster
  | replaceStatus
  | applyManifest
  | listServerPods
  | deletePod
  | readSecret
  deriving DecidableEq, Repr

namespace Operation

def all : List Operation :=
  [getCluster, replaceCluster, replaceStatus, applyManifest, listServerPods, deletePod, readSecret]

def name : Operation → String
  | getCluster => "get_cluster"
  | replaceCluster => "replace_cluster"
  | replaceStatus => "replace_status"
  | applyManifest => "apply_manifest"
  | listServerPods => "list_server_pods"
  | deletePod => "delete_pod"
  | readSecret => "read_secret"

end Operation

/-- The outcomes that an operation is told to have, next first; none lets the operation through. -/
abbrev Script := List (Option Failure)

/-- The store as the operator sees it, with what was done to it. Conflicts and failures are laid
down beforehand, so a scenario can place one at the very call that it is about. -/
structure Store where
  /-- The cluster as it was at first. -/
  initial : Cluster
  object : Option Cluster
  /-- The last version that was given out. -/
  version : Nat
  /-- How many conflicts are still to be injected. -/
  conflicts : Nat := 0
  scripts : Operation → Script := fun _ => []
  pods : List ServerPod := []
  secrets : List ((String × String) × String) := []
  /-- How often the cluster was read. -/
  reads : Nat := 0
  /-- How many writes of the object were accepted. -/
  objectWrites : Nat := 0
  /-- How many writes of the status were accepted. -/
  statusWrites : Nat := 0
  applied : List Manifest := []
  lastApplied : Option Manifest := none
  deleted : List String := []
  events : List Event := []

def atVersion (cluster : Cluster) (version : Nat) : Cluster :=
  { cluster with metadata := { cluster.metadata with resourceVersion := some (toString version) } }

namespace Store

def of (cluster : Cluster) : Store :=
  { initial := cluster, object := some (atVersion cluster 1), version := 1 }

/-- The next outcome that an operation is told to have. -/
def takeOutcome (s : Store) (operation : Operation) : Option Failure × Store :=
  match s.scripts operation with
  | [] => (none, s)
  | outcome :: rest =>
    (outcome, { s with scripts := fun o => if o = operation then rest else s.scripts o })

/-- Carries out an operation, unless it is told to fail. -/
def guarded {α : Type} (s : Store) (operation : Operation)
    (act : Store → Except Failure α × Store) : Except Failure α × Store :=
  match s.takeOutcome operation with
  | (some failure, s) => (.error failure, s)
  | (none, s) => act s

def bump (s : Store) : Store :=
  { s with version := s.version + 1, object := s.object.map (atVersion · (s.version + 1)) }

def conflict (s : Store) : Failure :=
  .conflict (s.initial.metadata.namespace.getD "" ++ "/" ++ s.initial.name)

def getCluster (s : Store) : Except Failure (Option Cluster) × Store :=
  { s with reads := s.reads + 1 }.guarded .getCluster fun s => (.ok s.object, s)

/-- Writes the cluster, unless another write came first. -/
def write (s : Store) (cluster : Cluster) (put : Cluster → Store → Except Failure Cluster × Store) :
    Except Failure Cluster × Store :=
  if s.conflicts > 0 then (.error s.conflict, { s.bump with conflicts := s.conflicts - 1 })
  else
    match s.object with
    | none => (.error (.transient "cluster does not exist"), s)
    | some stored =>
      if stored.metadata.resourceVersion = cluster.metadata.resourceVersion then put stored s
      else (.error s.conflict, s)

/-- Whether an object that is being deleted is held by nothing any more. -/
def isReleased (cluster : Cluster) : Bool :=
  cluster.metadata.deletionTimestamp.isSome && (cluster.metadata.finalizers.getD []).isEmpty

def replaceCluster (s : Store) (cluster : Cluster) : Except Failure Cluster × Store :=
  s.guarded .replaceCluster fun s => s.write cluster fun stored s =>
    let next := atVersion { cluster with status := stored.status } (s.version + 1)
    (.ok next,
      { s with
        version := s.version + 1
        object := if isReleased next then none else some next
        objectWrites := s.objectWrites + 1 })

def replaceStatus (s : Store) (cluster : Cluster) : Except Failure Cluster × Store :=
  s.guarded .replaceStatus fun s => s.write cluster fun stored s =>
    let next := atVersion { stored with status := cluster.status } (s.version + 1)
    (.ok next,
      { s with
        version := s.version + 1
        object := some next
        statusWrites := s.statusWrites + 1 })

def applyManifest (s : Store) (manifest : Manifest) : Except Failure Unit × Store :=
  s.guarded .applyManifest fun s =>
    (.ok (), { s with applied := s.applied ++ [manifest], lastApplied := some manifest })

def listServerPods (s : Store) : Except Failure (List ServerPod) × Store :=
  s.guarded .listServerPods fun s => (.ok s.pods, s)

def deletePod (s : Store) (name : String) : Except Failure Unit × Store :=
  s.guarded .deletePod fun s =>
    (.ok (), { s with pods := s.pods.filter (·.name != name), deleted := s.deleted ++ [name] })

def readSecret (s : Store) (name key : String) : Except Failure (Option String) × Store :=
  s.guarded .readSecret fun s => (.ok (s.secrets.lookup (name, key)), s)

end Store

end ClusterOperator.Simulation
