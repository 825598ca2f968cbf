import ClusterOperator.Cluster.Object
import ClusterOperator.Text.Numeral

/-!
# Server pods

A server runs in a pod that is named after the cluster and the server's ordinal, and that the other
servers reach under a stable host name. Addresses that servers report start with the pod's name.
-/

set_option autoImplicit false

namespace ClusterOperator

/-- A server pod as it is observed. All that decisions ask of a pod is in it, so none of them goes
back to what the platform sent. -/
structure ServerPod where
  name : String
  ordinal : Ordinal
  ready : Bool := true
  /-- Since when the pod has been ready, or not ready. -/
  readySince : Option Instant := none
  image : Option String := none
  /-- The hash of the configuration that the pod was created with. -/
  configHash : Option String := none
  terminating : Bool := false
  host : String := ""
  deriving DecidableEq

/-- Whether a pod serves: it is ready and not on its way out. A pod that is being deleted may stay
ready until it is gone. -/
def ServerPod.isServing (p : ServerPod) : Bool := p.ready && !p.terminating

/-- Whether a pod runs an image, as far as is known. A pod that does not tell its image is taken to
run any. -/
def ServerPod.mayRun (p : ServerPod) (image : String) : Bool :=
  match p.image with
  | some other => other == image
  | none => true

def podName (cluster : String) (ordinal : Ordinal) : String :=
  cluster ++ "-" ++ toString ordinal.toInt

/-- The name of the service that gives every pod its host name. -/
def headlessServiceName (cluster : String) : String := cluster ++ "-headless"

/-- The stable host name of a pod. -/
def podHostIn (cluster «namespace» pod : String) : String :=
  pod ++ "." ++ headlessServiceName cluster ++ "." ++ «namespace» ++ ".svc.cluster.local"

def Cluster.podHost (c : Cluster) (pod : String) : String :=
  podHostIn c.name c.namespaceOrDefault pod

/-- The part of a text after its last hyphen. -/
def afterLastHyphen? (cs : List Char) : Option (List Char) :=
  if cs.contains '-' then some (cs.reverse.takeWhile (· != '-')).reverse else none

/-- The ordinal that a pod's name ends with. -/
def ordinalOf? (pod : String) : Option Ordinal :=
  (afterLastHyphen? pod.toList).bind fun cs =>
    match Text.intUpTo 2147483647 cs with
    | .ok n => some (Int32.ofInt n)
    | .error _ => none

/-- The pod that an address names: everything before its port and its domain. -/
def podOfAddress? (address : String) : Option String :=
  let name := address.toList.takeWhile fun c => c != ':' && c != '.'
  if name.isEmpty then none else some (String.ofList name)

/-- The pod that an address names, or a word for an unknown one. -/
def podOfAddress (address : String) : String := (podOfAddress? address).getD "unknown"

/-- The ordinals below a number of servers. -/
def ordinals (servers : Int32) : List Ordinal :=
  (List.range servers.toInt.toNat).map Int32.ofNat

end ClusterOperator
