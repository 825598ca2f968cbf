import ClusterOperator.Admin.Credentials
import ClusterOperator.Failure
import ClusterOperator.Pod
import ClusterOperator.SortedMap

/-!
# Asking the servers

Every serving pod is asked for itself, a bounded number at a time and each within a time limit. The
answers come back in any order. A pod that fails or takes too long is left out of the result: it is
unknown, which is not the same as having answered nothing.
-/

set_option autoImplicit false

namespace ClusterOperator

/-- A server to ask, at its own host. The name of the pod goes along because the answer is filed
under it. -/
structure ProbeTarget where
  pod : String
  host : String
  credentials : Option Credentials
  deriving DecidableEq

/-- The servers to ask: the pods that serve. -/
def probeTargets (pods : List ServerPod) (credentials : Option Credentials) : List ProbeTarget :=
  (pods.filter (·.isServing)).map fun p => ⟨p.name, p.host, credentials⟩

/-- How servers are asked. -/
structure ProbeLimits where
  /-- The seconds that one server has to answer. -/
  timeout : Nat
  /-- How many servers are asked at the same time. -/
  concurrency : Nat
  deriving DecidableEq

/-- What comes of asking one server. Two of the three give no value, and count alike from then
on. -/
inductive ProbeOutcome (α : Type)
  | answered (value : α)
  | failed (cause : Failure)
  | timedOut

def ProbeOutcome.value? {α : Type} : ProbeOutcome α → Option α
  | answered value => some value
  | failed _ => none
  | timedOut => none

/-- What came of asking every server, in the order in which it came. -/
abbrev ProbeOutcomes (α : Type) := List (String × ProbeOutcome α)

/-- The answers by the name of the pod that gave them. -/
def collectAnswers {α : Type} (outcomes : ProbeOutcomes α) : SortedMap α :=
  .ofList (outcomes.filterMap fun o => o.2.value?.map (o.1, ·))

end ClusterOperator
