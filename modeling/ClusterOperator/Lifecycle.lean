import ClusterOperator.Cluster.Phases

/-!
# The life of a cluster

A pass derives the phase from what it observes, with the event that explains it, and checks the
move against a table. The table lists every move that can happen; a move outside it is still
recorded, because the observation is right even where the expectation is not.
-/

set_option autoImplicit false

namespace ClusterOperator

/-- Why a cluster is in a phase. -/
inductive ClusterEvent
  /-- Resources are applied, pods are not all ready. -/
  | resourcesApplied
  /-- All pods are ready, the membership still forms. -/
  | podsReady
  /-- All pods are ready and the membership is healthy. -/
  | membershipHealthy
  /-- Declared servers are not ready. -/
  | replicasDegraded
  /-- The membership is split. -/
  | splitDetected
  /-- An upgrade holds the pods. -/
  | upgradeActive
  | validationFailed
  | deletionRequested
  deriving DecidableEq, Repr, Inhabited

namespace ClusterEvent

def all : List ClusterEvent :=
  [resourcesApplied, podsReady, membershipHealthy, replicasDegraded, splitDetected, upgradeActive,
    validationFailed, deletionRequested]

def name : ClusterEvent → String
  | resourcesApplied => "ResourcesApplied"
  | podsReady => "PodsReady"
  | membershipHealthy => "MembershipHealthy"
  | replicasDegraded => "ReplicasDegraded"
  | splitDetected => "SplitDetected"
  | upgradeActive => "UpgradeActive"
  | validationFailed => "ValidationFailed"
  | deletionRequested => "DeletionRequested"

def ofJson? : Json → Option ClusterEvent := Json.asChoice? all name

end ClusterEvent

/-- A row of the table: a move, the event that explains it, and the words in which it is told. The
words take no part in any decision. -/
structure PhaseMove where
  source : ClusterPhase
  target : ClusterPhase
  event : ClusterEvent
  description : String
  deriving DecidableEq, Repr

/-- The moves between phases in which the declaration is valid. A pass observes and does not
remember, so a cluster that was adopted, or looked at after an outage, can enter almost any
phase. -/
def workingMoves : List PhaseMove := [
  ⟨.pending, .creating, .resourcesApplied, "Child resources applied"⟩,
  ⟨.pending, .forming, .podsReady, "Pods already ready"⟩,
  ⟨.pending, .running, .membershipHealthy, "Adopted a healthy cluster"⟩,
  ⟨.creating, .forming, .podsReady, "All pods ready, forming membership"⟩,
  ⟨.creating, .running, .membershipHealthy, "Cluster formed"⟩,
  ⟨.forming, .running, .membershipHealthy, "Cluster formed"⟩,
  ⟨.forming, .degraded, .replicasDegraded, "Pod lost while forming"⟩,
  ⟨.pending, .splitBrain, .splitDetected, "Adopted a split cluster"⟩,
  ⟨.creating, .splitBrain, .splitDetected, "Formed into a split"⟩,
  ⟨.forming, .splitBrain, .splitDetected, "Formed into a split"⟩,
  ⟨.pending, .upgrading, .upgradeActive, "Rolling upgrade started"⟩,
  ⟨.creating, .upgrading, .upgradeActive, "Rolling upgrade started"⟩,
  ⟨.forming, .upgrading, .upgradeActive, "Rolling upgrade started"⟩,
  ⟨.running, .degraded, .replicasDegraded, "Servers unavailable"⟩,
  ⟨.running, .forming, .podsReady, "Membership re-forming"⟩,
  ⟨.running, .splitBrain, .splitDetected, "Membership split"⟩,
  ⟨.running, .upgrading, .upgradeActive, "Rolling upgrade started"⟩,
  ⟨.degraded, .running, .membershipHealthy, "Fully recovered"⟩,
  ⟨.degraded, .forming, .podsReady, "Pods back, membership re-forming"⟩,
  ⟨.degraded, .splitBrain, .splitDetected, "Membership split"⟩,
  ⟨.degraded, .upgrading, .upgradeActive, "Paused upgrade observed"⟩,
  ⟨.splitBrain, .degraded, .replicasDegraded, "Minority restarting"⟩,
  ⟨.splitBrain, .forming, .podsReady, "Minority rejoining"⟩,
  ⟨.splitBrain, .running, .membershipHealthy, "Partition healed"⟩,
  ⟨.splitBrain, .upgrading, .upgradeActive, "Upgrade holds pods"⟩,
  ⟨.upgrading, .running, .membershipHealthy, "Upgrade finished"⟩,
  ⟨.upgrading, .degraded, .replicasDegraded, "Upgrade ended degraded"⟩,
  ⟨.upgrading, .forming, .podsReady, "Upgrade ended while forming"⟩,
  ⟨.upgrading, .splitBrain, .splitDetected, "Upgrade ended split"⟩,
  ⟨.failed, .creating, .resourcesApplied, "Spec corrected"⟩,
  ⟨.failed, .forming, .podsReady, "Spec corrected"⟩,
  ⟨.failed, .running, .membershipHealthy, "Spec corrected"⟩,
  ⟨.failed, .degraded, .replicasDegraded, "Spec corrected"⟩,
  ⟨.failed, .upgrading, .upgradeActive, "Spec corrected"⟩,
  ⟨.failed, .splitBrain, .splitDetected, "Spec corrected"⟩]

/-- The phases that a valid declaration leads to. -/
def workingPhases : List ClusterPhase :=
  [.pending, .creating, .forming, .running, .degraded, .splitBrain, .upgrading]

/-- Every move: between working phases, to failure from any of them, and to deletion from any phase
but itself. -/
def phaseMoves : List PhaseMove :=
  workingMoves ++
  workingPhases.map (PhaseMove.mk · .failed .validationFailed "Spec failed validation") ++
  (workingPhases ++ [ClusterPhase.failed]).map
      (PhaseMove.mk · .deleting .deletionRequested "Deletion requested")

/-- What the table says of a move. A move that is not listed is told of as such and recorded all the
same. -/
inductive MoveCheck
  | unchanged
  | listed (move : PhaseMove)
  | unlisted (source target : ClusterPhase) (event : ClusterEvent)
  deriving DecidableEq, Repr

/-- Checks a move against the table. -/
def checkMove (source target : ClusterPhase) (event : ClusterEvent) : MoveCheck :=
  if source = target then .unchanged
  else
    let fits (m : PhaseMove) : Bool := m.source == source && m.target == target && m.event == event
    match phaseMoves.find? fits with
    | some move => .listed move
    | none => .unlisted source target event

/-- Whether an event moves a cluster out of a phase. -/
def canMove (source : ClusterPhase) (event : ClusterEvent) : Bool :=
  phaseMoves.any fun m => m.source == source && m.event == event

/-- The events that move a cluster out of a phase, in the order of the table. -/
def eventsFrom (source : ClusterPhase) : List ClusterEvent :=
  ((phaseMoves.filter (·.source == source)).map (·.event)).foldl
    (fun seen e => if seen.contains e then seen else seen ++ [e]) []

/-- What a pass observed of a cluster as a whole. -/
structure PhaseObservation where
  readyReplicas : Int32
  desiredReplicas : Int32
  membership : MembershipHealth
  /-- An upgrade holds the pods. -/
  upgradeActive : Bool := false
  validationFailed : Bool := false
  deleting : Bool := false

/-- Whether a cluster has not got past its creation. -/
def ClusterPhase.isCreating : ClusterPhase → Bool
  | pending | creating | failed => true
  | _ => false

/-- The phase of a cluster, and why. The first case that holds counts. The phase before matters only
where servers are missing: it tells a cluster that is being created from one that lost them. -/
def ClusterPhase.next (current : ClusterPhase) (seen : PhaseObservation) :
    ClusterPhase × ClusterEvent :=
  if seen.deleting then (deleting, .deletionRequested)
  else if seen.validationFailed then (failed, .validationFailed)
  else if seen.upgradeActive then (upgrading, .upgradeActive)
  else if seen.membership = .split then (splitBrain, .splitDetected)
  else if seen.readyReplicas < seen.desiredReplicas then
    if current.isCreating then (creating, .resourcesApplied) else (degraded, .replicasDegraded)
  else if seen.membership = .healthy then (running, .membershipHealthy)
  else (forming, .podsReady)

end ClusterOperator
