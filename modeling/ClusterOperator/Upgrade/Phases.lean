import ClusterOperator.Cluster.Phases

/-!
# The phases of an upgrade

An event is chosen from what a pass observes: an abort first, then a server that took too long,
then a closed gate, then progress. The event moves the upgrade only if the table lists the move and
its guard holds.
-/

set_option autoImplicit false

namespace ClusterOperator

/-- What happens to an upgrade. -/
inductive UpgradeEvent
  /-- The gate before the first restart is open. -/
  | preChecksPassed
  /-- Every planned server is upgraded and the last gate is open. -/
  | allServersUpgraded
  /-- A restarted server did not come back in time. -/
  | stepTimedOut
  /-- The cluster split, or the last gate stayed closed for too long. -/
  | healthGateFailed
  | resumed
  | aborted
  deriving DecidableEq, Repr, Inhabited

namespace UpgradeEvent

def all : List UpgradeEvent :=
  [preChecksPassed, allServersUpgraded, stepTimedOut, healthGateFailed, resumed, aborted]

def name : UpgradeEvent → String
  | preChecksPassed => "PreChecksPassed"
  | allServersUpgraded => "AllServersUpgraded"
  | stepTimedOut => "StepTimedOut"
  | healthGateFailed => "HealthGateFailed"
  | resumed => "Resumed"
  | aborted => "Aborted"

def ofJson? : Json → Option UpgradeEvent := Json.asChoice? all name

end UpgradeEvent

/-- What events and guards are decided by. The counts are kept as they are compared, in 32 bits;
everything else has been decided before, so the table can be read without the pods. -/
structure UpgradeContext where
  clusterHealthy : Bool := false
  clusterSplit : Bool := false
  preGateEnabled : Bool := false
  postGateEnabled : Bool := false
  autoPause : Bool := false
  /-- No change of the configuration waits. -/
  configSettled : Bool := false
  totalServers : Int32 := 0
  upgradedServers : Int32 := 0
  inFlight : Int32 := 0
  /-- A restarted server took too long. -/
  stepTimedOut : Bool := false
  /-- The last gate has been closed for too long. -/
  postGateTimedOut : Bool := false
  resumeRequested : Bool := false
  abortRequested : Bool := false

namespace UpgradeContext

/-- Whether every server is upgraded and back. -/
def allServersUpgraded (c : UpgradeContext) : Bool :=
  c.upgradedServers ≥ c.totalServers && c.inFlight == 0

/-- Whether the gate before the first restart is open. -/
def preGatePassed (c : UpgradeContext) : Bool :=
  c.configSettled && (!c.preGateEnabled || c.clusterHealthy)

/-- Whether the last gate is open. -/
def postGatePassed (c : UpgradeContext) : Bool := !c.postGateEnabled || c.clusterHealthy

end UpgradeContext

/-- A row of the table: a move, the event that it takes, and the words in which it is told. The
guard is not part of the row but follows from it. -/
structure UpgradeMove where
  source : UpgradePhase
  target : UpgradePhase
  event : UpgradeEvent
  description : String
  deriving DecidableEq, Repr

/-- Every move of an upgrade. Two rows that differ only in their target, as those after a step timed
out, have guards that exclude each other; a phase that is over has no row. -/
def upgradeMoves : List UpgradeMove := [
  ⟨.pending, .inProgress, .preChecksPassed, "Pre-upgrade gate passed, begin restarting servers"⟩,
  ⟨.pending, .failed, .aborted, "Upgrade aborted before it started"⟩,
  ⟨.inProgress, .completed, .allServersUpgraded, "All servers upgraded and cluster healthy"⟩,
  ⟨.inProgress, .paused, .stepTimedOut, "Server did not rejoin in time, pausing"⟩,
  ⟨.inProgress, .paused, .healthGateFailed, "Health gate failed, pausing"⟩,
  ⟨.inProgress, .failed, .stepTimedOut, "Server did not rejoin in time"⟩,
  ⟨.inProgress, .failed, .healthGateFailed, "Health gate failed"⟩,
  ⟨.inProgress, .failed, .aborted, "Upgrade aborted"⟩,
  ⟨.paused, .inProgress, .resumed, "Upgrade resumed"⟩,
  ⟨.paused, .failed, .aborted, "Paused upgrade aborted"⟩]

namespace UpgradeMove

def allowed (m : UpgradeMove) (c : UpgradeContext) : Bool :=
  match m.source, m.target, m.event with
  | .pending, .inProgress, _ => c.preGatePassed
  | .inProgress, .completed, _ => c.allServersUpgraded && c.postGatePassed
  | .inProgress, .paused, _ => c.autoPause
  | .inProgress, .failed, .stepTimedOut | .inProgress, .failed, .healthGateFailed => !c.autoPause
  | _, _, _ => true

end UpgradeMove

namespace UpgradePhase

/-- The move that an event makes from a phase, if the table lists one whose guard holds. -/
def move? (source : UpgradePhase) (event : UpgradeEvent) (c : UpgradeContext) :
    Option UpgradeMove :=
  (upgradeMoves.filter fun m => m.source == source && m.event == event).find? (·.allowed c)

/-- Whether the table lists a move between two phases, whatever its guard. -/
def canMoveTo (source target : UpgradePhase) : Bool :=
  source == target || upgradeMoves.any fun m => m.source == source && m.target == target

/-- The phases that the table lists moves to, in its order. -/
def targets (source : UpgradePhase) : List UpgradePhase :=
  ((upgradeMoves.filter (·.source == source)).map (·.target)).foldl
    (fun seen p => if seen.contains p then seen else seen ++ [p]) []

/-- The event that a pass observes in a phase. There is one at most, so where several things are the
case the order in which they are asked for decides. -/
def event? (phase : UpgradePhase) (c : UpgradeContext) : Option UpgradeEvent :=
  if phase.isTerminal then none
  else if c.abortRequested then some .aborted
  else
    match phase with
    | .pending => if c.preGatePassed then some .preChecksPassed else none
    | .inProgress =>
      if c.stepTimedOut then some .stepTimedOut
      -- A membership that is merely not healthy holds restarts back but fails nothing at once:
      -- every restart makes it so for a while.
      else if c.clusterSplit || c.postGateTimedOut then some .healthGateFailed
      else if c.allServersUpgraded && c.postGatePassed then some .allServersUpgraded
      else none
    | .paused => if c.resumeRequested then some .resumed else none
    | _ => none

end UpgradePhase

end ClusterOperator
