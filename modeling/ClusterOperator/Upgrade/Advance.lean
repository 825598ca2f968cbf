import ClusterOperator.Event
import ClusterOperator.Membership.Classification
import ClusterOperator.Upgrade.Phases
import ClusterOperator.Upgrade.Plan
import ClusterOperator.Upgrade.Request

/-!
# One step of an upgrade

Each pass takes the record one step forward from what the pods run at that moment; no progress is
remembered. A server is upgraded when its pod runs the target image, serves, and is in the majority
of the membership. It is unavailable when it is not upgraded and was restarted, does not serve, or
runs the target image without having come back. Servers are restarted only in a pass that finds the
upgrade running and leaves it running, with a healthy membership and the target's manifest applied,
and only as many as may be down at once.
-/

set_option autoImplicit false

namespace ClusterOperator

/-- What a step is decided by. All of it is observed in the pass that takes the step: an earlier
pass contributes nothing but the record, so an operator that restarts in the middle of an upgrade
goes on where it was. -/
structure UpgradeObservation where
  clusterName : String
  strategy : UpgradeStrategy
  image : ImageSpec
  topology : Topology
  pods : List ServerPod
  classification : Classification
  /-- The hosted databases; looked at only when the order is fixed. -/
  hosted : HostedDatabases := .empty
  tokens : UpgradeTokens := {}
  /-- No change of the configuration waits. -/
  configSettled : Bool := true
  /-- The manifest is applied in this pass. -/
  manifestApplied : Bool := true
  now : Instant

/-- What a step finds of a planned server. A server can be neither upgraded nor unavailable, which
is one whose turn has not come; it is never both. -/
structure ServerState where
  planned : PlannedServer
  pod : String
  upgraded : Bool
  unavailable : Bool
  deriving DecidableEq, Repr

/-- What a step does: the record it leaves, the pods it deletes and what it tells. The move is kept
beside the record because what a pass does around the step depends on whether the phase changed in
it, which the record alone does not show. -/
structure UpgradeStep where
  record : UpgradeRecord
  /-- The pods to delete. -/
  restart : List String := []
  events : List Event := []
  move : Option UpgradeMove := none
  /-- Why the gate before the first restart is closed. -/
  blocked : Option String := none
  deriving DecidableEq, Repr

def UpgradeStep.completes (s : UpgradeStep) : Bool := s.move.any (·.target == .completed)

namespace UpgradeObservation

def stepTimeout (o : UpgradeObservation) : Nat := o.strategy.stepTimeoutSeconds.toNat

def health (o : UpgradeObservation) : MembershipHealth := o.classification.health

/-- The state of a planned server, given the servers in flight. That a pod runs the target and
serves is not enough: it counts only when the membership has taken it back. -/
def serverState (o : UpgradeObservation) (targetImage : String) (inFlight : List InFlightServer)
    (planned : PlannedServer) : ServerState :=
  let name := podName o.clusterName planned.ordinal
  let pod := o.pods.find? (·.ordinal == planned.ordinal)
  let onTarget := pod.any (·.image == some targetImage)
  let serving := pod.any (·.isServing)
  -- A pod that the pass did not list has no image and does not serve, so its server is unavailable
  -- and counts against the budget.
  let upgraded := onTarget && serving && o.classification.inMajority name
  let flying := inFlight.any (·.ordinal == planned.ordinal)
  { planned, pod := name, upgraded, unavailable := !upgraded && (flying || !serving || onTarget) }

end UpgradeObservation

/-! ## Progress -/

def classProgress (states : List ServerState) (serverClass : ServerClass) : ClassProgress :=
  let members := states.filter (·.planned.serverClass == serverClass)
  let total := countOf members
  let upgraded := countOf (members.filter (·.upgraded))
  let inProgress := countOf (members.filter (·.unavailable))
  { total, upgraded, inProgress, pending := total - upgraded - inProgress }

def upgradeProgress (states : List ServerState) : UpgradeProgress :=
  { primaries := classProgress states .primary, secondaries := classProgress states .secondary }

/-! ## Servers in flight -/

/-- Adds a server to those in flight unless it is among them. -/
def addInFlight (now : String) (inFlight : List InFlightServer) (s : ServerState) :
    List InFlightServer :=
  if inFlight.any (·.ordinal == s.planned.ordinal) then inFlight
  else inFlight ++ [⟨s.planned.ordinal, now⟩]

/-- The servers in flight: those that were and are not upgraded yet, then those found
unavailable. -/
def trackInFlight (now : String) (states : List ServerState) (inFlight : List InFlightServer) :
    List InFlightServer :=
  -- A server that is not planned is dropped with the upgraded ones: it could not come back.
  let kept := inFlight.filter fun f =>
    states.any fun s => s.planned.ordinal == f.ordinal && !s.upgraded
  (states.filter (·.unavailable)).foldl (addInFlight now) kept

/-- Whether a time in the record lies at least so many seconds back. -/
def hasWaited (since : String) (now : Instant) (seconds : Nat) : Bool :=
  match Instant.parse? since with
  | some t => Instant.elapsed t now ≥ seconds
  | none => false

/-! ## Moves -/

/-- The words of a step or a gate that failed. -/
def failureNote (o : UpgradeObservation) (event : UpgradeEvent) (record : UpgradeRecord) : String :=
  if event = .stepTimedOut then
    ",".intercalate (record.inFlight.map fun f => podName o.clusterName f.ordinal) ++
      " did not rejoin within " ++ toString o.stepTimeout ++ "s"
  else "health gate failed: membership is " ++ o.health.name

/-- The record after a move, and what is told of it. -/
def applyMove (o : UpgradeObservation) (plan : List PlannedServer) (move : UpgradeMove)
    (record : UpgradeRecord) : UpgradeRecord × Event :=
  let now := o.now.toText
  let moved := { record with phase := move.target }
  match move.event with
  | .preChecksPassed =>
    ({ moved with plan, startTime := some now, lastError := none },
      .normal "UpgradeStarted" "Upgrade"
        ("Upgrading " ++ toString plan.length ++ " servers to " ++ record.targetVersion))
  | .allServersUpgraded =>
    ({ moved with
        completionTime := some now, inFlight := [], postCheckSince := none, lastError := none },
      .normal "UpgradeCompleted" "Upgrade" ("All servers run " ++ record.targetVersion))
  | .stepTimedOut | .healthGateFailed =>
    -- The resume token is taken as handled here, so that a token set before the failure does not
    -- resume the upgrade at once.
    let note := failureNote o move.event record
    ({ moved with
        lastError := some note
        handledResumeToken := o.tokens.resume
        completionTime := if move.target = .failed then some now else record.completionTime },
      .warn (if move.target = .paused then "UpgradePaused" else "UpgradeFailed") "Upgrade" note)
  | .resumed =>
    ({ moved with
        handledResumeToken := o.tokens.resume
        lastError := none
        -- The servers in flight get their full time again, or the first pass would time out.
        inFlight := record.inFlight.map fun f => { f with startedAt := now } },
      .normal "UpgradeResumed" "Upgrade" ("Resumed upgrade to " ++ record.targetVersion))
  | .aborted =>
    ({ moved with
        handledAbortToken := o.tokens.abort
        lastError := some "aborted by request"
        completionTime := some now
        inFlight := [] },
      .warn "UpgradeAborted" "Upgrade" ("Upgrade to " ++ record.targetVersion ++ " aborted"))

/-- Why an upgrade does not start. -/
def blockedNote (o : UpgradeObservation) : String :=
  if o.configSettled then "pre-upgrade health check failed: membership is " ++ o.health.name
  else "waiting for a pending configuration change to be applied"

/-! ## Restarts -/

/-- Marks up to a number of servers that are neither upgraded nor unavailable as unavailable, and
lists them. The order of the plan is the order of the choice, and the marks let the progress of the
same pass count the servers it restarts. -/
def chooseRestarts : Nat → List ServerState → List ServerState × List ServerState
  | _, [] => ([], [])
  | 0, states => (states, [])
  | budget + 1, s :: rest =>
    if !s.upgraded && !s.unavailable then
      let (states, chosen) := chooseRestarts budget rest
      ({ s with unavailable := true } :: states, s :: chosen)
    else
      let (states, chosen) := chooseRestarts (budget + 1) rest
      (s :: states, chosen)

/-- The number of servers that may be restarted now. Servers that are down for another reason use up
the budget too, so an outage slows the upgrade instead of adding to it. -/
def restartBudget (strategy : UpgradeStrategy) (states : List ServerState) : Nat :=
  let allowed := if strategy.maxUnavailable < 0 then 1 else strategy.maxUnavailable.toInt.toNat
  allowed - states.countP (·.unavailable)

/-- Whether servers may be restarted in this pass. The phase is the one before the step: the pass
that starts or resumes an upgrade restarts nothing, and neither does the one that ends it. -/
def mayRestart (o : UpgradeObservation) (phase : UpgradePhase) (move : Option UpgradeMove) : Bool :=
  phase == .inProgress && move.isNone && o.manifestApplied && o.health == .healthy

/-! ## The step -/

namespace UpgradeRecord

/-- The order of the upgrade: the one that was fixed, or the one that would be now. -/
def planUsed (record : UpgradeRecord) (o : UpgradeObservation) : List PlannedServer :=
  if record.plan.isEmpty then buildPlan o.clusterName o.topology o.hosted o.strategy.order
  else record.plan

def serverStates (record : UpgradeRecord) (o : UpgradeObservation) : List ServerState :=
  (record.planUsed o).map
    (o.serverState (o.image.referenceFor record.targetVersion) record.inFlight)

/-- The record with the servers in flight and the waiting time of the last gate as they are found.
The time starts in the first pass that finds only this gate closed, and is forgotten in any pass
that does not. -/
def observed (record : UpgradeRecord) (o : UpgradeObservation) : UpgradeRecord :=
  let states := record.serverStates o
  let now := o.now.toText
  let inFlight :=
    if record.phase.holdsPods then trackInFlight now states record.inFlight else record.inFlight
  let allUpgraded := states.countP (·.upgraded) == states.length && inFlight.isEmpty
  let gateOpen := !o.strategy.postUpgradeHealthCheck || o.health == .healthy
  let waiting := record.phase == .inProgress && allUpgraded && !gateOpen
  { record with
    inFlight
    postCheckSince := if waiting then some (record.postCheckSince.getD now) else none }

/-- What events and guards are decided by, given the record as it is found. -/
def context (record : UpgradeRecord) (o : UpgradeObservation) (states : List ServerState) :
    UpgradeContext :=
  { clusterHealthy := o.health == .healthy
    clusterSplit := o.health == .split
    preGateEnabled := o.strategy.preUpgradeHealthCheck
    postGateEnabled := o.strategy.postUpgradeHealthCheck
    autoPause := o.strategy.autoPause
    configSettled := o.configSettled
    totalServers := countOf states
    upgradedServers := countOf (states.filter (·.upgraded))
    inFlight := countOf record.inFlight
    stepTimedOut := record.phase == .inProgress &&
      record.inFlight.any fun f => hasWaited f.startedAt o.now o.stepTimeout
    postGateTimedOut := record.postCheckSince.any fun t => hasWaited t o.now o.stepTimeout
    resumeRequested := isNewToken o.tokens.resume record.handledResumeToken
    abortRequested := isNewToken o.tokens.abort record.handledAbortToken }

/-- Takes a record that is not over one step forward. The move is looked for first, on the record as
it is found; servers are restarted only where there is none. -/
def step (record : UpgradeRecord) (o : UpgradeObservation) : UpgradeStep :=
  let plan := record.planUsed o
  let states := record.serverStates o
  let seen := record.observed o
  let c := seen.context o states
  let move := (seen.phase.event? c).bind fun event => seen.phase.move? event c
  let moved : UpgradeRecord × List Event × Option String :=
    match move with
    | some m =>
      let (record, event) := applyMove o plan m seen
      (record, [event], none)
    | none =>
      -- The reason is told when it is new, not in every pass that waits.
      if seen.phase = .pending then
        let note := blockedNote o
        ({ seen with lastError := some note },
          if seen.lastError = some note then [] else [.warn "UpgradeBlocked" "Upgrade" note],
          some note)
      else (seen, [], none)
  let (finalStates, chosen) :=
    if mayRestart o record.phase move then
      chooseRestarts (restartBudget o.strategy states) states
    else (states, [])
  let now := o.now.toText
  { record := { moved.1 with
      -- What is restarted now is in flight from now on. The progress counts it as well, so the
      -- status written after this pass agrees with the pods it deleted.
      inFlight := moved.1.inFlight ++ chosen.map fun s => ⟨s.planned.ordinal, now⟩
      progress := upgradeProgress finalStates }
    restart := chosen.map (·.pod)
    events := moved.2.1 ++ chosen.map fun s =>
      .normal "UpgradeStepStarted" "Upgrade"
        ("Restarting " ++ s.pod ++ " on " ++ record.targetVersion)
    move
    blocked := moved.2.2 }

/-- Takes a record one step forward; a record that is over stays as it is. -/
def advance (record : UpgradeRecord) (o : UpgradeObservation) : UpgradeStep :=
  if record.phase.isTerminal then { record } else record.step o

end UpgradeRecord

end ClusterOperator
