import ClusterOperator.Cluster.Phases
import ClusterOperator.Cluster.Spec

/-!
# What the operator remembers

The status of a cluster is the operator's only memory: it is written at the end of a pass and read
at the start of the next, whichever process runs it. Times are kept as texts, as they were written.
-/

set_option autoImplicit false

namespace ClusterOperator

/-- The number of a server within its cluster, counted from zero. -/
abbrev Ordinal := Int32

/-- How many server pods are ready, of how many declared. -/
structure ReplicaCount where
  ready : Int32 := 0
  total : Int32 := 0
  deriving DecidableEq, Repr, Inhabited

/-- The effective mode constraint of a server. -/
structure ServerStatus where
  ordinal : Ordinal
  mode : Mode
  deriving DecidableEq, Repr

/-- Where clients connect. -/
structure Endpoints where
  bolt : String
  http : String
  deriving DecidableEq, Repr

/-- What is known of configuration drift. A hash is pending while it has been seen but has not stood
for the whole window; going back to the applied one clears it. -/
structure ConfigurationRecord where
  lastAppliedHash : Option String := none
  pendingHash : Option String := none
  /-- When the pending hash was first seen. -/
  pendingSince : Option String := none
  lastAppliedAt : Option String := none
  deriving DecidableEq, Repr, Inhabited

/-- What the last detection pass found. The digest and its time are what lets the grace period run
over several passes, the time of the last repair what lets the cooldown. -/
structure MembershipRecord where
  health : MembershipHealth := .unformed
  /-- The digest of what was observed. -/
  fingerprint : Option String := none
  /-- Since when the digest has been the same. -/
  observedSince : Option String := none
  lastRepairTime : Option String := none
  lastRepairedPods : List String := []
  deriving DecidableEq, Repr, Inhabited

/-- The progress of an upgrade within one class. -/
structure ClassProgress where
  total : Int32 := 0
  upgraded : Int32 := 0
  inProgress : Int32 := 0
  pending : Int32 := 0
  deriving DecidableEq, Repr, Inhabited

/-- The progress of an upgrade. -/
structure UpgradeProgress where
  primaries : ClassProgress := {}
  secondaries : ClassProgress := {}
  deriving DecidableEq, Repr, Inhabited

/-- A server in the order of an upgrade, with the class it had when the order was fixed. A server
that changes its role during the upgrade keeps its place. -/
structure PlannedServer where
  ordinal : Ordinal
  serverClass : ServerClass
  deriving DecidableEq, Repr

/-- A server that was restarted and has not come back yet. Its time decides when the step has taken
too long. -/
structure InFlightServer where
  ordinal : Ordinal
  startedAt : String
  deriving DecidableEq, Repr

/-- The record of a rolling upgrade. It stays when the upgrade is over, because it tells which
version was the aim and which requests of the user have been handled. -/
structure UpgradeRecord where
  phase : UpgradePhase := .pending
  previousVersion : Option String := none
  targetVersion : String
  progress : UpgradeProgress := {}
  /-- The order of the servers, fixed when the upgrade starts. -/
  plan : List PlannedServer := []
  inFlight : List InFlightServer := []
  lastError : Option String := none
  startTime : Option String := none
  completionTime : Option String := none
  /-- Since when every server is upgraded and the last gate is waited for. -/
  postCheckSince : Option String := none
  handledResumeToken : Option String := none
  handledAbortToken : Option String := none
  deriving DecidableEq, Repr

/-- An observation of one aspect of a cluster. -/
structure Condition where
  type : String
  status : String
  reason : String
  message : String
  lastTransitionTime : String
  observedGeneration : Option Int64
  deriving DecidableEq, Repr

/-- Everything that a pass leaves for the next one. A pass that comes to the same status as it found
writes nothing. -/
structure ClusterStatus where
  phase : ClusterPhase := .pending
  replicas : ReplicaCount := {}
  /-- The version that every server runs when no upgrade is active. -/
  version : Option String := none
  upgrade : Option UpgradeRecord := none
  configuration : ConfigurationRecord := {}
  membership : MembershipRecord := {}
  servers : List ServerStatus := []
  observedGeneration : Option Int64 := none
  conditions : List Condition := []
  endpoints : Option Endpoints := none
  deriving DecidableEq, Repr, Inhabited

/-! ## The document form -/

open Json

def Int64.toJson (n : Int64) : Json := .int n.toInt

namespace ReplicaCount

def toJson (r : ReplicaCount) : Json :=
  .obj [("ready", Int32.toJson r.ready), ("total", Int32.toJson r.total)]

def ofJson? : Json → Option ReplicaCount := asRecord? do
  return { ready := ← required "ready" asInt32?, total := ← required "total" asInt32? }

end ReplicaCount

namespace ServerStatus

def toJson (s : ServerStatus) : Json :=
  .obj [("ordinal", Int32.toJson s.ordinal), ("modeConstraint", s.mode.toJson)]

def ofJson? : Json → Option ServerStatus := asRecord? do
  return { ordinal := ← required "ordinal" asInt32?
           mode := ← required "modeConstraint" Mode.ofJson? }

end ServerStatus

namespace Endpoints

def toJson (e : Endpoints) : Json := .obj [("bolt", .str e.bolt), ("http", .str e.http)]

def ofJson? : Json → Option Endpoints := asRecord? do
  return { bolt := ← required "bolt" asString?, http := ← required "http" asString? }

end Endpoints

namespace ConfigurationRecord

def toJson (c : ConfigurationRecord) : Json :=
  ofFields [("lastAppliedHash", c.lastAppliedHash.map .str),
    ("pendingHash", c.pendingHash.map .str),
    ("pendingSince", c.pendingSince.map .str),
    ("lastAppliedAt", c.lastAppliedAt.map .str)]

def ofJson? : Json → Option ConfigurationRecord := asRecord? do
  return { lastAppliedHash := ← optional "lastAppliedHash" asString?
           pendingHash := ← optional "pendingHash" asString?
           pendingSince := ← optional "pendingSince" asString?
           lastAppliedAt := ← optional "lastAppliedAt" asString? }

end ConfigurationRecord

namespace MembershipRecord

def toJson (m : MembershipRecord) : Json :=
  ofFields [("health", some (.str m.health.name)),
    ("fingerprint", m.fingerprint.map .str),
    ("observedSince", m.observedSince.map .str),
    ("lastRepairTime", m.lastRepairTime.map .str),
    ("lastRepairedPods", listField .str m.lastRepairedPods)]

def ofJson? : Json → Option MembershipRecord := asRecord? do
  return { health := ← defaulted "health" .unformed MembershipHealth.ofJson?
           fingerprint := ← optional "fingerprint" asString?
           observedSince := ← optional "observedSince" asString?
           lastRepairTime := ← optional "lastRepairTime" asString?
           lastRepairedPods := ← defaulted "lastRepairedPods" [] (asList? asString?) }

end MembershipRecord

namespace ClassProgress

def toJson (p : ClassProgress) : Json :=
  .obj [("total", Int32.toJson p.total), ("upgraded", Int32.toJson p.upgraded),
    ("inProgress", Int32.toJson p.inProgress), ("pending", Int32.toJson p.pending)]

def ofJson? : Json → Option ClassProgress := asRecord? do
  return { total := ← required "total" asInt32?
           upgraded := ← required "upgraded" asInt32?
           inProgress := ← required "inProgress" asInt32?
           pending := ← required "pending" asInt32? }

end ClassProgress

namespace UpgradeProgress

def toJson (p : UpgradeProgress) : Json :=
  .obj [("primaries", p.primaries.toJson), ("secondaries", p.secondaries.toJson)]

def ofJson? : Json → Option UpgradeProgress := asRecord? do
  return { primaries := ← required "primaries" ClassProgress.ofJson?
           secondaries := ← required "secondaries" ClassProgress.ofJson? }

end UpgradeProgress

namespace PlannedServer

def toJson (p : PlannedServer) : Json :=
  .obj [("ordinal", Int32.toJson p.ordinal), ("class", .str p.serverClass.name)]

def ofJson? : Json → Option PlannedServer := asRecord? do
  return { ordinal := ← required "ordinal" asInt32?
           serverClass := ← required "class" ServerClass.ofJson? }

end PlannedServer

namespace InFlightServer

def toJson (s : InFlightServer) : Json :=
  .obj [("ordinal", Int32.toJson s.ordinal), ("startedAt", .str s.startedAt)]

def ofJson? : Json → Option InFlightServer := asRecord? do
  return { ordinal := ← required "ordinal" asInt32?
           startedAt := ← required "startedAt" asString? }

end InFlightServer

namespace UpgradeRecord

def toJson (u : UpgradeRecord) : Json :=
  ofFields [("phase", some (.str u.phase.name)),
    ("previousVersion", u.previousVersion.map .str),
    ("targetVersion", some (.str u.targetVersion)),
    ("progress", some u.progress.toJson),
    ("plan", listField PlannedServer.toJson u.plan),
    ("inFlight", listField InFlightServer.toJson u.inFlight),
    ("lastError", u.lastError.map .str),
    ("startTime", u.startTime.map .str),
    ("completionTime", u.completionTime.map .str),
    ("postCheckSince", u.postCheckSince.map .str),
    ("handledResumeToken", u.handledResumeToken.map .str),
    ("handledAbortToken", u.handledAbortToken.map .str)]

def ofJson? : Json → Option UpgradeRecord := asRecord? do
  return { phase := ← defaulted "phase" .pending UpgradePhase.ofJson?
           previousVersion := ← optional "previousVersion" asString?
           targetVersion := ← required "targetVersion" asString?
           progress := ← defaulted "progress" {} UpgradeProgress.ofJson?
           plan := ← defaulted "plan" [] (asList? PlannedServer.ofJson?)
           inFlight := ← defaulted "inFlight" [] (asList? InFlightServer.ofJson?)
           lastError := ← optional "lastError" asString?
           startTime := ← optional "startTime" asString?
           completionTime := ← optional "completionTime" asString?
           postCheckSince := ← optional "postCheckSince" asString?
           handledResumeToken := ← optional "handledResumeToken" asString?
           handledAbortToken := ← optional "handledAbortToken" asString? }

end UpgradeRecord

namespace Condition

def isTrue (c : Condition) : Bool := c.status == "True"

def toJson (c : Condition) : Json :=
  ofFields [("type", some (.str c.type)), ("status", some (.str c.status)),
    ("reason", some (.str c.reason)), ("message", some (.str c.message)),
    ("lastTransitionTime", some (.str c.lastTransitionTime)),
    ("observedGeneration", c.observedGeneration.map Int64.toJson)]

def ofJson? : Json → Option Condition := asRecord? do
  return { type := ← required "type" asString?
           status := ← required "status" asString?
           reason := ← required "reason" asString?
           message := ← required "message" asString?
           lastTransitionTime := ← required "lastTransitionTime" asString?
           observedGeneration := ← nullable "observedGeneration" asInt64? }

end Condition

namespace ClusterStatus

def toJson (s : ClusterStatus) : Json :=
  ofFields [("phase", some (.str s.phase.name)),
    ("replicas", some s.replicas.toJson),
    ("version", s.version.map .str),
    ("upgradeStatus", s.upgrade.map UpgradeRecord.toJson),
    ("configuration", some s.configuration.toJson),
    ("membership", some s.membership.toJson),
    ("servers", listField ServerStatus.toJson s.servers),
    ("observedGeneration", s.observedGeneration.map Int64.toJson),
    ("conditions", some (.ofList Condition.toJson s.conditions)),
    ("endpoints", s.endpoints.map Endpoints.toJson)]

def ofJson? : Json → Option ClusterStatus := asRecord? do
  return { phase := ← defaulted "phase" .pending ClusterPhase.ofJson?
           replicas := ← defaulted "replicas" {} ReplicaCount.ofJson?
           version := ← optional "version" asString?
           upgrade := ← optional "upgradeStatus" UpgradeRecord.ofJson?
           configuration := ← defaulted "configuration" {} ConfigurationRecord.ofJson?
           membership := ← defaulted "membership" {} MembershipRecord.ofJson?
           servers := ← defaulted "servers" [] (asList? ServerStatus.ofJson?)
           observedGeneration := ← optional "observedGeneration" asInt64?
           conditions := ← defaulted "conditions" [] (asList? Condition.ofJson?)
           endpoints := ← optional "endpoints" Endpoints.ofJson? }

end ClusterStatus

end ClusterOperator
