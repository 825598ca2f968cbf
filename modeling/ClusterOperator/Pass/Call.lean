import ClusterOperator.Admin.Probe
import ClusterOperator.Cluster.Ref
import ClusterOperator.Configuration.Rendering
import ClusterOperator.Event
import ClusterOperator.Membership.Classes
import ClusterOperator.Metrics
import ClusterOperator.Program
import ClusterOperator.Upgrade.Plan

/-!
# What a pass asks of the world

A pass reads and writes the record of its cluster, applies what it derives from it, lists and
deletes pods, asks servers, and tells the time. Every call that the platform answers may fail, and a
failure ends the pass; events and measurements never do.
-/

set_option autoImplicit false

namespace ClusterOperator

/-- A call of a pass. Everything that a pass learns or changes goes through one of these, so what a
pass does is known from the calls it makes and the answers it gets. -/
inductive Call
  /-- Reads the cluster, if it exists. -/
  | getCluster (ref : ClusterRef)
  /-- Writes everything of a cluster but its status, unless the cluster changed since it was
  read. -/
  | replaceCluster (cluster : Cluster)
  /-- Writes the status of a cluster, unless the cluster changed since it was read. -/
  | replaceStatus (cluster : Cluster)
  /-- Applies the resources of a manifest. -/
  | applyManifest (cluster : Cluster) (manifest : Manifest)
  /-- Lists the server pods, in the order of their ordinals. -/
  | listServerPods (cluster : Cluster)
  /-- Deletes a pod; that it is gone already is no failure. -/
  | deletePod («namespace» name : String)
  /-- Reads a key of a secret, if both exist. -/
  | readSecret («namespace» name key : String)
  | publishEvent (cluster : Cluster) (event : Event)
  /-- Asks servers whom they see. -/
  | askViews (targets : List ProbeTarget) (limits : ProbeLimits)
  /-- Asks servers what they host. -/
  | askDatabases (targets : List ProbeTarget) (limits : ProbeLimits)
  /-- Waits. -/
  | pause (millis : Nat)
  /-- Tells the time. -/
  | now
  /-- Tells the seconds since the pass began. -/
  | stopwatch
  /-- Runs a cleanup hook, by its place. -/
  | runHook (index : Nat) (cluster : Cluster)
  | measure (ref : ClusterRef) (measurement : Measurement)
  /-- Notes when a pass last succeeded, in seconds since 1970. -/
  | markReconciled (second : Nat)

/-- What a call is answered with. -/
@[reducible] def Call.Answer : Call → Type
  | getCluster _ => Except Failure (Option Cluster)
  | replaceCluster _ | replaceStatus _ => Except Failure Cluster
  | applyManifest _ _ | deletePod _ _ | runHook _ _ => Except Failure Unit
  | listServerPods _ => Except Failure (List ServerPod)
  | readSecret _ _ _ => Except Failure (Option String)
  | askViews _ _ => ProbeOutcomes (List String)
  | askDatabases _ _ => ProbeOutcomes (List HostedDatabase)
  | now => Instant
  | stopwatch => Float
  | publishEvent _ _ | pause _ | measure _ _ | markReconciled _ => Unit

/-- A part of a pass: it asks, and ends with a result or a failure. A failure is an end like any
other and undoes nothing: what was done before it stays done. -/
abbrev Pass (α : Type) := ExceptT Failure (Program Call Call.Answer) α

namespace Pass

/-- A call that cannot fail. -/
def call (c : Call) : Pass c.Answer := ExceptT.lift (Program.query c)

/-- A call that may fail; its failure ends the pass. -/
def attempt {α : Type} (p : Program Call Call.Answer (Except Failure α)) : Pass α := ExceptT.mk p

def getCluster (ref : ClusterRef) : Pass (Option Cluster) :=
  attempt (Program.query (Call.getCluster ref))

def applyManifest (cluster : Cluster) (manifest : Manifest) : Pass Unit :=
  attempt (Program.query (Call.applyManifest cluster manifest))

/-- Lists the server pods, in the order of their ordinals. -/
def listServerPods (cluster : Cluster) : Pass (List ServerPod) :=
  attempt (Program.query (Call.listServerPods cluster))

def deletePod («namespace» name : String) : Pass Unit :=
  attempt (Program.query (Call.deletePod «namespace» name))

def readSecret («namespace» name key : String) : Pass (Option String) :=
  attempt (Program.query (Call.readSecret «namespace» name key))

def runHook (index : Nat) (cluster : Cluster) : Pass Unit :=
  attempt (Program.query (Call.runHook index cluster))

def publish (cluster : Cluster) (event : Event) : Pass Unit := call (.publishEvent cluster event)

def measure (ref : ClusterRef) (measurement : Measurement) : Pass Unit :=
  call (.measure ref measurement)

end Pass

end ClusterOperator
