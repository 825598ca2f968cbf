import ClusterOperator.Admin.Probe
import ClusterOperator.Membership.Classes
import ClusterOperator.Upgrade.Plan

/-!
# Servers in memory

Servers that see each other in groups, unless a view is given for one of them, and that may refuse
to answer or never answer. At most so many are asked at a time, and one that never answers holds its
place until its time is up.
-/

set_option autoImplicit false

namespace ClusterOperator.Simulation

/-- What is wrong with a server. -/
inductive Trouble
  /-- It refuses to answer. -/
  | refuses
  /-- It never answers. -/
  | hangs
  deriving DecidableEq, Repr

/-- What servers answer when they are asked, and what they were asked so far. The groups stand for a
network that is parted; a view that is given for one server goes before its group, so that views can
differ within one. -/
structure Servers where
  groups : List (List String) := []
  /-- Views that are given. -/
  views : SortedMap (List String) := .empty
  hosted : SortedMap (List HostedDatabase) := .empty
  troubles : SortedMap Trouble := .empty
  /-- What was asked, in words. -/
  queries : List String := []
  /-- The credentials that were last used. -/
  credentials : Option Credentials := none

namespace Servers

/-- The servers that a server sees. -/
def viewOf (s : Servers) (pod : String) : List String :=
  match s.views.find? pod with
  | some view => view
  | none => (s.groups.find? (·.contains pod)).getD [pod]

def hostedBy (s : Servers) (pod : String) : List HostedDatabase := (s.hosted.find? pod).getD []

def outcome {α : Type} (s : Servers) (value : String → α) (pod : String) : ProbeOutcome α :=
  match s.troubles.find? pod with
  | some .refuses => .failed (.adminQuery pod "connection refused")
  | some .hangs => .timedOut
  | none => .answered (value pod)

def asked (s : Servers) (subject : String) (targets : List ProbeTarget) : Servers :=
  { s with
    queries := s.queries ++ targets.map fun t => subject ++ " " ++ t.pod ++ " " ++ t.host
    credentials := match targets.getLast? with
      | some target => target.credentials
      | none => s.credentials }

/-- How many of the servers asked never answer. -/
def hanging (s : Servers) (targets : List ProbeTarget) : Nat :=
  targets.countP fun t => s.troubles.find? t.pod == some .hangs

/-- The seconds that asking takes: servers that never answer hold their places together, as many as
there are places, until their time is up. -/
def secondsFor (s : Servers) (targets : List ProbeTarget) (limits : ProbeLimits) : Nat :=
  let places := max limits.concurrency 1
  (s.hanging targets + places - 1) / places * limits.timeout

end Servers

end ClusterOperator.Simulation
