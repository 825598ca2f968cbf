import ClusterOperator.Pod

/-!
# Topology

A valid declaration fixes how many servers there are, which roles each may host, and whether they
form a cluster. A cluster forms once enough servers that may host primaries have found each other;
that number, the quorum, is a majority of the servers where the roles allow it.
-/

set_option autoImplicit false

namespace ClusterOperator

/-- How the servers are deployed. A single server is a case of its own, with no quorum and nobody to
agree with, so no rule for clusters can be applied to it. -/
inductive Deployment
  /-- Two or more servers that form a cluster. -/
  | cluster (servers quorum : Int32)
  /-- A single server. -/
  | standalone
  deriving DecidableEq, Repr

def Deployment.servers : Deployment → Int32
  | cluster servers _ => servers
  | standalone => 1

/-- The servers needed for a cluster to form: a majority, as far as servers may host primaries, and
at least one. -/
def formationQuorum (servers eligible : Int32) : Int32 :=
  max (min (servers / 2 + 1) eligible) 1

/-- A validated topology. The constraints stand by ordinal, one for each server of the
deployment. -/
structure Topology where
  deployment : Deployment
  /-- The effective mode constraint of every ordinal. -/
  constraints : List Mode
  deriving DecidableEq, Repr

/-- The length of a list, as large as it can be counted. -/
def countOf {α : Type} (l : List α) : Int32 := Int32.ofNat (min l.length 2147483647)

namespace Topology

def servers (t : Topology) : Int32 := t.deployment.servers

/-- The constraint of an ordinal; servers outside the topology are not constrained. -/
def constraintOf (t : Topology) (ordinal : Ordinal) : Mode :=
  if ordinal < 0 then .unrestricted else t.constraints.getD ordinal.toInt.toNat .unrestricted

def serverStatuses (t : Topology) : List ServerStatus :=
  t.constraints.zipIdx.map fun (mode, i) => ⟨Int32.ofNat i, mode⟩

end Topology

/-- The deployment that a list of effective constraints asks for. -/
def Deployment.ofConstraints (constraints : List Mode) : Deployment :=
  if countOf constraints ≤ 1 then .standalone
  else
    .cluster (countOf constraints)
      (formationQuorum (countOf constraints) (countOf (constraints.filter Mode.allowsPrimary)))

/-! ## Role hints -/

/-- The effective constraint of every server: the first hint for it, else the constraint of the
cluster. -/
def effectiveConstraints (servers : Int32) (default : Mode) (hints : List (Int32 × Mode)) :
    List Mode :=
  (ordinals servers).map fun ordinal => (hints.lookup ordinal).getD default

/-- The faults of one hint, given its position and the indices of the hints before it that were in
range, and those indices with its own. -/
def hintFaults (servers : Int32) (position : Nat) (seen : List Int32) (hint : RoleHint) :
    List String × List Int32 :=
  let place := "serverRoleHints[" ++ toString position ++ "]: "
  let index := place ++ "serverIndex " ++ toString hint.serverIndex.toInt
  let (range, seen) :=
    if hint.serverIndex < 0 || hint.serverIndex ≥ servers then
      ([index ++ " is outside [0, " ++ toString (servers - 1).toInt ++ "]"], seen)
    else if seen.contains hint.serverIndex then ([index ++ " is repeated"], seen)
    else ([], hint.serverIndex :: seen)
  match Mode.parse hint.mode with
  | .ok _ => (range, seen)
  | .error message => (range ++ [place ++ message], seen)

/-- The faults of a list of hints, from a position on. -/
def hintsFaults (servers : Int32) : Nat → List Int32 → List RoleHint → List String
  | _, _, [] => []
  | position, seen, hint :: rest =>
    let (faults, seen) := hintFaults servers position seen hint
    faults ++ hintsFaults servers (position + 1) seen rest

def knownHints (hints : List RoleHint) : List (Int32 × Mode) :=
  hints.filterMap fun hint =>
    match Mode.parse hint.mode with
    | .ok mode => some (hint.serverIndex, mode)
    | .error _ => none

/-- The effective constraints that hints ask for, or everything that is wrong with the hints. -/
def validateRoleHints (servers : Int32) (default : Mode) (hints : List RoleHint) :
    Except (List String) (List Mode) :=
  let constraints := effectiveConstraints servers default (knownHints hints)
  let noPrimary :=
    if servers > 0 && !constraints.any Mode.allowsPrimary then
      ["all " ++ toString servers.toInt ++ " servers are constrained to SECONDARY; " ++
        "at least one must be able to host primaries"]
    else []
  match hintsFaults servers 0 [] hints ++ noPrimary with
  | [] => .ok constraints
  | violations => .error violations

end ClusterOperator
