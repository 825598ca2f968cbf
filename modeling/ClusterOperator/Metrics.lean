import ClusterOperator.Cluster.Ref

/-!
# Metrics

What the operator counts: passes and their durations, failures, splits and repairs, configurations
applied and held back, the phases of its clusters and their servers. Every series belongs to one
cluster, except the number of clusters in each phase, which is derived from the last phase of each.
-/

set_option autoImplicit false

namespace ClusterOperator

/-! ## Series -/

/-- A value for each of some clusters. Clusters stand in the order in which they were first
counted. -/
abbrev Series (α : Type) := List (ClusterRef × α)

namespace Series

variable {α : Type}

def find? (s : Series α) (ref : ClusterRef) : Option α := s.lookup ref

def set (s : Series α) (ref : ClusterRef) (value : α) : Series α :=
  match s with
  | [] => [(ref, value)]
  | (other, v) :: rest =>
    if other = ref then (ref, value) :: rest else (other, v) :: set rest ref value

def erase (s : Series α) (ref : ClusterRef) : Series α := s.filter (·.1 != ref)

def count (s : Series Nat) (ref : ClusterRef) : Series Nat := s.set ref ((s.find? ref).getD 0 + 1)

end Series

/-! ## Durations -/

/-- The largest durations, in seconds, that the buckets of a histogram hold; every bucket ends at
twice the end of the one before it, and a last one has no end. -/
def bucketBounds : List Float := (List.range 15).map fun i => 0.001 * Float.ofNat (Nat.pow 2 i)

/-- The durations of the passes of a cluster. The buckets count what falls into each of them alone;
the running totals of a histogram are formed when it is written. -/
structure Durations where
  sum : Float := 0.0
  /-- How many durations fell into each bucket, the last one without end. -/
  buckets : List Nat := List.replicate 16 0

/-- Counts a duration in the first bucket that holds it. -/
def countInBucket (seconds : Float) : List Float → List Nat → List Nat
  | bound :: bounds, n :: rest =>
    if seconds ≤ bound then (n + 1) :: rest else n :: countInBucket seconds bounds rest
  | [], n :: rest => (n + 1) :: rest
  | _, [] => []

namespace Durations

def observe (d : Durations) (seconds : Float) : Durations :=
  { sum := d.sum + seconds, buckets := countInBucket seconds bucketBounds d.buckets }

def count (d : Durations) : Nat := d.buckets.foldl (· + ·) 0

end Durations

/-! ## Measurements -/

/-- Something to be counted. -/
inductive Measurement
  /-- A pass succeeded after some seconds. -/
  | reconcile (seconds : Float)
  /-- A pass failed. -/
  | failure
  /-- A cluster is newly split. -/
  | splitBrain
  /-- A split is repaired. -/
  | repair
  /-- A configuration is applied. -/
  | configApply
  /-- A window for a configuration is opened. -/
  | configDebounce
  /-- A cluster is in a phase, or no longer exists. -/
  | phase (name : Option String)
  /-- The number of servers declared, and of those ready. -/
  | servers (desired ready : Int)

/-- Everything that is counted. It lives in memory only: an operator that starts anew counts from
zero, and learns the phases again pass by pass. -/
structure Metrics where
  reconciliations : Series Nat := []
  failures : Series Nat := []
  durations : Series Durations := []
  /-- The last phase of every cluster. -/
  phases : Series String := []
  serversDesired : Series Int := []
  serversReady : Series Int := []
  splitBrains : Series Nat := []
  repairs : Series Nat := []
  configApplies : Series Nat := []
  configDebounces : Series Nat := []

namespace Metrics

def record (m : Metrics) (ref : ClusterRef) : Measurement → Metrics
  | .reconcile seconds =>
    { m with
      reconciliations := m.reconciliations.count ref
      durations := m.durations.set ref (((m.durations.find? ref).getD {}).observe seconds) }
  | .failure => { m with failures := m.failures.count ref }
  | .splitBrain => { m with splitBrains := m.splitBrains.count ref }
  | .repair => { m with repairs := m.repairs.count ref }
  | .configApply => { m with configApplies := m.configApplies.count ref }
  | .configDebounce => { m with configDebounces := m.configDebounces.count ref }
  | .phase (some name) => { m with phases := m.phases.set ref name }
  | .phase none => { m with phases := m.phases.erase ref }
  | .servers desired ready =>
    { m with
      serversDesired := m.serversDesired.set ref desired
      serversReady := m.serversReady.set ref ready }

/-- The phases that clusters are in, each once, with the number of clusters. They are counted from
the phases each time and not kept up with every move, so they cannot drift from them. -/
def phaseTotals (m : Metrics) : List (String × Nat) :=
  (m.phases.map (·.2)).eraseDups.map fun phase => (phase, m.phases.countP (·.2 == phase))

end Metrics

end ClusterOperator
