import ClusterOperator.Decimal.Compact
import ClusterOperator.Metrics

/-!
# Metrics as text

Every family of samples is introduced by a line that explains it and one that gives its type; a
family without samples is left out. A counter's samples have a name of their own, a histogram has
one sample for the sum, one for the number, and one for each bucket, which counts everything up to
its end. The last line marks the end.
-/

set_option autoImplicit false

namespace ClusterOperator

/-- The samples of one metric. They are written together, below the lines that say what the metric
is and of which type. -/
structure Family where
  name : String
  help : String
  kind : String
  samples : List String

namespace Family

def lines (f : Family) : List String :=
  if f.samples.isEmpty then []
  else
    ("# HELP " ++ f.name ++ " " ++ f.help ++ ".") :: ("# TYPE " ++ f.name ++ " " ++ f.kind) ::
      f.samples

end Family

def labelText (label : String × String) : String := label.1 ++ "=\"" ++ label.2 ++ "\""

def sampleLine (name : String) (labels : List (String × String)) (value : String) : String :=
  name ++ "\x7b" ++ ",".intercalate (labels.map labelText) ++ "\x7d " ++ value

def ClusterRef.labels (r : ClusterRef) : List (String × String) :=
  [("namespace", r.namespace), ("name", r.name)]

def counterFamily (name help : String) (series : Series Nat) : Family :=
  { name, help, kind := "counter"
    samples := series.map fun s => sampleLine (name ++ "_total") s.1.labels (toString s.2) }

/-- A family of numbers that go up and down. -/
def gaugeFamily (name help : String) (series : Series Int) : Family :=
  { name, help, kind := "gauge"
    samples := series.map fun s => sampleLine name s.1.labels (toString s.2) }

/-- The ends of the buckets in words, the last one without end. -/
def bucketTexts : List String := bucketBounds.map Decimal.text ++ ["+Inf"]

/-- The numbers of durations up to the end of each bucket. -/
def cumulative : Nat → List Nat → List Nat
  | _, [] => []
  | seen, n :: rest => (seen + n) :: cumulative (seen + n) rest

def durationSamples (name : String) (ref : ClusterRef) (d : Durations) : List String :=
  sampleLine (name ++ "_sum") ref.labels (Decimal.text d.sum) ::
    sampleLine (name ++ "_count") ref.labels (toString d.count) ::
    (bucketTexts.zip (cumulative 0 d.buckets)).map fun b =>
      sampleLine (name ++ "_bucket") (("le", b.1) :: ref.labels) (toString b.2)

def durationFamily (name help : String) (series : Series Durations) : Family :=
  { name, help, kind := "histogram"
    samples := series.flatMap fun s => durationSamples name s.1 s.2 }

def phaseFamily (name help : String) (totals : List (String × Nat)) : Family :=
  { name, help, kind := "gauge"
    samples := totals.map fun t => sampleLine name [("phase", t.1)] (toString t.2) }

namespace Metrics

def families (m : Metrics) : List Family :=
  [counterFamily "neo4joperator_reconciliations" "Total number of reconciliations"
      m.reconciliations,
    counterFamily "neo4joperator_reconciliation_errors" "Total number of reconciliation errors"
      m.failures,
    durationFamily "neo4joperator_reconcile_duration_seconds"
      "Duration of reconciliation in seconds" m.durations,
    phaseFamily "neo4joperator_clusters_total"
      "Total number of Neo4jCluster resources by phase" m.phaseTotals,
    gaugeFamily "neo4joperator_cluster_servers_desired"
      "Declared number of servers for each cluster" m.serversDesired,
    gaugeFamily "neo4joperator_cluster_servers_ready"
      "Number of ready servers for each cluster" m.serversReady,
    counterFamily "neo4joperator_split_brain_detections"
      "Number of times a cluster was newly classified as split" m.splitBrains,
    counterFamily "neo4joperator_split_brain_repairs"
      "Number of minority restarts issued to repair a split" m.repairs,
    counterFamily "neo4joperator_config_applies" "Number of configuration hashes applied"
      m.configApplies,
    counterFamily "neo4joperator_config_debounces"
      "Number of configuration debounce windows opened" m.configDebounces]

def lines (m : Metrics) : List String := m.families.flatMap Family.lines ++ ["# EOF"]

def toText (m : Metrics) : String := String.join (m.lines.map (· ++ "\n"))

end Metrics

end ClusterOperator
