import ClusterOperator.Cluster.Object
import ClusterOperator.Time.Parser

/-!
# The document form of a cluster

A cluster is read from and written to the platform as one document with its kind, its metadata, its
declaration and its status. Times in metadata are written in whole seconds.
-/

set_option autoImplicit false

namespace ClusterOperator

open Json

/-! ## Times -/

/-- The start of the second of an instant. -/
def Instant.wholeSecond (t : Instant) : Instant :=
  (ofNanos? (t.nanos - t.nanos % Time.nanosPerSecond)).getD t

def Instant.ofJson? (j : Json) : Option Instant := j.asString?.bind Instant.parse?

/-- An instant as a document, in whole seconds. -/
def Instant.toJson (t : Instant) : Json := .str t.wholeSecond.toText

/-! ## Metadata -/

def Metadata.ofJson? : Json → Option Metadata := asObject? do
  return { name := ← optional "name" asString?
           «namespace» := ← optional "namespace" asString?
           uid := ← optional "uid" asString?
           generation := ← optional "generation" asInt64?
           labels := ← optional "labels" (asMap? asString?)
           annotations := ← optional "annotations" (asMap? asString?)
           finalizers := ← optional "finalizers" asTexts?
           resourceVersion := ← optional "resourceVersion" asString?
           creationTimestamp := ← optional "creationTimestamp" Instant.ofJson?
           deletionTimestamp := ← optional "deletionTimestamp" Instant.ofJson? }

def Metadata.toJson (m : Metadata) : Json :=
  .ofFields [("name", m.name.map .str), ("namespace", m.namespace.map .str),
    ("uid", m.uid.map .str), ("generation", m.generation.map Int64.toJson),
    ("labels", m.labels.map (ofMap .str)), ("annotations", m.annotations.map (ofMap .str)),
    ("finalizers", m.finalizers.map .texts), ("resourceVersion", m.resourceVersion.map .str),
    ("creationTimestamp", m.creationTimestamp.map Instant.toJson),
    ("deletionTimestamp", m.deletionTimestamp.map Instant.toJson)]

/-! ## Clusters -/

def Cluster.ofJson? : Json → Option Cluster := asRecord? do
  return { metadata := ← required "metadata" Metadata.ofJson?
           spec := ← required "spec" ClusterSpec.ofJson?
           status := ← nullable "status" ClusterStatus.ofJson? }

def Cluster.toJson (c : Cluster) : Json :=
  .ofFields [("apiVersion", some (.str clusterApiVersion)), ("kind", some (.str clusterKind)),
    ("metadata", some c.metadata.toJson), ("spec", some c.spec.toJson),
    ("status", c.status.map ClusterStatus.toJson)]

end ClusterOperator
