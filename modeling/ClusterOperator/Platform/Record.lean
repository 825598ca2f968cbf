import ClusterOperator.Cluster.Document
import ClusterOperator.Resources.StatefulSet
import ClusterOperator.Text.Base64

/-!
# What the platform tells of pods and secrets

Of a pod only a few facts matter: its name, whether it is ready and since when, which image its
server runs, which configuration it was created with, and whether it is on its way out. A pod whose
name does not end in an ordinal is no server.
-/

set_option autoImplicit false

namespace ClusterOperator.Platform

open Json

/-! ## Resources -/

/-- Reads a field that, where it is given, has one possible text. -/
def fixedText (key value : String) : Reader Unit :=
  defaulted key () fun j => if j == .str value then some () else none

def kindFields (apiVersion kind : String) : Reader Unit := do
  fixedText "apiVersion" apiVersion
  fixedText "kind" kind

/-- Whether a document is a resource of a kind. -/
def resourceOf? (apiVersion kind : String) : Json → Option Unit := asObject? do
  kindFields apiVersion kind
  let _ ← optional "metadata" Metadata.ofJson?

/-! ## Pods -/

structure PodCondition where
  type : String
  status : String
  since : Option Instant

def PodCondition.ofJson? : Json → Option PodCondition := asObject? do
  return { type := (← optional "type" asString?).getD ""
           status := (← optional "status" asString?).getD ""
           since := ← optional "lastTransitionTime" Instant.ofJson? }

structure Container where
  name : String
  image : Option String

def Container.ofJson? : Json → Option Container := asObject? do
  return { name := (← optional "name" asString?).getD "", image := ← optional "image" asString? }

/-- What the platform tells of a pod, as far as it matters. Documents of pods say much more, and all
of that is skipped unread. -/
structure PodRecord where
  metadata : Metadata
  containers : List Container
  conditions : List PodCondition

def podContainers? : Json → Option (List Container) := asObject? do
  return (← optional "containers" (asList? Container.ofJson?)).getD []

def podConditions? : Json → Option (List PodCondition) := asObject? do
  return (← optional "conditions" (asList? PodCondition.ofJson?)).getD []

def PodRecord.ofJson? : Json → Option PodRecord := asObject? do
  kindFields "v1" "Pod"
  return { metadata := (← optional "metadata" Metadata.ofJson?).getD {}
           containers := (← optional "spec" podContainers?).getD []
           conditions := (← optional "status" podConditions?).getD [] }

def podList? : Json → Option (List PodRecord) := asObject? do
  return (← required "items" (asNullable? (asList? PodRecord.ofJson?))).getD []

/-- The server that runs in a pod, if its name ends in an ordinal. -/
def PodRecord.server? (record : PodRecord) (cluster : Cluster) : Option ServerPod := do
  let name ← record.metadata.name
  let ordinal ← ordinalOf? name
  let ready := record.conditions.find? (·.type == "Ready")
  return { name
           ordinal
           ready := ready.any (·.status == "True")
           readySince := ready.bind (·.since)
           image := (record.containers.find? (·.name == containerName)).bind (·.image)
           configHash := (record.metadata.annotations.getD .empty).find? configHashAnnotation
           terminating := record.metadata.deletionTimestamp.isSome
           host := cluster.podHost name }

def serversOf (cluster : Cluster) (records : List PodRecord) : List ServerPod :=
  (records.filterMap (·.server? cluster)).mergeSort fun a b => a.ordinal ≤ b.ordinal

/-! ## Secrets -/

def secretBytes? : Json → Option (List UInt8)
  | .str s => Text.Base64.decode? s
  | .null => some []
  | _ => none

def secretData? : Json → Option (SortedMap (List UInt8)) := asObject? do
  kindFields "v1" "Secret"
  let _ ← optional "metadata" Metadata.ofJson?
  return (← optional "data" (asMap? secretBytes?)).getD .empty

end ClusterOperator.Platform
