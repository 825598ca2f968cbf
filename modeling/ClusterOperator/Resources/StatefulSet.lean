import ClusterOperator.Resources.Service
import ClusterOperator.Resources.StartupScript

/-!
# The set of servers

One pod for each server, each with a name and a volume of its own. Pods start together, because a
cluster forms only once enough of them are there, and are replaced only when the operator deletes
them. The template's annotation names the configuration, so every pod tells which one it was created
with.
-/

set_option autoImplicit false

namespace ClusterOperator

def containerName : String := "neo4j"

/-- The user and the group that a server runs as. -/
def serverUser : Nat := 7474

/-- The seconds that a server has to leave the cluster. -/
def terminationSeconds : Nat := 120

/-- What a pod is made from. A change of the template changes no pod that is there: the operator
deletes a pod when its turn has come, and the new one is made from the template of that time. -/
structure PodTemplate where
  labels : SortedMap String
  annotations : SortedMap String
  image : String
  pullPolicy : String
  script : String
  ports : List NamedPort
  /-- The key of a secret that holds the password. -/
  password : Option SecretRef
  limits : ComputeSpec
  configMapName : String
  deriving DecidableEq

/-- The set of the servers of a cluster. The volumes belong to the set and not to the template, so a
server keeps its data when its pod is replaced. -/
structure StatefulSet where
  metadata : ResourceMetadata
  replicas : Int32
  serviceName : String
  selector : SortedMap String
  template : PodTemplate
  storage : StorageSpec
  deriving DecidableEq

namespace Cluster

def podTemplate (c : Cluster) (manifest : Manifest) : PodTemplate :=
  { labels := c.standardLabels
    annotations := c.annotationsWith manifest.configHash
    image := manifest.image
    pullPolicy := c.spec.image.pullPolicy
    script := startupScript c manifest.deployment
    ports := clientPorts ++ match manifest.deployment with
      | .cluster _ _ => memberPorts
      | .standalone => []
    password := c.spec.auth.map (·.secretRef)
    limits := c.spec.resources
    configMapName := c.configMapName }

def statefulSet (c : Cluster) (manifest : Manifest) : StatefulSet :=
  { metadata := c.resourceMetadata c.name c.standardLabels c.spec.annotations
    replicas := manifest.replicas
    serviceName := c.headlessServiceName
    selector := c.selectorLabels
    template := c.podTemplate manifest
    storage := c.spec.storage }

end Cluster

/-! ## The document form -/

def NamedPort.containerJson (p : NamedPort) : Json :=
  .obj [("containerPort", .nat p.number), ("name", .str p.name), ("protocol", .str "TCP")]

namespace PodTemplate

def envJson (t : PodTemplate) : Json :=
  .arr ([.obj [("name", .str "POD_NAME"),
      ("valueFrom", .obj [("fieldRef", .obj [("fieldPath", .str "metadata.name")])])],
    .obj [("name", .str "NEO4J_ACCEPT_LICENSE_AGREEMENT"), ("value", .str "yes")]] ++
    t.password.toList.map fun secret =>
      .obj [("name", .str "NEO4J_PASSWORD"),
        ("valueFrom", .obj [("secretKeyRef", .obj [("key", .str secret.key),
          ("name", .str secret.name), ("optional", .bool false)])])])

/-- What the container may use, which is also what it is promised. -/
def limitsJson (t : PodTemplate) : Json :=
  .obj [("limits", t.limits.toJson), ("requests", t.limits.toJson)]

/-- A probe of a port: how often it is made, and how often it may fail. -/
def probeJson (port : String) (failures period : Nat) (successes : Option Nat) : Json :=
  .ofFields [("failureThreshold", some (.nat failures)), ("periodSeconds", some (.nat period)),
    ("successThreshold", successes.map .nat),
    ("tcpSocket", some (.obj [("port", .str port)])), ("timeoutSeconds", some (.nat 5))]

/-- The places where the container sees its volumes. -/
def mountsJson : Json :=
  .arr [.obj [("mountPath", .str configSourceDir), ("name", .str "config"),
      ("readOnly", .bool true)],
    .obj [("mountPath", .str configTargetDir), ("name", .str "conf")],
    .obj [("mountPath", .str dataDir), ("name", .str "data")]]

/-- The volumes of a pod besides that of its data. -/
def volumesJson (t : PodTemplate) : Json :=
  .arr [.obj [("configMap", .obj [("name", .str t.configMapName)]), ("name", .str "config")],
    .obj [("emptyDir", .obj []), ("name", .str "conf")]]

def containerSecurityJson : Json :=
  .obj [("allowPrivilegeEscalation", .bool false),
    ("capabilities", .obj [("drop", .arr [.str "ALL"])]), ("readOnlyRootFilesystem", .bool false),
    ("runAsNonRoot", .bool true), ("runAsUser", .nat serverUser)]

def podSecurityJson : Json :=
  .obj [("fsGroup", .nat serverUser), ("runAsGroup", .nat serverUser), ("runAsNonRoot", .bool true),
    ("runAsUser", .nat serverUser), ("seccompProfile", .obj [("type", .str "RuntimeDefault")])]

/-- The container as a document. A server may take ten minutes to start. -/
def containerJson (t : PodTemplate) : Json :=
  .obj [("args", .arr [.str t.script]), ("command", .texts ["/bin/bash", "-c"]), ("env", t.envJson),
    ("image", .str t.image), ("imagePullPolicy", .str t.pullPolicy),
    ("livenessProbe", probeJson "bolt" 4 15 none), ("name", .str containerName),
    ("ports", .ofList NamedPort.containerJson t.ports),
    ("readinessProbe", probeJson "http" 3 5 (some 1)), ("resources", t.limitsJson),
    ("securityContext", containerSecurityJson), ("startupProbe", probeJson "bolt" 120 5 none),
    ("volumeMounts", mountsJson)]

def toJson (t : PodTemplate) : Json :=
  .obj [("metadata", .obj [("annotations", Json.ofMap .str t.annotations),
      ("labels", Json.ofMap .str t.labels)]),
    ("spec", .obj [("containers", .arr [t.containerJson]), ("securityContext", podSecurityJson),
      ("terminationGracePeriodSeconds", .nat terminationSeconds), ("volumes", t.volumesJson)])]

end PodTemplate

def StorageSpec.claimJson (s : StorageSpec) : Json :=
  .obj [("apiVersion", .str "v1"), ("kind", .str "PersistentVolumeClaim"),
    ("metadata", .obj [("name", .str "data")]),
    ("spec", .ofFields [("accessModes", some (.texts ["ReadWriteOnce"])),
      ("resources", some (.obj [("requests", .obj [("storage", .str s.size)])])),
      ("storageClassName", s.storageClassName.map .str)])]

def StatefulSet.toJson (s : StatefulSet) : Json :=
  .obj [("apiVersion", .str "apps/v1"), ("kind", .str "StatefulSet"),
    ("metadata", s.metadata.toJson),
    ("spec", .obj [("podManagementPolicy", .str "Parallel"), ("replicas", Int32.toJson s.replicas),
      ("selector", .obj [("matchLabels", Json.ofMap .str s.selector)]),
      ("serviceName", .str s.serviceName), ("template", s.template.toJson),
      ("updateStrategy", .obj [("type", .str "OnDelete")]),
      ("volumeClaimTemplates", .arr [s.storage.claimJson])])]

end ClusterOperator
