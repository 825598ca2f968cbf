import ClusterOperator.Configuration.Rendering
import ClusterOperator.Resources.Metadata

/-!
# The map of configuration files

One entry for each file of the manifest. Pods see the files of this map, and its annotation names
the configuration that they are.
-/

set_option autoImplicit false

namespace ClusterOperator

/-- A map of files. There is one for each cluster, and it is written over in place, so it holds the
files of the manifest that was applied last. -/
structure ConfigMap where
  metadata : ResourceMetadata
  files : SortedMap String
  deriving DecidableEq

def Cluster.configMap (c : Cluster) (manifest : Manifest) : ConfigMap :=
  { metadata :=
      c.resourceMetadata c.configMapName c.standardLabels (c.annotationsWith manifest.configHash)
    files := manifest.files }

def ConfigMap.toJson (m : ConfigMap) : Json :=
  .obj [("apiVersion", .str "v1"), ("kind", .str "ConfigMap"), ("metadata", m.metadata.toJson),
    ("data", Json.ofMap .str m.files)]

end ClusterOperator
