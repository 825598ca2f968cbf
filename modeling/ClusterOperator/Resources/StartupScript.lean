import ClusterOperator.Configuration.Rendering

/-!
# The startup script

The script that a server's container runs. It puts the shared file and the server's own file
together, adds the addresses under which this server is reached, which only the pod knows, and hands
over to the server. In the script the name of the pod stands as a variable of the shell.
-/

set_option autoImplicit false

namespace ClusterOperator

/-- The directory of the map of configuration files. -/
def configSourceDir : String := "/config"

/-- The directory of the file that the server reads. -/
def configTargetDir : String := "/conf"

/-- The directory of the server's data. -/
def dataDir : String := "/data"

/-- The file that the server reads. -/
def serverConfigPath : String := configTargetDir ++ "/" ++ sharedFile

/-- The host name of the pod that runs the script. -/
def ownHost (c : Cluster) : String := c.podHost "$\x7bPOD_NAME\x7d"

def echoedSettings (c : Cluster) (deployment : Deployment) : List (String × String) :=
  [("server.default_listen_address", "0.0.0.0"),
    ("server.default_advertised_address", ownHost c)] ++
  match deployment with
  | .cluster _ _ =>
    [("server.cluster.advertised_address", ownHost c ++ ":" ++ toString clusterPort),
      ("server.cluster.raft.advertised_address", ownHost c ++ ":" ++ toString raftPort)]
  | .standalone => []

def echoLine (setting : String × String) : String :=
  "echo \"" ++ setting.1 ++ "=" ++ setting.2 ++ "\" >> " ++ serverConfigPath

/-- The line of the script that turns the password into what the server's image expects. -/
def passwordLine : String :=
  "case \"$\x7bNEO4J_PASSWORD:-\x7d\" in '') export NEO4J_AUTH=none ;; " ++
    "*/*) export NEO4J_AUTH=\"$NEO4J_PASSWORD\" ;; " ++
    "*) export NEO4J_AUTH=\"neo4j/$NEO4J_PASSWORD\" ;; esac"

def scriptLines (c : Cluster) (deployment : Deployment) : List String :=
  ["set -euo pipefail",
    "ordinal=\"$\x7bPOD_NAME##*-\x7d\"",
    "cat " ++ configSourceDir ++ "/" ++ sharedFile ++ " \"" ++ configSourceDir ++
      "/server-$\x7bordinal\x7d.conf\" > " ++ serverConfigPath] ++
  (echoedSettings c deployment).map echoLine ++
  [passwordLine, "exec /startup/docker-entrypoint.sh neo4j"]

def startupScript (c : Cluster) (deployment : Deployment) : String :=
  "\n".intercalate (scriptLines c deployment)

end ClusterOperator
