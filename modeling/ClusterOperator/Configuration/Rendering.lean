import ClusterOperator.Text.Sha256
import ClusterOperator.Topology

/-!
# The derived configuration

Every server boots with a file that all servers share and a file of its own. Both are lists of
settings, one on each line, in the order of their keys. The files are named by a digest over their
names and contents, so the same declaration always gives the same digest and a pod that carries
another digest runs another configuration.
-/

set_option autoImplicit false

namespace ClusterOperator

/-! ## The operator's own settings -/

/-- The setting for a server's mode constraint. -/
def modeKey : String := "initial.server.mode_constraint"

/-- The setting for the formation quorum. -/
def quorumKey : String := "dbms.cluster.minimum_initial_system_primaries_count"

/-- The setting for the addresses of all servers. -/
def endpointsKey : String := "dbms.cluster.endpoints"

/-- The setting for how addresses are found. -/
def resolverKey : String := "dbms.cluster.discovery.resolver_type"

/-- The setting for the version of the discovery protocol. -/
def discoveryVersionKey : String := "dbms.cluster.discovery.version"

/-- The settings that a user may not make. -/
def reservedKeys : List String :=
  [modeKey, quorumKey, endpointsKey, resolverKey, discoveryVersionKey,
    "server.default_advertised_address", "server.cluster.advertised_address",
    "server.cluster.raft.advertised_address"]

/-! ## Files -/

/-- The file that all servers share. -/
def sharedFile : String := "neo4j.conf"

def serverFile (ordinal : Nat) : String := "server-" ++ toString ordinal ++ ".conf"

def settingLine (setting : String × String) : String := setting.1 ++ "=" ++ setting.2 ++ "\n"

/-- A file of settings, after a comment that records when a restart was last asked for. -/
def renderSettings (settings : SortedMap String) (restart : Option String) : String :=
  (match restart with
    | some trigger => "# restart-requested-at=" ++ trigger ++ "\n"
    | none => "") ++
    String.join (settings.entries.map settingLine)

/-- The bytes that name a set of files: every name and content, each ended by a zero. -/
def filesBytes (files : SortedMap String) : List UInt8 :=
  files.entries.flatMap fun file =>
    file.1.toUTF8.toList ++ 0 :: (file.2.toUTF8.toList ++ [0])

/-- The digest that names a set of files. -/
def configHash (files : SortedMap String) : String := Text.Sha256.hexDigest (filesBytes files)

/-- A set of files with its digest. The files go to the servers; the digest is what pods carry, what
the status records and what every decision about the configuration compares. -/
structure DerivedConfig where
  files : SortedMap String
  hash : String
  deriving DecidableEq

/-! ## Derivation -/

/-- What the files depend on besides the topology. -/
structure RenderInputs where
  clusterName : String
  «namespace» : String
  userConfig : SortedMap String
  /-- The value of the annotation that asks for a restart. -/
  restart : Option String

/-- The addresses under which the servers of a cluster discover each other. -/
def discoveryEndpoints (inputs : RenderInputs) (servers : Int32) : String :=
  ",".intercalate <| (ordinals servers).map fun ordinal =>
    podHostIn inputs.clusterName inputs.namespace (podName inputs.clusterName ordinal) ++ ":" ++
      toString clusterPort

/-- The operator's settings in the shared file. A single server discovers nobody, so it gets none of
them. -/
def operatorSettings (deployment : Deployment) (inputs : RenderInputs) : List (String × String) :=
  match deployment with
  | .cluster servers quorum =>
    [(endpointsKey, discoveryEndpoints inputs servers), (resolverKey, "LIST"),
      (discoveryVersionKey, "V2_ONLY"), (quorumKey, toString quorum.toInt)]
  | .standalone => []

/-- The settings of the shared file: the user's, with the operator's put over them. -/
def sharedSettings (deployment : Deployment) (inputs : RenderInputs) : SortedMap String :=
  (operatorSettings deployment inputs).foldl (fun m s => m.insert s.1 s.2) inputs.userConfig

def serverSettings (mode : Mode) : SortedMap String := .ofList [(modeKey, mode.name)]

def configFiles (topology : Topology) (inputs : RenderInputs) : SortedMap String :=
  -- The shared file comes first; the name of a server's file is never its name.
  topology.constraints.zipIdx.foldl
    (fun files server =>
      files.insert (serverFile server.2) (renderSettings (serverSettings server.1) none))
    (.ofList
      [(sharedFile, renderSettings (sharedSettings topology.deployment inputs) inputs.restart)])

def deriveConfig (topology : Topology) (inputs : RenderInputs) : DerivedConfig :=
  let files := configFiles topology inputs
  ⟨files, configHash files⟩

/-! ## Manifests -/

/-- Everything that the operator's resources depend on in one pass. -/
structure Manifest where
  deployment : Deployment
  replicas : Int32
  image : String
  files : SortedMap String
  configHash : String
  deriving DecidableEq

def Manifest.of (topology : Topology) (image : String) (config : DerivedConfig) : Manifest :=
  { deployment := topology.deployment, replicas := topology.servers, image
    files := config.files, configHash := config.hash }

end ClusterOperator
