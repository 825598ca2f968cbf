import ClusterOperator.Resources.Metadata

/-!
# Services

One service gives every pod a stable host name, also before the pod is ready, because servers have
to find each other first. The other spreads clients over the servers that are ready.
-/

set_option autoImplicit false

namespace ClusterOperator

structure NamedPort where
  name : String
  number : Nat
  deriving DecidableEq, Repr

/-- The ports that clients use. -/
def clientPorts : List NamedPort := [⟨"bolt", boltPort⟩, ⟨"http", httpPort⟩]

/-- The ports that servers of a cluster use among themselves. -/
def memberPorts : List NamedPort := [⟨"cluster", clusterPort⟩, ⟨"raft", raftPort⟩]

/-- The two services of a cluster. Both select the same pods; they differ in what they are for. -/
inductive ServiceRole
  /-- Host names for the pods, without an address of its own. -/
  | headless
  /-- One address for clients. -/
  | client
  deriving DecidableEq, Repr

def ServiceRole.label : ServiceRole → String
  | headless => "headless"
  | client => "client"

/-- A service, as far as one differs from the other. What the role adds to the document is not
stored, since the role determines it. -/
structure Service where
  metadata : ResourceMetadata
  role : ServiceRole
  selector : SortedMap String
  ports : List NamedPort
  deriving DecidableEq

namespace Cluster

def service (c : Cluster) (role : ServiceRole) (name : String) (ports : List NamedPort) : Service :=
  { metadata :=
      c.resourceMetadata name (c.standardLabels.insert serviceTypeLabel role.label)
        c.spec.annotations
    role
    selector := c.selectorLabels
    ports }

/-- The service that gives every pod its host name. -/
def headlessService (c : Cluster) : Service :=
  c.service .headless c.headlessServiceName
    (clientPorts ++ if c.spec.servers > 1 then memberPorts else [])

def clientService (c : Cluster) : Service := c.service .client c.clientServiceName clientPorts

end Cluster

def NamedPort.serviceJson (p : NamedPort) : Json :=
  .obj [("port", .nat p.number), ("targetPort", .str p.name), ("name", .str p.name),
    ("protocol", .str "TCP")]

namespace Service

def roleFields : ServiceRole → List (String × Json)
  | .headless => [("clusterIP", .str "None"), ("publishNotReadyAddresses", .bool true)]
  | .client => [("type", .str "ClusterIP")]

def toJson (s : Service) : Json :=
  .obj [("apiVersion", .str "v1"), ("kind", .str "Service"), ("metadata", s.metadata.toJson),
    ("spec", .obj (roleFields s.role ++
      [("selector", Json.ofMap .str s.selector),
        ("ports", .ofList NamedPort.serviceJson s.ports)]))]

end Service

end ClusterOperator
