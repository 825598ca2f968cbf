import ClusterOperator.Membership.Classes
import ClusterOperator.Text.Sha256
import ClusterOperator.Time.Parser
import ClusterOperator.Topology

/-!
# Detection of a split

A pass looks at the declared pods that serve and at the views of those that answered. Servers that
did not answer are unknown; they never count as evidence of a partition. A disagreement becomes a
split only once it has been the same for the grace period, and no pod has become ready within it.
What was observed is named by a digest, and the digest with the time it was first seen is all that
one pass hands to the next.
-/

set_option autoImplicit false

namespace ClusterOperator

/-- What a detection pass found. The classes and the unknown pods are kept with the health, since
the health says that there is a split but not whom a repair restarts. -/
structure Classification where
  health : MembershipHealth
  /-- The classes of agreement. -/
  classes : List (List String) := []
  /-- Serving pods whose view is not known. -/
  unknown : List String := []
  fingerprint : String := ""
  /-- Since when the digest has been the same. -/
  observedSince : Instant := .epoch
  deriving DecidableEq

namespace Classification

/-- The class that the cluster converges on. -/
def majority? (c : Classification) : Option (List String) := c.classes.head?

/-- The pods outside that class. -/
def minority (c : Classification) : List String := (c.classes.drop 1).flatten

/-- Whether a pod is in that class. -/
def inMajority (c : Classification) (pod : String) : Bool :=
  (c.majority?.getD []).contains pod

def snapshot (c : Classification) : String :=
  let classes := " ".intercalate <| c.classes.map fun members =>
    "[" ++ ",".intercalate members ++ "]"
  if c.unknown.isEmpty then classes
  else classes ++ " unknown=[" ++ ",".intercalate c.unknown ++ "]"

/-- The record to keep, with what is known of earlier repairs. -/
def toRecord (c : Classification) (previous : MembershipRecord) : MembershipRecord :=
  { previous with
    health := c.health
    fingerprint := some c.fingerprint
    observedSince := some c.observedSince.toText }

end Classification

/-! ## The digest -/

/-- The text that names what was observed: the serving pods, the classes and the unknown pods. The
names of pods hold none of the separators, so the text can be taken apart again. -/
def fingerprintText (ready : List String) (classes : List (List String)) (unknown : List String) :
    String :=
  String.join (ready.map (· ++ ",")) ++ "|" ++
    String.join (classes.map fun members => ",".intercalate members ++ ";") ++ "|" ++
    ",".intercalate unknown

/-- The digest of what was observed. -/
def fingerprint (ready : List String) (classes : List (List String)) (unknown : List String) :
    String :=
  Text.Sha256.hexDigest (fingerprintText ready classes unknown).toUTF8.toList

/-! ## Classification -/

/-- What a classification is made from. Of the record of the last pass only the digest and its time
count; pods and views are those of this pass. -/
structure DetectionInput where
  deployment : Deployment
  pods : List ServerPod
  views : Views
  previous : MembershipRecord
  now : Instant
  /-- The seconds for which a disagreement has to persist. -/
  grace : Nat

namespace DetectionInput

/-- The declared pods that serve. -/
def ready (i : DetectionInput) : List ServerPod :=
  i.pods.filter fun p => p.ordinal < i.deployment.servers && p.isServing

/-- The views of those pods. -/
def known (i : DetectionInput) : Views :=
  -- Views of pods that are not declared or do not serve are left out, whoever answered.
  .ofList <| i.ready.filterMap fun p => (i.views.find? p.name).map (p.name, ·)

/-- The classes of agreement. A single server is not asked; it agrees with itself. -/
def classes (i : DetectionInput) : List (List String) :=
  match i.deployment with
  | .cluster _ _ => equivalenceClasses i.known
  | .standalone => if i.ready.isEmpty then [] else [i.ready.map (·.name)]

/-- The serving pods that did not answer. -/
def unknown (i : DetectionInput) : List String :=
  match i.deployment with
  | .cluster _ _ => (i.ready.map (·.name)).filter fun name => !i.known.contains name
  | .standalone => []

def digest (i : DetectionInput) : String :=
  fingerprint (i.ready.map (·.name)) i.classes i.unknown

/-- Since when the digest has been the same: as long as it is, the recorded time counts. A recorded
time that cannot be read counts as now, so a damaged status delays a split and never hastens one. -/
def observedSince (i : DetectionInput) : Instant :=
  if i.previous.fingerprint = some i.digest then
    (i.previous.observedSince.bind Instant.parse?).getD i.now
  else i.now

/-- Whether every view that is known lists every serving pod. -/
def viewsComplete (i : DetectionInput) : Bool :=
  i.known.entries.all fun view => i.ready.all fun p => view.2.contains p.name

def later (a b : Instant) : Instant := if a.before b then b else a

/-- Since when the disagreement counts: since it was first observed, or since a pod last became
ready, whichever is later. -/
def disagreementSince (i : DetectionInput) : Instant :=
  -- A pod that became ready a moment ago has had no time to meet the others.
  (i.ready.filterMap (·.readySince)).foldl later i.observedSince

/-- The number of servers of a class; one that is too large to be counted counts as empty. -/
def classSize (members : List String) : Int32 :=
  if members.length ≤ 2147483647 then Int32.ofNat members.length else 0

def health (i : DetectionInput) : MembershipHealth :=
  match i.deployment with
  | .standalone => if i.ready.isEmpty then .unformed else .healthy
  | .cluster servers _ =>
    if countOf i.ready < servers then .unformed
    -- One class is not yet health: it has to be everyone, answered by everyone, and each has to
    -- list them all.
    else if i.classes.length == 1 && i.unknown.isEmpty && i.viewsComplete &&
        i.classes.head?.any (classSize · == servers) then .healthy
    else if i.classes.length > 1 then
      if Instant.elapsed i.disagreementSince i.now ≥ i.grace then .split else .converging
    else .converging

end DetectionInput

/-- What a detection pass makes of its observation. It depends on the input alone: the same pods,
views and record give the same verdict, whichever process asks. -/
def classify (i : DetectionInput) : Classification :=
  { health := i.health, classes := i.classes, unknown := i.unknown, fingerprint := i.digest
    observedSince := i.observedSince }

end ClusterOperator
