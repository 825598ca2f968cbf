import ClusterOperator.Configuration.Rendering
import ClusterOperator.Failure
import ClusterOperator.Version

/-!
# Validation

Every rule is checked and every fault reported, so that a user sees the whole list at once. A
declaration without faults yields its topology.
-/

set_option autoImplicit false

namespace ClusterOperator

/-- The longest name, in bytes, that leaves room for the names derived from it. -/
def maxNameLength : Nat := 53

def maxServers : Int32 := 64

/-! ## The forms of single values -/

/-- Whether a text is a key that a user may write: a small letter, then small letters, digits,
underscores and dots. -/
def isConfigKey (key : String) : Bool :=
  match key.toList with
  | c :: rest => c.isLower && rest.all fun c => c.isLower || c.isDigit || c == '_' || c == '.'
  | [] => false

/-- Whether a text is a number followed by nothing or by one of the units. -/
def isQuantity (units : List String) (s : String) : Bool :=
  let digits := s.toList.takeWhile Char.isDigit
  let unit := String.ofList (s.toList.dropWhile Char.isDigit)
  !digits.isEmpty && (unit == "" || units.contains unit)

def isStorageSize (s : String) : Bool := isQuantity ["Ki", "Mi", "Gi", "Ti", "Pi", "Ei"] s

def isMemory (s : String) : Bool := isQuantity ["Ki", "Mi", "Gi", "Ti"] s

/-- Whether a text is an amount of processor time: a number, a number of thousandths, or a decimal
fraction. -/
def isCpu (s : String) : Bool :=
  let digits := s.toList.takeWhile Char.isDigit
  match s.toList.dropWhile Char.isDigit with
  | [] => !digits.isEmpty
  | ['m'] => !digits.isEmpty
  | '.' :: fraction => !fraction.isEmpty && fraction.all Char.isDigit
  | _ => false

/-! ## Rules -/

def serversFaults (servers : Int32) : List String :=
  if servers < 1 then ["servers must be at least 1, got " ++ toString servers.toInt]
  else if servers > maxServers then
    ["servers " ++ toString servers.toInt ++ " exceeds maximum " ++ toString maxServers.toInt]
  else []

def strategyFaults (s : UpgradeStrategy) : List String :=
  (if s.maxUnavailable < 1 then
    ["upgradeStrategy.maxUnavailable must be at least 1, got " ++ toString s.maxUnavailable.toInt]
    else []) ++
  (if s.stepTimeoutSeconds = 0 then ["upgradeStrategy.stepTimeoutSeconds must be positive"] else [])

def keyFaults (key : String) : List String :=
  if !isConfigKey key then ["config key '" ++ key ++ "' must match ^[a-z][a-z0-9_.]*$"]
  else if reservedKeys.contains key then
    ["config key '" ++ key ++ "' is managed by the operator"]
  else []

/-- The faults in the tag, given the version that the servers run. -/
def tagFaults (running : Option String) (tag : String) : List String :=
  if tag.isEmpty then ["image.tag must not be empty"]
  else
    match running with
    | some old =>
      if isDowngrade old tag then
        ["downgrade from " ++ old ++ " to " ++ tag ++ " is not supported"]
      else []
    | none => []

def resourceFaults (spec : ClusterSpec) : List String :=
  (if isStorageSize spec.storage.size then []
    else ["invalid storage size '" ++ spec.storage.size ++ "'. Expected <number><unit> where " ++
      "unit is Ki, Mi, Gi, Ti, Pi, or Ei (e.g., 10Gi)"]) ++
  (if isCpu spec.resources.cpu then []
    else ["invalid CPU '" ++ spec.resources.cpu ++
      "'. Expected <number>m or <decimal> (e.g., 500m, 1)"]) ++
  (if isMemory spec.resources.memory then []
    else ["invalid memory '" ++ spec.resources.memory ++ "'. Expected <number><unit> where " ++
      "unit is Ki, Mi, Gi, or Ti (e.g., 2Gi)"])

def authFaults : Option Auth → List String
  | some auth =>
    if auth.secretRef.name.isEmpty || auth.secretRef.key.isEmpty then
      ["auth.secretRef requires both name and key"]
    else []
  | none => []

/-- A number of servers held between zero and the largest. The hints are checked even where the
number is at fault, so that all faults are reported, but against no more servers than there may
be. -/
def clampServers (servers : Int32) : Int32 := max 0 (min servers maxServers)

/-- The topology of a declaration, or all its faults. The faults stand in the order of the rules, so
the same declaration is always refused in the same words. -/
def validateSpec (spec : ClusterSpec) (running : Option String) : Except (List String) Topology :=
  let hints := validateRoleHints (clampServers spec.servers) spec.mode spec.roleHints
  let hintFaults := match hints with
    | .ok _ => []
    | .error faults => faults
  let faults := serversFaults spec.servers ++ hintFaults ++ strategyFaults spec.upgradeStrategy ++
    spec.config.keys.flatMap keyFaults ++ tagFaults running spec.image.tag ++
    resourceFaults spec ++ authFaults spec.auth
  match hints, faults with
  | .ok constraints, [] => .ok { deployment := .ofConstraints constraints, constraints }
  | _, faults => .error faults

def nameFaults (name : String) : List String :=
  if name.utf8ByteSize > maxNameLength then
    ["name '" ++ name ++ "' exceeds maximum length of " ++ toString maxNameLength ++ " characters"]
  else []

/-- The topology of a cluster, or all the faults of its name and its declaration. Neither hides the
other: who corrects one of them is told of both. -/
def validateCluster (cluster : Cluster) (running : Option String) : Except Failure Topology :=
  match nameFaults cluster.name, validateSpec cluster.spec running with
  | [], .ok topology => .ok topology
  | faults, .ok _ => .error (.validation faults)
  | faults, .error more => .error (.validation (faults ++ more))

end ClusterOperator
