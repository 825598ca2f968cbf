import ClusterOperator.Cluster.Spec
import ClusterOperator.Text.Blank
import ClusterOperator.Text.Numeral

/-!
# Settings of the operator

Every waiting time and limit of the operator is a variable of its environment with a default. A
variable that is set has to be a whole number of its range, blanks at its ends aside. The variables
are read in one fixed order and the first that is no such number is reported; only when all of them
are numbers is the lease looked at, which has to outlive the interval at which it is renewed.

Three of the waiting times may be overridden by a cluster's declaration.
-/

set_option autoImplicit false

namespace ClusterOperator

/-! ## Variables -/

/-- A variable that holds a number. All of them are read by one rule, with a default, a largest and
a smallest value of their own. -/
inductive Variable
  | resync
  | apiTimeout
  | probeTimeout
  | probeConcurrency
  | splitBrainGrace
  | repairCooldown
  | configDebounce
  | retryAttempts
  | retryBaseDelay
  | workerConcurrency
  | healthPort
  | shutdownGrace
  | leaseTtl
  | leaseRenew
  deriving DecidableEq, Repr

namespace Variable

/-- The variables in the order they are read. -/
def all : List Variable :=
  [resync, apiTimeout, probeTimeout, probeConcurrency, splitBrainGrace, repairCooldown,
    configDebounce, retryAttempts, retryBaseDelay, workerConcurrency, healthPort, shutdownGrace,
    leaseTtl, leaseRenew]

/-- The name of the variable in the environment. -/
def key : Variable → String
  | resync => "NEO4J_OPERATOR_RESYNC_SECONDS"
  | apiTimeout => "NEO4J_OPERATOR_API_TIMEOUT_SECONDS"
  | probeTimeout => "NEO4J_OPERATOR_PROBE_TIMEOUT_SECONDS"
  | probeConcurrency => "NEO4J_OPERATOR_PROBE_CONCURRENCY"
  | splitBrainGrace => "NEO4J_OPERATOR_SPLIT_BRAIN_GRACE_SECONDS"
  | repairCooldown => "NEO4J_OPERATOR_REPAIR_COOLDOWN_SECONDS"
  | configDebounce => "NEO4J_OPERATOR_CONFIG_DEBOUNCE_SECONDS"
  | retryAttempts => "NEO4J_OPERATOR_CONFLICT_RETRY_ATTEMPTS"
  | retryBaseDelay => "NEO4J_OPERATOR_CONFLICT_RETRY_BASE_DELAY_MS"
  | workerConcurrency => "NEO4J_OPERATOR_WORKER_CONCURRENCY"
  | healthPort => "NEO4J_OPERATOR_HEALTH_PORT"
  | shutdownGrace => "NEO4J_OPERATOR_SHUTDOWN_GRACE_SECONDS"
  | leaseTtl => "NEO4J_OPERATOR_LEASE_TTL_SECONDS"
  | leaseRenew => "NEO4J_OPERATOR_LEASE_RENEW_SECONDS"

/-- The value when the variable is not set. -/
def fallback : Variable → Nat
  | resync => 45
  | apiTimeout => 10
  | probeTimeout => 5
  | probeConcurrency => 8
  | splitBrainGrace => 180
  | repairCooldown => 300
  | configDebounce => 120
  | retryAttempts => 5
  | retryBaseDelay => 100
  | workerConcurrency => 4
  | healthPort => 8080
  | shutdownGrace => 5
  | leaseTtl => 15
  | leaseRenew => 5

/-- The largest number that the variable may hold. -/
def largest : Variable → Nat
  | retryAttempts => 4294967295
  | workerConcurrency | healthPort => 65535
  | _ => 18446744073709551615

/-- The number that a smaller one is raised to. -/
def smallest : Variable → Nat
  | probeConcurrency | retryAttempts | workerConcurrency => 1
  | _ => 0

end Variable

/-- A variable whose value is refused. The value is told as it was given, and the operator does not
start. -/
structure SettingsError where
  key : String
  /-- The value as it was given. -/
  value : String
  reason : String
  deriving DecidableEq, Repr

def SettingsError.message (e : SettingsError) : String :=
  "invalid value " ++ Text.quoted e.value ++ " for " ++ e.key ++ ": " ++ e.reason

/-- The environment: the value of every variable that is set. -/
abbrev Environment := String → Option String

namespace Variable

/-- The number that a variable holds, before it is raised. -/
def read (v : Variable) (env : Environment) : Except SettingsError Nat :=
  match env v.key with
  | none => .ok v.fallback
  | some value =>
    match Text.natUpTo v.largest (Text.trimBlanks value.toList) with
    | .ok n => .ok n
    | .error fault => .error ⟨v.key, value, fault.message⟩

/-- The refusal of a variable, if it is refused. -/
def fault? (v : Variable) (env : Environment) : Option SettingsError :=
  match v.read env with
  | .ok _ => none
  | .error e => some e

/-- The value of a variable; the default if it is refused. -/
def value (v : Variable) (env : Environment) : Nat :=
  match v.read env with
  | .ok n => max n v.smallest
  | .error _ => v.fallback

end Variable

/-! ## Settings -/

/-- The lease by which one of several operators is chosen. -/
structure LeaseSettings where
  name : String := "neo4j-operator-leader"
  «namespace» : String := "default"
  /-- Who holds the lease; absent when the operator does not know its own name. -/
  holder : Option String := none
  /-- The seconds for which the lease is valid. -/
  ttl : Nat := 15
  /-- The seconds after which the lease is renewed. -/
  renew : Nat := 5
  deriving DecidableEq, Repr

/-- The settings of the operator. Times are in seconds. -/
structure Settings where
  resyncInterval : Nat := 45
  apiTimeout : Nat := 10
  /-- How long one server may take to answer a query. -/
  probeTimeout : Nat := 5
  /-- How many servers are asked at the same time. -/
  probeConcurrency : Nat := 8
  splitBrainGrace : Nat := 180
  repairCooldown : Nat := 300
  configDebounce : Nat := 120
  conflictRetryAttempts : Nat := 5
  conflictRetryBaseDelayMillis : Nat := 100
  workerConcurrency : Nat := 4
  healthPort : Nat := 8080
  shutdownGrace : Nat := 5
  lease : LeaseSettings := {}
  deriving DecidableEq, Repr

def firstFault? (env : Environment) : Option SettingsError :=
  Variable.all.findSome? (·.fault? env)

def LeaseSettings.ofEnvironment (env : Environment) : LeaseSettings :=
  { name := (env "NEO4J_OPERATOR_LEASE_NAME").getD "neo4j-operator-leader"
    «namespace» := (env "POD_NAMESPACE").getD "default"
    holder := (env "POD_NAME").filter (!·.isEmpty)
    ttl := Variable.leaseTtl.value env
    renew := Variable.leaseRenew.value env }

/-- The settings that an environment asks for; defaults stand in for what is refused. -/
def Settings.ofEnvironment (env : Environment) : Settings :=
  { resyncInterval := Variable.resync.value env
    apiTimeout := Variable.apiTimeout.value env
    probeTimeout := Variable.probeTimeout.value env
    probeConcurrency := Variable.probeConcurrency.value env
    splitBrainGrace := Variable.splitBrainGrace.value env
    repairCooldown := Variable.repairCooldown.value env
    configDebounce := Variable.configDebounce.value env
    conflictRetryAttempts := Variable.retryAttempts.value env
    conflictRetryBaseDelayMillis := Variable.retryBaseDelay.value env
    workerConcurrency := Variable.workerConcurrency.value env
    healthPort := Variable.healthPort.value env
    shutdownGrace := Variable.shutdownGrace.value env
    lease := .ofEnvironment env }

/-- Why a lease cannot be kept. -/
def LeaseSettings.fault? (lease : LeaseSettings) : Option SettingsError :=
  if lease.renew = 0 ∨ lease.ttl ≤ lease.renew then
    some ⟨Variable.leaseRenew.key, toString lease.renew,
      "must be positive and shorter than the " ++ toString lease.ttl ++ "s lease"⟩
  else none

/-- Loads the settings of an environment. The first refusal counts: an operator with a setting that
it cannot read does not start with a default in its place. -/
def Settings.load (env : Environment) : Except SettingsError Settings :=
  match firstFault? env with
  | some fault => .error fault
  | none =>
    match (LeaseSettings.ofEnvironment env).fault? with
    | some fault => .error fault
    | none => .ok (.ofEnvironment env)

/-! ## The waiting times of a cluster -/

/-- The waiting times that a cluster may override, in seconds. -/
structure Tunables where
  splitBrainGrace : Nat
  repairCooldown : Nat
  configDebounce : Nat
  deriving DecidableEq, Repr

/-- The waiting times of a cluster: its own where it declares them. -/
def Settings.tunablesFor (s : Settings) (overrides : ConsistencyOverrides) : Tunables :=
  let choose (own : Option UInt64) (shared : Nat) := (own.map UInt64.toNat).getD shared
  { splitBrainGrace := choose overrides.splitBrainGraceSeconds s.splitBrainGrace
    repairCooldown := choose overrides.repairCooldownSeconds s.repairCooldown
    configDebounce := choose overrides.configDebounceSeconds s.configDebounce }

end ClusterOperator
