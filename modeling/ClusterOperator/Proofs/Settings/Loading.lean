import Mathlib.Algebra.Group.Nat.Defs
import ClusterOperator.Proofs.Text.Blanks
import ClusterOperator.Settings

/-!
# Loading the settings

The environment of the operator is written by hand, so a slip in it has to be told apart from a
default. What is loaded, and what is reported when nothing is, is said by the table of the numeric
settings, with the variable of each, its range and its default:

> **`faithful_load`** — the settings are loaded exactly if every variable that is set is a number of
> its range and the lease outlives the interval of its renewal. Then every setting is its number or
> its default, raised to the least it may be; and else the first variable is reported that is no
> such number, or the interval if there is none.

The reader of one variable does not know the others (`read_eq_ok_iff`). That the first fault counts
is a matter of the list that the variables are read by.
-/

set_option autoImplicit false

namespace ClusterOperator

open Text

/-! ## The numeric settings -/

/-- A numeric setting: the variable that it is read from, the bits of its range, its default, the
least number that it is raised to, and the setting itself. The list of them is written out here and
not taken from the program, so that it can be compared with what is documented. -/
structure NumericSetting where
  key : String
  bits : Nat
  default : Nat
  least : Nat
  number : Settings → Nat

namespace NumericSetting

/-- The seconds for which the lease is valid. -/
def leaseTtl : NumericSetting :=
  ⟨"NEO4J_OPERATOR_LEASE_TTL_SECONDS", 64, 15, 0, (·.lease.ttl)⟩

/-- The seconds after which it is renewed. -/
def leaseRenew : NumericSetting :=
  ⟨"NEO4J_OPERATOR_LEASE_RENEW_SECONDS", 64, 5, 0, (·.lease.renew)⟩

/-- The numeric settings in the order they are read. -/
def all : List NumericSetting := [
  ⟨"NEO4J_OPERATOR_RESYNC_SECONDS", 64, 45, 0, (·.resyncInterval)⟩,
  ⟨"NEO4J_OPERATOR_API_TIMEOUT_SECONDS", 64, 10, 0, (·.apiTimeout)⟩,
  ⟨"NEO4J_OPERATOR_PROBE_TIMEOUT_SECONDS", 64, 5, 0, (·.probeTimeout)⟩,
  ⟨"NEO4J_OPERATOR_PROBE_CONCURRENCY", 64, 8, 1, (·.probeConcurrency)⟩,
  ⟨"NEO4J_OPERATOR_SPLIT_BRAIN_GRACE_SECONDS", 64, 180, 0, (·.splitBrainGrace)⟩,
  ⟨"NEO4J_OPERATOR_REPAIR_COOLDOWN_SECONDS", 64, 300, 0, (·.repairCooldown)⟩,
  ⟨"NEO4J_OPERATOR_CONFIG_DEBOUNCE_SECONDS", 64, 120, 0, (·.configDebounce)⟩,
  ⟨"NEO4J_OPERATOR_CONFLICT_RETRY_ATTEMPTS", 32, 5, 1, (·.conflictRetryAttempts)⟩,
  ⟨"NEO4J_OPERATOR_CONFLICT_RETRY_BASE_DELAY_MS", 64, 100, 0, (·.conflictRetryBaseDelayMillis)⟩,
  ⟨"NEO4J_OPERATOR_WORKER_CONCURRENCY", 16, 4, 1, (·.workerConcurrency)⟩,
  ⟨"NEO4J_OPERATOR_HEALTH_PORT", 16, 8080, 0, (·.healthPort)⟩,
  ⟨"NEO4J_OPERATOR_SHUTDOWN_GRACE_SECONDS", 64, 5, 0, (·.shutdownGrace)⟩,
  leaseTtl, leaseRenew]

/-- That the variable of a setting, if it is set, holds a number of its range. -/
def Parses (setting : NumericSetting) (env : Environment) : Prop :=
  ∀ text, env setting.key = some text → ∃ n, Holds text n ∧ n < 2 ^ setting.bits

/-- That a number is what an environment asks for: the one that the variable holds, or the default
if it is not set. -/
def Asks (setting : NumericSetting) (env : Environment) (n : Nat) : Prop :=
  (env setting.key = none ∧ n = setting.default) ∨
    ∃ text, env setting.key = some text ∧ Holds text n ∧ n < 2 ^ setting.bits

end NumericSetting

/-- What is loaded from an environment, and what is reported. All variables are treated alike, so
the clauses speak of every numeric setting at once; only the lease has a condition of its own. -/
structure Faithful (env : Environment) (loaded : Except SettingsError Settings) : Prop where
  /-- Settings are loaded exactly if every variable that is set holds a number of its range, and the
  lease is renewed before it ends. -/
  accepted : (∃ s, loaded = .ok s) ↔ (∀ setting ∈ NumericSetting.all, setting.Parses env) ∧
    ∃ ttl renew, NumericSetting.leaseTtl.Asks env ttl ∧ NumericSetting.leaseRenew.Asks env renew ∧
      0 < renew ∧ renew < ttl
  /-- Every setting is the number that was asked for, or the least that it may be. -/
  settled : ∀ s, loaded = .ok s →
    (∀ setting ∈ NumericSetting.all, ∃ n, setting.Asks env n ∧
      setting.number s = max n setting.least) ∧
    s.lease.name = (env "NEO4J_OPERATOR_LEASE_NAME").getD "neo4j-operator-leader" ∧
    s.lease.namespace = (env "POD_NAMESPACE").getD "default" ∧
    ∀ name, s.lease.holder = some name ↔ env "POD_NAME" = some name ∧ name ≠ ""
  /-- The first variable is reported that holds no number of its range, with what it holds; and if
  all hold one, the interval at which the lease is renewed, with its seconds. -/
  reported : ∀ e, loaded = .error e →
    (∃ before setting after, NumericSetting.all = before ++ setting :: after ∧
      (∀ earlier ∈ before, earlier.Parses env) ∧ ¬ setting.Parses env ∧
      e.key = setting.key ∧ env setting.key = some e.value) ∨
    ((∀ setting ∈ NumericSetting.all, setting.Parses env) ∧
      e.key = NumericSetting.leaseRenew.key ∧
      ∃ renew, NumericSetting.leaseRenew.Asks env renew ∧ e.value = toString renew)

/-! ## One variable -/

namespace Variable

/-- The bits of the range of a variable. -/
def bits : Variable → Nat
  | retryAttempts => 32
  | workerConcurrency | healthPort => 16
  | _ => 64

/-- The setting that a variable is read for. -/
def number : Variable → Settings → Nat
  | resync => (·.resyncInterval)
  | apiTimeout => (·.apiTimeout)
  | probeTimeout => (·.probeTimeout)
  | probeConcurrency => (·.probeConcurrency)
  | splitBrainGrace => (·.splitBrainGrace)
  | repairCooldown => (·.repairCooldown)
  | configDebounce => (·.configDebounce)
  | retryAttempts => (·.conflictRetryAttempts)
  | retryBaseDelay => (·.conflictRetryBaseDelayMillis)
  | workerConcurrency => (·.workerConcurrency)
  | healthPort => (·.healthPort)
  | shutdownGrace => (·.shutdownGrace)
  | leaseTtl => (·.lease.ttl)
  | leaseRenew => (·.lease.renew)

/-- A variable as a numeric setting. -/
def setting (v : Variable) : NumericSetting := ⟨v.key, v.bits, v.fallback, v.smallest, v.number⟩

theorem map_setting_all : all.map setting = NumericSetting.all := rfl

variable {v : Variable} {env : Environment} {n : Nat} {e : SettingsError}

theorem le_largest_iff : n ≤ v.largest ↔ n < 2 ^ v.bits := by
  cases v <;> simp only [largest, bits] <;> omega

theorem read_eq_ok_iff : v.read env = .ok n ↔ v.setting.Asks env n := by
  unfold NumericSetting.Asks
  show _ ↔ env v.key = none ∧ n = v.fallback ∨
    ∃ text, env v.key = some text ∧ Holds text n ∧ n < 2 ^ v.bits
  unfold read
  cases henv : env v.key with
  | none => simp [eq_comm]
  | some text =>
    simp only [reduceCtorEq, false_and, false_or, Option.some.injEq, exists_eq_left',
      ← le_largest_iff, ← natUpTo_trimBlanks_eq_ok_iff]
    split
    · rename_i m hm
      rw [hm]
      simp
    · rename_i fault hfault
      rw [hfault]
      simp

theorem parses_iff : v.setting.Parses env ↔ ∃ n, v.setting.Asks env n := by
  unfold NumericSetting.Parses NumericSetting.Asks
  cases henv : env v.setting.key with
  | none => simp
  | some text => simp

theorem fault?_eq_none_iff : v.fault? env = none ↔ v.setting.Parses env := by
  rw [parses_iff]
  simp only [← read_eq_ok_iff]
  unfold fault?
  cases v.read env with
  | ok n => simp
  | error e => simp

theorem of_fault?_eq_some (h : v.fault? env = some e) :
    ¬ v.setting.Parses env ∧ e.key = v.key ∧ env v.key = some e.value := by
  have hnot : v.fault? env ≠ none := by
    rw [h]
    exact Option.some_ne_none e
  refine ⟨mt fault?_eq_none_iff.mpr hnot, ?_⟩
  unfold fault? read at h
  cases henv : env v.key with
  | none =>
    rw [henv] at h
    cases h
  | some text =>
    rw [henv] at h
    cases hread : natUpTo v.largest (trimBlanks text.toList) with
    | ok m =>
      simp only [hread] at h
      cases h
    | error fault =>
      simp only [hread] at h
      cases h
      exact ⟨rfl, rfl⟩

theorem value_of_asks (h : v.setting.Asks env n) : v.value env = max n v.smallest := by
  unfold value
  rw [read_eq_ok_iff.mpr h]

theorem smallest_le_fallback (v : Variable) : v.smallest ≤ v.fallback := by
  cases v <;> decide

theorem fallback_le_largest (v : Variable) : v.fallback ≤ v.largest := by
  cases v <;> decide

theorem smallest_le_value (v : Variable) (env : Environment) : v.smallest ≤ v.value env := by
  unfold value
  split
  · exact Nat.le_max_right ..
  · exact v.smallest_le_fallback

/-- **A variable never holds a number above its range**, whatever the environment says. -/
theorem value_le_largest (v : Variable) (env : Environment) : v.value env ≤ v.largest := by
  have hsmallest : v.smallest ≤ v.largest :=
    Nat.le_trans v.smallest_le_fallback v.fallback_le_largest
  unfold value
  split
  · rename_i n hread
    refine Nat.max_le.mpr ⟨?_, hsmallest⟩
    rcases read_eq_ok_iff.mp hread with ⟨-, rfl⟩ | ⟨_, -, -, hrange⟩
    · exact v.fallback_le_largest
    · exact le_largest_iff.mpr hrange
  · exact v.fallback_le_largest

theorem number_ofEnvironment : v.number (.ofEnvironment env) = v.value env := by
  cases v <;> rfl

end Variable

/-! ## All of them -/

variable {env : Environment} {e : SettingsError}

theorem firstFault?_eq_none_iff :
    firstFault? env = none ↔ ∀ setting ∈ NumericSetting.all, setting.Parses env := by
  unfold firstFault?
  rw [List.findSome?_eq_none_iff, ← Variable.map_setting_all, List.forall_mem_map]
  exact forall₂_congr fun v _ => Variable.fault?_eq_none_iff

theorem of_firstFault?_eq_some (h : firstFault? env = some e) :
    ∃ before setting after, NumericSetting.all = before ++ setting :: after ∧
      (∀ earlier ∈ before, earlier.Parses env) ∧ ¬ setting.Parses env ∧
      e.key = setting.key ∧ env setting.key = some e.value := by
  obtain ⟨before, v, after, hall, hfault, hbefore⟩ := List.findSome?_eq_some_iff.mp h
  obtain ⟨hrefused, hkey, hvalue⟩ := Variable.of_fault?_eq_some hfault
  refine ⟨before.map Variable.setting, v.setting, after.map Variable.setting, ?_, ?_, hrefused,
    hkey, hvalue⟩
  · rw [← Variable.map_setting_all, hall, List.map_append, List.map_cons]
  · rw [List.forall_mem_map]
    exact fun u hu => Variable.fault?_eq_none_iff.mp (hbefore u hu)

theorem leaseFault?_eq_none_iff {lease : LeaseSettings} :
    lease.fault? = none ↔ 0 < lease.renew ∧ lease.renew < lease.ttl := by
  unfold LeaseSettings.fault?
  split
  · rename_i h
    simp only [reduceCtorEq, false_iff]
    omega
  · rename_i h
    simp only [true_iff]
    omega

/-- A number of the lease is the one that was asked for, since it is not raised. -/
theorem ttl_ofEnvironment {ttl : Nat} (h : NumericSetting.leaseTtl.Asks env ttl) :
    (LeaseSettings.ofEnvironment env).ttl = ttl :=
  (Variable.value_of_asks (v := .leaseTtl) h).trans (Nat.max_zero ttl)

theorem renew_ofEnvironment {renew : Nat} (h : NumericSetting.leaseRenew.Asks env renew) :
    (LeaseSettings.ofEnvironment env).renew = renew :=
  (Variable.value_of_asks (v := .leaseRenew) h).trans (Nat.max_zero renew)

theorem holder_ofEnvironment {name : String} :
    (LeaseSettings.ofEnvironment env).holder = some name ↔
      env "POD_NAME" = some name ∧ name ≠ "" := by
  show (env "POD_NAME").filter _ = some name ↔ _
  rw [Option.filter_eq_some_iff]
  simp

theorem load_eq_ok_iff {s : Settings} : Settings.load env = .ok s ↔
    firstFault? env = none ∧ (LeaseSettings.ofEnvironment env).fault? = none ∧
      .ofEnvironment env = s := by
  unfold Settings.load
  cases firstFault? env with
  | some fault => simp
  | none =>
    cases (LeaseSettings.ofEnvironment env).fault? with
    | some fault => simp
    | none => simp

theorem load_eq_error_iff : Settings.load env = .error e ↔ firstFault? env = some e ∨
    firstFault? env = none ∧ (LeaseSettings.ofEnvironment env).fault? = some e := by
  unfold Settings.load
  cases firstFault? env with
  | some fault => simp
  | none =>
    cases (LeaseSettings.ofEnvironment env).fault? with
    | some fault => simp
    | none => simp

/-- If every variable holds a number of its range, the lease asks for two. -/
theorem exists_lease_asks (h : ∀ setting ∈ NumericSetting.all, setting.Parses env) :
    ∃ ttl renew,
      NumericSetting.leaseTtl.Asks env ttl ∧ NumericSetting.leaseRenew.Asks env renew := by
  have hasks : ∀ v : Variable, v ∈ Variable.all → ∃ n, v.setting.Asks env n := fun v hv =>
    Variable.parses_iff.mp <| h v.setting <| by
      rw [← Variable.map_setting_all]
      exact List.mem_map_of_mem hv
  obtain ⟨ttl, httl⟩ := hasks .leaseTtl (by decide)
  obtain ⟨renew, hrenew⟩ := hasks .leaseRenew (by decide)
  exact ⟨ttl, renew, httl, hrenew⟩

/-- **The settings are loaded as the environment asks for them**, or the first fault is reported.
The variables are compared with a table that gives the key, the range and the default of each. -/
theorem faithful_load (env : Environment) : Faithful env (Settings.load env) where
  accepted := by
    simp only [load_eq_ok_iff, firstFault?_eq_none_iff, leaseFault?_eq_none_iff]
    constructor
    · rintro ⟨_, hparses, hlease, rfl⟩
      -- Nothing is raised in the lease, so it is compared as it was asked for.
      obtain ⟨ttl, renew, httl, hrenew⟩ := exists_lease_asks hparses
      rw [ttl_ofEnvironment httl, renew_ofEnvironment hrenew] at hlease
      exact ⟨hparses, ttl, renew, httl, hrenew, hlease⟩
    · rintro ⟨hparses, ttl, renew, httl, hrenew, hlease⟩
      refine ⟨_, hparses, ?_, rfl⟩
      rw [ttl_ofEnvironment httl, renew_ofEnvironment hrenew]
      exact hlease
  settled := by
    intro s h
    obtain ⟨hparses, -, rfl⟩ := load_eq_ok_iff.mp h
    refine ⟨?_, rfl, rfl, fun name => holder_ofEnvironment⟩
    rw [firstFault?_eq_none_iff, ← Variable.map_setting_all, List.forall_mem_map] at hparses
    rw [← Variable.map_setting_all, List.forall_mem_map]
    intro v hv
    obtain ⟨n, hn⟩ := Variable.parses_iff.mp (hparses v hv)
    exact ⟨n, hn, Variable.number_ofEnvironment.trans (Variable.value_of_asks hn)⟩
  reported := by
    intro e h
    refine (load_eq_error_iff.mp h).imp of_firstFault?_eq_some ?_
    rintro ⟨hnone, hlease⟩
    have hparses := firstFault?_eq_none_iff.mp hnone
    obtain ⟨ttl, renew, -, hrenew⟩ := exists_lease_asks hparses
    unfold LeaseSettings.fault? at hlease
    rw [renew_ofEnvironment hrenew] at hlease
    split at hlease
    · cases hlease
      exact ⟨hparses, rfl, renew, hrenew, rfl⟩
    · cases hlease

end ClusterOperator
