import ClusterOperator.Validation

/-!
# What is known of a declaration that is accepted

A declaration is accepted if no rule finds a fault in it, and then its topology is that of its
effective constraints:

> **`validateSpec_eq_ok_iff`** — a declaration yields a topology exactly if it is `Accepted` with
> it.

Whatever is built from a declaration is built after it was accepted, so what the builders may count
on is derived here: how many constraints there are, which deployment they make, and of which
characters the user's keys consist.
-/

set_option autoImplicit false

namespace ClusterOperator

/-- That no rule finds a fault in a declaration, and that a topology is that of its constraints. It
is the form in which acceptance is used: each rule can be asked for by itself. -/
structure ClusterSpec.Accepted (spec : ClusterSpec) (running : Option String)
    (topology : Topology) : Prop where
  servers : serversFaults spec.servers = []
  hints : validateRoleHints (clampServers spec.servers) spec.mode spec.roleHints =
    .ok topology.constraints
  strategy : strategyFaults spec.upgradeStrategy = []
  keys : spec.config.keys.flatMap keyFaults = []
  tag : tagFaults running spec.image.tag = []
  resources : resourceFaults spec = []
  auth : authFaults spec.auth = []
  deployment : topology.deployment = .ofConstraints topology.constraints

section
variable {spec : ClusterSpec} {running : Option String} {topology : Topology}

theorem validateSpec_eq_ok_iff :
    validateSpec spec running = .ok topology ↔ spec.Accepted running topology := by
  constructor
  · intro h
    unfold validateSpec at h
    dsimp only at h
    split at h
    · rename_i constraints faults hhints hnone
      cases h
      simp only [List.append_eq_nil_iff] at hnone
      obtain ⟨⟨⟨⟨⟨⟨hservers, -⟩, hstrategy⟩, hkeys⟩, htag⟩, hresources⟩, hauth⟩ := hnone
      exact ⟨hservers, hhints, hstrategy, hkeys, htag, hresources, hauth, rfl⟩
    · cases h
  · rintro ⟨hservers, hhints, hstrategy, hkeys, htag, hresources, hauth, hdeployment⟩
    obtain ⟨deployment, constraints⟩ := topology
    unfold validateSpec
    simp only [hservers, hhints, hstrategy, hkeys, htag, hresources, hauth, List.append_nil]
    rw [← hdeployment]

theorem validateCluster_eq_ok_iff {cluster : Cluster} :
    validateCluster cluster running = .ok topology ↔
      nameFaults cluster.name = [] ∧ cluster.spec.Accepted running topology := by
  rw [← validateSpec_eq_ok_iff]
  unfold validateCluster
  constructor
  · intro h
    split at h
    · rename_i hname hspec
      cases h
      exact ⟨hname, hspec⟩
    · cases h
    · cases h
  · rintro ⟨hname, hspec⟩
    rw [hname, hspec]

/-! ## Keys -/

theorem keyFaults_eq_nil_iff {key : String} :
    keyFaults key = [] ↔ isConfigKey key = true ∧ key ∉ reservedKeys := by
  unfold keyFaults
  cases isConfigKey key <;> simp

/-- The characters that a key may consist of. -/
def isKeyChar (c : Char) : Bool := c.isLower || c.isDigit || c == '_' || c == '.'

theorem exists_toList_of_isConfigKey {key : String} (h : isConfigKey key = true) :
    ∃ first rest, key.toList = first :: rest ∧ first.isLower = true ∧
      ∀ c ∈ rest, isKeyChar c = true := by
  unfold isConfigKey at h
  split at h
  · rename_i first rest heq
    obtain ⟨hfirst, hrest⟩ := Bool.and_eq_true_iff.mp h
    exact ⟨first, rest, heq, hfirst, List.all_eq_true.mp hrest⟩
  · cases h

theorem isKeyChar_of_isConfigKey {key : String} (h : isConfigKey key = true) {c : Char}
    (hc : c ∈ key.toList) : isKeyChar c = true := by
  obtain ⟨first, rest, heq, hfirst, hrest⟩ := exists_toList_of_isConfigKey h
  rw [heq] at hc
  rcases List.mem_cons.mp hc with rfl | hc
  · simp [isKeyChar, hfirst]
  · exact hrest c hc

theorem not_mem_of_isConfigKey {key : String} {c : Char} (h : isConfigKey key = true)
    (hc : isKeyChar c = false) : c ∉ key.toList := by
  intro hmem
  rw [isKeyChar_of_isConfigKey h hmem] at hc
  cases hc

/-! ## Constraints -/

theorem constraints_of_validateRoleHints {servers : Int32} {default : Mode} {hints : List RoleHint}
    {constraints : List Mode} (h : validateRoleHints servers default hints = .ok constraints) :
    constraints = effectiveConstraints servers default (knownHints hints) := by
  unfold validateRoleHints at h
  dsimp only at h
  split at h
  · cases h
    rfl
  · cases h

theorem length_effectiveConstraints (servers : Int32) (default : Mode)
    (hints : List (Int32 × Mode)) :
    (effectiveConstraints servers default hints).length = servers.toInt.toNat := by
  simp [effectiveConstraints, ordinals]

theorem mem_ordinals {servers : Int32} {i : Ordinal} :
    i ∈ ordinals servers ↔ 0 ≤ i ∧ i < servers := by
  have hbound := Int32.toInt_lt servers
  unfold ordinals
  rw [List.mem_map, Int32.le_iff_toInt_le, Int32.lt_iff_toInt_lt]
  constructor
  · rintro ⟨n, hn, rfl⟩
    rw [List.mem_range] at hn
    rw [Int32.toInt_ofNat_of_lt (by omega)]
    exact ⟨Int.natCast_nonneg n, by omega⟩
  · rintro ⟨hpos, hlt⟩
    have hzero : (0 : Int32).toInt = 0 := rfl
    rw [hzero] at hpos
    refine ⟨i.toInt.toNat, List.mem_range.mpr (by omega), Int32.toInt_inj.mp ?_⟩
    rw [Int32.toInt_ofNat_of_lt (by omega)]
    omega

theorem clampServers_eq_self {servers : Int32} (hfew : 0 ≤ servers.toInt)
    (hmany : servers.toInt ≤ 64) : clampServers servers = servers := by
  unfold clampServers maxServers
  have hmin : min servers 64 = servers := if_pos (Int32.le_iff_toInt_le.mpr hmany)
  rw [hmin]
  exact if_pos (Int32.le_iff_toInt_le.mpr (Int.le_trans (by decide) hfew))

namespace ClusterSpec.Accepted

variable (h : spec.Accepted running topology)
include h

theorem isConfigKey {key : String} (hkey : key ∈ spec.config.keys) :
    isConfigKey key = true ∧ key ∉ reservedKeys :=
  keyFaults_eq_nil_iff.mp (List.flatMap_eq_nil_iff.mp h.keys key hkey)

theorem servers_bounds : 1 ≤ spec.servers.toInt ∧ spec.servers.toInt ≤ 64 := by
  have hservers := h.servers
  unfold serversFaults at hservers
  split at hservers
  · cases hservers
  · rename_i hfew
    split at hservers
    · cases hservers
    · rename_i hmany
      exact ⟨Int32.le_iff_toInt_le.mp (Int32.not_lt.mp hfew),
        Int32.le_iff_toInt_le.mp (Int32.not_lt.mp hmany)⟩

theorem clampServers_eq : clampServers spec.servers = spec.servers := by
  obtain ⟨hfew, hmany⟩ := h.servers_bounds
  exact clampServers_eq_self (Int.le_trans (by decide) hfew) hmany

theorem length_constraints : topology.constraints.length = spec.servers.toInt.toNat := by
  rw [constraints_of_validateRoleHints h.hints, length_effectiveConstraints, h.clampServers_eq]

theorem countOf_constraints : countOf topology.constraints = spec.servers := by
  obtain ⟨hfew, hmany⟩ := h.servers_bounds
  unfold countOf
  rw [h.length_constraints, Nat.min_eq_left (by omega)]
  refine Int32.toInt_inj.mp ?_
  rw [Int32.toInt_ofNat_of_lt (by omega)]
  omega

theorem deployment_cases : (spec.servers.toInt = 1 ∧ topology.deployment = .standalone) ∨
    (2 ≤ spec.servers.toInt ∧ ∃ quorum, topology.deployment = .cluster spec.servers quorum) := by
  obtain ⟨hfew, -⟩ := h.servers_bounds
  rw [h.deployment]
  unfold Deployment.ofConstraints
  rw [h.countOf_constraints]
  split
  · rename_i hone
    have hle : spec.servers.toInt ≤ 1 := Int32.le_iff_toInt_le.mp hone
    exact .inl ⟨by omega, rfl⟩
  · rename_i hone
    have hlt : ¬ spec.servers.toInt ≤ 1 := fun hle => hone (Int32.le_iff_toInt_le.mpr hle)
    exact .inr ⟨by omega, _, rfl⟩

theorem servers_eq : topology.servers = spec.servers := by
  unfold Topology.servers
  rcases h.deployment_cases with ⟨hone, heq⟩ | ⟨-, quorum, heq⟩
  · rw [heq]
    exact Int32.toInt_inj.mp hone.symm
  · rw [heq]
    rfl

end ClusterSpec.Accepted

end

end ClusterOperator
