import ClusterOperator.Proofs.Validation.Faults

/-!
# Exactly the valid declarations

`ClusterSpec.Valid` writes down what a declaration must satisfy, clause by clause and without the
order in which, or the functions by which, the rules are checked.

> **`validateSpec_exact`** — a declaration is accepted exactly if it is valid; the topology that it
> then yields has a constraint for every server and a quorum that the servers that may host
> primaries can reach; and a declaration that is refused is told all of its violations, each once.

A declaration without violations is a valid one (`valid_iff`), so acceptance and the list of faults
are two views of the same violations.
-/

set_option autoImplicit false

namespace ClusterOperator

/-- What a declaration must satisfy, given the version that the servers run. It is written as the
documents say it, with sets and bounds and without the order in which the rules are checked. -/
structure ClusterSpec.Valid (spec : ClusterSpec) (running : Option String) : Prop where
  servers : 1 ≤ spec.servers.toInt ∧ spec.servers.toInt ≤ 64
  hintsInRange : ∀ hint ∈ spec.roleHints, hint.InRange spec.servers
  hintsDistinct : (spec.roleHints.map RoleHint.serverIndex).Nodup
  hintsKnown : ∀ hint ∈ spec.roleHints, hint.Known
  primary : spec.HasPrimary
  maxUnavailable : 1 ≤ spec.upgradeStrategy.maxUnavailable.toInt
  stepTimeout : 0 < spec.upgradeStrategy.stepTimeoutSeconds
  keys : ∀ key ∈ spec.config.keys, KeyForm key ∧ key ∉ reservedKeys
  tag : spec.image.tag ≠ ""
  upgrade : ∀ old ∈ running, isDowngrade old spec.image.tag = false
  storageSize : QuantityForm ["Ki", "Mi", "Gi", "Ti", "Pi", "Ei"] spec.storage.size
  cpu : CpuForm spec.resources.cpu
  memory : QuantityForm ["Ki", "Mi", "Gi", "Ti"] spec.resources.memory
  auth : ∀ auth ∈ spec.auth, auth.secretRef.name ≠ "" ∧ auth.secretRef.key ≠ ""

/-- How many servers may host primaries. -/
def Topology.eligible (topology : Topology) : Nat :=
  (topology.constraints.filter Mode.allowsPrimary).length

/-- What a topology owes the declaration that yields it. With one server there is no quorum to speak
of; otherwise the quorum can be reached by the servers that may host primaries. -/
structure Topology.Suits (topology : Topology) (spec : ClusterSpec) : Prop where
  constraints : topology.constraints.length = spec.servers.toInt
  standalone : topology.deployment = .standalone ↔ spec.servers = 1
  /-- The quorum is a majority of the servers, as far as servers may host primaries. -/
  quorum : spec.servers ≠ 1 → ∃ quorum, topology.deployment = .cluster spec.servers quorum ∧
    quorum.toInt = min (spec.servers.toInt / 2 + 1) topology.eligible ∧
    1 ≤ quorum.toInt ∧ quorum.toInt ≤ topology.eligible

/-! ## Validity and violations -/

theorem nodup_map_iff {α β : Type} {f : α → β} {l : List α} :
    (l.map f).Nodup ↔ ∀ i x, l[i]? = some x → ∀ earlier ∈ l.take i, f earlier ≠ f x := by
  rw [List.nodup_iff_pairwise_ne, List.pairwise_map, List.pairwise_iff_getElem]
  constructor
  · intro h i x hx earlier hearlier
    obtain ⟨hi, rfl⟩ := List.getElem?_eq_some_iff.mp hx
    obtain ⟨j, hj, rfl⟩ := List.mem_take_iff_getElem.mp hearlier
    exact h j i _ hi (by omega)
  · intro h i j hi hj hij
    exact h j l[j] (List.getElem?_eq_getElem hj) l[i]
      (List.mem_take_iff_getElem.mpr ⟨i, by omega, rfl⟩)

theorem ClusterSpec.valid_iff {spec : ClusterSpec} {running : Option String} :
    spec.Valid running ↔ ∀ v, ¬ spec.Violates running v := by
  constructor
  · intro h v hv
    cases v with
    | servers => exact hv h.servers
    | hintOutside i hint => exact hv.2 (h.hintsInRange hint (List.mem_of_getElem? hv.1))
    | hintRepeated i hint =>
      obtain ⟨hhint, -, earlier, hearlier, heq⟩ := hv
      exact nodup_map_iff.mp h.hintsDistinct i hint hhint earlier hearlier heq
    | hintMode i hint => exact hv.2 (h.hintsKnown hint (List.mem_of_getElem? hv.1))
    | noPrimary => exact hv.2 h.primary
    | maxUnavailable => exact absurd h.maxUnavailable (Int.not_le.mpr hv)
    | stepTimeout => exact (UInt64.pos_iff_ne_zero.mp h.stepTimeout) hv
    | keyForm key => exact hv.2 (h.keys key hv.1).1
    | keyReserved key => exact (h.keys key hv.1).2 hv.2
    | emptyTag => exact h.tag hv
    | downgrade old => exact Bool.eq_false_iff.mp (h.upgrade old hv.1) hv.2
    | storageSize => exact hv h.storageSize
    | cpu => exact hv h.cpu
    | memory => exact hv h.memory
    | auth =>
      obtain ⟨auth, hauth, hempty⟩ := hv
      exact hempty.elim (h.auth auth hauth).1 (h.auth auth hauth).2
  · intro h
    have hservers := not_not.mp (h .servers)
    have hrange : ∀ i (hint : RoleHint), spec.roleHints[i]? = some hint →
        hint.InRange spec.servers := fun i hint hhint =>
      not_not.mp fun hout => h (.hintOutside i hint) ⟨hhint, hout⟩
    refine {
      servers := hservers
      hintsInRange := fun hint hhint => ?_
      hintsDistinct := nodup_map_iff.mpr fun i hint hhint earlier hearlier heq =>
        h (.hintRepeated i hint) ⟨hhint, hrange i hint hhint, earlier, hearlier, heq⟩
      hintsKnown := fun hint hhint => ?_
      primary := not_not.mp fun hnone => h .noPrimary ⟨by omega, hnone⟩
      maxUnavailable := Int.not_lt.mp (h .maxUnavailable)
      stepTimeout := ?_
      keys := fun key hkey => ⟨not_not.mp fun hform => h (.keyForm key) ⟨hkey, hform⟩,
        fun hreserved => h (.keyReserved key) ⟨hkey, hreserved⟩⟩
      tag := h .emptyTag
      upgrade := fun old hold => Bool.eq_false_iff.mpr fun hdown => h (.downgrade old) ⟨hold, hdown⟩
      storageSize := not_not.mp (h .storageSize)
      cpu := not_not.mp (h .cpu)
      memory := not_not.mp (h .memory)
      auth := fun auth hauth => ⟨fun hname => h .auth ⟨auth, hauth, .inl hname⟩,
        fun hkey => h .auth ⟨auth, hauth, .inr hkey⟩⟩ }
    · obtain ⟨i, hi⟩ := List.mem_iff_getElem?.mp hhint
      exact hrange i hint hi
    · obtain ⟨i, hi⟩ := List.mem_iff_getElem?.mp hhint
      exact not_not.mp fun hmode => h (.hintMode i hint) ⟨hi, hmode⟩
    · exact UInt64.pos_iff_ne_zero.mpr (h .stepTimeout)

/-! ## The topology of a valid declaration -/

theorem toInt_max (a b : Int32) : (max a b).toInt = max a.toInt b.toInt := by
  change (if a ≤ b then b else a).toInt = max a.toInt b.toInt
  simp only [Int32.le_iff_toInt_le]
  split <;> omega

theorem toInt_min (a b : Int32) : (min a b).toInt = min a.toInt b.toInt := by
  change (if a ≤ b then a else b).toInt = min a.toInt b.toInt
  simp only [Int32.le_iff_toInt_le]
  split <;> omega

theorem toInt_formationQuorum {servers : Int32} (eligible : Int32) (h : 0 ≤ servers.toInt) :
    (formationQuorum servers eligible).toInt =
      max (min (servers.toInt / 2 + 1) eligible.toInt) 1 := by
  have hbound := servers.toInt_lt
  have hdiv : (servers / 2).toInt = servers.toInt / 2 := by
    have htwo : (2 : Int32).toInt = 2 := by decide
    rw [Int32.toInt_div, htwo, Int.tdiv_eq_ediv_of_nonneg h]
    exact Int.bmod_eq_of_le (by omega) (by omega)
  have hhalf : (servers / 2 + 1).toInt = servers.toInt / 2 + 1 := by
    rw [Int32.toInt_add, hdiv, Int32.toInt_one]
    exact Int.bmod_eq_of_le (by omega) (by omega)
  rw [formationQuorum, toInt_max, toInt_min, hhalf, Int32.toInt_one]

section
variable {spec : ClusterSpec} {running : Option String} {topology : Topology}

theorem ClusterSpec.Accepted.suits (h : spec.Accepted running topology)
    (hprimary : spec.HasPrimary) : topology.Suits spec := by
  obtain ⟨hfew, hmany⟩ := h.servers_bounds
  have hlength : topology.constraints.length = spec.servers.toInt := by
    rw [h.length_constraints]
    omega
  have hone : spec.servers ≤ 1 ↔ spec.servers = 1 := by
    rw [Int32.le_iff_toInt_le, ← Int32.toInt_inj, Int32.toInt_one]
    omega
  have hpos : 1 ≤ topology.eligible := by
    obtain ⟨mode, hmode, hallows⟩ := hprimary
    have hconstraints := constraints_of_validateRoleHints h.hints
    rw [h.clampServers_eq] at hconstraints
    exact List.length_pos_of_mem (List.mem_filter.mpr ⟨hconstraints ▸ hmode, hallows⟩)
  have hle : topology.eligible ≤ topology.constraints.length := List.length_filter_le ..
  have heligible : (countOf (topology.constraints.filter Mode.allowsPrimary)).toInt =
      topology.eligible := by
    rw [countOf, Int32.toInt_ofNat_of_lt (by omega), ← Topology.eligible]
    omega
  have hquorum := toInt_formationQuorum
    (countOf (topology.constraints.filter Mode.allowsPrimary)) (Int.le_trans (by decide) hfew)
  rw [heligible] at hquorum
  have hdeployment := h.deployment
  rw [Deployment.ofConstraints, h.countOf_constraints] at hdeployment
  refine { constraints := hlength, standalone := ?_, quorum := fun hseveral => ?_ }
  · rw [hdeployment, ← hone]
    split <;> simp_all
  · rw [if_neg (mt hone.mp hseveral)] at hdeployment
    refine ⟨_, hdeployment, ?_⟩
    omega

/-! ## Acceptance and rejection -/

theorem specFaults_eq_nil_iff :
    specFaults spec running = [] ↔ ∃ topology, validateSpec spec running = .ok topology := by
  rw [validateSpec_eq]
  cases specFaults spec running <;> simp

theorem eq_specFaults_of_error {faults : List String}
    (h : validateSpec spec running = .error faults) :
    faults = specFaults spec running ∧ faults ≠ [] := by
  rw [validateSpec_eq] at h
  cases hfaults : specFaults spec running with
  | nil =>
    rw [hfaults] at h
    cases h
  | cons fault rest =>
    rw [hfaults] at h
    cases h
    exact ⟨rfl, List.cons_ne_nil _ _⟩

theorem specFaults_eq_nil_iff_valid (hclamp : clampServers spec.servers = spec.servers) :
    specFaults spec running = [] ↔ spec.Valid running :=
  (reports_specFaults spec running hclamp).eq_nil_iff.trans ClusterSpec.valid_iff.symm

end

/-- How the validation of a declaration answers. Acceptance is both ways, so no valid declaration is
turned away; a refusal tells of all that is wrong and of nothing else. -/
structure ClusterSpec.ExactlyValidated (spec : ClusterSpec) (running : Option String) : Prop where
  accepted : (∃ topology, validateSpec spec running = .ok topology) ↔ spec.Valid running
  topology : ∀ topology, validateSpec spec running = .ok topology → topology.Suits spec
  /-- Each violation is told once. Out of the bounds, the hints are checked against the nearest
  number of servers within. -/
  rejected : ∀ faults, validateSpec spec running = .error faults →
    0 ≤ spec.servers.toInt → spec.servers.toInt ≤ 64 →
      faults ≠ [] ∧ Reports (Violation.text spec) faults (spec.Violates running)

/-- **The valid declarations are accepted, with a topology that suits them, and all others are told
what is wrong with them.** -/
theorem validateSpec_exact (spec : ClusterSpec) (running : Option String) :
    spec.ExactlyValidated running := by
  have hvalid : ∀ topology, validateSpec spec running = .ok topology → spec.Valid running := by
    intro topology htopology
    have hclamp := (validateSpec_eq_ok_iff.mp htopology).clampServers_eq
    exact (specFaults_eq_nil_iff_valid hclamp).mp (specFaults_eq_nil_iff.mpr ⟨topology, htopology⟩)
  refine { accepted := ⟨fun ⟨topology, htopology⟩ => hvalid topology htopology, fun h => ?_⟩,
           topology := fun topology htopology => ?_,
           rejected := fun faults hfaults hfew hmany => ?_ }
  · have hclamp := clampServers_eq_self (Int.le_trans (by decide) h.servers.1) h.servers.2
    exact specFaults_eq_nil_iff.mp ((specFaults_eq_nil_iff_valid hclamp).mpr h)
  · exact (validateSpec_eq_ok_iff.mp htopology).suits (hvalid topology htopology).primary
  · obtain ⟨heq, hsome⟩ := eq_specFaults_of_error hfaults
    exact ⟨hsome, heq ▸ reports_specFaults spec running (clampServers_eq_self hfew hmany)⟩

/-- A declaration whose volumes are a number of bytes. -/
def unitlessSpec : ClusterSpec := { storage := { size := "10" } }

/-- A size without a unit is accepted, although the fault that tells of the form of a size asks for
one. -/
theorem unitless_size_accepted :
    (∃ topology, validateSpec unitlessSpec none = .ok topology) ∧
      ¬ ∃ number, ∃ unit ∈ ["Ki", "Mi", "Gi", "Ti", "Pi", "Ei"],
        unitlessSpec.storage.size.toList = number ++ unit.toList ∧ IsNumber number := by
  constructor
  · exact ⟨⟨.cluster 3 2, List.replicate 3 .unrestricted⟩, by decide⟩
  · rintro ⟨number, unit, hunit, heq, -⟩
    have hlast : unit.toList.getLast? = some 'i' := by
      simp only [List.mem_cons, List.not_mem_nil, or_false] at hunit
      rcases hunit with rfl | rfl | rfl | rfl | rfl | rfl <;> rfl
    have hend := congrArg List.getLast? heq
    rw [List.getLast?_append, hlast, Option.some_or] at hend
    exact absurd hend (by decide)

end ClusterOperator
