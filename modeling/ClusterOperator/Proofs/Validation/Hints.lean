import ClusterOperator.Proofs.Validation.Valid

/-!
# What hints ask for

Hints are read twice. One pass looks for faults, and in it a hint counts from the first one on that
is in range, whatever its mode says. The other makes the constraints, and there a hint counts if its
mode is known, wherever its index lies. A list that mixes the faults is therefore told about in both
ways, and what each of them tells is written down here without the passes:

> **`validateRoleHints_checked`** — hints are accepted exactly if they are `ValidHints`; then every
> server has the constraint of its hint, in whatever order the hints are given; and hints that are
> refused are told their violations, in order, and none besides.

The violations of a list (`hintViolations`, `primaryViolations`) are computed from the hints before
each position alone, and what a server may host from the hints for it (`Constrains`).
-/

set_option autoImplicit false

namespace ClusterOperator

/-! ## What the hints ask of a server -/

/-- That hints ask for a mode of a server: the first hint for it whose mode is known does. -/
def Asks (hints : List RoleHint) (ordinal : Ordinal) (mode : Mode) : Prop :=
  ∃ before hint after, hints = before ++ hint :: after ∧ hint.serverIndex = ordinal ∧
    hint.mode = mode.name ∧ ∀ earlier ∈ before, earlier.serverIndex = ordinal → ¬ earlier.Known

/-- The constraint of a server: what the hints ask of it, or else what holds for all. Where several
hints are for one server the first that can be read counts, which matters only for hints that are
refused. -/
inductive Constrains (default : Mode) (hints : List RoleHint) (ordinal : Ordinal) : Mode → Prop
  | asked {mode : Mode} (h : Asks hints ordinal mode) : Constrains default hints ordinal mode
  | unasked (h : ∀ hint ∈ hints, hint.serverIndex = ordinal → ¬ hint.Known) :
    Constrains default hints ordinal default

/-- That some declared server may host primaries. -/
def HostsPrimary (servers : Int32) (default : Mode) (hints : List RoleHint) : Prop :=
  ∃ ordinal mode, 0 ≤ ordinal ∧ ordinal < servers ∧ Constrains default hints ordinal mode ∧
    mode.allowsPrimary = true

theorem Mode.name_inj {a b : Mode} : a.name = b.name ↔ a = b := by
  cases a <;> cases b <;> decide

theorem Mode.parse_eq_ok_iff {s : String} {mode : Mode} :
    Mode.parse s = .ok mode ↔ s = mode.name := by
  unfold Mode.parse
  constructor
  · intro h
    split at h
    · rename_i found hfound
      cases h
      have hname := List.find?_some hfound
      exact (beq_iff_eq.mp hname).symm
    · cases h
  · rintro rfl
    cases mode <;> rfl

theorem RoleHint.known_iff {hint : RoleHint} :
    hint.Known ↔ ∃ mode : Mode, hint.mode = mode.name := by
  unfold RoleHint.Known
  rw [List.mem_map]
  constructor
  · rintro ⟨mode, -, hname⟩
    exact ⟨mode, hname.symm⟩
  · rintro ⟨mode, hname⟩
    exact ⟨mode, by cases mode <;> decide, hname.symm⟩

section
variable {default mode : Mode} {hints : List RoleHint} {hint : RoleHint} {ordinal : Ordinal}
  {servers : Int32}

theorem knownHints_cons_of_eq (h : hint.mode = mode.name) :
    knownHints (hint :: hints) = (hint.serverIndex, mode) :: knownHints hints :=
  List.filterMap_cons_some (by rw [Mode.parse_eq_ok_iff.mpr h])

theorem knownHints_cons_of_unknown (h : ¬ hint.Known) :
    knownHints (hint :: hints) = knownHints hints := by
  refine List.filterMap_cons_none ?_
  rcases hint.parse_mode with ⟨hknown, -⟩ | ⟨-, hparse⟩
  · exact absurd hknown h
  · rw [hparse]

theorem asks_cons : Asks (hint :: hints) ordinal mode ↔
    (hint.serverIndex = ordinal ∧ hint.mode = mode.name) ∨
      ((hint.serverIndex = ordinal → ¬ hint.Known) ∧ Asks hints ordinal mode) := by
  constructor
  · rintro ⟨before, asking, after, heq, hindex, hmode, hbefore⟩
    cases before with
    | nil =>
      cases heq
      exact .inl ⟨hindex, hmode⟩
    | cons first before =>
      cases heq
      obtain ⟨hfirst, hbefore⟩ := List.forall_mem_cons.mp hbefore
      exact .inr ⟨hfirst, before, asking, after, rfl, hindex, hmode, hbefore⟩
  · rintro (⟨hindex, hmode⟩ | ⟨hfirst, before, asking, after, rfl, hindex, hmode, hbefore⟩)
    · exact ⟨[], hint, hints, rfl, hindex, hmode, by simp⟩
    · exact ⟨hint :: before, asking, after, rfl, hindex, hmode,
        List.forall_mem_cons.mpr ⟨hfirst, hbefore⟩⟩

theorem lookup_knownHints_eq_some_iff :
    (knownHints hints).lookup ordinal = some mode ↔ Asks hints ordinal mode := by
  induction hints with
  | nil => simp [knownHints, Asks]
  | cons hint rest ih =>
    rw [asks_cons]
    by_cases hknown : hint.Known
    · obtain ⟨known, hmode⟩ := RoleHint.known_iff.mp hknown
      have hsame : hint.mode = mode.name ↔ known = mode := by
        rw [hmode, Mode.name_inj]
      rw [knownHints_cons_of_eq hmode, List.lookup_cons, hsame]
      by_cases hindex : hint.serverIndex = ordinal
      · simp [hindex, hknown]
      · have hother : (ordinal == hint.serverIndex) = false := by simpa using Ne.symm hindex
        rw [hother]
        simp [hindex, ih]
    · have hmode : hint.mode ≠ mode.name := fun heq => hknown (RoleHint.known_iff.mpr ⟨mode, heq⟩)
      rw [knownHints_cons_of_unknown hknown, ih]
      simp [hknown, hmode]

theorem lookup_knownHints_eq_none_iff : (knownHints hints).lookup ordinal = none ↔
    ∀ hint ∈ hints, hint.serverIndex = ordinal → ¬ hint.Known := by
  induction hints with
  | nil => simp [knownHints]
  | cons hint rest ih =>
    rw [List.forall_mem_cons]
    by_cases hknown : hint.Known
    · obtain ⟨known, hmode⟩ := RoleHint.known_iff.mp hknown
      rw [knownHints_cons_of_eq hmode, List.lookup_cons]
      by_cases hindex : hint.serverIndex = ordinal
      · simp [hindex, hknown]
      · have hother : (ordinal == hint.serverIndex) = false := by simpa using Ne.symm hindex
        rw [hother]
        simp [hindex, ih]
    · rw [knownHints_cons_of_unknown hknown, ih]
      simp [hknown]

theorem constrains_iff : Constrains default hints ordinal mode ↔
    ((knownHints hints).lookup ordinal).getD default = mode := by
  constructor
  · rintro (h | h)
    · rw [lookup_knownHints_eq_some_iff.mpr h, Option.getD_some]
    · rw [lookup_knownHints_eq_none_iff.mpr h, Option.getD_none]
  · intro h
    cases hlookup : (knownHints hints).lookup ordinal with
    | some found =>
      rw [hlookup, Option.getD_some] at h
      exact .asked (lookup_knownHints_eq_some_iff.mp (h ▸ hlookup))
    | none =>
      rw [hlookup, Option.getD_none] at h
      exact h ▸ .unasked (lookup_knownHints_eq_none_iff.mp hlookup)

theorem any_allowsPrimary_iff :
    (effectiveConstraints servers default (knownHints hints)).any Mode.allowsPrimary = true ↔
      HostsPrimary servers default hints := by
  unfold effectiveConstraints HostsPrimary
  simp only [List.any_map, List.any_eq_true, mem_ordinals, constrains_iff, Function.comp_apply,
    exists_eq_left', exists_and_left, and_assoc]

end

instance (servers : Int32) (default : Mode) (hints : List RoleHint) :
    Decidable (HostsPrimary servers default hints) :=
  decidable_of_iff _ any_allowsPrimary_iff

/-! ## The violations of hints, in order -/

/-- How the hint at a position violates the rules, given the hints before it. -/
def hintViolationsAt (servers : Int32) (before : List RoleHint) (position : Nat) (hint : RoleHint) :
    List Violation :=
  (if ¬ hint.InRange servers then [.hintOutside position hint]
    else if ∃ earlier ∈ before, earlier.serverIndex = hint.serverIndex then
      [.hintRepeated position hint]
    else []) ++
    if hint.Known then [] else [.hintMode position hint]

/-- How the hints violate the rules, one after the other. -/
def hintViolations (servers : Int32) (hints : List RoleHint) : List Violation :=
  hints.zipIdx.flatMap fun (hint, i) => hintViolationsAt servers (hints.take i) i hint

/-- How the hints together violate the rules. -/
def primaryViolations (servers : Int32) (default : Mode) (hints : List RoleHint) : List Violation :=
  if 0 < servers ∧ ¬ HostsPrimary servers default hints then [.noPrimary] else []

section
variable {servers : Int32} {default : Mode} {hints : List RoleHint}

/-- One hint is told its violations, if the indices that have been seen are those in range of the
hints before it. -/
theorem hintFaults_eq_violations {before : List RoleHint} {seen : List Int32} (hint : RoleHint)
    (hseen : ∀ x, x ∈ seen ↔
      ∃ earlier ∈ before, earlier.InRange servers ∧ earlier.serverIndex = x) :
    (hintFaults servers before.length seen hint).1 =
      (hintViolationsAt servers before before.length hint).map (Violation.text { servers }) := by
  have hrepeated (hrange : hint.InRange servers) : hint.serverIndex ∈ seen ↔
      ∃ earlier ∈ before, earlier.serverIndex = hint.serverIndex := by
    refine (hseen _).trans (exists_congr fun earlier => and_congr_right fun _ => ?_)
    refine ⟨And.right, fun heq => ⟨?_, heq⟩⟩
    rwa [RoleHint.InRange, heq]
  have hfaults := congrArg Prod.fst (hintFaults_eq { servers } before.length seen hint)
  rw [hfaults, hintViolationsAt, List.map_append]
  -- The hint is compared with the earlier ones only if it is in range, and then all that count are
  -- in range too.
  by_cases hrange : hint.InRange servers
  · simp only [hrange, hrepeated hrange, if_true, not_true, if_false]
    congr 1
    · split <;> rfl
    · split <;> rfl
  · simp only [hrange, if_false, not_false_eq_true, if_true]
    congr 1
    split <;> rfl

/-- The induction is on the hints that are left; of those before, the indices in range have been
seen. -/
theorem hintsFaults_eq_violations_from (hints : List RoleHint) :
    ∀ (before : List RoleHint) (seen : List Int32) (_ : ∀ x, x ∈ seen ↔
        ∃ earlier ∈ before, earlier.InRange servers ∧ earlier.serverIndex = x),
      hintsFaults servers before.length seen hints =
        ((hints.zipIdx before.length).flatMap fun (hint, i) =>
          hintViolationsAt servers ((before ++ hints).take i) i hint).map
            (Violation.text { servers }) := by
  induction hints with
  | nil =>
    intro before seen _
    rfl
  | cons hint rest ih =>
    intro before seen hseen
    -- The hint joins those before it, and its index those that have been seen if it is in range.
    have hrest := ih (before ++ [hint]) (hintFaults servers before.length seen hint).2
      fun x => by
        rw [mem_seen_hintFaults { servers }]
        simp only [hseen, List.mem_append, List.mem_singleton, or_and_right, exists_or,
          exists_eq_left]
    rw [List.length_append, List.length_singleton, ← List.append_cons] at hrest
    have hfirst : (before ++ hint :: rest).take before.length = before := List.take_left
    rw [hintsFaults, List.zipIdx_cons, List.flatMap_cons, List.map_append, ← hrest]
    dsimp only
    rw [hfirst, hintFaults_eq_violations hint hseen]

/-- **The faults of hints are the texts of their violations, in order.** -/
theorem hintsFaults_eq_violations (servers : Int32) (hints : List RoleHint) :
    hintsFaults servers 0 [] hints =
      (hintViolations servers hints).map (Violation.text { servers }) :=
  hintsFaults_eq_violations_from hints [] [] (by simp)

theorem primaryFaults_eq_violations :
    primaryFaults servers (effectiveConstraints servers default (knownHints hints)) =
      (primaryViolations servers default hints).map (Violation.text { servers }) := by
  have hnone : (servers > 0 && !(effectiveConstraints servers default (knownHints hints)).any
      Mode.allowsPrimary) = true ↔ 0 < servers ∧ ¬ HostsPrimary servers default hints := by
    rw [Bool.and_eq_true_iff, decide_eq_true_iff, Bool.not_eq_true', ← Bool.not_eq_true,
      any_allowsPrimary_iff, gt_iff_lt]
  unfold primaryFaults primaryViolations
  simp only [hnone]
  split <;> rfl

theorem validateRoleHints_eq : validateRoleHints servers default hints =
    let violations := hintViolations servers hints ++ primaryViolations servers default hints
    if violations.isEmpty then .ok (effectiveConstraints servers default (knownHints hints))
    else .error (violations.map (Violation.text { servers })) := by
  have hfaults : hintsFaults servers 0 [] hints ++
      primaryFaults servers (effectiveConstraints servers default (knownHints hints)) =
        (hintViolations servers hints ++ primaryViolations servers default hints).map
          (Violation.text { servers }) := by
    rw [hintsFaults_eq_violations, primaryFaults_eq_violations, ← List.map_append]
  unfold primaryFaults at hfaults
  unfold validateRoleHints
  dsimp only
  rw [hfaults]
  cases hintViolations servers hints ++ primaryViolations servers default hints <;> rfl

end

/-! ## Valid hints -/

/-- What hints must satisfy. The last condition is about the servers and not about single hints:
each hint may be right and still all of them together leave no server for primaries. -/
structure ValidHints (servers : Int32) (default : Mode) (hints : List RoleHint) : Prop where
  inRange : ∀ hint ∈ hints, hint.InRange servers
  distinct : (hints.map RoleHint.serverIndex).Nodup
  known : ∀ hint ∈ hints, hint.Known
  primary : 0 < servers → HostsPrimary servers default hints

section
variable {servers : Int32} {default : Mode} {hints others : List RoleHint}

theorem hintViolationsAt_eq_nil_iff {before : List RoleHint} {i : Nat} {hint : RoleHint} :
    hintViolationsAt servers before i hint = [] ↔ hint.InRange servers ∧
      (∀ earlier ∈ before, earlier.serverIndex ≠ hint.serverIndex) ∧ hint.Known := by
  unfold hintViolationsAt
  rw [List.append_eq_nil_iff, ← and_assoc]
  refine and_congr ?_ (by simp)
  by_cases hrange : hint.InRange servers
  · simp [hrange]
  · simp [hrange]

theorem hintViolations_eq_nil_iff : hintViolations servers hints = [] ↔
    (∀ hint ∈ hints, hint.InRange servers) ∧ (hints.map RoleHint.serverIndex).Nodup ∧
      ∀ hint ∈ hints, hint.Known := by
  unfold hintViolations
  rw [List.flatMap_eq_nil_iff, nodup_map_iff]
  simp only [Prod.forall, List.mem_zipIdx_iff_getElem?, hintViolationsAt_eq_nil_iff]
  constructor
  · intro h
    refine ⟨fun hint hhint => ?_, fun i hint hi => (h hint i hi).2.1, fun hint hhint => ?_⟩
    · obtain ⟨i, hi⟩ := List.mem_iff_getElem?.mp hhint
      exact (h hint i hi).1
    · obtain ⟨i, hi⟩ := List.mem_iff_getElem?.mp hhint
      exact (h hint i hi).2.2
  · rintro ⟨hrange, hdistinct, hknown⟩ hint i hi
    have hhint := List.mem_of_getElem? hi
    exact ⟨hrange hint hhint, hdistinct i hint hi, hknown hint hhint⟩

theorem primaryViolations_eq_nil_iff : primaryViolations servers default hints = [] ↔
    (0 < servers → HostsPrimary servers default hints) := by
  unfold primaryViolations
  split
  · rename_i h
    simp [h.1, h.2]
  · rename_i h
    simpa using h

theorem validHints_iff : ValidHints servers default hints ↔
    hintViolations servers hints ++ primaryViolations servers default hints = [] := by
  rw [List.append_eq_nil_iff, hintViolations_eq_nil_iff, primaryViolations_eq_nil_iff]
  exact ⟨fun h => ⟨⟨h.inRange, h.distinct, h.known⟩, h.primary⟩,
    fun ⟨⟨hrange, hdistinct, hknown⟩, hprimary⟩ => ⟨hrange, hdistinct, hknown, hprimary⟩⟩

theorem validateRoleHints_eq_ok_iff {constraints : List Mode} :
    validateRoleHints servers default hints = .ok constraints ↔
      ValidHints servers default hints ∧
        constraints = effectiveConstraints servers default (knownHints hints) := by
  rw [validateRoleHints_eq, validHints_iff]
  cases hintViolations servers hints ++ primaryViolations servers default hints with
  | nil => simp [eq_comm]
  | cons violation rest => simp

/-! ## The constraints of valid hints -/

section
variable {ordinal : Ordinal} {mode : Mode}

theorem asks_iff_of_distinct (hdistinct : (hints.map RoleHint.serverIndex).Nodup) :
    Asks hints ordinal mode ↔
      ∃ hint ∈ hints, hint.serverIndex = ordinal ∧ hint.mode = mode.name := by
  constructor
  · rintro ⟨before, hint, after, rfl, hindex, hmode, -⟩
    exact ⟨hint, by simp, hindex, hmode⟩
  · rintro ⟨hint, hhint, hindex, hmode⟩
    obtain ⟨before, after, rfl⟩ := List.append_of_mem hhint
    refine ⟨before, hint, after, rfl, hindex, hmode, fun earlier hearlier hsame => ?_⟩
    rw [List.map_append, List.nodup_append] at hdistinct
    exact absurd (hsame.trans hindex.symm) (hdistinct.2.2 _ (List.mem_map_of_mem hearlier) _
      (by simp))

/-- **A server has the mode of its hint**, or else the one for all. -/
theorem constrains_iff_of_distinct (hdistinct : (hints.map RoleHint.serverIndex).Nodup)
    (hknown : ∀ hint ∈ hints, hint.Known) : Constrains default hints ordinal mode ↔
      (∃ hint ∈ hints, hint.serverIndex = ordinal ∧ hint.mode = mode.name) ∨
        (mode = default ∧ ∀ hint ∈ hints, hint.serverIndex ≠ ordinal) := by
  constructor
  · rintro (hasks | hnone)
    · exact .inl ((asks_iff_of_distinct hdistinct).mp hasks)
    · exact .inr ⟨rfl, fun hint hhint hindex => hnone hint hhint hindex (hknown hint hhint)⟩
  · rintro (hasks | ⟨rfl, hnone⟩)
    · exact .asked ((asks_iff_of_distinct hdistinct).mpr hasks)
    · exact .unasked fun hint hhint hindex => absurd hindex (hnone hint hhint)

/-- Valid hints ask the same in every order. -/
theorem ValidHints.constrains_perm (h : ValidHints servers default hints)
    (hperm : others.Perm hints) : Constrains default others ordinal mode ↔
      Constrains default hints ordinal mode := by
  have hdistinct := (hperm.map RoleHint.serverIndex).nodup_iff.mpr h.distinct
  have hknown : ∀ hint ∈ others, hint.Known := fun hint hhint =>
    h.known hint (hperm.mem_iff.mp hhint)
  rw [constrains_iff_of_distinct h.distinct h.known, constrains_iff_of_distinct hdistinct hknown]
  simp only [hperm.mem_iff]

end

theorem ValidHints.perm (h : ValidHints servers default hints) (hperm : others.Perm hints) :
    ValidHints servers default others where
  inRange hint hhint := h.inRange hint (hperm.mem_iff.mp hhint)
  distinct := (hperm.map RoleHint.serverIndex).nodup_iff.mpr h.distinct
  known hint hhint := h.known hint (hperm.mem_iff.mp hhint)
  primary hpos := by
    obtain ⟨ordinal, mode, hlow, hhigh, hmode, hallows⟩ := h.primary hpos
    exact ⟨ordinal, mode, hlow, hhigh, (h.constrains_perm hperm).mpr hmode, hallows⟩

theorem ValidHints.effectiveConstraints_perm (h : ValidHints servers default hints)
    (hperm : others.Perm hints) : effectiveConstraints servers default (knownHints others) =
      effectiveConstraints servers default (knownHints hints) := by
  refine List.map_congr_left fun ordinal _ => ?_
  exact constrains_iff.mp ((h.constrains_perm hperm).mpr (constrains_iff.mpr rfl))

theorem toInt_ofNat_of_lt_servers {i : Nat} (h : i < servers.toInt.toNat) :
    (Int32.ofNat i).toInt = i := by
  have hbound := Int32.toInt_lt servers
  exact Int32.toInt_ofNat_of_lt (by omega)

theorem ValidHints.getElem_effectiveConstraints (h : ValidHints servers default hints) {i : Nat}
    (hi : i < (effectiveConstraints servers default (knownHints hints)).length) :
    (∃ hint ∈ hints, hint.serverIndex.toInt = i ∧
        hint.mode = (effectiveConstraints servers default (knownHints hints))[i].name) ∨
      ((effectiveConstraints servers default (knownHints hints))[i] = default ∧
        ∀ hint ∈ hints, hint.serverIndex.toInt ≠ i) := by
  have hlt := hi
  rw [length_effectiveConstraints] at hlt
  have hindex (hint : RoleHint) : hint.serverIndex.toInt = i ↔
      hint.serverIndex = Int32.ofNat i := by
    rw [← Int32.toInt_inj, toInt_ofNat_of_lt_servers hlt]
  have hget : (effectiveConstraints servers default (knownHints hints))[i] =
      ((knownHints hints).lookup (Int32.ofNat i)).getD default := by
    simp [effectiveConstraints, ordinals]
  rw [hget]
  simp only [hindex, ne_eq]
  exact (constrains_iff_of_distinct h.distinct h.known).mp (constrains_iff.mpr rfl)

/-- How the validation of hints answers. Hints that are accepted mean the same in any order, but
what is told of those that are refused names positions and keeps the order in which they were
given. -/
structure HintsChecked (servers : Int32) (default : Mode) (hints : List RoleHint) : Prop where
  accepted : (∃ constraints, validateRoleHints servers default hints = .ok constraints) ↔
    ValidHints servers default hints
  /-- The constraints of hints that are accepted: one for each server, and those that the hints
  name. -/
  constraints : ∀ constraints, validateRoleHints servers default hints = .ok constraints →
    constraints.length = servers.toInt ∧ ∀ i, ∀ hi : i < constraints.length,
      (∃ hint ∈ hints, hint.serverIndex.toInt = i ∧ hint.mode = constraints[i].name) ∨
        (constraints[i] = default ∧ ∀ hint ∈ hints, hint.serverIndex.toInt ≠ i)
  permuted : ∀ constraints, validateRoleHints servers default hints = .ok constraints →
    ∀ others, others.Perm hints → validateRoleHints servers default others = .ok constraints
  /-- What hints are told that are refused. -/
  rejected : ∀ faults, validateRoleHints servers default hints = .error faults →
    faults = (hintViolations servers hints ++ primaryViolations servers default hints).map
      (Violation.text { servers })

/-- **Hints are accepted exactly if they are valid, and else told each violation in its place.**
Checking goes through the hints once and remembers the indices it has seen; the violations are
stated hint by hint, each in terms of those before it. -/
theorem validateRoleHints_checked (default : Mode) (hints : List RoleHint)
    (hservers : 0 ≤ servers.toInt) : HintsChecked servers default hints where
  accepted := by
    simp only [validateRoleHints_eq_ok_iff, exists_and_left, exists_eq, and_true]
  constraints constraints hconstraints := by
    obtain ⟨hvalid, rfl⟩ := validateRoleHints_eq_ok_iff.mp hconstraints
    refine ⟨?_, fun i hi => hvalid.getElem_effectiveConstraints hi⟩
    rw [length_effectiveConstraints]
    exact Int.toNat_of_nonneg hservers
  permuted constraints hconstraints others hperm := by
    obtain ⟨hvalid, rfl⟩ := validateRoleHints_eq_ok_iff.mp hconstraints
    exact validateRoleHints_eq_ok_iff.mpr
      ⟨hvalid.perm hperm, (hvalid.effectiveConstraints_perm hperm).symm⟩
  rejected faults hfaults := by
    rw [validateRoleHints_eq] at hfaults
    cases hall : hintViolations servers hints ++ primaryViolations servers default hints with
    | nil =>
      rw [hall] at hfaults
      cases hfaults
    | cons violation rest =>
      rw [hall] at hfaults
      exact (Except.error.inj hfaults).symm

end

/-! ## Hints with every fault at once -/

/-- Hints for two servers: one with an unknown mode, one for the same server with a known mode, one
out of range whose mode is unknown too, and one for the other server. -/
def muddledHints : List RoleHint :=
  [⟨0, "primary"⟩, ⟨0, "SECONDARY"⟩, ⟨2, "ANY"⟩, ⟨1, "SECONDARY"⟩]

/-- The hint with the unknown mode counts as the first for its server, and asks nothing of it. -/
theorem validateRoleHints_checked_muddled :
    0 ≤ (2 : Int32).toInt ∧ HintsChecked 2 .unrestricted muddledHints ∧
      hintViolations 2 muddledHints ++ primaryViolations 2 .unrestricted muddledHints =
        [.hintMode 0 ⟨0, "primary"⟩, .hintRepeated 1 ⟨0, "SECONDARY"⟩, .hintOutside 2 ⟨2, "ANY"⟩,
          .hintMode 2 ⟨2, "ANY"⟩, .noPrimary] :=
  ⟨by decide, validateRoleHints_checked .unrestricted muddledHints (by decide), rfl⟩

end ClusterOperator
