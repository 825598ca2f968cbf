import Mathlib.Data.List.Nodup
import ClusterOperator.Proofs.Validation.Forms

/-!
# Every fault once

A user who corrects a declaration wants to see all that is wrong with it, and nothing twice. The
faults are found by rules that look at different parts of the declaration, some of them at lists and
maps of any length, and end up in one list of texts. `Violation` gives the texts their meaning: it
says which rule is violated and by what.

> **`reports_specFaults`** — the list of faults is the list of texts of all violations, each once.

The rules do not overlap, so a list of faults is put together from theirs (`Reports.flatMap`). What
takes an induction is the rule about hints, which remembers the indices it has seen.
-/

set_option autoImplicit false

namespace ClusterOperator

/-! ## Lists of faults -/

/-- That a list of texts tells of certain things, and of each once. Different things may be told in
the same words, so the list is compared with the things and not with the set of its texts. -/
def Reports {V : Type} (text : V → String) (faults : List String) (P : V → Prop) : Prop :=
  ∃ vs : List V, vs.Nodup ∧ (∀ v, v ∈ vs ↔ P v) ∧ faults = vs.map text

namespace Reports

variable {V ι : Type} {text : V → String} {faults more : List String} {P Q : V → Prop}

theorem congr (h : Reports text faults P) (hPQ : ∀ v, P v ↔ Q v) : Reports text faults Q := by
  obtain ⟨vs, hnodup, hmem, rfl⟩ := h
  exact ⟨vs, hnodup, fun v => (hmem v).trans (hPQ v), rfl⟩

theorem none (h : ∀ v, ¬ P v) : Reports text [] P :=
  ⟨[], List.nodup_nil, fun v => iff_of_false List.not_mem_nil (h v), rfl⟩

theorem pure (v : V) : Reports text [text v] fun w => w = v :=
  ⟨[v], List.nodup_singleton v, fun _ => List.mem_singleton, rfl⟩

/-- A rule that one thing violates, under a condition that is checked. -/
theorem ite {c d : Prop} [Decidable c] (v : V) (h : c ↔ d) :
    Reports text (if c then [text v] else []) fun w => w = v ∧ d := by
  split
  · rename_i hc
    exact (Reports.pure v).congr fun w => (and_iff_left (h.mp hc)).symm
  · rename_i hc
    exact .none fun w hw => hc (h.mpr hw.2)

/-- A rule that one thing violates, unless a condition that is checked holds. -/
theorem ite_nil {c d : Prop} [Decidable c] (v : V) (h : ¬ c ↔ d) :
    Reports text (if c then [] else [text v]) fun w => w = v ∧ d := by
  rw [← ite_not]
  exact .ite v h

theorem append (hf : Reports text faults P) (hg : Reports text more Q)
    (hdisjoint : ∀ v, P v → ¬ Q v) : Reports text (faults ++ more) fun v => P v ∨ Q v := by
  obtain ⟨vs, hvs, hP, rfl⟩ := hf
  obtain ⟨ws, hws, hQ, rfl⟩ := hg
  refine ⟨vs ++ ws, List.nodup_append.mpr ⟨hvs, hws, ?_⟩, fun v => ?_, List.map_append.symm⟩
  · rintro v hv _ hw rfl
    exact hdisjoint v ((hP v).mp hv) ((hQ v).mp hw)
  · rw [List.mem_append, hP, hQ]

theorem flatMap {items : List ι} {f : ι → List String} {P : ι → V → Prop} (hitems : items.Nodup)
    (h : ∀ i ∈ items, Reports text (f i) (P i)) (hdisjoint : ∀ i j v, P i v → P j v → i = j) :
    Reports text (items.flatMap f) fun v => ∃ i ∈ items, P i v := by
  induction items with
  | nil => exact .none (by simp)
  | cons i rest ih =>
    obtain ⟨hfirst, hrest⟩ := List.forall_mem_cons.mp h
    obtain ⟨hfresh, hnodup⟩ := List.nodup_cons.mp hitems
    rw [List.flatMap_cons]
    refine (hfirst.append (ih hnodup hrest) ?_).congr fun v => by simp
    rintro v hv ⟨j, hj, hw⟩
    exact hfresh (hdisjoint i j v hv hw ▸ hj)

theorem eq_nil_iff (h : Reports text faults P) : faults = [] ↔ ∀ v, ¬ P v := by
  obtain ⟨vs, -, hmem, rfl⟩ := h
  rw [List.map_eq_nil_iff, List.eq_nil_iff_forall_not_mem]
  exact forall_congr' fun v => not_congr (hmem v)

end Reports

/-! ## Violations -/

/-- A way to violate a rule: which rule it is, and what violates it. The text of a fault is made
from it, which is how a list of texts can be said to tell of certain violations. -/
inductive Violation
  | servers
  /-- A hint, at its position, is for a server that is not declared. -/
  | hintOutside (position : Nat) (hint : RoleHint)
  /-- A hint is for a server that an earlier hint is for. -/
  | hintRepeated (position : Nat) (hint : RoleHint)
  | hintMode (position : Nat) (hint : RoleHint)
  | noPrimary
  | maxUnavailable
  | stepTimeout
  | keyForm (key : String)
  | keyReserved (key : String)
  | emptyTag
  | downgrade (running : String)
  | storageSize
  | cpu
  | memory
  | auth

def Violation.text (spec : ClusterSpec) : Violation → String
  | servers =>
    if spec.servers < 1 then "servers must be at least 1, got " ++ toString spec.servers.toInt
    else "servers " ++ toString spec.servers.toInt ++ " exceeds maximum " ++
      toString maxServers.toInt
  | hintOutside position hint =>
    "serverRoleHints[" ++ toString position ++ "]: " ++ "serverIndex " ++
      toString hint.serverIndex.toInt ++ " is outside [0, " ++
        toString (spec.servers - 1).toInt ++ "]"
  | hintRepeated position hint =>
    "serverRoleHints[" ++ toString position ++ "]: " ++ "serverIndex " ++
      toString hint.serverIndex.toInt ++ " is repeated"
  | hintMode position hint =>
    "serverRoleHints[" ++ toString position ++ "]: " ++
      ("unknown mode constraint " ++ Text.quoted hint.mode ++
        " (expected NONE, PRIMARY or SECONDARY)")
  | noPrimary =>
    "all " ++ toString spec.servers.toInt ++ " servers are constrained to SECONDARY; " ++
      "at least one must be able to host primaries"
  | maxUnavailable =>
    "upgradeStrategy.maxUnavailable must be at least 1, got " ++
      toString spec.upgradeStrategy.maxUnavailable.toInt
  | stepTimeout => "upgradeStrategy.stepTimeoutSeconds must be positive"
  | keyForm key => "config key '" ++ key ++ "' must match ^[a-z][a-z0-9_.]*$"
  | keyReserved key => "config key '" ++ key ++ "' is managed by the operator"
  | emptyTag => "image.tag must not be empty"
  | downgrade running =>
    "downgrade from " ++ running ++ " to " ++ spec.image.tag ++ " is not supported"
  | storageSize =>
    "invalid storage size '" ++ spec.storage.size ++ "'. Expected <number><unit> where " ++
      "unit is Ki, Mi, Gi, Ti, Pi, or Ei (e.g., 10Gi)"
  | cpu =>
    "invalid CPU '" ++ spec.resources.cpu ++ "'. Expected <number>m or <decimal> (e.g., 500m, 1)"
  | memory =>
    "invalid memory '" ++ spec.resources.memory ++ "'. Expected <number><unit> where " ++
      "unit is Ki, Mi, Gi, or Ti (e.g., 2Gi)"
  | auth => "auth.secretRef requires both name and key"

/-! ## Hints -/

/-- That a hint is for a declared server. -/
def RoleHint.InRange (servers : Int32) (hint : RoleHint) : Prop :=
  0 ≤ hint.serverIndex.toInt ∧ hint.serverIndex.toInt < servers.toInt

instance (servers : Int32) (hint : RoleHint) : Decidable (hint.InRange servers) :=
  inferInstanceAs (Decidable (_ ∧ _))

/-- That the mode of a hint is one of the three. -/
def RoleHint.Known (hint : RoleHint) : Prop := hint.mode ∈ Mode.all.map Mode.name

instance (hint : RoleHint) : Decidable hint.Known := inferInstanceAs (Decidable (_ ∈ _))

/-- How the hint at a position of a list violates the rules about hints. -/
def HintViolates (servers : Int32) (hints : List RoleHint) (i : Nat) (v : Violation) : Prop :=
  ∃ hint, hints[i]? = some hint ∧
    ((v = .hintOutside i hint ∧ ¬ hint.InRange servers) ∨
      (v = .hintRepeated i hint ∧ hint.InRange servers ∧
        ∃ earlier ∈ hints.take i, earlier.serverIndex = hint.serverIndex) ∨
      (v = .hintMode i hint ∧ ¬ hint.Known))

theorem RoleHint.outside_eq (servers : Int32) (hint : RoleHint) :
    (decide (hint.serverIndex < 0) || decide (hint.serverIndex ≥ servers)) =
      !decide (hint.InRange servers) := by
  rw [Bool.eq_iff_iff, Bool.or_eq_true_iff, decide_eq_true_iff, decide_eq_true_iff,
    Bool.not_eq_true', decide_eq_false_iff_not, RoleHint.InRange, Int32.lt_iff_toInt_lt, ge_iff_le,
    Int32.le_iff_toInt_le, Int32.toInt_zero]
  omega

theorem RoleHint.parse_mode (hint : RoleHint) :
    (hint.Known ∧ ∃ mode, Mode.parse hint.mode = .ok mode) ∨
      (¬ hint.Known ∧ Mode.parse hint.mode = .error ("unknown mode constraint " ++
        Text.quoted hint.mode ++ " (expected NONE, PRIMARY or SECONDARY)")) := by
  unfold RoleHint.Known Mode.parse
  cases hfind : Mode.all.find? (·.name == hint.mode) with
  | some mode =>
    have hname := List.find?_some hfind
    exact .inl ⟨List.mem_map.mpr ⟨mode, List.mem_of_find?_eq_some hfind, beq_iff_eq.mp hname⟩,
      mode, rfl⟩
  | none =>
    refine .inr ⟨fun hmem => ?_, rfl⟩
    obtain ⟨mode, hmode, hname⟩ := List.mem_map.mp hmem
    exact List.find?_eq_none.mp hfind mode hmode (beq_iff_eq.mpr hname)

section
variable (spec : ClusterSpec)

theorem hintFaults_eq (i : Nat) (seen : List Int32) (hint : RoleHint) :
    hintFaults spec.servers i seen hint =
      ((if hint.InRange spec.servers then
          if hint.serverIndex ∈ seen then [(Violation.hintRepeated i hint).text spec] else []
        else [(Violation.hintOutside i hint).text spec]) ++
        (if hint.Known then [] else [(Violation.hintMode i hint).text spec]),
      if hint.InRange spec.servers ∧ hint.serverIndex ∉ seen then hint.serverIndex :: seen
      else seen) := by
  unfold hintFaults
  simp only [RoleHint.outside_eq, List.contains_eq_mem]
  by_cases hrange : hint.InRange spec.servers <;> by_cases hseen : hint.serverIndex ∈ seen <;>
    rcases hint.parse_mode with ⟨hmode, mode, hparse⟩ | ⟨hmode, hparse⟩ <;>
    simp only [hrange, hseen, hparse, hmode, decide_true, decide_false, Bool.not_true,
      Bool.not_false, Bool.false_eq_true, if_true, if_false, not_true, and_self, and_false,
      false_and, List.append_nil] <;>
    rfl

variable {hints : List RoleHint} {i : Nat} {seen : List Int32} {hint : RoleHint}

/-- One hint is reported for what is wrong with it, if the indices that have been seen are those of
the hints before it that are in range. -/
theorem reports_hintFaults (hhint : hints[i]? = some hint)
    (hseen : ∀ x, x ∈ seen ↔
      ∃ earlier ∈ hints.take i, earlier.InRange spec.servers ∧ earlier.serverIndex = x) :
    Reports (Violation.text spec) (hintFaults spec.servers i seen hint).1
      (HintViolates spec.servers hints i) := by
  rw [hintFaults_eq]
  -- The index and the mode are checked apart. The index has one fault at most: one that is out of
  -- range is not compared with the others.
  have hindex : Reports (Violation.text spec)
      (if hint.InRange spec.servers then
          if hint.serverIndex ∈ seen then [(Violation.hintRepeated i hint).text spec] else []
        else [(Violation.hintOutside i hint).text spec])
      fun v => (v = .hintOutside i hint ∧ ¬ hint.InRange spec.servers) ∨
        (v = .hintRepeated i hint ∧ hint.InRange spec.servers ∧ hint.serverIndex ∈ seen) := by
    split
    · rename_i hrange
      exact (Reports.ite _ Iff.rfl).congr fun v => by simp [hrange]
    · rename_i hrange
      exact (Reports.pure _).congr fun v => by simp [hrange]
  have hmode : Reports (Violation.text spec)
      (if hint.Known then [] else [(Violation.hintMode i hint).text spec]) _ :=
    Reports.ite_nil _ Iff.rfl
  refine (hindex.append hmode ?_).congr fun v => ?_
  · rintro v (⟨rfl, -⟩ | ⟨rfl, -⟩) ⟨hv, -⟩ <;> cases hv
  · have hrepeated : hint.InRange spec.servers ∧ hint.serverIndex ∈ seen ↔
        hint.InRange spec.servers ∧
          ∃ earlier ∈ hints.take i, earlier.serverIndex = hint.serverIndex := by
      refine and_congr_right fun hrange => (hseen _).trans (exists_congr fun earlier => ?_)
      refine and_congr_right fun _ => ⟨And.right, fun heq => ⟨?_, heq⟩⟩
      rwa [RoleHint.InRange, heq]
    simp only [HintViolates, hhint, Option.some.injEq, exists_eq_left', hrepeated, or_assoc]

end

theorem HintViolates.position_unique {servers : Int32} {hints : List RoleHint} {i j : Nat}
    {v : Violation} (hi : HintViolates servers hints i v) (hj : HintViolates servers hints j v) :
    i = j := by
  obtain ⟨hint, -, ⟨rfl, -⟩ | ⟨rfl, -⟩ | ⟨rfl, -⟩⟩ := hi <;>
    obtain ⟨other, -, ⟨heq, -⟩ | ⟨heq, -⟩ | ⟨heq, -⟩⟩ := hj <;> cases heq <;> rfl

/-- A hint in range is seen, if it had not been before. -/
theorem mem_seen_hintFaults (spec : ClusterSpec) {i : Nat} {seen : List Int32} {hint : RoleHint}
    {x : Int32} : x ∈ (hintFaults spec.servers i seen hint).2 ↔
      x ∈ seen ∨ (hint.InRange spec.servers ∧ hint.serverIndex = x) := by
  rw [hintFaults_eq]
  dsimp only
  split
  · rename_i hnew
    rw [List.mem_cons, or_comm, eq_comm, and_iff_right hnew.1]
  · rename_i hold
    refine ⟨.inl, Or.rec id fun ⟨hrange, heq⟩ => ?_⟩
    exact heq ▸ not_not.mp fun hseen => hold ⟨hrange, hseen⟩

/-- The induction is on the hints that are left; the indices in range of those before have been
seen. -/
theorem reports_hintsFaults_from (spec : ClusterSpec) (hints : List RoleHint) :
    ∀ (before : List RoleHint) (seen : List Int32) (_ : ∀ x, x ∈ seen ↔
        ∃ earlier ∈ before, earlier.InRange spec.servers ∧ earlier.serverIndex = x),
      Reports (Violation.text spec) (hintsFaults spec.servers before.length seen hints)
        fun v => ∃ i, before.length ≤ i ∧ HintViolates spec.servers (before ++ hints) i v := by
  induction hints with
  | nil =>
    intro before seen _
    refine .none ?_
    rintro v ⟨i, hi, hint, hhint, -⟩
    rw [List.append_nil, List.getElem?_eq_none hi] at hhint
    cases hhint
  | cons hint rest ih =>
    intro before seen hseen
    have hhint : (before ++ hint :: rest)[before.length]? = some hint := by
      rw [List.getElem?_append_right (Nat.le_refl _), Nat.sub_self, List.getElem?_cons_zero]
    have hfirst : Reports _ (hintFaults spec.servers before.length seen hint).1 _ :=
      reports_hintFaults spec hhint (by rwa [List.take_left])
    have hrest := ih (before ++ [hint]) (hintFaults spec.servers before.length seen hint).2
      fun x => by simp only [mem_seen_hintFaults, hseen, List.mem_append, List.mem_singleton,
        or_and_right, exists_or, exists_eq_left]
    rw [List.length_append, List.length_singleton, ← List.append_cons] at hrest
    -- A violation is at the position of the first hint or at a later one, and no violation is at
    -- both.
    refine (hfirst.append hrest ?_).congr fun v => ?_
    · rintro v hv ⟨i, hi, hw⟩
      have := hv.position_unique hw
      omega
    · constructor
      · rintro (hv | ⟨i, hi, hv⟩)
        · exact ⟨before.length, Nat.le_refl _, hv⟩
        · exact ⟨i, by omega, hv⟩
      · rintro ⟨i, hi, hv⟩
        rcases Nat.eq_or_lt_of_le hi with rfl | hlt
        · exact .inl hv
        · exact .inr ⟨i, hlt, hv⟩

/-- The faults of a list of hints tell of all that is wrong with the hints, each once. -/
theorem reports_hintsFaults (spec : ClusterSpec) (hints : List RoleHint) :
    Reports (Violation.text spec) (hintsFaults spec.servers 0 [] hints)
      fun v => ∃ i, HintViolates spec.servers hints i v :=
  (reports_hintsFaults_from spec hints [] [] (by simp)).congr fun v => by simp

/-! ## The declaration -/

/-- That some server of a declaration may host primaries. -/
def ClusterSpec.HasPrimary (spec : ClusterSpec) : Prop :=
  ∃ mode ∈ effectiveConstraints spec.servers spec.mode (knownHints spec.roleHints),
    mode.allowsPrimary = true

/-- The violations of a declaration, given the version that the servers run. -/
def ClusterSpec.Violates (spec : ClusterSpec) (running : Option String) : Violation → Prop
  | .servers => ¬ (1 ≤ spec.servers.toInt ∧ spec.servers.toInt ≤ 64)
  | .hintOutside i hint => spec.roleHints[i]? = some hint ∧ ¬ hint.InRange spec.servers
  | .hintRepeated i hint => spec.roleHints[i]? = some hint ∧ hint.InRange spec.servers ∧
      ∃ earlier ∈ spec.roleHints.take i, earlier.serverIndex = hint.serverIndex
  | .hintMode i hint => spec.roleHints[i]? = some hint ∧ ¬ hint.Known
  | .noPrimary => 0 < spec.servers.toInt ∧ ¬ spec.HasPrimary
  | .maxUnavailable => spec.upgradeStrategy.maxUnavailable.toInt < 1
  | .stepTimeout => spec.upgradeStrategy.stepTimeoutSeconds = 0
  | .keyForm key => key ∈ spec.config.keys ∧ ¬ KeyForm key
  | .keyReserved key => key ∈ spec.config.keys ∧ key ∈ reservedKeys
  | .emptyTag => spec.image.tag = ""
  | .downgrade old => running = some old ∧ isDowngrade old spec.image.tag = true
  | .storageSize => ¬ QuantityForm ["Ki", "Mi", "Gi", "Ti", "Pi", "Ei"] spec.storage.size
  | .cpu => ¬ CpuForm spec.resources.cpu
  | .memory => ¬ QuantityForm ["Ki", "Mi", "Gi", "Ti"] spec.resources.memory
  | .auth => ∃ auth, spec.auth = some auth ∧ (auth.secretRef.name = "" ∨ auth.secretRef.key = "")

/-- The rules, in the order of their faults. -/
inductive Rule
  | servers | hints | primary | strategy | keys | tag | resources | auth
  deriving DecidableEq

def Rule.all : List Rule := [servers, hints, primary, strategy, keys, tag, resources, auth]

def Violation.rule : Violation → Rule
  | servers => .servers
  | hintOutside .. | hintRepeated .. | hintMode .. => .hints
  | noPrimary => .primary
  | maxUnavailable | stepTimeout => .strategy
  | keyForm _ | keyReserved _ => .keys
  | emptyTag | downgrade _ => .tag
  | storageSize | cpu | memory => .resources
  | auth => .auth

/-- The fault of constraints that let no server host primaries. -/
def primaryFaults (servers : Int32) (constraints : List Mode) : List String :=
  if servers > 0 && !constraints.any Mode.allowsPrimary then
    ["all " ++ toString servers.toInt ++ " servers are constrained to SECONDARY; " ++
      "at least one must be able to host primaries"]
  else []

/-- The constraints that a declaration asks for, whether or not it is accepted. -/
def ClusterSpec.constraints (spec : ClusterSpec) : List Mode :=
  effectiveConstraints (clampServers spec.servers) spec.mode (knownHints spec.roleHints)

/-- The faults that a rule finds. -/
def Rule.faults (spec : ClusterSpec) (running : Option String) : Rule → List String
  | servers => serversFaults spec.servers
  | hints => hintsFaults (clampServers spec.servers) 0 [] spec.roleHints
  | primary => primaryFaults (clampServers spec.servers) spec.constraints
  | strategy => strategyFaults spec.upgradeStrategy
  | keys => spec.config.keys.flatMap keyFaults
  | tag => tagFaults running spec.image.tag
  | resources => resourceFaults spec
  | auth => authFaults spec.auth

def specFaults (spec : ClusterSpec) (running : Option String) : List String :=
  Rule.all.flatMap (Rule.faults spec running)

theorem validateSpec_eq (spec : ClusterSpec) (running : Option String) :
    validateSpec spec running =
      match specFaults spec running with
      | [] => .ok ⟨.ofConstraints spec.constraints, spec.constraints⟩
      | faults => .error faults := by
  have hhints : validateRoleHints (clampServers spec.servers) spec.mode spec.roleHints =
      match hintsFaults (clampServers spec.servers) 0 [] spec.roleHints ++
        primaryFaults (clampServers spec.servers) spec.constraints with
      | [] => .ok spec.constraints
      | faults => .error faults := rfl
  unfold validateSpec
  rw [hhints]
  have hfaults : specFaults spec running = serversFaults spec.servers ++
      (hintsFaults (clampServers spec.servers) 0 [] spec.roleHints ++
        primaryFaults (clampServers spec.servers) spec.constraints) ++
      strategyFaults spec.upgradeStrategy ++ spec.config.keys.flatMap keyFaults ++
      tagFaults running spec.image.tag ++ resourceFaults spec ++ authFaults spec.auth := by
    simp only [specFaults, Rule.all, List.flatMap_cons, List.flatMap_nil, List.append_nil,
      Rule.faults, List.append_assoc]
  rw [hfaults]
  -- The constraints are there exactly if the hints have no faults, and then it is a matter of the
  -- other rules.
  cases hintsFaults (clampServers spec.servers) 0 [] spec.roleHints ++
      primaryFaults (clampServers spec.servers) spec.constraints with
  | nil =>
    dsimp only
    generalize _ ++ authFaults spec.auth = faults
    cases faults <;> rfl
  | cons fault rest =>
    dsimp only
    split
    · rename_i hnone
      simp at hnone
    · rfl

/-! ## Rule by rule -/

section
variable (spec : ClusterSpec) (running : Option String)

theorem reports_serversFaults : Reports (Violation.text spec) (serversFaults spec.servers)
    fun v => v.rule = .servers ∧ spec.Violates running v := by
  have hfew : spec.servers < 1 ↔ spec.servers.toInt < 1 := Int32.lt_iff_toInt_lt
  have hmany : spec.servers > maxServers ↔ 64 < spec.servers.toInt := Int32.lt_iff_toInt_lt
  have heq : serversFaults spec.servers =
      if spec.servers < 1 ∨ spec.servers > maxServers then [Violation.servers.text spec]
      else [] := by
    unfold serversFaults Violation.text
    by_cases hlow : spec.servers < 1
    · simp only [if_pos hlow, if_pos (Or.inl hlow)]
    by_cases hhigh : spec.servers > maxServers
    · simp only [if_neg hlow, if_pos hhigh, if_pos (Or.inr hhigh)]
    · simp only [if_neg hlow, if_neg hhigh, if_neg (not_or.mpr ⟨hlow, hhigh⟩)]
  rw [heq]
  refine (Reports.ite (d := ¬ (1 ≤ spec.servers.toInt ∧ spec.servers.toInt ≤ 64)) _ ?_).congr
    fun v => ?_
  · rw [hfew, hmany]
    omega
  · cases v <;> simp [Violation.rule, ClusterSpec.Violates]

theorem reports_hints : Reports (Violation.text spec)
    (hintsFaults spec.servers 0 [] spec.roleHints)
    fun v => v.rule = .hints ∧ spec.Violates running v := by
  refine (reports_hintsFaults spec spec.roleHints).congr fun v => ?_
  unfold HintViolates
  constructor
  · rintro ⟨i, hint, hhint, ⟨rfl, hv⟩ | ⟨rfl, hv⟩ | ⟨rfl, hv⟩⟩ <;> exact ⟨rfl, hhint, hv⟩
  · rintro ⟨hrule, hv⟩
    cases v with
    | hintOutside i hint => exact ⟨i, hint, hv.1, .inl ⟨rfl, hv.2⟩⟩
    | hintRepeated i hint => exact ⟨i, hint, hv.1, .inr (.inl ⟨rfl, hv.2⟩)⟩
    | hintMode i hint => exact ⟨i, hint, hv.1, .inr (.inr ⟨rfl, hv.2⟩)⟩
    | _ => cases hrule

theorem reports_primary (hclamp : clampServers spec.servers = spec.servers) :
    Reports (Violation.text spec) (primaryFaults spec.servers spec.constraints)
      fun v => v.rule = .primary ∧ spec.Violates running v := by
  have hnone : (spec.servers > 0 && !spec.constraints.any Mode.allowsPrimary) = true ↔
      0 < spec.servers.toInt ∧ ¬ spec.HasPrimary := by
    rw [Bool.and_eq_true_iff, decide_eq_true_iff, Bool.not_eq_true', ← Bool.not_eq_true,
      List.any_eq_true, gt_iff_lt, Int32.lt_iff_toInt_lt, ClusterSpec.HasPrimary,
      ClusterSpec.constraints, hclamp]
    rfl
  refine (Reports.ite Violation.noPrimary hnone).congr fun v => ?_
  cases v <;> simp [Violation.rule, ClusterSpec.Violates]

theorem reports_strategyFaults : Reports (Violation.text spec)
    (strategyFaults spec.upgradeStrategy)
    fun v => v.rule = .strategy ∧ spec.Violates running v := by
  have hfew : spec.upgradeStrategy.maxUnavailable < 1 ↔
      spec.upgradeStrategy.maxUnavailable.toInt < 1 := Int32.lt_iff_toInt_lt
  have hunavailable : Reports (Violation.text spec) _ _ := Reports.ite .maxUnavailable hfew
  have htimeout : Reports (Violation.text spec) _ _ := Reports.ite .stepTimeout
    (c := spec.upgradeStrategy.stepTimeoutSeconds = 0) Iff.rfl
  refine (hunavailable.append htimeout ?_).congr fun v => ?_
  · rintro v ⟨rfl, -⟩ ⟨hv, -⟩
    cases hv
  · cases v <;> simp [Violation.rule, ClusterSpec.Violates]

theorem isConfigKey_of_reserved : ∀ key ∈ reservedKeys, isConfigKey key = true := by decide

theorem reports_keyFaults (key : String) : Reports (Violation.text spec) (keyFaults key)
    fun v => (v = .keyForm key ∧ ¬ KeyForm key) ∨ (v = .keyReserved key ∧ key ∈ reservedKeys) := by
  unfold keyFaults
  split
  · rename_i hform
    rw [Bool.not_eq_true'] at hform
    have hkey := mt isConfigKey_iff.mpr (Bool.eq_false_iff.mp hform)
    have hfree := mt (isConfigKey_of_reserved key) (Bool.eq_false_iff.mp hform)
    exact (Reports.pure (Violation.keyForm key)).congr fun v => by simp [hkey, hfree]
  · rename_i hform
    rw [Bool.not_eq_true', Bool.not_eq_false] at hform
    have hkey := isConfigKey_iff.mp hform
    exact (Reports.ite (Violation.keyReserved key) List.contains_iff_mem).congr
      fun v => by simp [hkey]

theorem reports_keys : Reports (Violation.text spec) (spec.config.keys.flatMap keyFaults)
    fun v => v.rule = .keys ∧ spec.Violates running v := by
  refine (Reports.flatMap spec.config.nodup_keys (fun key _ => reports_keyFaults spec key)
    ?_).congr fun v => ?_
  · rintro key other v (⟨rfl, -⟩ | ⟨rfl, -⟩) (⟨heq, -⟩ | ⟨heq, -⟩) <;> cases heq <;> rfl
  · cases v <;> simp [Violation.rule, ClusterSpec.Violates]

theorem isDowngrade_empty (old : String) : isDowngrade old "" = false := by
  have hnone : Version.ofTag? "" = none := by decide +kernel
  unfold isDowngrade
  rw [hnone]
  cases Version.ofTag? old <;> rfl

theorem reports_tagFaults : Reports (Violation.text spec) (tagFaults running spec.image.tag)
    fun v => v.rule = .tag ∧ spec.Violates running v := by
  unfold tagFaults
  -- An empty tag is reported as that and not compared, and it is no downgrade.
  split
  · rename_i hempty
    have htag := String.isEmpty_iff.mp hempty
    refine (Reports.pure Violation.emptyTag).congr fun v => ?_
    cases v <;> simp [Violation.rule, ClusterSpec.Violates, htag, isDowngrade_empty]
  · rename_i hempty
    have htag := mt String.isEmpty_iff.mpr hempty
    cases running with
    | none =>
      refine .none fun v => ?_
      cases v <;> simp [Violation.rule, ClusterSpec.Violates, htag]
    | some old =>
      refine (Reports.ite (Violation.downgrade old) Iff.rfl).congr fun v => ?_
      cases v with
      | downgrade other =>
        simp only [Violation.downgrade.injEq, Violation.rule, ClusterSpec.Violates,
          Option.some.injEq, true_and]
        constructor
        · rintro ⟨rfl, h⟩
          exact ⟨rfl, h⟩
        · rintro ⟨rfl, h⟩
          exact ⟨rfl, h⟩
      | _ => simp [Violation.rule, ClusterSpec.Violates, htag]

theorem reports_resourceFaults : Reports (Violation.text spec) (resourceFaults spec)
    fun v => v.rule = .resources ∧ spec.Violates running v := by
  have hsize : Reports (Violation.text spec) _ _ := Reports.ite_nil .storageSize
    (not_congr (isStorageSize_iff (s := spec.storage.size)))
  have hcpu : Reports (Violation.text spec) _ _ := Reports.ite_nil .cpu
    (not_congr (isCpu_iff (s := spec.resources.cpu)))
  have hmemory : Reports (Violation.text spec) _ _ := Reports.ite_nil .memory
    (not_congr (isMemory_iff (s := spec.resources.memory)))
  refine ((hsize.append hcpu ?_).append hmemory ?_).congr fun v => ?_
  · rintro v ⟨rfl, -⟩ ⟨hv, -⟩
    cases hv
  · rintro v (⟨rfl, -⟩ | ⟨rfl, -⟩) ⟨hv, -⟩ <;> cases hv
  · cases v <;> simp [Violation.rule, ClusterSpec.Violates]

theorem reports_authFaults : Reports (Violation.text spec) (authFaults spec.auth)
    fun v => v.rule = .auth ∧ spec.Violates running v := by
  unfold authFaults
  cases hauth : spec.auth with
  | none =>
    refine .none fun v => ?_
    cases v <;> simp [Violation.rule, ClusterSpec.Violates, hauth]
  | some auth =>
    have hempty : (auth.secretRef.name.isEmpty || auth.secretRef.key.isEmpty) = true ↔
        auth.secretRef.name = "" ∨ auth.secretRef.key = "" := by simp
    refine (Reports.ite Violation.auth hempty).congr fun v => ?_
    cases v <;> simp [Violation.rule, ClusterSpec.Violates, hauth]

/-- The list of faults of a declaration is the list of the texts of its violations, each once. -/
theorem reports_specFaults (hclamp : clampServers spec.servers = spec.servers) :
    Reports (Violation.text spec) (specFaults spec running) (spec.Violates running) := by
  have hrule : ∀ rule ∈ Rule.all, Reports (Violation.text spec) (rule.faults spec running)
      fun v => v.rule = rule ∧ spec.Violates running v := by
    intro rule _
    cases rule with
    | servers => exact reports_serversFaults spec running
    | hints =>
      rw [Rule.faults, hclamp]
      exact reports_hints spec running
    | primary =>
      rw [Rule.faults, hclamp]
      exact reports_primary spec running hclamp
    | strategy => exact reports_strategyFaults spec running
    | keys => exact reports_keys spec running
    | tag => exact reports_tagFaults spec running
    | resources => exact reports_resourceFaults spec running
    | auth => exact reports_authFaults spec running
  -- A violation is of one rule, so no two rules tell of the same one.
  refine (Reports.flatMap (by decide) hrule fun r r' v hr hr' => hr.1.symm.trans hr'.1).congr
    fun v => ?_
  have hall : ∀ rule, rule ∈ Rule.all := by
    intro rule
    cases rule <;> decide
  exact ⟨fun ⟨_, _, hv⟩ => hv.2, fun hv => ⟨v.rule, hall _, rfl, hv⟩⟩

end

end ClusterOperator
