import ClusterOperator.Proofs.Validation.Accepted

/-!
# The forms of single values

The checks of single values read a text from its start: they take the digits there are and look at
what follows. Here each is given the form that it stands for, as a way to put a text together, and
shown to accept the texts of that form and no others:

> **`isConfigKey_iff`** — a key is a small letter and then small letters, digits, underscores and
> dots;
> **`isQuantity_iff`** — a quantity is a number and then nothing or one of the units;
> **`isCpu_iff`** — an amount of processor time is a number, a number of thousandths or a decimal
> fraction.

The number in front of a unit need not have one: a size of `10` is a size in bytes.
-/

set_option autoImplicit false

namespace ClusterOperator

/-- That characters are a number: digits, and at least one. -/
def IsNumber (cs : List Char) : Prop := cs ≠ [] ∧ ∀ c ∈ cs, c.isDigit = true

/-- The form of a user's key. -/
def KeyForm (key : String) : Prop :=
  ∃ first rest, key.toList = first :: rest ∧ first.isLower = true ∧
    ∀ c ∈ rest, isKeyChar c = true

/-- The form of a quantity. -/
def QuantityForm (units : List String) (s : String) : Prop :=
  ∃ number unit, s.toList = number ++ unit.toList ∧ IsNumber number ∧ (unit = "" ∨ unit ∈ units)

/-- The form of an amount of processor time. -/
def CpuForm (s : String) : Prop :=
  IsNumber s.toList ∨ (∃ number, s.toList = number ++ ['m'] ∧ IsNumber number) ∨
    ∃ whole fraction, s.toList = whole ++ '.' :: fraction ∧ (∀ c ∈ whole, c.isDigit = true) ∧
      IsNumber fraction

theorem isConfigKey_iff {key : String} : isConfigKey key = true ↔ KeyForm key := by
  refine ⟨exists_toList_of_isConfigKey, ?_⟩
  rintro ⟨first, rest, heq, hfirst, hrest⟩
  unfold isConfigKey
  rw [heq]
  exact Bool.and_eq_true_iff.mpr ⟨hfirst, List.all_eq_true.mpr hrest⟩

/-! ## A number and what follows it -/

/-- Digits are told from what follows by the first character that is none. -/
theorem takeWhile_dropWhile_isDigit {digits : List Char} (rest : List Char)
    (hdigits : ∀ c ∈ digits, c.isDigit = true) (hrest : ∀ c ∈ rest.head?, c.isDigit = false) :
    (digits ++ rest).takeWhile Char.isDigit = digits ∧
      (digits ++ rest).dropWhile Char.isDigit = rest := by
  rw [List.takeWhile_append_of_pos hdigits, List.dropWhile_append_of_pos hdigits]
  cases rest with
  | nil => exact ⟨List.append_nil _, rfl⟩
  | cons c rest =>
    have hc := hrest c rfl
    rw [List.takeWhile_cons_of_neg (Bool.eq_false_iff.mp hc),
      List.dropWhile_cons_of_neg (Bool.eq_false_iff.mp hc), List.append_nil]
    exact ⟨rfl, rfl⟩

theorem isDigit_of_mem_takeWhile {cs : List Char} {c : Char}
    (hc : c ∈ cs.takeWhile Char.isDigit) : c.isDigit = true :=
  List.all_eq_true.mp List.all_takeWhile c hc

theorem isNumber_takeWhile_iff {cs : List Char} :
    IsNumber (cs.takeWhile Char.isDigit) ↔ (cs.takeWhile Char.isDigit).isEmpty = false := by
  rw [IsNumber, and_iff_left fun c => isDigit_of_mem_takeWhile, ne_eq, ← List.isEmpty_iff,
    Bool.not_eq_true]

theorem isQuantity_iff {units : List String} {s : String}
    (hunits : ∀ unit ∈ units, ∀ c ∈ unit.toList.head?, c.isDigit = false) :
    isQuantity units s = true ↔ QuantityForm units s := by
  have hsplit := List.takeWhile_append_dropWhile (p := Char.isDigit) (l := s.toList)
  constructor
  · intro h
    unfold isQuantity at h
    rw [Bool.and_eq_true_iff, Bool.or_eq_true_iff, Bool.not_eq_true', beq_iff_eq,
      List.contains_iff_mem] at h
    refine ⟨_, _, ?_, isNumber_takeWhile_iff.mpr h.1, h.2⟩
    rw [String.toList_ofList, hsplit]
  · rintro ⟨number, unit, heq, hnumber, hunit⟩
    -- A unit does not begin with a digit, so the digits end where the number does.
    have hhead : ∀ c ∈ unit.toList.head?, c.isDigit = false := by
      rcases hunit with rfl | hunit
      · simp
      · exact hunits unit hunit
    obtain ⟨htake, hdrop⟩ := takeWhile_dropWhile_isDigit _ hnumber.2 hhead
    unfold isQuantity
    rw [heq, hdrop, htake, String.ofList_toList, Bool.and_eq_true_iff, Bool.or_eq_true_iff,
      Bool.not_eq_true', beq_iff_eq, List.contains_iff_mem, List.isEmpty_eq_false_iff]
    exact ⟨hnumber.1, hunit⟩

theorem isStorageSize_iff {s : String} :
    isStorageSize s = true ↔ QuantityForm ["Ki", "Mi", "Gi", "Ti", "Pi", "Ei"] s :=
  isQuantity_iff (by simp)

theorem isMemory_iff {s : String} :
    isMemory s = true ↔ QuantityForm ["Ki", "Mi", "Gi", "Ti"] s :=
  isQuantity_iff (by simp)

theorem isCpu_iff {s : String} : isCpu s = true ↔ CpuForm s := by
  have hsplit := List.takeWhile_append_dropWhile (p := Char.isDigit) (l := s.toList)
  constructor
  · intro h
    unfold isCpu at h
    dsimp only at h
    split at h
    · rename_i hrest
      rw [hrest, List.append_nil] at hsplit
      rw [Bool.not_eq_true'] at h
      exact .inl (hsplit ▸ isNumber_takeWhile_iff.mpr h)
    · rename_i hrest
      rw [hrest] at hsplit
      rw [Bool.not_eq_true'] at h
      exact .inr (.inl ⟨_, hsplit.symm, isNumber_takeWhile_iff.mpr h⟩)
    · rename_i fraction hrest
      rw [hrest] at hsplit
      rw [Bool.and_eq_true_iff, Bool.not_eq_true', List.isEmpty_eq_false_iff,
        List.all_eq_true] at h
      exact .inr (.inr ⟨_, fraction, hsplit.symm, fun c => isDigit_of_mem_takeWhile, h⟩)
    · cases h
  · -- The three forms differ in what follows the digits, so no text is of two of them.
    unfold isCpu
    rintro (hnumber | ⟨number, heq, hnumber⟩ | ⟨whole, fraction, heq, hwhole, hfraction⟩)
    · obtain ⟨htake, hdrop⟩ := takeWhile_dropWhile_isDigit [] hnumber.2 (by simp)
      rw [List.append_nil] at htake hdrop
      simp only [htake, hdrop, Bool.not_eq_true', List.isEmpty_eq_false_iff]
      exact hnumber.1
    · obtain ⟨htake, hdrop⟩ := takeWhile_dropWhile_isDigit ['m'] hnumber.2 (by simp)
      simp only [heq, htake, hdrop, Bool.not_eq_true', List.isEmpty_eq_false_iff]
      exact hnumber.1
    · obtain ⟨-, hdrop⟩ := takeWhile_dropWhile_isDigit ('.' :: fraction) hwhole
        fun c hc => by cases hc; decide
      simp only [heq, hdrop, Bool.and_eq_true_iff, Bool.not_eq_true', List.isEmpty_eq_false_iff,
        List.all_eq_true]
      exact hfraction

end ClusterOperator
