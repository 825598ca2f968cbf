import Mathlib.Algebra.Group.Nat.Defs
import Mathlib.Data.List.TakeWhile
import Mathlib.Data.Prod.Lex
import ClusterOperator.Proofs.Text.Lines
import ClusterOperator.Proofs.Validation.Forms

/-!
# Downgrades by their numbers

A tag begins with the numbers of its version, up to the first hyphen: one, two or three of them. To
compare two tags their texts are cut, filled up with zeros and read, and each of these steps may
give up. What comes of it is said by the numbers alone:

> **`isDowngrade_iff`** — of two tags that begin with numbers, the second is below the first exactly
> if its numbers are, in lexicographic order, and no number of either tag has a zero in front.

The condition on zeros is needed. A version writes its numbers without any, so a tag that counts
months as `09` and `10` names no version, and a tag that names none is never a downgrade
(`isDowngrade_of_leadingZero`).
-/

set_option autoImplicit false

namespace ClusterOperator

namespace Version

/-- The number that digits write. -/
def decimalValue (digits : List Char) : Nat := Nat.ofDigitChars 10 digits 0

/-- That a list of characters is a decimal number below 2^64. -/
def IsDecimal (cs : List Char) : Prop := IsNumber cs ∧ decimalValue cs < 2 ^ 64

/-- That a number is written with a zero in front. -/
def HasLeadingZero (digits : List Char) : Prop := 1 < digits.length ∧ digits.head? = some '0'

instance (cs : List Char) : Decidable (IsDecimal cs) :=
  decidable_of_iff ((cs ≠ [] ∧ cs.all Char.isDigit = true) ∧ decimalValue cs < 2 ^ 64) <| by
    rw [List.all_eq_true, IsDecimal, IsNumber]

instance (digits : List Char) : Decidable (HasLeadingZero digits) :=
  inferInstanceAs (Decidable (1 < digits.length ∧ digits.head? = some '0'))

/-- That a tag begins with one to three numbers, separated by dots, and then ends or goes on with a
hyphen. What follows the hyphen names a variant of the image and is not looked at. -/
structure Numbers (tag : String) (numerals : List (List Char)) : Prop where
  part : tag.toList.takeWhile (· != '-') = ['.'].intercalate numerals
  any : 1 ≤ numerals.length
  few : numerals.length ≤ 3
  decimal : ∀ numeral ∈ numerals, IsDecimal numeral

/-- The number at a place, zero where there is none. -/
def numberAt (numerals : List (List Char)) (i : Nat) : Nat := (numerals.map decimalValue).getD i 0

/-- The three numbers of a version, with their lexicographic order. -/
def triple (numerals : List (List Char)) : ℕ ×ₗ ℕ ×ₗ ℕ :=
  toLex (numberAt numerals 0, toLex (numberAt numerals 1, numberAt numerals 2))

/-- The version of some numbers. -/
def ofNumerals (numerals : List (List Char)) : Version where
  major := numberAt numerals 0
  minor := numberAt numerals 1
  patch := numberAt numerals 2

/-! ## One number -/

section
variable {cs a b c : List Char} {parts : List (List Char)}

theorem natUpTo_of_isNumber {largest : Nat} (h : IsNumber cs) (hle : decimalValue cs ≤ largest) :
    Text.natUpTo largest cs = .ok (decimalValue cs) := by
  obtain ⟨first, rest, rfl⟩ := List.exists_cons_of_ne_nil h.1
  have hread : Text.digitsUpTo largest 0 (first :: rest) = .ok (decimalValue (first :: rest)) :=
    Text.digitsUpTo_of_isDigit h.2 hle
  have hne (sign : Char) (hsign : sign.isDigit = false) : first ≠ sign := by
    rintro rfl
    cases hsign.symm.trans (h.2 first List.mem_cons_self)
  have hplus := hne '+' (by decide)
  have hminus := hne '-' (by decide)
  unfold Text.natUpTo
  split <;> simp_all

/-- **A decimal number is read as its value, unless it has a zero in front.** -/
theorem number?_eq (h : IsDecimal cs) :
    number? cs = if HasLeadingZero cs then none else some (decimalValue cs) := by
  have hle : decimalValue cs ≤ largestNumber := Nat.le_of_lt_succ h.2
  have hnonempty : cs.isEmpty = false := List.isEmpty_eq_false_iff.mpr h.1.1
  have hdigits : cs.all Char.isDigit = true := List.all_eq_true.mpr h.1.2
  unfold number?
  rw [natUpTo_of_isNumber h.1 hle, hnonempty, hdigits]
  simp only [Bool.not_true, Bool.false_or, Bool.and_eq_true, decide_eq_true_eq, beq_iff_eq]
  rfl

/-! ## Numbers between dots -/

theorem not_mem_of_isDecimal (h : IsDecimal cs) {sign : Char} (hsign : sign.isDigit = false) :
    sign ∉ cs := by
  intro hmem
  cases hsign.symm.trans (h.1.2 sign hmem)

theorem dotParts_of_not_mem (h : '.' ∉ cs) : dotParts cs = [cs] := by
  induction cs with
  | nil => rfl
  | cons c cs ih =>
    rw [List.mem_cons, not_or] at h
    rw [dotParts, ih h.2]
    exact if_neg (Ne.symm h.1)

theorem dotParts_ne_nil (cs : List Char) : dotParts cs ≠ [] := by
  cases cs with
  | nil => exact List.cons_ne_nil _ _
  | cons c cs =>
    unfold dotParts
    split
    · exact List.cons_ne_nil _ _
    · split
      · exact List.cons_ne_nil _ _
      · exact List.cons_ne_nil _ _

theorem dotParts_append (h : '.' ∉ cs) (rest : List Char) :
    dotParts (cs ++ '.' :: rest) = cs :: dotParts rest := by
  induction cs with
  | nil =>
    obtain ⟨part, parts, heq⟩ := List.exists_cons_of_ne_nil (dotParts_ne_nil rest)
    rw [List.nil_append, dotParts, heq]
    exact if_pos rfl
  | cons c cs ih =>
    rw [List.mem_cons, not_or] at h
    rw [List.cons_append, dotParts, ih h.2]
    exact if_neg (Ne.symm h.1)

theorem dotParts_intercalate (hne : parts ≠ []) (h : ∀ part ∈ parts, '.' ∉ part) :
    dotParts (['.'].intercalate parts) = parts := by
  induction parts with
  | nil => exact absurd rfl hne
  | cons part parts ih =>
    obtain ⟨hpart, hparts⟩ := List.forall_mem_cons.mp h
    cases parts with
    | nil =>
      rw [List.intercalate_singleton]
      exact dotParts_of_not_mem hpart
    | cons next parts =>
      rw [List.intercalate_cons_cons, List.append_assoc, List.singleton_append,
        dotParts_append hpart, ih (List.cons_ne_nil _ _) hparts]

theorem count_intercalate (h : ∀ part ∈ parts, '.' ∉ part) :
    (['.'].intercalate parts).count '.' = parts.length - 1 := by
  induction parts with
  | nil => rfl
  | cons part parts ih =>
    obtain ⟨hpart, hparts⟩ := List.forall_mem_cons.mp h
    have hnone : part.count '.' = 0 := List.count_eq_zero.mpr hpart
    cases parts with
    | nil =>
      rw [List.intercalate_singleton]
      exact hnone
    | cons next parts =>
      rw [List.intercalate_cons_cons, List.count_append, List.count_append, hnone, ih hparts]
      simp [Nat.add_comm]

/-- **Three numbers write the version of these**, unless one of them has a zero in front. -/
theorem parse?_intercalate (ha : IsDecimal a) (hb : IsDecimal b) (hc : IsDecimal c) :
    parse? (['.'].intercalate [a, b, c]) =
      if ∃ numeral ∈ [a, b, c], HasLeadingZero numeral then none
      else some (ofNumerals [a, b, c]) := by
  have hdecimal : ∀ part ∈ [a, b, c], IsDecimal part := by simp [ha, hb, hc]
  have hparts : dotParts (['.'].intercalate [a, b, c]) = [a, b, c] :=
    dotParts_intercalate (List.cons_ne_nil _ _)
      fun part hpart => not_mem_of_isDecimal (hdecimal part hpart) (by decide)
  have hlabel : ∀ d : Char, d ∈ ['.'].intercalate [a, b, c] → (d != '+') = true := by
    intro d hd
    rw [bne_iff_ne]
    rintro rfl
    rcases Text.mem_intercalate hd with hdot | ⟨part, hpart, hplus⟩
    · exact absurd hdot (by decide)
    · exact not_mem_of_isDecimal (hdecimal part hpart) (by decide) hplus
  -- There is no plus sign in the text, so all of it is taken for the numbers and the label is
  -- empty.
  have hread : parse? (['.'].intercalate [a, b, c]) = (number? a).bind fun major =>
      (number? b).bind fun minor => (number? c).bind fun patch =>
        some { major, minor, patch } := by
    unfold parse?
    dsimp only
    rw [List.takeWhile_eq_self_iff.mpr hlabel, List.dropWhile_eq_nil_iff.mpr hlabel, hparts]
    rfl
  rw [hread, number?_eq ha, number?_eq hb, number?_eq hc]
  by_cases hza : HasLeadingZero a <;> by_cases hzb : HasLeadingZero b <;>
    by_cases hzc : HasLeadingZero c <;> simp [hza, hzb, hzc, ofNumerals, numberAt]

/-! ## The numbers of a tag -/

variable {tag : String} {numerals : List (List Char)}

theorem isDecimal_zero : IsDecimal ['0'] := by decide

/-- **The version of a tag is that of its numbers**, unless one of them has a zero in front. -/
theorem ofTag?_eq (h : Numbers tag numerals) :
    ofTag? tag = if ∃ numeral ∈ numerals, HasLeadingZero numeral then none
      else some (ofNumerals numerals) := by
  obtain ⟨hpart, hany, hfew, hdecimal⟩ := h
  have hdots : ∀ numeral ∈ numerals, '.' ∉ numeral := fun numeral hnumeral =>
    not_mem_of_isDecimal (hdecimal numeral hnumeral) (by decide)
  have hzero : ¬ HasLeadingZero ['0'] := by decide
  unfold ofTag?
  simp only [hpart, count_intercalate hdots]
  -- The zeros that are filled in have none in front themselves, and change no number.
  match numerals, hany, hfew with
  | [a], _, _ =>
    have hfilled : ['.'].intercalate [a] ++ ['.', '0', '.', '0'] =
        ['.'].intercalate [a, ['0'], ['0']] := by simp [List.intercalate]
    have hparse := parse?_intercalate (hdecimal a (by simp)) isDecimal_zero isDecimal_zero
    rw [← hfilled] at hparse
    refine hparse.trans ?_
    simp only [List.mem_cons, List.not_mem_nil, or_false, exists_eq_or_imp, exists_eq_left, hzero]
    rfl
  | [a, b], _, _ =>
    have hfilled : ['.'].intercalate [a, b] ++ ['.', '0'] =
        ['.'].intercalate [a, b, ['0']] := by simp [List.intercalate]
    have hparse :=
      parse?_intercalate (hdecimal a (by simp)) (hdecimal b (by simp)) isDecimal_zero
    rw [← hfilled] at hparse
    refine hparse.trans ?_
    simp only [List.mem_cons, List.not_mem_nil, or_false, exists_eq_or_imp, exists_eq_left, hzero]
    rfl
  | [a, b, c], _, _ =>
    exact parse?_intercalate (hdecimal a (by simp)) (hdecimal b (by simp)) (hdecimal c (by simp))

end

theorem compare_ofNumerals {news olds : List (List Char)} :
    (ofNumerals news).compare (ofNumerals olds) = .lt ↔ triple news < triple olds := by
  unfold compare triple ofNumerals
  simp only [Prod.Lex.toLex_lt_toLex, Ordering.then_eq_lt, Nat.compare_eq_lt, Nat.compare_eq_eq,
    compareBuild, reduceCtorEq, and_false, or_false]

end Version

section
variable {old new : String} {olds news : List (List Char)}

/-- A tag that names no version is never below another, nor is another below it. -/
theorem isDowngrade_of_leadingZero (hold : Version.Numbers old olds)
    (hnew : Version.Numbers new news)
    (hzero : ∃ numeral ∈ olds ++ news, Version.HasLeadingZero numeral) :
    isDowngrade old new = false := by
  obtain ⟨numeral, hnumeral, hzero⟩ := hzero
  unfold isDowngrade
  rcases List.mem_append.mp hnumeral with hnumeral | hnumeral
  · rw [Version.ofTag?_eq hold, if_pos ⟨numeral, hnumeral, hzero⟩]
  · rw [Version.ofTag?_eq hnew, if_pos ⟨numeral, hnumeral, hzero⟩]
    split
    · contradiction
    · rfl

/-- **A tag is below another exactly if its numbers are**, where no number has a zero in front.
Numbers that are missing count as zero, and what follows a hyphen does not count. -/
theorem isDowngrade_iff (hold : Version.Numbers old olds) (hnew : Version.Numbers new news) :
    isDowngrade old new = true ↔ Version.triple news < Version.triple olds ∧
      ∀ numeral ∈ olds ++ news, ¬ Version.HasLeadingZero numeral := by
  by_cases hzero : ∃ numeral ∈ olds ++ news, Version.HasLeadingZero numeral
  · rw [isDowngrade_of_leadingZero hold hnew hzero]
    obtain ⟨numeral, hnumeral, hzero⟩ := hzero
    exact iff_of_false Bool.false_ne_true fun h => h.2 numeral hnumeral hzero
  · have hplain : ∀ numeral ∈ olds ++ news, ¬ Version.HasLeadingZero numeral :=
      fun numeral hnumeral h => hzero ⟨numeral, hnumeral, h⟩
    obtain ⟨holds, hnews⟩ := List.forall_mem_append.mp hplain
    rw [and_iff_left hplain, ← Version.compare_ofNumerals]
    unfold isDowngrade
    rw [Version.ofTag?_eq hold, Version.ofTag?_eq hnew,
      if_neg fun ⟨numeral, hnumeral, h⟩ => holds numeral hnumeral h,
      if_neg fun ⟨numeral, hnumeral, h⟩ => hnews numeral hnumeral h]
    exact beq_iff_eq

end

/-! ## Numbers are compared as numbers -/

theorem numbers_enterprise :
    Version.Numbers "5.26.1-enterprise" ["5".toList, "26".toList, "1".toList] := by
  constructor <;> decide

theorem numbers_short : Version.Numbers "5.9" ["5".toList, "9".toList] := by
  constructor <;> decide

/-- The tag that counts further in its second number is the later one, whatever its text. -/
theorem isDowngrade_short :
    Version.Numbers "5.26.1-enterprise" ["5".toList, "26".toList, "1".toList] ∧
      Version.Numbers "5.9" ["5".toList, "9".toList] ∧
        isDowngrade "5.26.1-enterprise" "5.9" = true :=
  ⟨numbers_enterprise, numbers_short,
    (isDowngrade_iff numbers_enterprise numbers_short).mpr ⟨by decide, by decide⟩⟩

/-- A tag that counts its months with two digits names no version in the first nine of them, so the
move back from October to September is no downgrade. -/
theorem not_isDowngrade_months :
    Version.Numbers "2025.10.1" ["2025".toList, "10".toList, "1".toList] ∧
      Version.Numbers "2025.09.0" ["2025".toList, "09".toList, "0".toList] ∧
        Version.triple ["2025".toList, "09".toList, "0".toList] <
          Version.triple ["2025".toList, "10".toList, "1".toList] ∧
            isDowngrade "2025.10.1" "2025.09.0" = false := by
  have hold : Version.Numbers "2025.10.1" ["2025".toList, "10".toList, "1".toList] := by
    constructor <;> decide
  have hnew : Version.Numbers "2025.09.0" ["2025".toList, "09".toList, "0".toList] := by
    constructor <;> decide
  exact ⟨hold, hnew, by decide, isDowngrade_of_leadingZero hold hnew
    ⟨"09".toList, by decide, by decide⟩⟩

end ClusterOperator
