import Mathlib.Data.List.TakeWhile
import ClusterOperator.Proofs.Text.Numerals
import ClusterOperator.Proofs.Validation.Forms
import ClusterOperator.Text.Blank

/-!
# Numerals between blanks

A number that is given as a text may have blanks on both sides and a plus sign in front. Reading it
takes the blanks off and goes through the digits once:

> **`natUpTo_trimBlanks_eq_ok_iff`** — a text is read as a number exactly if it is a numeral of that
> number between blanks, and the number is in range.

Taking the blanks off cannot take off too much, since no sign and no digit is a blank.
-/

set_option autoImplicit false

namespace ClusterOperator.Text

/-- That a list of characters is a numeral of a number: digits, perhaps with a plus sign in
front. -/
def IsNumeral (cs : List Char) (n : Nat) : Prop :=
  ∃ digits, IsNumber digits ∧ (cs = digits ∨ cs = '+' :: digits) ∧ Nat.ofDigitChars 10 digits 0 = n

/-- That a text is a numeral of a number between blanks. -/
def Holds (text : String) (n : Nat) : Prop :=
  ∃ front numeral back, text.toList = front ++ (numeral ++ back) ∧
    (∀ c ∈ front, isBlank c = true) ∧ (∀ c ∈ back, isBlank c = true) ∧ IsNumeral numeral n

variable {largest seen n : Nat} {c : Char} {cs front back : List Char}

/-! ## Numerals -/

theorem digitsUpTo_eq_ok_iff (hseen : seen ≤ largest) : digitsUpTo largest seen cs = .ok n ↔
    (∀ c ∈ cs, c.isDigit = true) ∧ Nat.ofDigitChars 10 cs seen = n ∧ n ≤ largest := by
  constructor
  · intro h
    induction cs generalizing seen with
    | nil =>
      cases h
      exact ⟨fun c hc => (List.not_mem_nil hc).elim, rfl, hseen⟩
    | cons c cs ih =>
      unfold digitsUpTo digit? at h
      by_cases hdigit : c.isDigit = true
      · simp only [if_pos hdigit] at h
        split at h
        · rename_i hle
          obtain ⟨hrest, hvalue, hrange⟩ := ih hle h
          exact ⟨List.forall_mem_cons.mpr ⟨hdigit, hrest⟩, ofDigitChars_cons.trans hvalue, hrange⟩
        · cases h
      · simp only [if_neg hdigit] at h
        cases h
  · rintro ⟨hdigits, rfl, hrange⟩
    exact digitsUpTo_of_isDigit hdigits hrange

theorem isNumeral_plus {rest : List Char} :
    IsNumeral ('+' :: rest) n ↔ IsNumber rest ∧ Nat.ofDigitChars 10 rest 0 = n := by
  constructor
  · rintro ⟨digits, hdigits, rfl | heq, hvalue⟩
    · exact absurd (hdigits.2 '+' List.mem_cons_self) (by decide)
    · obtain rfl := (List.cons.inj heq).2
      exact ⟨hdigits, hvalue⟩
  · rintro ⟨hdigits, hvalue⟩
    exact ⟨rest, hdigits, .inr rfl, hvalue⟩

theorem isNumeral_of_ne_plus (h : ∀ rest, cs ≠ '+' :: rest) :
    IsNumeral cs n ↔ IsNumber cs ∧ Nat.ofDigitChars 10 cs 0 = n := by
  constructor
  · rintro ⟨digits, hdigits, rfl | heq, hvalue⟩
    · exact ⟨hdigits, hvalue⟩
    · exact absurd heq (h digits)
  · rintro ⟨hdigits, hvalue⟩
    exact ⟨cs, hdigits, .inl rfl, hvalue⟩

/-- **A numeral is read as its number**, if that is in range, and nothing else is read. -/
theorem natUpTo_eq_ok_iff : natUpTo largest cs = .ok n ↔ IsNumeral cs n ∧ n ≤ largest := by
  have hread : ∀ cs : List Char, cs ≠ [] → (digitsUpTo largest 0 cs = .ok n ↔
      (IsNumber cs ∧ Nat.ofDigitChars 10 cs 0 = n) ∧ n ≤ largest) := fun cs hne => by
    rw [digitsUpTo_eq_ok_iff (Nat.zero_le _), IsNumber, and_iff_right hne, and_assoc]
  fun_cases natUpTo largest cs with
  | case1 => simp [isNumeral_of_ne_plus, IsNumber]
  | case2 => simp [isNumeral_plus, IsNumber]
  | case3 => simp [isNumeral_of_ne_plus, IsNumber]
  | case4 rest hne => rw [isNumeral_plus, hread rest (by simpa using hne)]
  | case5 cs hnil hplus hminus hother =>
    rw [isNumeral_of_ne_plus (by simpa using hother), hread cs hnil]

/-! ## Blanks -/

theorem dropWhile_isBlank_of_clear (h : ∀ c ∈ cs, isBlank c = false) :
    cs.dropWhile isBlank = cs := by
  cases cs with
  | nil => rfl
  | cons c cs =>
    exact List.dropWhile_cons_of_neg (Bool.eq_false_iff.mp (h c List.mem_cons_self))

/-- **What stands between blanks is left**, if there is no blank in it. -/
theorem trimBlanks_append (hfront : ∀ c ∈ front, isBlank c = true)
    (hback : ∀ c ∈ back, isBlank c = true) (hclear : ∀ c ∈ cs, isBlank c = false) :
    trimBlanks (front ++ (cs ++ back)) = cs := by
  unfold trimBlanks
  rw [List.dropWhile_append_of_pos hfront, List.dropWhile_append, dropWhile_isBlank_of_clear hclear]
  cases cs with
  | nil =>
    rw [List.dropWhile_eq_nil_iff.mpr hback]
    rfl
  | cons c cs =>
    have hback' : ∀ c ∈ back.reverse, isBlank c = true := fun c hc =>
      hback c (List.mem_reverse.mp hc)
    have hclear' : ∀ d ∈ (c :: cs).reverse, isBlank d = false := fun d hd =>
      hclear d (List.mem_reverse.mp hd)
    rw [List.isEmpty_cons, if_neg Bool.false_ne_true, List.reverse_append,
      List.dropWhile_append_of_pos hback', dropWhile_isBlank_of_clear hclear', List.reverse_reverse]

theorem exists_trimBlanks (cs : List Char) : ∃ front back, cs = front ++ (trimBlanks cs ++ back) ∧
    (∀ c ∈ front, isBlank c = true) ∧ (∀ c ∈ back, isBlank c = true) := by
  refine ⟨cs.takeWhile isBlank, ((cs.dropWhile isBlank).reverse.takeWhile isBlank).reverse, ?_,
    fun c hc => List.mem_takeWhile_imp hc,
    fun c hc => List.mem_takeWhile_imp (List.mem_reverse.mp hc)⟩
  unfold trimBlanks
  rw [← List.reverse_append, List.takeWhile_append_dropWhile, List.reverse_reverse,
    List.takeWhile_append_dropWhile]

theorem not_isBlank_of_mem_numeral (h : IsNumeral cs n) : ∀ c ∈ cs, isBlank c = false := by
  have hdigit : ∀ c : Char, c.isDigit = true → isBlank c = false := by
    intro c hc
    simp only [Char.isDigit, Bool.and_eq_true, decide_eq_true_eq] at hc
    obtain ⟨hlow, hhigh⟩ := hc
    have hlow : 48 ≤ c.toNat := UInt32.le_iff_toNat_le.mp hlow
    have hhigh : c.toNat ≤ 57 := UInt32.le_iff_toNat_le.mp hhigh
    simp only [isBlank, Bool.or_eq_false_iff, Bool.and_eq_false_iff, decide_eq_false_iff_not,
      beq_eq_false_iff_ne]
    omega
  obtain ⟨digits, hdigits, rfl | rfl, -⟩ := h
  · exact fun c hc => hdigit c (hdigits.2 c hc)
  · exact List.forall_mem_cons.mpr ⟨by decide, fun c hc => hdigit c (hdigits.2 c hc)⟩

/-- **A text is read as a number exactly if it is a numeral of the number between blanks**, and the
number is in range. -/
theorem natUpTo_trimBlanks_eq_ok_iff {text : String} :
    natUpTo largest (trimBlanks text.toList) = .ok n ↔ Holds text n ∧ n ≤ largest := by
  rw [natUpTo_eq_ok_iff]
  refine and_congr_left fun _ => ⟨fun hnumeral => ?_, ?_⟩
  · obtain ⟨front, back, heq, hfront, hback⟩ := exists_trimBlanks text.toList
    exact ⟨front, trimBlanks text.toList, back, heq, hfront, hback, hnumeral⟩
  · rintro ⟨front, numeral, back, heq, hfront, hback, hnumeral⟩
    rw [heq, trimBlanks_append hfront hback (not_isBlank_of_mem_numeral hnumeral)]
    exact hnumeral

end ClusterOperator.Text
