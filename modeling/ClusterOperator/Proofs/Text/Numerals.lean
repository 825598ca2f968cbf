import ClusterOperator.Text.Numeral

/-!
# Numerals are read as they are written

A whole number is written with as few digits as it takes. Whoever reads such a numeral with a
largest value that is not below the number gets the number back:

> **`intUpTo_toDigits`** — the digits of a number are read as the number, if it is in range.

The reader goes through the digits once and compares what it has read so far with the largest value.
It never stops too early, since what has been read so far is at most the whole (`le_ofDigitChars`).
-/

set_option autoImplicit false

namespace ClusterOperator.Text

variable {largest seen n : Nat} {c : Char} {cs : List Char}

theorem toList_toString (n : Nat) : (toString n).toList = Nat.toDigits 10 n := by
  rw [Nat.toString_eq_ofList_toDigits, String.toList_ofList]

theorem toList_toString_int (n : Int) :
    (toString n).toList = (if n < 0 then ['-'] else []) ++ Nat.toDigits 10 n.natAbs := by
  cases n with
  | ofNat m =>
    have hsign : ¬ Int.ofNat m < 0 := Int.not_lt.mpr (Int.natCast_nonneg m)
    rw [if_neg hsign]
    exact toList_toString m
  | negSucc m =>
    rw [if_pos (Int.negSucc_lt_zero m)]
    show ("-" ++ toString (m + 1)).toList = _
    rw [String.toList_append, toList_toString]
    rfl

theorem exists_first_digit (h : 0 < n) :
    ∃ d ds, Nat.toDigits 10 n = d :: ds ∧ '0' < d := by
  induction n using Nat.strongRecOn with
  | _ n ih =>
    by_cases hlt : n < 10
    · have hsmall : ∀ m < 10, 0 < m → '0' < m.digitChar := by decide
      exact ⟨n.digitChar, [], Nat.toDigits_of_lt_base hlt, hsmall n hlt h⟩
    · obtain ⟨d, ds, heq, hd⟩ := ih (n / 10) (by omega) (by omega)
      refine ⟨d, ds ++ [(n % 10).digitChar], ?_, hd⟩
      rw [Nat.toDigits_of_base_le (by decide) (by omega), heq]
      rfl

theorem ofDigitChars_cons : Nat.ofDigitChars 10 (c :: cs) seen =
    Nat.ofDigitChars 10 cs (seen * 10 + (c.toNat - 48)) := by
  rw [Nat.mul_comm seen]
  rfl

theorem foldl_eq_ofDigitChars (cs : List Char) (seen : Nat) :
    cs.foldl (fun n d => n * 10 + (d.toNat - 48)) seen = Nat.ofDigitChars 10 cs seen := by
  induction cs generalizing seen with
  | nil => rfl
  | cons c cs ih => rw [List.foldl_cons, ih, ofDigitChars_cons]

theorem le_ofDigitChars : seen ≤ Nat.ofDigitChars 10 cs seen := by
  induction cs generalizing seen with
  | nil => exact Nat.le_refl seen
  | cons c cs ih =>
    rw [ofDigitChars_cons]
    have hrest := @ih (seen * 10 + (c.toNat - 48))
    omega

theorem digitsUpTo_of_isDigit (hdigits : ∀ c ∈ cs, c.isDigit = true)
    (h : Nat.ofDigitChars 10 cs seen ≤ largest) :
    digitsUpTo largest seen cs = .ok (Nat.ofDigitChars 10 cs seen) := by
  induction cs generalizing seen with
  | nil => rfl
  | cons c cs ih =>
    obtain ⟨hfirst, hrest⟩ := List.forall_mem_cons.mp hdigits
    rw [ofDigitChars_cons] at h ⊢
    unfold digitsUpTo digit?
    simp only [hfirst, if_true]
    rw [if_pos (Nat.le_trans le_ofDigitChars h), ih hrest h]

theorem isDigit_of_mem_toDigits (hc : c ∈ Nat.toDigits 10 n) : c.isDigit = true :=
  Nat.isDigit_of_mem_toDigits (by decide) (by decide) hc

theorem not_mem_toDigits (hc : c.isDigit = false) : c ∉ Nat.toDigits 10 n := by
  intro hmem
  cases hc.symm.trans (isDigit_of_mem_toDigits hmem)

theorem toDigits_inj {a b : Nat} (h : Nat.toDigits 10 a = Nat.toDigits 10 b) : a = b := by
  rw [← Nat.ofDigitChars_ten_toDigits (n := a), h, Nat.ofDigitChars_ten_toDigits]

theorem toString_nat_inj {a b : Nat} (h : toString a = toString b) : a = b := by
  have htext := congrArg String.toList h
  rw [toList_toString, toList_toString] at htext
  exact toDigits_inj htext

/-- A numeral is that of one number: the sign is not a digit, so it is told from what follows. -/
theorem toString_int_inj {m n : Int} (h : toString m = toString n) : m = n := by
  have htext := congrArg String.toList h
  rw [toList_toString_int, toList_toString_int] at htext
  have hsign {a b : Nat} (hsame : '-' :: Nat.toDigits 10 a = Nat.toDigits 10 b) : False :=
    not_mem_toDigits (by decide) (hsame ▸ List.mem_cons_self)
  by_cases hm : m < 0
  · by_cases hn : n < 0
    · rw [if_pos hm, if_pos hn] at htext
      have habs := toDigits_inj (List.append_cancel_left htext)
      omega
    · rw [if_pos hm, if_neg hn] at htext
      exact (hsign htext).elim
  · by_cases hn : n < 0
    · rw [if_neg hm, if_pos hn] at htext
      exact (hsign htext.symm).elim
    · rw [if_neg hm, if_neg hn] at htext
      have habs := toDigits_inj htext
      omega

theorem intUpTo_cons (hplus : c ≠ '+') (hminus : c ≠ '-') :
    intUpTo largest (c :: cs) = (digitsUpTo largest 0 (c :: cs)).map Int.ofNat := by
  unfold intUpTo
  split <;> simp_all

theorem exists_toDigits_cons (n : Nat) :
    ∃ d ds, Nat.toDigits 10 n = d :: ds ∧ d.isDigit = true := by
  cases heq : Nat.toDigits 10 n with
  | nil => exact absurd heq Nat.toDigits_ne_nil
  | cons d ds => exact ⟨d, ds, rfl, isDigit_of_mem_toDigits (heq ▸ List.mem_cons_self)⟩

/-- **The digits of a number are read as the number.** -/
theorem intUpTo_toDigits (h : n ≤ largest) :
    intUpTo largest (Nat.toDigits 10 n) = .ok (n : Int) := by
  have hvalue : Nat.ofDigitChars 10 (Nat.toDigits 10 n) 0 = n := Nat.ofDigitChars_ten_toDigits
  have hread : digitsUpTo largest 0 (Nat.toDigits 10 n) =
      .ok (Nat.ofDigitChars 10 (Nat.toDigits 10 n) 0) :=
    digitsUpTo_of_isDigit (fun c hc => isDigit_of_mem_toDigits hc) (hvalue.symm ▸ h)
  obtain ⟨first, rest, heq, hfirst⟩ := exists_toDigits_cons n
  have hne (sign : Char) (hsign : sign.isDigit = false) : first ≠ sign := by
    rintro rfl
    cases hsign.symm.trans hfirst
  rw [hvalue, heq] at hread
  rw [heq, intUpTo_cons (hne '+' (by decide)) (hne '-' (by decide)), hread]
  rfl

end ClusterOperator.Text
