import Mathlib.Algebra.Group.Nat.Defs
import Mathlib.Data.Option.Basic
import ClusterOperator.Proofs.Text.Numerals
import ClusterOperator.Proofs.Time.Calendar
import ClusterOperator.Time.Parser

/-!
# What is printed of an instant is read again

The operator remembers times as texts: since when a digest has been the same, since when a
configuration waits, when the last repair took place. Everything that is decided over several
passes therefore goes through one printing and one reading, and is only as good as

> **`Instant.parse?_toText`** — reading the text of an instant gives that instant.

Each reader gets a lemma of one shape: it reads what the matching printer writes and leaves the
rest of the characters alone, whatever they are. The parts are then put together in the order in
which they stand in the text. Only the fraction looks at what follows it, because nothing but the
next character says where it ends.

The second half is about differences. Whole seconds lose their order with nothing that lies
between, so an earlier start never makes less time pass.
-/

set_option autoImplicit false

namespace ClusterOperator

open Instant

namespace Time

/-! ## Digits -/

theorem toList_padded (width n : Nat) :
    (padded width n).toList =
      List.replicate (width - (Nat.toDigits 10 n).length) '0' ++ Nat.toDigits 10 n := by
  simp [padded]

theorem isDigit_of_mem_padded {width n : Nat} {c : Char} (h : c ∈ (padded width n).toList) :
    c.isDigit := by
  rw [toList_padded, List.mem_append] at h
  rcases h with h | h
  · rw [List.eq_of_mem_replicate h]
    rfl
  · exact Nat.isDigit_of_mem_toDigits (by decide) (by decide) h

theorem length_padded {width n : Nat} (hw : 0 < width) (hn : n < 10 ^ width) :
    (padded width n).toList.length = width := by
  have hle := (Nat.length_toDigits_le_iff (by decide : 1 < 10) hw).mpr hn
  rw [toList_padded, List.length_append, List.length_replicate]
  omega

theorem ofDigitChars_padded (width n : Nat) :
    Nat.ofDigitChars 10 (padded width n).toList 0 = n := by
  rw [toList_padded, Nat.ofDigitChars_append, Nat.ofDigitChars_replicate_zero, Nat.mul_zero,
    Nat.ofDigitChars_ten_toDigits]

theorem readDigits?_append {ds : List Char} (hd : ∀ c ∈ ds, c.isDigit) (seen : Nat)
    (rest : List Char) :
    readDigits? ds.length seen (ds ++ rest) = some (Nat.ofDigitChars 10 ds seen, rest) := by
  induction ds generalizing seen with
  | nil => simp [readDigits?]
  | cons c ds ih =>
    have hc : c.isDigit := hd c List.mem_cons_self
    rw [List.length_cons, List.cons_append, readDigits?, readDigit?, if_pos hc, Option.bind_some]
    show readDigits? ds.length (seen * 10 + (c.toNat - 48)) (ds ++ rest) = _
    rw [ih (fun c h => hd c (List.mem_cons_of_mem _ h)), Nat.ofDigitChars_cons, Nat.mul_comm]
    rfl

theorem readDigits?_padded {width n : Nat} (hw : 0 < width) (hn : n < 10 ^ width)
    (rest : List Char) :
    readDigits? width 0 ((padded width n).toList ++ rest) = some (n, rest) := by
  have hdigits : ∀ c ∈ (padded width n).toList, c.isDigit := fun c hc => isDigit_of_mem_padded hc
  have h := readDigits?_append hdigits 0 rest
  rw [length_padded hw hn, ofDigitChars_padded] at h
  exact h

theorem readPair?_padded {n largest : Nat} (hn : n ≤ largest) (hl : largest < 100)
    (rest : List Char) : readPair? largest ((padded 2 n).toList ++ rest) = some (n, rest) := by
  rw [readPair?, readDigits?_padded (by decide) (by omega), Option.bind_some]
  exact if_pos hn

/-! ## Dates -/

/-- A year that starts with a digit is read as four digits; the two signs are no digits. -/
theorem readYear?_of_isDigit {c : Char} (hc : c.isDigit) (cs : List Char) :
    readYear? (c :: cs) = (readDigits? 4 0 (c :: cs)).map fun (n, rest) => ((n : Int), rest) := by
  unfold readYear?
  split
  · rename_i heq
    obtain ⟨rfl, rfl⟩ := List.cons.inj heq
    exact absurd hc (by decide)
  · rename_i heq
    obtain ⟨rfl, rfl⟩ := List.cons.inj heq
    exact absurd hc (by decide)
  · rfl

theorem readYear?_yearText {year : Int} (lower : -9999 ≤ year) (upper : year ≤ 9999)
    (rest : List Char) : readYear? ((yearText year).toList ++ rest) = some (year, rest) := by
  unfold yearText
  -- A year before the first has a sign and six digits, any other four digits and no sign.
  split
  · rename_i hneg
    rw [String.toList_append]
    show readYear? ('-' :: ((padded 6 year.natAbs).toList ++ rest)) = _
    rw [readYear?, readDigits?_padded (by decide) (by omega), Option.bind_some]
    show (if year.natAbs = 0 then none else some (-(year.natAbs : Int), rest)) = _
    rw [if_neg (by omega), Int.ofNat_natAbs_of_nonpos (by omega), Int.neg_neg]
  · rename_i hneg
    have hlt : year.natAbs < 10 ^ 4 := by omega
    have hread := readDigits?_padded (by decide : 0 < 4) hlt rest
    cases hds : (padded 4 year.natAbs).toList with
    | nil =>
      have hlen := length_padded (by decide : 0 < 4) hlt
      rw [hds] at hlen
      exact absurd hlen (by decide)
    | cons c ds =>
      have hc : c.isDigit := isDigit_of_mem_padded (hds ▸ List.mem_cons_self)
      rw [hds] at hread
      rw [List.cons_append] at hread ⊢
      rw [readYear?_of_isDigit hc, hread, Option.map_some]
      show some ((year.natAbs : Int), rest) = _
      rw [Int.natAbs_of_nonneg (by omega)]

theorem readDate?_text {d : Date} (hvalid : d.isValid) (lower : -9999 ≤ d.year)
    (upper : d.year ≤ 9999) (rest : List Char) :
    readDate? ((yearText d.year).toList ++ '-' :: ((padded 2 d.month.toNat).toList ++
      '-' :: ((padded 2 d.day.toNat).toList ++ rest))) = some (d, rest) := by
  obtain ⟨hm1, hm2, hd1, hd2⟩ := Date.isValid_iff.mp hvalid
  have hd31 : d.day ≤ 31 := Int.le_trans hd2 (daysInMonth_le _ _)
  have hdate : (⟨d.year, (d.month.toNat : Int), (d.day.toNat : Int)⟩ : Date) = d := by
    rw [Int.toNat_of_nonneg (by omega), Int.toNat_of_nonneg (by omega)]
  simp only [readDate?, readYear?_yearText lower upper, Option.bind_eq_bind, Option.bind_some,
    List.head?_cons, beq_self_eq_true, if_true, List.drop_succ_cons, List.drop_zero,
    readPair?_padded (show d.month.toNat ≤ 12 by omega) (by decide),
    readPair?_padded (show d.day.toNat ≤ 31 by omega) (by decide), hdate, hvalid]
  simp [lower, upper]

/-! ## Fractions -/

theorem exists_trailing_zeros (ds : List Char) :
    ∃ k, ds = (ds.reverse.dropWhile (· == '0')).reverse ++ List.replicate k '0' := by
  have hzeros : ∀ c ∈ ds.reverse.takeWhile (· == '0'), c = '0' := fun c hc => by
    simpa using List.all_eq_true.mp List.all_takeWhile c hc
  have h := congrArg List.reverse
    (List.takeWhile_append_dropWhile (p := (· == '0')) (l := ds.reverse))
  rw [List.reverse_append, List.reverse_reverse, List.eq_replicate_of_mem hzeros,
    List.reverse_replicate] at h
  exact ⟨_, h.symm⟩

theorem takeWhile_isDigit_take {ds : List Char} (hd : ∀ c ∈ ds, c.isDigit) (hlen : ds.length ≤ 9)
    (rest : List Char) : ((ds ++ 'Z' :: rest).take 9).takeWhile Char.isDigit = ds := by
  rw [List.take_append, List.take_of_length_le hlen, List.takeWhile_append_of_pos hd]
  cases 9 - ds.length with
  | zero => simp
  | succ m => simp

/-- A fraction loses its trailing zeros when it is printed; the reader puts back as many as are
missing from nine digits. -/
theorem readFraction?_text {nanos : Nat} (h : nanos < 10 ^ 9) (rest : List Char) :
    readFraction? ((fractionText nanos).toList ++ 'Z' :: rest) = some (nanos, 'Z' :: rest) := by
  unfold fractionText
  split
  · rename_i hzero
    rw [hzero]
    rfl
  · rename_i hne
    -- What is printed are the first digits; the zeros that were cut off are as many as are missing
    -- from nine.
    obtain ⟨k, hk⟩ := exists_trailing_zeros (padded 9 nanos).toList
    generalize ((padded 9 nanos).toList.reverse.dropWhile (· == '0')).reverse = ds at hk ⊢
    have hlen := length_padded (by decide : 0 < 9) h
    have hval := ofDigitChars_padded 9 nanos
    have hpadded : ∀ c ∈ (padded 9 nanos).toList, c.isDigit := fun c hc => isDigit_of_mem_padded hc
    have hdigits : ∀ c ∈ ds, c.isDigit := fun c hc => hpadded c (hk ▸ List.mem_append_left _ hc)
    rw [hk, List.length_append, List.length_replicate] at hlen
    rw [hk, Nat.ofDigitChars_append, Nat.ofDigitChars_replicate_zero] at hval
    have hds : ds ≠ [] := by
      rintro rfl
      exact hne (by simpa using hval.symm)
    have htake := takeWhile_isDigit_take hdigits (by omega) rest
    rw [String.toList_append, String.toList_ofList, String.toList_ofList]
    show readFraction? ('.' :: (ds ++ 'Z' :: rest)) = _
    simp only [readFraction?, decide_true, Bool.true_or, if_true, htake, Text.foldl_eq_ofDigitChars,
      List.drop_left, List.isEmpty_iff, hds, if_false]
    rw [show 9 - ds.length = k by omega, Nat.mul_comm]
    exact congrArg (fun n => some (n, 'Z' :: rest)) hval

theorem readTime?_text {second nanos : Nat} (hs : second < 86400) (hn : nanos < 10 ^ 9)
    (rest : List Char) :
    readTime? ((padded 2 (second / 3600)).toList ++ ':' :: ((padded 2 (second / 60 % 60)).toList ++
      ':' :: ((padded 2 (second % 60)).toList ++ ((fractionText nanos).toList ++ 'Z' :: rest)))) =
      some (second * 1000000000 + nanos, 'Z' :: rest) := by
  have hsecond : (second / 3600 * 60 + second / 60 % 60) * 60 + min (second % 60) 59 = second := by
    omega
  simp only [readTime?, readPair?_padded (show second / 3600 ≤ 23 by omega) (by decide),
    readPair?_padded (show second / 60 % 60 ≤ 59 by omega) (by decide),
    readPair?_padded (show second % 60 ≤ 60 by omega) (by decide), Option.bind_eq_bind,
    Option.bind_some, List.head?_cons, beq_self_eq_true, anotherPair, readFraction?_text hn]
  rw [hsecond]

end Time

open Time

namespace Instant

/-! ## The whole text -/

theorem toList_toText (t : Instant) :
    let seconds := t.nanos / nanosPerSecond
    let date := Date.ofDays (seconds / 86400)
    let ofDay := (seconds % 86400).toNat
    t.toText.toList =
      (yearText date.year).toList ++ '-' :: ((padded 2 date.month.toNat).toList ++
        '-' :: ((padded 2 date.day.toNat).toList ++ 'T' ::
          ((padded 2 (ofDay / 3600)).toList ++ ':' :: ((padded 2 (ofDay / 60 % 60)).toList ++
            ':' :: ((padded 2 (ofDay % 60)).toList ++
              ((fractionText (t.nanos % nanosPerSecond).toNat).toList ++ ['Z'])))))) := by
  simp [toText]

theorem day_bounds (t : Instant) :
    -4371587 ≤ t.nanos / nanosPerSecond / 86400 ∧ t.nanos / nanosPerSecond / 86400 ≤ 2932895 := by
  have hlower := t.lower
  have hupper := t.upper
  unfold minNanos nanosPerSecond at hlower
  unfold maxNanos nanosPerSecond at hupper
  unfold nanosPerSecond
  omega

theorem ofNanos?_nanos (t : Instant) : ofNanos? t.nanos = some t := by
  unfold ofNanos?
  rw [dif_pos ⟨t.lower, t.upper⟩]

/-- **Reading the text of an instant gives that instant.** -/
@[simp] theorem parse?_toText (t : Instant) : parse? t.toText = some t := by
  have hyear := Date.year_ofDays_bounds t.day_bounds.1 t.day_bounds.2
  have hofDay : (t.nanos / nanosPerSecond % 86400).toNat < 86400 := by omega
  have hnanos : (t.nanos % nanosPerSecond).toNat < 10 ^ 9 := by
    unfold nanosPerSecond
    omega
  have hsum : (t.nanos / nanosPerSecond / 86400 * 86400 - 0) * nanosPerSecond +
      (((t.nanos / nanosPerSecond % 86400).toNat * 1000000000 +
        (t.nanos % nanosPerSecond).toNat : Nat) : Int) = t.nanos := by
    unfold nanosPerSecond
    omega
  simp only [parse?, toList_toText, Option.bind_eq_bind,
    readDate?_text (Date.isValid_ofDays _) hyear.1 hyear.2, Option.bind_some,
    readTime?_text hofDay hnanos, decide_true, Bool.true_or, if_true, readOffset?, areAnnotations,
    Date.toDays_ofDays]
  rw [hsum]
  exact ofNanos?_nanos t

/-! ## Elapsed seconds -/

@[simp] theorem elapsed_self (t : Instant) : elapsed t t = 0 := by
  unfold elapsed
  omega

theorem second_le_second {a b : Instant} (h : a.nanos ≤ b.nanos) : a.second ≤ b.second :=
  Int.tdiv_le_tdiv (by decide) h

theorem elapsed_le_elapsed {a b : Instant} (h : a.nanos ≤ b.nanos) (now : Instant) :
    elapsed b now ≤ elapsed a now := by
  have hsecond := second_le_second h
  unfold elapsed
  omega

end Instant

end ClusterOperator
