import Mathlib.Data.List.Basic
import ClusterOperator.Proofs.Text.Fields
import ClusterOperator.Proofs.Text.Numerals

/-!
# Lines and the settings on them

A file of settings is read by its lines, and a line by its first `=`. What is written line by line
is read line by line:

> **`linesOf_terminated`** — the lines of a text are those it was made of, if no line has a break in
> it.

Nothing of the kind holds for lines that have one, so most of this file is about texts that have
none.
-/

set_option autoImplicit false

namespace ClusterOperator.Text

/-! ## Texts without line breaks -/

/-- That a text has no line break. -/
def Unbroken (s : String) : Prop := '\n' ∉ s.toList

instance (s : String) : Decidable (Unbroken s) := inferInstanceAs (Decidable ('\n' ∉ s.toList))

theorem unbroken_append {s t : String} : Unbroken (s ++ t) ↔ Unbroken s ∧ Unbroken t := by
  unfold Unbroken
  rw [String.toList_append, List.mem_append, not_or]

theorem unbroken_toString_nat (n : Nat) : Unbroken (toString n) := by
  intro h
  rw [toList_toString] at h
  exact absurd (Nat.isDigit_of_mem_toDigits (by decide) (by decide) h) (by decide)

theorem unbroken_toString_int (z : Int) : Unbroken (toString z) := by
  show Unbroken z.repr
  rw [Int.repr_eq_if]
  split
  · exact unbroken_toString_nat _
  · exact unbroken_append.mpr ⟨by decide, unbroken_toString_nat _⟩

theorem mem_intercalate {α : Type} {sep : List α} {parts : List (List α)} {c : α}
    (h : c ∈ sep.intercalate parts) : c ∈ sep ∨ ∃ part ∈ parts, c ∈ part := by
  induction parts with
  | nil =>
    rw [List.intercalate_nil] at h
    cases h
  | cons part parts ih =>
    cases parts with
    | nil =>
      rw [List.intercalate_singleton] at h
      exact .inr ⟨part, List.mem_cons_self, h⟩
    | cons next parts =>
      rw [List.intercalate_cons_cons, List.mem_append, List.mem_append] at h
      rcases h with (h | h) | h
      · exact .inr ⟨part, List.mem_cons_self, h⟩
      · exact .inl h
      · exact (ih h).imp_right fun ⟨other, hother, hc⟩ =>
          ⟨other, List.mem_cons_of_mem _ hother, hc⟩

theorem unbroken_intercalate {sep : String} {parts : List String} (hsep : Unbroken sep)
    (h : ∀ part ∈ parts, Unbroken part) : Unbroken (sep.intercalate parts) := by
  intro hmem
  rw [String.toList_intercalate] at hmem
  rcases mem_intercalate hmem with hmem | ⟨part, hpart, hmem⟩
  · exact hsep hmem
  · obtain ⟨text, htext, rfl⟩ := List.mem_map.mp hpart
    exact h text htext hmem

/-! ## Lines -/

/-- The lines of a text. What follows the last break is a line too, so a text that ends with a break
has an empty last line. -/
def linesOf (text : List Char) : List (List Char) := text.splitOn '\n'

theorem terminated_eq_intercalate {α : Type} (sign : α) (fields : List (List α)) :
    terminated sign fields = [sign].intercalate (fields ++ [[]]) := by
  induction fields with
  | nil => rfl
  | cons field fields ih =>
    rw [terminated_cons, List.cons_append, List.intercalate_cons_of_ne_nil (by simp), ← ih,
      List.append_assoc]
    rfl

/-- **Lines without breaks are read as they were written.** -/
theorem linesOf_terminated {lines : List (List Char)} (h : ∀ line ∈ lines, '\n' ∉ line) :
    linesOf (terminated '\n' lines) = lines ++ [[]] := by
  rw [linesOf, terminated_eq_intercalate]
  refine List.splitOn_intercalate '\n' (fun line hline => ?_) (by simp)
  rcases List.mem_append.mp hline with hline | hline
  · exact h line hline
  · rw [List.mem_singleton.mp hline]
    exact List.not_mem_nil

/-- The lines of a text are those before a break of it and those after. -/
theorem linesOf_append_break (before after : List Char) :
    linesOf (before ++ '\n' :: after) = linesOf before ++ linesOf after := by
  simp only [linesOf, List.splitOn_eq_splitOnP]
  exact List.splitOnP_append_cons before after (beq_self_eq_true _)

theorem linesOf_of_not_mem {line : List Char} (h : '\n' ∉ line) : linesOf line = [line] := by
  have hread : (['\n'].intercalate [line]).splitOn '\n' = [line] :=
    List.splitOn_intercalate '\n' (List.forall_mem_singleton.mpr h) (List.cons_ne_nil _ _)
  rwa [List.intercalate_singleton] at hread

/-- How a text begins, up to its first break, so does its first line. -/
theorem exists_mem_linesOf_prefix {start : List Char} (h : '\n' ∉ start) (rest : List Char) :
    ∃ line ∈ linesOf (start ++ rest), start <+: line := by
  by_cases hbreak : '\n' ∈ rest
  · obtain ⟨first, later, rfl, hfirst⟩ := List.eq_append_cons_of_mem hbreak
    have hline : '\n' ∉ start ++ first := List.not_mem_append h hfirst
    refine ⟨start ++ first, ?_, List.prefix_append _ _⟩
    rw [← List.append_assoc, linesOf_append_break, linesOf_of_not_mem hline]
    exact List.mem_append_left _ (List.mem_singleton_self _)
  · refine ⟨start ++ rest, ?_, List.prefix_append _ _⟩
    rw [linesOf_of_not_mem (List.not_mem_append h hbreak)]
    exact List.mem_singleton_self _

theorem linesOf_intercalate {lines : List String} (h : ∀ line ∈ lines, Unbroken line)
    (hne : lines ≠ []) : linesOf ("\n".intercalate lines).toList = lines.map String.toList := by
  rw [linesOf, String.toList_intercalate]
  refine List.splitOn_intercalate '\n' (fun line hline => ?_) (by simpa using hne)
  obtain ⟨text, htext, rfl⟩ := List.mem_map.mp hline
  exact h text htext

/-! ## Settings -/

/-- The setting on a line: what stands before its first `=`, and what after it. A comment has none.
Further signs belong to the value, as the server reads it. -/
def settingOf? (line : List Char) : Option (String × String) :=
  if line.head? = some '#' then none
  else
    match line.dropWhile (· != '=') with
    | [] => none
    | _ :: value => some (String.ofList (line.takeWhile (· != '=')), String.ofList value)

/-- The settings of a text, one for each line that has one. -/
def settingsOf (text : List Char) : List (String × String) := (linesOf text).filterMap settingOf?

theorem settingsOf_terminated {lines : List (List Char)} (h : ∀ line ∈ lines, '\n' ∉ line) :
    settingsOf (terminated '\n' lines) = lines.filterMap settingOf? := by
  rw [settingsOf, linesOf_terminated h, List.filterMap_append]
  exact List.append_nil _

theorem settingOf?_append {key value : String} (hcomment : key.toList.head? ≠ some '#')
    (hne : key.toList ≠ []) (hkey : '=' ∉ key.toList) :
    settingOf? (key.toList ++ '=' :: value.toList) = some (key, value) := by
  have hbefore : ∀ c ∈ key.toList, (c != '=') = true := by
    intro c hc
    rw [bne_iff_ne]
    rintro rfl
    exact hkey hc
  unfold settingOf?
  rw [List.head?_append_of_ne_nil _ hne, if_neg hcomment,
    List.dropWhile_append_of_pos hbefore, List.takeWhile_append_of_pos hbefore]
  simp

end ClusterOperator.Text
