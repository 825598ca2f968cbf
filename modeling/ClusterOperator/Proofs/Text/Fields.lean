/-!
# Fields that are ended by a sign

A list of fields is written one after another, each ended by a sign that occurs in none of them.
Such a text is read in one way only, also from its end:

> **`exists_of_terminated_eq_append`** — if a text of fields ends with another, the fields of that
> other are its last fields.

So even a text in which the sign does occur can be told from the fields after it, if the first of
these stands there only once (`append_marked_inj`).

A text as a whole is written in bytes, and a byte is zero only where the character is.
-/

set_option autoImplicit false

namespace ClusterOperator.Text

section
variable {α : Type} {sign : α} {x y s t before : List α} {fields others : List (List α)}

theorem append_cons_inj (hx : sign ∉ x) (hy : sign ∉ y) (h : x ++ sign :: s = y ++ sign :: t) :
    x = y ∧ s = t := by
  induction x generalizing y with
  | nil =>
    cases y with
    | nil => exact ⟨rfl, (List.cons.inj h).2⟩
    | cons c y => exact absurd ((List.cons.inj h).1 ▸ List.mem_cons_self) hy
  | cons c x ih =>
    cases y with
    | nil => exact absurd ((List.cons.inj h).1 ▸ List.mem_cons_self) hx
    | cons d y =>
      obtain ⟨rfl, htail⟩ := List.cons.inj h
      obtain ⟨rfl, hrest⟩ := ih (List.not_mem_of_not_mem_cons hx)
        (List.not_mem_of_not_mem_cons hy) htail
      exact ⟨rfl, hrest⟩

/-- Fields, each ended by a sign. -/
def terminated (sign : α) (fields : List (List α)) : List α := fields.flatMap (· ++ [sign])

theorem terminated_cons (sign : α) (field : List α) (rest : List (List α)) :
    terminated sign (field :: rest) = field ++ sign :: terminated sign rest := by
  simp [terminated]

theorem terminated_append (sign : α) (fields others : List (List α)) :
    terminated sign (fields ++ others) = terminated sign fields ++ terminated sign others :=
  List.flatMap_append

theorem terminated_inj (hfields : ∀ field ∈ fields, sign ∉ field)
    (hothers : ∀ field ∈ others, sign ∉ field)
    (h : terminated sign fields = terminated sign others) : fields = others := by
  induction fields generalizing others with
  | nil =>
    cases others with
    | nil => rfl
    | cons other rest => simp [terminated] at h
  | cons field fields ih =>
    cases others with
    | nil => simp [terminated] at h
    | cons other rest =>
      obtain ⟨hfield, hfields⟩ := List.forall_mem_cons.mp hfields
      obtain ⟨hother, hrest⟩ := List.forall_mem_cons.mp hothers
      rw [terminated_cons, terminated_cons] at h
      obtain ⟨rfl, htail⟩ := append_cons_inj hfield hother h
      rw [ih hfields hrest htail]

/-- **The fields with which a text ends are its last fields.** -/
theorem exists_of_terminated_eq_append (hfields : ∀ field ∈ fields, sign ∉ field)
    (hothers : ∀ field ∈ others, sign ∉ field)
    (h : terminated sign fields = before ++ sign :: terminated sign others) :
    ∃ earlier, earlier ≠ [] ∧ fields = earlier ++ others := by
  induction fields generalizing before with
  | nil => simp [terminated] at h
  | cons field fields ih =>
    obtain ⟨hfield, hrest⟩ := List.forall_mem_cons.mp hfields
    rw [terminated_cons] at h
    by_cases hsign : sign ∈ before
    · -- The first field ends at the first sign of what stands before.
      obtain ⟨first, later, rfl, hfirst⟩ := List.eq_append_cons_of_mem hsign
      rw [List.append_assoc, List.cons_append] at h
      obtain ⟨rfl, htail⟩ := append_cons_inj hfield hfirst h
      obtain ⟨earlier, -, rfl⟩ := ih hrest htail
      exact ⟨field :: earlier, List.cons_ne_nil _ _, rfl⟩
    · obtain ⟨rfl, htail⟩ := append_cons_inj hfield hsign h
      exact ⟨[field], List.cons_ne_nil _ _, by rw [terminated_inj hrest hothers htail]; rfl⟩

section
variable {mark : List α} (hfields : ∀ field ∈ mark :: fields, sign ∉ field)
  (hothers : ∀ field ∈ mark :: others, sign ∉ field)
include hfields hothers

theorem eq_nil_of_marked (hmark : mark ∉ fields)
    (h : sign :: terminated sign (mark :: fields) =
      before ++ sign :: terminated sign (mark :: others)) : before = [] := by
  cases before with
  | nil => rfl
  | cons c before =>
    obtain ⟨earlier, hne, heq⟩ := exists_of_terminated_eq_append hfields hothers (List.cons.inj h).2
    cases earlier with
    | nil => exact absurd rfl hne
    | cons first earlier =>
      -- Then the mark stands among the later fields once more.
      refine absurd ?_ hmark
      rw [(List.cons.inj heq).2]
      exact List.mem_append_right _ List.mem_cons_self

/-- **A field that stands only once marks where the text before it ends**, even if that text has the
sign in it. -/
theorem append_marked_inj (hmark : mark ∉ fields) (hmark' : mark ∉ others)
    (h : x ++ sign :: terminated sign (mark :: fields) =
      y ++ sign :: terminated sign (mark :: others)) :
    x = y ∧ fields = others := by
  have hsame : x = y := by
    rcases List.append_eq_append_iff.mp h with ⟨between, rfl, hrest⟩ | ⟨between, rfl, hrest⟩
    · rw [eq_nil_of_marked hfields hothers hmark hrest, List.append_nil]
    · rw [eq_nil_of_marked hothers hfields hmark' hrest, List.append_nil]
  subst hsame
  have htail := (List.cons.inj (List.append_cancel_left h)).2
  exact ⟨rfl, (List.cons.inj (terminated_inj hfields hothers htail)).2⟩

end

end

/-! ## Texts in bytes -/

theorem toList_loop (bytes : ByteArray) (i : Nat) (seen : List UInt8) :
    ByteArray.toList.loop bytes i seen = seen.reverse ++ bytes.data.toList.drop i := by
  fun_induction ByteArray.toList.loop bytes i seen with
  | case1 i seen h ih =>
    have hlt : i < bytes.data.toList.length := by simpa using h
    have hget : bytes.get! i = bytes.data.toList[i] := getElem!_pos bytes.data i h
    rw [ih, List.drop_eq_getElem_cons hlt, hget, List.reverse_cons, List.append_assoc]
    rfl
  | case2 i seen h =>
    have hle : bytes.data.toList.length ≤ i := by simpa using h
    rw [List.drop_eq_nil_of_le hle, List.append_nil]

theorem toList_eq_data (bytes : ByteArray) : bytes.toList = bytes.data.toList :=
  toList_loop bytes 0 []

theorem toList_toUTF8 (s : String) :
    s.toUTF8.toList = s.toList.flatMap String.utf8EncodeChar := by
  rw [toList_eq_data, show s.toUTF8 = s.toList.utf8Encode from String.utf8Encode_toList.symm]
  exact List.toList_data_toByteArray

theorem toUTF8_inj {s t : String} (h : s.toUTF8.toList = t.toUTF8.toList) : s = t := by
  rw [toList_eq_data, toList_eq_data] at h
  exact String.toByteArray_inj.mp (ByteArray.ext (Array.toList_inj.mp h))

theorem ofNat_ne_zero {n : Nat} (hpos : 0 < n) (hlt : n < 256) : UInt8.ofNat n ≠ 0 := by
  intro h
  have hnat := congrArg UInt8.toNat h
  rw [UInt8.toNat_ofNat', Nat.mod_eq_of_lt hlt] at hnat
  exact absurd hnat (Nat.ne_of_gt hpos)

theorem zero_not_mem_utf8EncodeChar {c : Char} (h : c ≠ '\x00') :
    0 ∉ String.utf8EncodeChar c := by
  have hpos : 0 < c.val.toNat :=
    Nat.pos_of_ne_zero fun hzero => h (Char.ext (UInt32.toNat_inj.mp hzero))
  have hne : ∀ {n : Nat}, 0 < n → n < 256 → (0 : UInt8) ≠ UInt8.ofNat n := fun hpos hlt =>
    (ofNat_ne_zero hpos hlt).symm
  unfold String.utf8EncodeChar
  dsimp only
  split
  · simp only [List.mem_cons, List.not_mem_nil, or_false]
    exact hne hpos (by omega)
  · split
    · simp only [List.mem_cons, List.not_mem_nil, or_false, not_or]
      exact ⟨hne (by omega) (by omega), hne (by omega) (by omega)⟩
    · split
      · simp only [List.mem_cons, List.not_mem_nil, or_false, not_or]
        exact ⟨hne (by omega) (by omega), hne (by omega) (by omega), hne (by omega) (by omega)⟩
      · simp only [List.mem_cons, List.not_mem_nil, or_false, not_or]
        exact ⟨hne (by omega) (by omega), hne (by omega) (by omega), hne (by omega) (by omega),
          hne (by omega) (by omega)⟩

theorem zero_not_mem_toUTF8 {s : String} (h : '\x00' ∉ s.toList) : 0 ∉ s.toUTF8.toList := by
  rw [toList_toUTF8, List.mem_flatMap]
  rintro ⟨c, hc, hzero⟩
  exact zero_not_mem_utf8EncodeChar (fun heq => h (heq ▸ hc)) hzero

end ClusterOperator.Text
