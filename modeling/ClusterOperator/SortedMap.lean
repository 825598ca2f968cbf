/-!
# Maps kept in the order of their names

Labels, settings, membership views and configuration files are all maps from names to values, and
every list, hash and document the operator derives from one follows the order of the names. A
`SortedMap` therefore *is* its ascending list of entries: two maps that agree at every name are
the same value, and nothing that is computed from one can depend on how it was filled.

Names are ordered by code point.
-/

set_option autoImplicit false

namespace ClusterOperator

universe u v

/-- A finite map from names to values, as its entries in strictly ascending order of the names. Two
maps with the same values at the same names are then the same, and anything written out of a map
comes out in one order. -/
structure SortedMap (α : Type u) where
  /-- The entries, in ascending order of their names. -/
  entries : List (String × α)
  /-- No name occurs twice, and the names ascend. -/
  ascending : entries.Pairwise (·.1 < ·.1)

namespace SortedMap

variable {α : Type u} {β : Type v}

/-- Maps are equal when their entries are. -/
theorem ext_entries {m n : SortedMap α} (h : m.entries = n.entries) : m = n := by
  cases m; cases n; cases h; rfl

instance [DecidableEq α] : DecidableEq (SortedMap α) := fun m n =>
  decidable_of_iff (m.entries = n.entries) ⟨ext_entries, fun h => h ▸ rfl⟩

def empty : SortedMap α := ⟨[], .nil⟩

instance : Inhabited (SortedMap α) := ⟨empty⟩

def isEmpty (m : SortedMap α) : Bool := m.entries.isEmpty

def keys (m : SortedMap α) : List String := m.entries.map (·.1)

def find? (m : SortedMap α) (name : String) : Option α := m.entries.lookup name

def contains (m : SortedMap α) (name : String) : Bool := (m.find? name).isSome

/-- Puts an entry at its place in a list of entries, over an entry of the same name. -/
def insertEntry (name : String) (value : α) : List (String × α) → List (String × α)
  | [] => [(name, value)]
  | (other, v) :: rest =>
    if name < other then (name, value) :: (other, v) :: rest
    else if name = other then (name, value) :: rest
    else (other, v) :: insertEntry name value rest

/-- An insertion adds no name but its own. -/
theorem mem_insertEntry {name : String} {value : α} {l : List (String × α)} {e : String × α}
    (h : e ∈ insertEntry name value l) : e = (name, value) ∨ e ∈ l := by
  induction l with
  | nil => simpa [insertEntry] using h
  | cons head rest ih =>
    obtain ⟨other, v⟩ := head
    simp only [insertEntry] at h
    split at h
    · simpa using h
    · split at h
      · rcases List.mem_cons.1 h with h | h
        · exact .inl h
        · exact .inr (List.mem_cons_of_mem _ h)
      · rcases List.mem_cons.1 h with h | h
        · exact .inr (h ▸ List.mem_cons_self)
        · exact (ih h).imp id (List.mem_cons_of_mem _)

/-- Insertion keeps the names ascending. -/
theorem pairwise_insertEntry (name : String) (value : α) {l : List (String × α)}
    (h : l.Pairwise (·.1 < ·.1)) : (insertEntry name value l).Pairwise (·.1 < ·.1) := by
  induction l with
  | nil => simp [insertEntry]
  | cons head rest ih =>
    obtain ⟨other, v⟩ := head
    obtain ⟨hhead, hrest⟩ := List.pairwise_cons.1 h
    simp only [insertEntry]
    split
    · rename_i hlt
      refine List.pairwise_cons.2 ⟨fun e he => ?_, h⟩
      rcases List.mem_cons.1 he with rfl | he
      · exact hlt
      · exact String.lt_trans hlt (hhead e he)
    · rename_i hlt
      split
      · rename_i heq
        subst heq
        exact List.pairwise_cons.2 ⟨hhead, hrest⟩
      · rename_i hne
        refine List.pairwise_cons.2 ⟨fun e he => ?_, ih hrest⟩
        rcases mem_insertEntry he with rfl | he
        · exact Decidable.byContradiction fun hge => hne (String.le_antisymm hge hlt)
        · exact hhead e he

def insert (m : SortedMap α) (name : String) (value : α) : SortedMap α :=
  ⟨insertEntry name value m.entries, pairwise_insertEntry name value m.ascending⟩

def erase (m : SortedMap α) (name : String) : SortedMap α :=
  ⟨m.entries.filter (·.1 != name), m.ascending.filter _⟩

/-- The map of a list of entries; of two entries of one name the later counts. -/
def ofList (l : List (String × α)) : SortedMap α := l.foldl (fun m e => m.insert e.1 e.2) empty

/-- The map with the entries of another put over its own. -/
def union (m stronger : SortedMap α) : SortedMap α :=
  stronger.entries.foldl (fun m e => m.insert e.1 e.2) m

def map (f : α → β) (m : SortedMap α) : SortedMap β :=
  ⟨m.entries.map fun e => (e.1, f e.2), List.pairwise_map.2 m.ascending⟩

@[simp] theorem entries_insert (m : SortedMap α) (name : String) (value : α) :
    (m.insert name value).entries = insertEntry name value m.entries := rfl

@[simp] theorem keys_map (f : α → β) (m : SortedMap α) : (m.map f).keys = m.keys := by
  simp [keys, map, Function.comp_def]

/-! ## Looking up -/

section
variable {m n whole stronger : SortedMap α} {l : List (String × α)} {e : String × α} {name : String}
  {v w : α}

theorem lookup_eq_some_iff (h : l.Pairwise (·.1 < ·.1)) :
    l.lookup name = some v ↔ (name, v) ∈ l := by
  induction l with
  | nil => simp
  | cons head rest ih =>
    obtain ⟨other, u⟩ := head
    obtain ⟨hhead, hrest⟩ := List.pairwise_cons.1 h
    rw [List.lookup_cons, List.mem_cons]
    by_cases heq : name = other
    · -- The names after the first are greater, so the first is the only one of its name.
      subst heq
      have hlater : (name, v) ∉ rest := fun hv => String.lt_irrefl name (hhead _ hv)
      simp [hlater, eq_comm]
    · have hbeq : (name == other) = false := by simpa using heq
      rw [hbeq, ← ih hrest]
      simp [heq]

theorem find?_eq_some_iff : m.find? name = some v ↔ (name, v) ∈ m.entries :=
  lookup_eq_some_iff m.ascending

theorem value_unique (hv : (name, v) ∈ m.entries) (hw : (name, w) ∈ m.entries) : v = w := by
  have hfound := find?_eq_some_iff.2 hv
  rw [find?_eq_some_iff.2 hw] at hfound
  exact (Option.some.inj hfound).symm

theorem mem_keys : name ∈ m.keys ↔ ∃ v, (name, v) ∈ m.entries := by
  simp [keys]

theorem contains_iff : m.contains name = true ↔ name ∈ m.keys := by
  unfold contains
  rw [Option.isSome_iff_exists, mem_keys]
  exact exists_congr fun v => find?_eq_some_iff

theorem mem_keys_of_mem (h : e ∈ m.entries) : e.1 ∈ m.keys := List.mem_map_of_mem h

theorem keys_subset (h : m.entries ⊆ whole.entries) : m.keys ⊆ whole.keys := List.map_subset _ h

theorem nodup_keys (m : SortedMap α) : m.keys.Nodup :=
  List.pairwise_map.mpr (m.ascending.imp fun h => String.ne_of_lt h)

/-- Maps are equal when they have the same entries. -/
theorem ext_mem (h : ∀ e, e ∈ m.entries ↔ e ∈ n.entries) : m = n := by
  have hnodup : ∀ m : SortedMap α, m.entries.Nodup := fun m =>
    m.ascending.imp fun hlt heq => String.ne_of_lt hlt (congrArg Prod.fst heq)
  have hperm : m.entries.Perm n.entries :=
    (List.perm_ext_iff_of_nodup (hnodup m) (hnodup n)).mpr fun e => h e
  refine ext_entries (hperm.eq_of_pairwise (fun a b _ _ hab hba => ?_) m.ascending n.ascending)
  exact absurd (String.lt_trans hab hba) (String.lt_irrefl _)

/-- The entry of the least name is the first. -/
theorem exists_eq_cons_of_least (h : l.Pairwise (·.1 < ·.1)) (hmem : (name, v) ∈ l)
    (hleast : ∀ e ∈ l, e.1 = name ∨ name < e.1) : ∃ rest, l = (name, v) :: rest := by
  cases l with
  | nil => cases hmem
  | cons first rest =>
    rcases List.mem_cons.mp hmem with rfl | hrest
    · exact ⟨rest, rfl⟩
    · have hlt : first.1 < name := List.rel_of_pairwise_cons h hrest
      rcases hleast first List.mem_cons_self with heq | hgt
      · exact absurd hlt (heq ▸ String.lt_irrefl _)
      · exact absurd (String.lt_trans hlt hgt) (String.lt_irrefl _)

/-! ## Filling -/

theorem mem_insertEntry_self (name : String) (value : α) (l : List (String × α)) :
    (name, value) ∈ insertEntry name value l := by
  induction l with
  | nil => simp [insertEntry]
  | cons head rest ih =>
    obtain ⟨other, u⟩ := head
    unfold insertEntry
    split
    · exact List.mem_cons_self
    · split
      · exact List.mem_cons_self
      · exact List.mem_cons_of_mem _ ih

/-- An insertion keeps the entries of other names. -/
theorem mem_insertEntry_of_ne (h : e ∈ l) (hne : e.1 ≠ name) (value : α) :
    e ∈ insertEntry name value l := by
  induction l with
  | nil => cases h
  | cons head rest ih =>
    obtain ⟨other, u⟩ := head
    unfold insertEntry
    split
    · exact List.mem_cons_of_mem _ h
    · split
      · rename_i heq
        rcases List.mem_cons.1 h with rfl | h
        · exact absurd heq.symm hne
        · exact List.mem_cons_of_mem _ h
      · rcases List.mem_cons.1 h with rfl | h
        · exact List.mem_cons_self
        · exact List.mem_cons_of_mem _ (ih h)

theorem mem_of_mem_foldl_insert (h : e ∈ (l.foldl (fun m e => m.insert e.1 e.2) m).entries) :
    e ∈ m.entries ∨ e ∈ l := by
  induction l generalizing m with
  | nil => exact .inl h
  | cons head rest ih =>
    rcases ih h with h | h
    · rcases mem_insertEntry h with rfl | h
      · exact .inr List.mem_cons_self
      · exact .inl h
    · exact .inr (List.mem_cons_of_mem _ h)

/-- A map is only filled with what it is filled from. -/
theorem mem_of_mem_ofList (h : e ∈ (ofList l).entries) : e ∈ l := by
  rcases mem_of_mem_foldl_insert h with h | h
  · cases h
  · exact h

theorem mem_foldl_insert (hm : m.entries ⊆ whole.entries) (hl : l ⊆ whole.entries)
    (h : e ∈ m.entries ∨ e ∈ l) : e ∈ (l.foldl (fun m e => m.insert e.1 e.2) m).entries := by
  induction l generalizing m with
  | nil => exact h.resolve_right List.not_mem_nil
  | cons head rest ih =>
    obtain ⟨hhead, hrest⟩ := List.cons_subset.1 hl
    refine ih ?_ hrest ?_
    · intro e he
      rcases mem_insertEntry he with rfl | he
      · exact hhead
      · exact hm he
    · rcases h with h | h
      · -- An entry of the name of the first is that entry, since both are of one map.
        by_cases hname : e.1 = head.1
        · have hsame : (e.1, head.2) ∈ whole.entries := by
            rw [hname]
            exact hhead
          rw [Prod.ext hname (value_unique (hm h) hsame)]
          exact .inl (mem_insertEntry_self _ _ _)
        · exact .inl (mem_insertEntry_of_ne h hname _)
      · rcases List.mem_cons.1 h with rfl | h
        · exact .inl (mem_insertEntry_self _ _ _)
        · exact .inr h

/-- A map filled from entries of another holds just these. -/
theorem mem_ofList (h : l ⊆ whole.entries) : e ∈ (ofList l).entries ↔ e ∈ l :=
  ⟨mem_of_mem_ofList, fun he => mem_foldl_insert (List.nil_subset _) h (.inr he)⟩

theorem mem_insert_iff :
    e ∈ (m.insert name v).entries ↔ e = (name, v) ∨ e ∈ m.entries ∧ e.1 ≠ name := by
  constructor
  · intro h
    rcases mem_insertEntry h with rfl | hold
    · exact .inl rfl
    · by_cases hname : e.1 = name
      · subst hname
        exact .inl (Prod.ext rfl (value_unique h (mem_insertEntry_self _ _ _)))
      · exact .inr ⟨hold, hname⟩
  · rintro (rfl | ⟨hold, hname⟩)
    · exact mem_insertEntry_self _ _ _
    · exact mem_insertEntry_of_ne hold hname _

/-- Entries of different names that are put over a map are all there, and of the others those of
other names. -/
theorem mem_foldl_insert_iff (hl : (l.map (·.1)).Nodup) :
    e ∈ (l.foldl (fun m e => m.insert e.1 e.2) m).entries ↔
      e ∈ l ∨ e ∈ m.entries ∧ e.1 ∉ l.map (·.1) := by
  induction l generalizing m with
  | nil => simp
  | cons head rest ih =>
    obtain ⟨hhead, hrest⟩ := List.nodup_cons.mp hl
    rw [List.foldl_cons, ih hrest, mem_insert_iff, List.map_cons, List.mem_cons, List.mem_cons,
      not_or]
    constructor
    · rintro (hmem | ⟨rfl | ⟨hold, hne⟩, hnone⟩)
      · exact .inl (.inr hmem)
      · exact .inl (.inl rfl)
      · exact .inr ⟨hold, hne, hnone⟩
    · rintro ((rfl | hmem) | ⟨hold, hne, hnone⟩)
      · exact .inr ⟨.inl rfl, hhead⟩
      · exact .inl hmem
      · exact .inr ⟨.inr ⟨hold, hne⟩, hnone⟩

theorem mem_ofList_iff (hl : (l.map (·.1)).Nodup) : e ∈ (ofList l).entries ↔ e ∈ l := by
  unfold ofList
  rw [mem_foldl_insert_iff hl]
  simp [empty]

theorem mem_union_iff : e ∈ (m.union stronger).entries ↔
    e ∈ stronger.entries ∨ e ∈ m.entries ∧ e.1 ∉ stronger.keys :=
  mem_foldl_insert_iff stronger.nodup_keys

theorem find?_eq_none_iff : m.find? name = none ↔ name ∉ m.keys := by
  rw [← contains_iff, contains, Bool.not_eq_true, Option.isSome_eq_false_iff,
    Option.isNone_iff_eq_none]

/-- In a union the stronger map is asked first. -/
theorem find?_union : (m.union stronger).find? name = (stronger.find? name).or (m.find? name) := by
  refine Option.ext fun v => ?_
  rw [find?_eq_some_iff, mem_union_iff, ← find?_eq_some_iff, ← find?_eq_some_iff,
    ← find?_eq_none_iff, Option.or_eq_some_iff]
  exact or_congr_right and_comm

end

end SortedMap

end ClusterOperator
