import ClusterOperator.Cluster.Status
import ClusterOperator.Proofs.Json.Parsing

/-!
# What is written is read back

A value is written as a document and read from it. That the second undoes the first is proved here
for every way in which the operator writes a value: scalars, names, lists, maps, and records, whose
fields are renamed, left out when they are empty, or given a default when they are missing.

> **`Faithful.record`** — a record is read back if its fields have different names and the reader
> finds in each of them what was written there.

> **`Faithful.parse?_compress`** — what is read back from a document is also read back from its
> text.

A field that is left out is not there for the reader, who then takes the default; so what is left
out has to be what the default is (`Reads.optional`, `Reads.listing`).
-/

set_option autoImplicit false

namespace ClusterOperator.Json

variable {α β : Type} {d : Nat}

/-- That what is written can be carried by a text, nested at most so deep, that it is read back, and
that it is never `null`. The last is asked because a field that is `null` counts as left out. -/
structure Faithful (d : Nat) (read : Json → Option α) (write : α → Json) : Prop where
  reads : ∀ a, read (write a) = some a
  present : ∀ a, (write a).isNull = false
  writable : ∀ a, Writable d (write a)

/-- What is written and printed is parsed and read back. -/
theorem Faithful.parse?_compress {read : Json → Option α} {write : α → Json}
    (h : Faithful d read write) (hdepth : d < maxDepth) (a : α) :
    (parse? (write a).compress).bind read = some a := by
  rw [Json.parse?_compress (h.writable a) hdepth, Option.bind_some, h.reads]

/-! ## Scalars and names -/

theorem faithful_string : Faithful d asString? Json.str :=
  ⟨fun _ => rfl, fun _ => rfl, fun _ => .str⟩

theorem faithful_bool : Faithful d asBool? Json.bool :=
  ⟨fun _ => rfl, fun _ => rfl, fun _ => .bool⟩

theorem asIntIn?_int {smallest largest n : Int} (hsmall : smallest ≤ n) (hlarge : n ≤ largest) :
    asIntIn? smallest largest (.int n) = some n := if_pos ⟨hsmall, hlarge⟩

theorem inDoubleRange_of_le {n : Nat} (h : n ≤ 18446744073709551615) :
    inDoubleRange n 0 = true := by
  have hlength : (Nat.toDigits 10 n).length ≤ 20 :=
    (Nat.length_toDigits_le_iff (by decide) (by decide)).mpr (by omega)
  have hsmall : ((Nat.toDigits 10 n).length : Int) + 0 ≤ 308 := by omega
  unfold inDoubleRange
  simp only [hsmall, decide_true, Bool.or_true, Bool.true_or]

theorem faithful_int32 : Faithful d asInt32? Int32.toJson where
  reads n := by
    have hsmall := Int32.le_toInt n
    have hlarge := Int32.toInt_lt n
    unfold asInt32? Int32.toJson
    rw [asIntIn?_int (by omega) (by omega), Option.map_some, Int32.ofInt_toInt]
  present _ := rfl
  writable n := by
    have hsmall := Int32.le_toInt n
    have hlarge := Int32.toInt_lt n
    exact .int (inDoubleRange_of_le (by omega))

theorem faithful_int64 : Faithful d asInt64? Int64.toJson where
  reads n := by
    have hsmall := Int64.le_toInt n
    have hlarge := Int64.toInt_lt n
    unfold asInt64? Int64.toJson
    rw [asIntIn?_int (by omega) (by omega), Option.map_some, Int64.ofInt_toInt]
  present _ := rfl
  writable n := by
    have hsmall := Int64.le_toInt n
    have hlarge := Int64.toInt_lt n
    exact .int (inDoubleRange_of_le (by omega))

theorem faithful_uint64 : Faithful d asUInt64? UInt64.toJson where
  reads n := by
    have hlarge := n.toNat_lt
    unfold asUInt64? UInt64.toJson
    rw [asIntIn?_int (by omega) (by omega), Option.map_some, Int.toNat_natCast, UInt64.ofNat_toNat]
  present _ := rfl
  writable n := .int (inDoubleRange_of_le (Nat.le_of_lt_succ n.toNat_lt))

/-- A value of an enumeration is read back if all of them are listed under names of their own. -/
theorem faithful_choice {all : List α} {name : α → String} (hall : ∀ a, a ∈ all)
    (hname : ∀ a ∈ all, ∀ b ∈ all, name a = name b → a = b) :
    Faithful d (asChoice? all name) (fun a => .str (name a)) where
  reads a := by
    have hfound : (all.find? fun b => name b == name a).isSome :=
      List.find?_isSome.mpr ⟨a, hall a, beq_self_eq_true _⟩
    obtain ⟨b, hb⟩ := Option.isSome_iff_exists.mp hfound
    have hsame : (name b == name a) = true := List.find?_some (p := fun b => name b == name a) hb
    rw [hname b (hall b) a (hall a) (beq_iff_eq.mp hsame)] at hb
    exact hb
  present _ := rfl
  writable _ := .str

/-! ## Lists and maps -/

variable {read : Json → Option α} {write : α → Json}

theorem mapM_map_eq_some {γ : Type} {f : β → Option γ} {g : γ → β} (h : ∀ c, f (g c) = some c)
    (items : List γ) : (items.map g).mapM f = some items := by
  induction items with
  | nil => rfl
  | cons first rest ih => simp [h, ih]

theorem Faithful.list (h : Faithful d read write) :
    Faithful (d + 1) (asList? read) (ofList write) where
  reads items := mapM_map_eq_some h.reads items
  present _ := rfl
  writable items := .arr fun j hj => by
    obtain ⟨a, -, rfl⟩ := List.mem_map.mp hj
    exact h.writable a

theorem ofList_entries (m : SortedMap α) : SortedMap.ofList m.entries = m :=
  SortedMap.ext_mem fun _ => SortedMap.mem_ofList_iff m.nodup_keys

theorem Faithful.map (h : Faithful d read write) :
    Faithful (d + 1) (asMap? read) (ofMap write) where
  reads m := by
    have hentries : (m.entries.map fun e => (e.1, write e.2)).mapM
        (fun f : String × Json => (read f.2).map (f.1, ·)) = some m.entries :=
      mapM_map_eq_some (fun e => by rw [h.reads]; rfl) m.entries
    exact (congrArg (Option.map SortedMap.ofList) hentries).trans (congrArg some (ofList_entries m))
  present _ := rfl
  writable m := by
    refine .obj ?_ fun f hf => ?_
    · rw [List.map_map]
      exact m.nodup_keys
    · obtain ⟨e, -, rfl⟩ := List.mem_map.mp hf
      exact h.writable e.2

/-! ## Fields -/

/-- Fields, each of which may be left out. -/
abbrev Fields := List (String × Option Json)

/-- The fields that are not left out. -/
def Fields.present (fields : Fields) : List (String × Json) :=
  fields.filterMap fun f => f.2.map (f.1, ·)

section
variable {fields : Fields} {key : String} {value : Option Json}

theorem Fields.present_cons : Fields.present ((key, value) :: fields) =
    (value.map (key, ·)).toList ++ fields.present := by
  cases value with
  | none => rfl
  | some j => rfl

theorem Fields.keys_present_sublist (fields : Fields) :
    (fields.present.map (·.1)).Sublist (fields.map (·.1)) := by
  induction fields with
  | nil => exact .slnil
  | cons first rest ih =>
    obtain ⟨key, value⟩ := first
    cases value with
    | none => exact ih.cons _
    | some j => exact ih.cons_cons _

theorem Fields.mem_of_mem_present {j : Json} (h : (key, j) ∈ fields.present) :
    (key, some j) ∈ fields := by
  obtain ⟨⟨other, value⟩, hmem, heq⟩ := List.mem_filterMap.mp h
  obtain ⟨j', rfl, hpair⟩ := Option.map_eq_some_iff.mp heq
  cases hpair
  exact hmem

theorem Fields.lookup_present_cons {other : String} :
    (Fields.present ((other, value) :: fields)).lookup key =
      if key = other then value.or (fields.present.lookup key)
      else fields.present.lookup key := by
  rw [present_cons, List.lookup_append]
  cases value with
  | none => exact (ite_self _).symm
  | some j =>
    by_cases hsame : key = other
    · simp [hsame]
    · simp [hsame, List.lookup_cons, beq_eq_false_iff_ne.mpr hsame]

theorem Fields.lookup_eq_none (h : key ∉ fields.map (·.1)) :
    fields.present.lookup key = none := by
  induction fields with
  | nil => rfl
  | cons first rest ih =>
    obtain ⟨hfirst, hrest⟩ := not_or.mp (mt List.mem_cons.mpr h)
    rw [lookup_present_cons, if_neg hfirst, ih hrest]

/-- **A field is looked up where it was written**, if no other has its name. -/
theorem Fields.lookup_present (hkeys : (fields.map (·.1)).Nodup) (h : (key, value) ∈ fields) :
    fields.present.lookup key = value := by
  induction fields with
  | nil => cases h
  | cons first rest ih =>
    obtain ⟨hfirst, hrest⟩ := List.nodup_cons.mp hkeys
    rw [lookup_present_cons]
    rcases List.mem_cons.mp h with rfl | hmem
    · rw [if_pos rfl, lookup_eq_none hfirst, Option.or_none]
    · have hother : key ≠ first.1 := by
        rintro rfl
        exact hfirst (List.mem_map.mpr ⟨_, hmem, rfl⟩)
      rw [if_neg hother, ih hrest hmem]

end

/-! ## Records -/

/-- That a reader finds a value in some fields, among whatever others, takes nothing away, and that
what the fields hold can be written. It is built up field by field in the order of the reader, so
that each record is shown to be read back by one line for each of its fields. -/
structure Reads (d : Nat) (reader : Reader α) (fields : Fields) (a : α) : Prop where
  found : ∀ whole : Fields, (whole.map (·.1)).Nodup → fields ⊆ whole →
    reader (.named whole.present) = some (a, .named whole.present)
  writable : ∀ key j, (key, some j) ∈ fields → Writable d j

namespace Reads

variable {fields : Fields} {key : String} {a fallback : α} {b : β} {value : Option Json}
  {reader : Reader α} {next : α → Reader β}

theorem pure (a : α) : Reads d (Pure.pure a) [] a :=
  ⟨fun _ _ _ => rfl, fun _ _ h => by cases h⟩

/-- The reader of a field, and then that of the others. -/
theorem field (hwrite : ∀ j, value = some j → Writable d j)
    (hread : ∀ whole : Fields, whole.present.lookup key = value →
      reader (.named whole.present) = some (a, .named whole.present))
    (hnext : Reads d (next a) fields b) : Reads d (reader >>= next) ((key, value) :: fields) b where
  found whole hkeys hsub := by
    obtain ⟨hmem, hrest⟩ := List.cons_subset.mp hsub
    show (reader (.named whole.present)).bind _ = _
    rw [hread whole (Fields.lookup_present hkeys hmem)]
    exact hnext.found whole hkeys hrest
  writable other j hj := by
    rcases List.mem_cons.mp hj with heq | hmem
    · exact hwrite j (Prod.mk.inj heq).2.symm
    · exact hnext.writable other j hmem

theorem required {a : α} (h : Faithful d read write) (hnext : Reads d (next a) fields b) :
    Reads d (Json.required key read >>= next) ((key, some (write a)) :: fields) b := by
  refine .field (fun j hj => Option.some.inj hj ▸ h.writable a) (fun whole hwhole => ?_) hnext
  show ((whole.present.lookup key).bind read).map _ = _
  rw [hwhole, Option.bind_some, h.reads]
  rfl

theorem found_defaulted {whole : Fields} {j : Json} (hread : read j = some a)
    (h : whole.present.lookup key = some j) :
    Json.defaulted key fallback read (.named whole.present) = some (a, .named whole.present) := by
  unfold Json.defaulted
  simp only [h, hread, Option.map_some]

theorem found_missing {whole : Fields} (h : whole.present.lookup key = none) :
    Json.defaulted key fallback read (.named whole.present) =
      some (fallback, .named whole.present) := by
  unfold Json.defaulted
  simp only [h]

/-- A value with a default is always written. -/
theorem defaulted {a : α} (h : Faithful d read write) (hnext : Reads d (next a) fields b) :
    Reads d (Json.defaulted key fallback read >>= next) ((key, some (write a)) :: fields) b :=
  .field (fun _ hj => Option.some.inj hj ▸ h.writable a)
    (fun _ => found_defaulted (h.reads a)) hnext

/-- A value that may be absent is left out exactly if it is. -/
theorem optional {value : Option α} {next : Option α → Reader β} (h : Faithful d read write)
    (hnext : Reads d (next value) fields b) :
    Reads d (Json.optional key read >>= next) ((key, value.map write) :: fields) b := by
  cases value with
  | none => exact .field (fun _ hj => by cases hj) (fun _ => found_missing) hnext
  | some a =>
    have hread : asNullable? read (write a) = some (some a) := by
      have hpresent := h.present a
      unfold asNullable?
      split
      case h_1 heq => cases heq ▸ hpresent
      case h_2 => rw [h.reads, Option.map_some]
    exact .field (fun _ hj => Option.some.inj hj ▸ h.writable a)
      (fun _ => found_defaulted hread) hnext

theorem nullable {value : Option α} {next : Option α → Reader β} (h : Faithful d read write)
    (hnext : Reads d (next value) fields b) :
    Reads d (Json.nullable key read >>= next) ((key, value.map write) :: fields) b :=
  ⟨(optional h hnext).found, (optional h hnext).writable⟩

/-- A list is left out exactly if it is empty, which is its default. -/
theorem listing {items : List α} {next : List α → Reader β} (h : Faithful d read write)
    (hnext : Reads (d + 1) (next items) fields b) :
    Reads (d + 1) (Json.defaulted key [] (asList? read) >>= next)
      ((key, listField write items) :: fields) b := by
  cases items with
  | nil => exact .field (fun _ hj => by cases hj) (fun _ => found_missing) hnext
  | cons first rest => exact defaulted h.list hnext

end Reads

/-- **A record is read back**, if its fields have different names and the reader finds in each what
was written there. -/
theorem Faithful.record {reader : Reader α} (fields : α → Fields)
    (hwrite : ∀ a, write a = ofFields (fields a)) (hkeys : ∀ a, ((fields a).map (·.1)).Nodup)
    (hreads : ∀ a, Reads d reader (fields a) a) : Faithful (d + 1) (asRecord? reader) write where
  reads a := by
    rw [hwrite]
    show (reader (.named (fields a).present)).map (·.1) = some a
    rw [(hreads a).found _ (hkeys a) (List.Subset.refl _)]
    rfl
  present a := by
    rw [hwrite]
    rfl
  writable a := by
    rw [hwrite]
    refine .obj ((Fields.keys_present_sublist _).nodup (hkeys a)) fun f hf => ?_
    exact (hreads a).writable f.1 f.2 (Fields.mem_of_mem_present hf)

/-- A record of which nothing is left out. -/
theorem Faithful.object {reader : Reader α} (fields : α → List (String × Json))
    (hwrite : ∀ a, write a = .obj (fields a)) (hkeys : ∀ a, ((fields a).map (·.1)).Nodup)
    (hreads : ∀ a, Reads d reader ((fields a).map fun f => (f.1, some f.2)) a) :
    Faithful (d + 1) (asRecord? reader) write := by
  refine .record (fun a => (fields a).map fun f => (f.1, some f.2)) (fun a => ?_) (fun a => ?_)
    hreads
  · rw [hwrite, ofFields, List.filterMap_map]
    exact congrArg Json.obj List.filterMap_some.symm
  · rw [List.map_map]
    exact hkeys a

end ClusterOperator.Json
