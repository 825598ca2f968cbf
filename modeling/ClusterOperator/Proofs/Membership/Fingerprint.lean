import ClusterOperator.Proofs.Configuration.Digest
import ClusterOperator.Proofs.Membership.Partition

/-!
# What a fingerprint names

One pass hands the next a digest of what it saw, and the grace period runs as long as the digest is
the same. It must not run on when something else is seen:

> **`seen_of_fingerprint_eq`** — of two sightings with one fingerprint, either the bytes are a
> collision of the digest, or the serving pods, the classes and the unknown pods are the same.

The text under the digest has three parts, and each is taken apart by a sign of its own. Serving
pods and classes are each *ended* by a sign, so that a list of them is read in one way only, while
the members of a class and the unknown pods are only *set apart*: there the empty list and the list
of one empty name would be the same text. What excludes this is that no name is empty. A class may
be, as far as the text goes, although no pass finds one that is.

What a pass sees is such a sighting if the pods have proper names (`DetectionInput.sighting`).
-/

set_option autoImplicit false

namespace ClusterOperator

open Text

/-! ## Fields that are set apart by a sign -/

namespace Text

variable {α : Type} {sign c : α} {fields others : List (List α)}

theorem not_mem_terminated (hne : c ≠ sign) (h : ∀ field ∈ fields, c ∉ field) :
    c ∉ terminated sign fields := by
  unfold terminated
  rw [List.mem_flatMap]
  rintro ⟨field, hfield, hc⟩
  rcases List.mem_append.mp hc with hc | hc
  · exact h field hfield hc
  · exact hne (List.mem_singleton.mp hc)

theorem not_mem_intercalate (hne : c ≠ sign) (h : ∀ field ∈ fields, c ∉ field) :
    c ∉ [sign].intercalate fields := by
  intro hc
  rcases mem_intercalate hc with hc | ⟨field, hfield, hc⟩
  · exact hne (List.mem_singleton.mp hc)
  · exact h field hfield hc

theorem intercalate_eq_nil_iff (h : ∀ field ∈ fields, field ≠ []) :
    [sign].intercalate fields = [] ↔ fields = [] := by
  cases fields with
  | nil => simp
  | cons first rest =>
    have hfirst := h first List.mem_cons_self
    cases rest with
    | nil => simpa using hfirst
    | cons next rest => simp [List.intercalate_cons_cons]

/-- **Fields that are set apart by a sign are read in one way**, if none has the sign in it and none
is empty. -/
theorem intercalate_inj [DecidableEq α] (hfields : ∀ field ∈ fields, sign ∉ field ∧ field ≠ [])
    (hothers : ∀ field ∈ others, sign ∉ field ∧ field ≠ [])
    (h : [sign].intercalate fields = [sign].intercalate others) : fields = others := by
  have hnil : fields = [] ↔ others = [] := by
    have hfirst : [sign].intercalate fields = [] ↔ fields = [] :=
      intercalate_eq_nil_iff fun field hfield => (hfields field hfield).2
    rw [← hfirst, h, intercalate_eq_nil_iff fun field hfield => (hothers field hfield).2]
  by_cases hne : fields = []
  · rw [hne, hnil.mp hne]
  calc fields
      = ([sign].intercalate fields).splitOn sign :=
        (List.splitOn_intercalate sign (fun field hfield => (hfields field hfield).1) hne).symm
    _ = ([sign].intercalate others).splitOn sign := by rw [h]
    _ = others :=
        List.splitOn_intercalate sign (fun field hfield => (hothers field hfield).1)
          (mt hnil.mpr hne)

end Text

/-! ## Sightings -/

/-- That a name is not empty and has none of the signs by which names are set apart. -/
structure IsPlain (name : String) : Prop where
  ne_empty : name ≠ ""
  no_comma : ',' ∉ name.toList
  no_semicolon : ';' ∉ name.toList
  no_bar : '|' ∉ name.toList

instance (name : String) : Decidable (IsPlain name) :=
  decidable_of_iff
    (name ≠ "" ∧ ',' ∉ name.toList ∧ ';' ∉ name.toList ∧ '|' ∉ name.toList)
    ⟨fun ⟨h, hcomma, hsemicolon, hbar⟩ => ⟨h, hcomma, hsemicolon, hbar⟩,
      fun h => ⟨h.ne_empty, h.no_comma, h.no_semicolon, h.no_bar⟩⟩

/-- What may be seen in a pass: serving pods, classes and unknown pods with plain names. Only the
names are asked for; how the classes came about does not matter for telling them apart. -/
structure Sighting where
  ready : List ServerPod
  classes : List (List String)
  unknown : List String
  plain_ready : ∀ p ∈ ready, IsPlain p.name
  plain_classes : ∀ members ∈ classes, ∀ name ∈ members, IsPlain name
  plain_unknown : ∀ name ∈ unknown, IsPlain name

namespace Sighting

/-- The names of the serving pods. -/
def names (s : Sighting) : List String := s.ready.map (·.name)

/-- The bytes under the digest. -/
def bytes (s : Sighting) : List UInt8 := (fingerprintText s.names s.classes s.unknown).toUTF8.toList

variable {s t : Sighting} {name : String} {names others : List String}
  {classes divided : List (List String)}

theorem plain_names (h : name ∈ s.names) : IsPlain name := by
  obtain ⟨p, hp, rfl⟩ := List.mem_map.mp h
  exact s.plain_ready p hp

/-! ## The text under the digest -/

/-- The names of a class as they are written. -/
def memberText (members : List String) : List Char := [','].intercalate (members.map String.toList)

theorem toList_join_names (names : List String) :
    (String.join (names.map (· ++ ","))).toList = terminated ',' (names.map String.toList) := by
  simp only [String.toList_join, terminated, List.flatMap_map, String.toList_append]
  rfl

theorem toList_join_classes (classes : List (List String)) :
    (String.join (classes.map fun members => ",".intercalate members ++ ";")).toList =
      terminated ';' (classes.map memberText) := by
  simp only [String.toList_join, terminated, List.flatMap_map, String.toList_append,
    String.toList_intercalate]
  rfl

theorem toList_fingerprintText (ready : List String) (classes : List (List String))
    (unknown : List String) : (fingerprintText ready classes unknown).toList =
      terminated ',' (ready.map String.toList) ++
        '|' :: (terminated ';' (classes.map memberText) ++ '|' :: memberText unknown) := by
  unfold fingerprintText
  simp only [String.toList_append, toList_join_names, toList_join_classes,
    String.toList_intercalate, List.append_assoc]
  rfl

/-! ## Reading the text back -/

theorem map_toList_inj (h : names.map String.toList = others.map String.toList) :
    names = others := List.map_injective_iff.mpr (fun _ _ => String.toList_inj.mp) h

theorem forall_mem_map_toList {p : List Char → Prop} (h : ∀ name ∈ names, p name.toList) :
    ∀ field ∈ names.map String.toList, p field := by
  intro field hfield
  obtain ⟨name, hname, rfl⟩ := List.mem_map.mp hfield
  exact h name hname

theorem memberText_inj (hnames : ∀ name ∈ names, IsPlain name)
    (hothers : ∀ name ∈ others, IsPlain name) (h : memberText names = memberText others) :
    names = others := by
  have hproper : ∀ names : List String, (∀ name ∈ names, IsPlain name) →
      ∀ field ∈ names.map String.toList, ',' ∉ field ∧ field ≠ [] := fun names hnames =>
    forall_mem_map_toList fun name hname =>
      ⟨(hnames name hname).no_comma, mt String.toList_eq_nil_iff.mp (hnames name hname).ne_empty⟩
  exact map_toList_inj (intercalate_inj (hproper names hnames) (hproper others hothers) h)

theorem terminated_names_inj (hnames : ∀ name ∈ names, IsPlain name)
    (hothers : ∀ name ∈ others, IsPlain name)
    (h : terminated ',' (names.map String.toList) = terminated ',' (others.map String.toList)) :
    names = others :=
  map_toList_inj <| terminated_inj
    (forall_mem_map_toList fun name hname => (hnames name hname).no_comma)
    (forall_mem_map_toList fun name hname => (hothers name hname).no_comma) h

theorem not_mem_memberText {c : Char} (hne : c ≠ ',') (h : ∀ name ∈ names, c ∉ name.toList) :
    c ∉ memberText names := not_mem_intercalate hne (forall_mem_map_toList h)

/-- A class has no semicolon in it, so its end is found. Classes are read one after another up to
their ends, and the names in each after that. -/
theorem terminated_classes_inj (hclasses : ∀ members ∈ classes, ∀ name ∈ members, IsPlain name)
    (hdivided : ∀ members ∈ divided, ∀ name ∈ members, IsPlain name)
    (h : terminated ';' (classes.map memberText) = terminated ';' (divided.map memberText)) :
    classes = divided := by
  have hfree : ∀ classes : List (List String),
      (∀ members ∈ classes, ∀ name ∈ members, IsPlain name) →
        ∀ field ∈ classes.map memberText, ';' ∉ field := by
    intro classes hclasses field hfield
    obtain ⟨members, hmembers, rfl⟩ := List.mem_map.mp hfield
    exact not_mem_memberText (by decide) fun name hname =>
      (hclasses members hmembers name hname).no_semicolon
  have hsame := terminated_inj (hfree classes hclasses) (hfree divided hdivided) h
  -- The members of a class are told from its text, and the classes lie at the same places.
  refine List.ext_getElem (by simpa using congrArg List.length hsame) fun i hi hi' => ?_
  have htext : memberText classes[i] = memberText divided[i] := by
    have hget := congrArg (·[i]?) hsame
    simpa [hi, hi'] using hget
  exact memberText_inj (hclasses _ (List.getElem_mem hi)) (hdivided _ (List.getElem_mem hi')) htext

/-- **The text under the digest tells what is seen.** -/
theorem eq_of_bytes_eq (h : s.bytes = t.bytes) :
    s.names = t.names ∧ s.classes = t.classes ∧ s.unknown = t.unknown := by
  have htext := congrArg String.toList (toUTF8_inj h)
  rw [toList_fingerprintText, toList_fingerprintText] at htext
  have hready : ∀ s : Sighting, '|' ∉ terminated ',' (s.names.map String.toList) := fun s =>
    not_mem_terminated (by decide) (forall_mem_map_toList fun name hname =>
      (plain_names hname).no_bar)
  have hclasses : ∀ s : Sighting, '|' ∉ terminated ';' (s.classes.map memberText) := fun s => by
    refine not_mem_terminated (by decide) fun field hfield => ?_
    obtain ⟨members, hmembers, rfl⟩ := List.mem_map.mp hfield
    exact not_mem_memberText (by decide) fun name hname =>
      (s.plain_classes members hmembers name hname).no_bar
  -- The first bar ends the serving pods, and the second the classes.
  obtain ⟨hnames, hrest⟩ := append_cons_inj (hready s) (hready t) htext
  obtain ⟨hdivided, hlast⟩ := append_cons_inj (hclasses s) (hclasses t) hrest
  exact ⟨terminated_names_inj (fun _ => plain_names) (fun _ => plain_names) hnames,
    terminated_classes_inj s.plain_classes t.plain_classes hdivided,
    memberText_inj s.plain_unknown t.plain_unknown hlast⟩

/-- **A fingerprint names what is seen**: two sightings with one fingerprint have the same serving
pods, classes and unknown pods, in the same order, unless their bytes collide. -/
theorem seen_of_fingerprint_eq (s t : Sighting)
    (h : fingerprint s.names s.classes s.unknown = fingerprint t.names t.classes t.unknown) :
    Sha256.Collide s.bytes t.bytes ∨
      s.names = t.names ∧ s.classes = t.classes ∧ s.unknown = t.unknown := by
  by_cases hbytes : s.bytes = t.bytes
  · exact .inr (eq_of_bytes_eq hbytes)
  · exact .inl ⟨hbytes, h⟩

/-- Three servers that serve and run an image. The first two agree, and the last does not answer. -/
def silentThird (image : String) : Sighting where
  ready := ["db-0", "db-1", "db-2"].zipIdx.map fun (name, n) =>
    { name, ordinal := Int32.ofNat n, image := some image }
  classes := [["db-0", "db-1"]]
  unknown := ["db-2"]
  plain_ready := by
    have hnames : ∀ name ∈ ["db-0", "db-1", "db-2"], IsPlain name := by decide
    intro p hp
    obtain ⟨⟨name, n⟩, hmem, rfl⟩ := List.mem_map.mp hp
    exact hnames name (List.fst_mem_of_mem_zipIdx hmem)
  plain_classes := by decide
  plain_unknown := by decide

/-- The image that servers run is not part of what is seen. -/
theorem seen_of_fingerprint_eq_silentThird :
    fingerprint (silentThird "neo4j:1").names (silentThird "neo4j:1").classes
        (silentThird "neo4j:1").unknown =
      fingerprint (silentThird "neo4j:2").names (silentThird "neo4j:2").classes
        (silentThird "neo4j:2").unknown ∧
      (silentThird "neo4j:1").names = (silentThird "neo4j:2").names ∧
      (silentThird "neo4j:1").ready ≠ (silentThird "neo4j:2").ready := by
  refine ⟨rfl, ?_, by decide⟩
  rcases seen_of_fingerprint_eq (silentThird "neo4j:1") (silentThird "neo4j:2") rfl with
    hcollide | ⟨hnames, -, -⟩
  · exact absurd rfl hcollide.1
  · exact hnames

end Sighting

/-! ## What a pass sees -/

namespace DetectionInput

variable {i j : DetectionInput} {name : String}

theorem exists_ready_of_mem_classes {members : List String} (h : members ∈ i.classes)
    (hname : name ∈ members) : ∃ p ∈ i.ready, p.name = name := by
  cases hdeployment : i.deployment with
  | cluster servers quorum =>
    rw [classes_of_cluster hdeployment] at h
    have hflat := List.mem_flatten.mpr ⟨members, h, hname⟩
    exact (mem_keys_known.mp (Views.mem_flatten_equivalenceClasses.mp hflat)).2
  | standalone =>
    unfold classes at h
    rw [hdeployment] at h
    dsimp only at h
    split at h
    · cases h
    · rw [List.mem_singleton.mp h] at hname
      exact List.mem_map.mp hname

theorem exists_ready_of_mem_unknown (h : name ∈ i.unknown) : ∃ p ∈ i.ready, p.name = name := by
  unfold unknown at h
  split at h
  · exact List.mem_map.mp (List.mem_of_mem_filter h)
  · cases h

/-- What a pass sees of pods with plain names. -/
def sighting (i : DetectionInput) (h : ∀ p ∈ i.pods, IsPlain p.name) : Sighting where
  ready := i.ready
  classes := i.classes
  unknown := i.unknown
  plain_ready p hp := h p (List.mem_of_mem_filter hp)
  plain_classes members hmembers name hname := by
    obtain ⟨p, hp, rfl⟩ := exists_ready_of_mem_classes hmembers hname
    exact h p (List.mem_of_mem_filter hp)
  plain_unknown name hname := by
    obtain ⟨p, hp, rfl⟩ := exists_ready_of_mem_unknown hname
    exact h p (List.mem_of_mem_filter hp)

/-- **A grace period runs on only while the same is seen.** Of two passes over pods with plain names
that note the same fingerprint, both have found the same serving pods, the same classes and the same
unknown pods, unless their bytes collide. -/
theorem same_of_fingerprint_eq (hi : ∀ p ∈ i.pods, IsPlain p.name)
    (hj : ∀ p ∈ j.pods, IsPlain p.name) (h : (classify i).fingerprint = (classify j).fingerprint) :
    Sha256.Collide (i.sighting hi).bytes (j.sighting hj).bytes ∨
      i.ready.map (·.name) = j.ready.map (·.name) ∧
        (classify i).classes = (classify j).classes ∧
        (classify i).unknown = (classify j).unknown := by
  by_cases hbytes : (i.sighting hi).bytes = (j.sighting hj).bytes
  · exact .inr (Sighting.eq_of_bytes_eq hbytes)
  · exact .inl ⟨hbytes, h⟩

end DetectionInput

end ClusterOperator
