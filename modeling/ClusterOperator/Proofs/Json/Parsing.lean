import ClusterOperator.Proofs.Json.Lexing

/-!
# A printed document is parsed

> **`parse?_compress`** — what is parsed of a printed document is the document, if it is not nested
> too deep.

The tokens of a document are assembled into the document wherever a value may stand: the lists and
objects that are open around it are neither read nor changed (`Assembles`).
-/

set_option autoImplicit false

namespace ClusterOperator.Json

variable {a a' : Assembly} {t : Token} {ts ts' : List Token} {frames : List Frame} {d : Nat}

/-- Where the assembler stands after some tokens. -/
def assembleFrom? (a : Assembly) (ts : List Token) : Option Assembly := ts.foldlM assembleStep? a

theorem assembleFrom?_cons (h : assembleStep? a t = some a') :
    assembleFrom? a (t :: ts) = assembleFrom? a' ts := by
  unfold assembleFrom?
  rw [List.foldlM_cons, h]
  rfl

theorem assembleFrom?_append (h : assembleFrom? a ts = some a') :
    assembleFrom? a (ts ++ ts') = assembleFrom? a' ts' := by
  unfold assembleFrom? at h ⊢
  rw [List.foldlM_append, h]
  rfl

/-- That tokens are assembled into a document where a value is expected, if the nesting around it
leaves room for `d` further levels. What surrounds the value is arbitrary and comes out unchanged,
which is what an induction over the document needs. -/
def Assembles (d : Nat) (ts : List Token) (j : Json) : Prop :=
  ∀ frames : List Frame, frames.length + d < maxDepth →
    assembleFrom? ⟨frames, .value⟩ ts = some ⟨frames, .after j⟩

/-! ## Lists -/

/-- Right after a list was opened a value is read as anywhere else. -/
theorem assembleFrom?_firstItem (j : Json) :
    assembleFrom? ⟨frames, .firstItem⟩ (tokens j ++ ts) =
      assembleFrom? ⟨frames, .value⟩ (tokens j ++ ts) := by
  cases j <;> rfl

theorem exists_tokensOfItems (item : Json) (rest : List Json) :
    ∃ ts, tokensOfItems (item :: rest) = tokens item ++ ts := by
  cases rest with
  | nil => exact ⟨[], (List.append_nil _).symm⟩
  | cons next rest => exact ⟨_, rfl⟩

/-- **The items of a list** are assembled one after the other, up to its end. -/
theorem assembleFrom?_items {items : List Json} (read : List Json)
    (h : ∀ item ∈ items, Assembles d (tokens item) item) (hne : items ≠ [])
    (hroom : frames.length + 1 + d < maxDepth) :
    assembleFrom? ⟨.list read :: frames, .value⟩ (tokensOfItems items ++ [.closeList]) =
      some ⟨frames, .after (.arr (read.reverse ++ items))⟩ := by
  induction items generalizing read with
  | nil => exact absurd rfl hne
  | cons item rest ih =>
    obtain ⟨hitem, hrest⟩ := List.forall_mem_cons.mp h
    have hread := hitem (.list read :: frames) hroom
    cases rest with
    | nil =>
      refine (assembleFrom?_append hread).trans ?_
      show some (Assembly.mk frames (.after (.arr (item :: read).reverse))) = _
      rw [List.reverse_cons]
    | cons next rest =>
      have hnext := ih (item :: read) hrest (List.cons_ne_nil _ _)
      rw [List.reverse_cons, List.append_assoc] at hnext
      show assembleFrom? _
        (tokens item ++ .comma :: tokensOfItems (next :: rest) ++ [.closeList]) = _
      rw [List.append_assoc, assembleFrom?_append hread]
      exact (assembleFrom?_cons rfl).trans hnext

theorem assembles_arr {items : List Json} (h : ∀ item ∈ items, Assembles d (tokens item) item) :
    Assembles (d + 1) (tokens (.arr items)) (.arr items) := by
  intro frames hroom
  have hopen : assembleStep? ⟨frames, .value⟩ .openList = some ⟨.list [] :: frames, .firstItem⟩ :=
    if_pos (show frames.length + 2 ≤ maxDepth by omega)
  refine (assembleFrom?_cons hopen).trans ?_
  cases items with
  | nil => rfl
  | cons item rest =>
    have hfirst : assembleFrom? ⟨.list [] :: frames, .firstItem⟩
        (tokensOfItems (item :: rest) ++ [.closeList]) =
          assembleFrom? ⟨.list [] :: frames, .value⟩
            (tokensOfItems (item :: rest) ++ [.closeList]) := by
      obtain ⟨ts, hts⟩ := exists_tokensOfItems item rest
      rw [hts, List.append_assoc]
      exact assembleFrom?_firstItem item
    exact hfirst.trans (assembleFrom?_items [] h (List.cons_ne_nil _ _) (by omega))

/-! ## Objects -/

section
variable {fields : List (String × Json)} {key : String} {value : Json}

/-- Fields of different names are kept in the order in which they were read. -/
theorem foldl_insertField (read : List (String × Json))
    (hkeys : ((read ++ fields).map (·.1)).Nodup) :
    fields.foldl (fun acc f => insertField acc f.1 f.2) read = read ++ fields := by
  induction fields generalizing read with
  | nil => exact (List.append_nil _).symm
  | cons first rest ih =>
    have hnew : read.filter (·.1 != first.1) = read := by
      rw [List.map_append, List.nodup_append] at hkeys
      refine List.filter_eq_self.mpr fun f hf => bne_iff_ne.mpr ?_
      exact hkeys.2.2 _ (List.mem_map.mpr ⟨f, hf, rfl⟩) _ List.mem_cons_self
    rw [List.append_cons] at hkeys ⊢
    rw [List.foldl_cons, ← ih _ hkeys]
    show rest.foldl _ (read.filter (·.1 != first.1) ++ [first]) = _
    rw [hnew]

theorem closeFields_reverse (hkeys : (fields.map (·.1)).Nodup) :
    closeFields fields.reverse = .obj fields := by
  unfold closeFields
  rw [List.reverse_reverse, foldl_insertField [] hkeys, List.nil_append]

/-- **The fields of an object** are assembled one after the other, up to its end. -/
theorem assembleFrom?_fields (read : List (String × Json))
    (h : ∀ f ∈ fields, Assembles d (tokens f.2) f.2) (hne : fields ≠ [])
    (hroom : frames.length + 1 + d < maxDepth)
    (hname : ∀ key, assembleStep? a (.text key) = some ⟨.object read key :: frames, .colon⟩) :
    assembleFrom? a (tokensOfFields fields ++ [.closeObject]) =
      some ⟨frames, .after (closeFields (fields.reverse ++ read))⟩ := by
  induction fields generalizing read a with
  | nil => exact absurd rfl hne
  | cons first rest ih =>
    obtain ⟨hfirst, hrest⟩ := List.forall_mem_cons.mp h
    obtain ⟨key, value⟩ := first
    have hread := hfirst (.object read key :: frames) hroom
    cases rest with
    | nil =>
      show assembleFrom? a (.text key :: .colon :: (tokens value ++ [.closeObject])) = _
      rw [assembleFrom?_cons (hname key)]
      exact (assembleFrom?_cons rfl).trans (assembleFrom?_append hread)
    | cons next rest =>
      -- The fields that were read grow at the front, so the induction is over those that are left,
      -- whatever was read.
      have hnext := ih ((key, value) :: read)
        (a := ⟨.object read key :: frames, .fieldName ((key, value) :: read)⟩)
        hrest (List.cons_ne_nil _ _) fun _ => rfl
      show assembleFrom? a (.text key :: .colon ::
        (tokens value ++ .comma :: tokensOfFields (next :: rest) ++ [.closeObject])) = _
      rw [List.reverse_cons, List.append_assoc, assembleFrom?_cons (hname key), List.append_assoc]
      refine (assembleFrom?_cons rfl).trans ((assembleFrom?_append hread).trans ?_)
      exact (assembleFrom?_cons rfl).trans hnext

theorem assembles_obj (hkeys : (fields.map (·.1)).Nodup)
    (h : ∀ f ∈ fields, Assembles d (tokens f.2) f.2) :
    Assembles (d + 1) (tokens (.obj fields)) (.obj fields) := by
  intro frames hroom
  have hopen : assembleStep? ⟨frames, .value⟩ .openObject =
      some ⟨.object [] "" :: frames, .firstField []⟩ :=
    if_pos (show frames.length + 2 ≤ maxDepth by omega)
  refine (assembleFrom?_cons hopen).trans ?_
  cases fields with
  | nil => rfl
  | cons first rest =>
    have hfields := assembleFrom?_fields [] (a := ⟨.object [] "" :: frames, .firstField []⟩) h
      (List.cons_ne_nil _ _) (by omega) fun _ => rfl
    rw [List.append_nil, closeFields_reverse hkeys] at hfields
    exact hfields

end

/-! ## Documents -/

theorem assembles_tokens {j : Json} (h : Writable d j) : Assembles d (tokens j) j := by
  induction h with
  | null => exact fun _ _ => rfl
  | bool => exact fun _ _ => rfl
  | int => exact fun _ _ => rfl
  | dec => exact fun _ _ => rfl
  | str => exact fun _ _ => rfl
  | arr _ ih => exact assembles_arr ih
  | obj hkeys _ ih => exact assembles_obj hkeys ih

/-- **A printed document is parsed back**, if it can be written and is not nested too deep. -/
theorem parse?_compress {j : Json} (h : Writable d j) (hdepth : d < maxDepth) :
    parse? j.compress = some j := by
  have hassembled := assembles_tokens h [] (by simpa using hdepth)
  unfold parse? assemble?
  rw [lex?_compress h, Option.bind_some]
  show (assembleFrom? _ _).bind _ = _
  rw [hassembled]
  rfl

end ClusterOperator.Json
