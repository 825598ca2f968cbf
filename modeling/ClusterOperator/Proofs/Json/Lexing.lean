import ClusterOperator.Json.Parser
import ClusterOperator.Json.Printer
import ClusterOperator.Proofs.Text.Numerals

/-!
# The tokens of a printed document

What the printer writes of a document, the lexer takes apart into the tokens of the document.

> **`lex?_compress`** — a printed document is lexed into its tokens, if no number in it is out of
> range.

A number has no mark at its end: the lexer knows that it is over from the character that follows. So
what is lexed of a part of a text depends on what comes after it, and the statements here are about
parts before which the lexer is between tokens and after which no number or name goes on (`Lexes`).
-/

set_option autoImplicit false

namespace ClusterOperator.Json

open Text (hexDigit)

/-! ## Documents that can be written -/

/-- Documents that a text can carry: nested at most so deep, with numbers in range, and with fields
of different names. Of two fields of one name a reader would keep one, and a number out of range
would come back as another. -/
inductive Writable : Nat → Json → Prop
  | null {d : Nat} : Writable d .null
  | bool {d : Nat} {b : Bool} : Writable d (.bool b)
  | int {d : Nat} {n : Int} (h : inDoubleRange n.natAbs 0 = true) : Writable d (.int n)
  | dec {d : Nat} {m e : Int} (h : inDoubleRange m.natAbs e = true) : Writable d (.dec m e)
  | str {d : Nat} {s : String} : Writable d (.str s)
  | arr {d : Nat} {items : List Json} (h : ∀ item ∈ items, Writable d item) :
    Writable (d + 1) (.arr items)
  | obj {d : Nat} {fields : List (String × Json)} (hkeys : (fields.map (·.1)).Nodup)
    (h : ∀ f ∈ fields, Writable d f.2) : Writable (d + 1) (.obj fields)

/-! ## Tokens of a document -/

mutual

/-- The tokens of a document. -/
def tokens : Json → List Token
  | .str s => [.text s]
  | .arr items => .openList :: (tokensOfItems items ++ [.closeList])
  | .obj fields => .openObject :: (tokensOfFields fields ++ [.closeObject])
  | scalar => [.scalar scalar]

/-- The tokens of the items of a list. -/
def tokensOfItems : List Json → List Token
  | [] => []
  | [item] => tokens item
  | item :: rest => tokens item ++ .comma :: tokensOfItems rest

/-- The tokens of the fields of an object. -/
def tokensOfFields : List (String × Json) → List Token
  | [] => []
  | [(key, value)] => .text key :: .colon :: tokens value
  | (key, value) :: rest =>
    .text key :: .colon :: (tokens value ++ .comma :: tokensOfFields rest)

end

/-! ## Numbers -/

section
variable {n : Nat} {negative : Bool} {rest : List Char}

theorem digitsToNat_toDigits : digitsToNat (Nat.toDigits 10 n) = n :=
  (Text.foldl_eq_ofDigitChars _ 0).trans Nat.ofDigitChars_ten_toDigits

theorem takeWhile_toDigits (hrest : ∀ c ∈ rest.head?, c.isDigit = false) :
    (Nat.toDigits 10 n ++ rest).takeWhile Char.isDigit = Nat.toDigits 10 n := by
  rw [List.takeWhile_append_of_pos fun _ => Text.isDigit_of_mem_toDigits]
  cases rest with
  | nil => exact List.append_nil _
  | cons c rest => rw [List.takeWhile_cons_of_neg (by simp [hrest c rfl]), List.append_nil]

theorem dropWhile_toDigits (hrest : ∀ c ∈ rest.head?, c.isDigit = false) :
    (Nat.toDigits 10 n ++ rest).dropWhile Char.isDigit = rest := by
  rw [List.dropWhile_append_of_pos fun _ => Text.isDigit_of_mem_toDigits]
  cases rest with
  | nil => rfl
  | cons c rest => exact List.dropWhile_cons_of_neg (by simp [hrest c rfl])

/-- The digits of a number are a numeral without leading zeros. -/
theorem toDigits_wellFormed : ((Nat.toDigits 10 n).isEmpty ||
    ((Nat.toDigits 10 n).length > 1 && (Nat.toDigits 10 n).head? == some '0')) = false := by
  rcases Nat.eq_zero_or_pos n with rfl | hpos
  · rfl
  · obtain ⟨d, ds, heq, hd⟩ := Text.exists_first_digit hpos
    have hzero : d ≠ '0' := fun h => absurd (h ▸ hd) (by decide)
    simp [heq, hzero]

theorem readMagnitude?_whole (hrange : inDoubleRange n 0 = true) (hzero : negative = true → n ≠ 0) :
    readMagnitude? negative (Nat.toDigits 10 n) =
      some (.int (if negative then -(n : Int) else n)) := by
  have hnone : ∀ c ∈ ([] : List Char).head?, c.isDigit = false := by simp
  have htake := takeWhile_toDigits (n := n) hnone
  have hdrop := dropWhile_toDigits (n := n) hnone
  rw [List.append_nil] at htake hdrop
  unfold readMagnitude?
  simp only [htake, hdrop, toDigits_wellFormed, digitsToNat_toDigits, hrange]
  cases negative with
  | false => rfl
  | true => simp [hzero rfl]

theorem readMagnitude?_scaled {exponent : Int} (hread : readExponent? rest = some exponent)
    (hrange : inDoubleRange n exponent = true) :
    readMagnitude? negative (Nat.toDigits 10 n ++ 'e' :: rest) =
      some (.dec (if negative then -(n : Int) else n) exponent) := by
  have hmark : ∀ c ∈ ('e' :: rest).head?, c.isDigit = false := by simp
  unfold readMagnitude?
  simp only [takeWhile_toDigits hmark, dropWhile_toDigits hmark, toDigits_wellFormed]
  simp [hread, digitsToNat_toDigits, hrange]

theorem readExponent?_digits : readExponent?.digits (Nat.toDigits 10 n) = some (n : Int) := by
  have hall : (Nat.toDigits 10 n).all Char.isDigit = true :=
    List.all_eq_true.mpr fun _ => Text.isDigit_of_mem_toDigits
  simp [readExponent?.digits, hall, Nat.toDigits_ne_nil, digitsToNat_toDigits]

theorem readExponent?_of_isDigit {d : Char} (hd : d.isDigit = true) :
    readExponent? (d :: rest) = readExponent?.digits (d :: rest) := by
  unfold readExponent?
  split
  case h_1 h => exact absurd ((List.cons.inj h).1 ▸ hd) (by decide)
  case h_2 h => exact absurd ((List.cons.inj h).1 ▸ hd) (by decide)
  case h_3 => rfl

theorem readScalar?_of_isDigit {d : Char} (hd : d.isDigit = true) :
    readScalar? (d :: rest) = readMagnitude? false (d :: rest) := by
  unfold readScalar?
  split
  case h_1 h => exact absurd ((List.cons.inj h).1 ▸ hd) (by decide)
  case h_2 h => exact absurd ((List.cons.inj h).1 ▸ hd) (by decide)
  case h_3 h => exact absurd ((List.cons.inj h).1 ▸ hd) (by decide)
  case h_4 h => exact absurd ((List.cons.inj h).1 ▸ hd) (by decide)
  case h_5 => rfl

theorem readExponent?_int (e : Int) : readExponent? (toString e).toList = some e := by
  rw [Text.toList_toString_int]
  split
  · show (readExponent?.digits (Nat.toDigits 10 e.natAbs)).map (-·) = _
    rw [readExponent?_digits, Option.map_some]
    exact congrArg some (by omega)
  · obtain ⟨d, ds, heq, hd⟩ := Text.exists_toDigits_cons e.natAbs
    rw [List.nil_append, heq, readExponent?_of_isDigit hd, ← heq, readExponent?_digits]
    exact congrArg some (by omega)

/-- A number is read as its sign and its digits. -/
theorem readScalar?_int_append (n : Int) (rest : List Char) :
    readScalar? ((toString n).toList ++ rest) =
      readMagnitude? (decide (n < 0)) (Nat.toDigits 10 n.natAbs ++ rest) := by
  rw [Text.toList_toString_int]
  split
  case isTrue hneg =>
    rw [decide_eq_true hneg]
    rfl
  case isFalse hneg =>
    obtain ⟨d, ds, heq, hd⟩ := Text.exists_toDigits_cons n.natAbs
    rw [decide_eq_false hneg, heq]
    exact readScalar?_of_isDigit hd

theorem signed_natAbs (n : Int) :
    (if decide (n < 0) then -(n.natAbs : Int) else (n.natAbs : Int)) = n := by
  grind

theorem readScalar?_int {n : Int} (hrange : inDoubleRange n.natAbs 0 = true) :
    readScalar? (toString n).toList = some (.int n) := by
  have hzero : decide (n < 0) = true → n.natAbs ≠ 0 := by grind
  have hread := readScalar?_int_append n []
  rw [List.append_nil, List.append_nil, readMagnitude?_whole hrange hzero, signed_natAbs] at hread
  exact hread

theorem readScalar?_dec {m e : Int} (hrange : inDoubleRange m.natAbs e = true) :
    readScalar? ((toString m).toList ++ 'e' :: (toString e).toList) = some (.dec m e) := by
  rw [readScalar?_int_append, readMagnitude?_scaled (readExponent?_int e) hrange, signed_natAbs]

end

/-! ## The lexer between tokens -/

/-- The tokens of a text, of which the lexer has read the part before `cs`. -/
def lexFrom? (state : LexState) (cs : List Char) : Option (List Token) :=
  (cs.foldlM lexStep? state).bind fun state =>
    match state.mode with
    | .between => some state.tokens.reverse
    | .scalar seen =>
      (readScalar? seen.reverse).map fun v => (Token.scalar v :: state.tokens).reverse
    | _ => none

theorem lex?_eq (s : String) : lex? s = lexFrom? ⟨.between, []⟩ s.toList := rfl

section
variable {state state' : LexState} {c : Char} {cs cs' rest seen : List Char}
  {done ts ts' : List Token}

theorem lexFrom?_cons (h : lexStep? state c = some state') :
    lexFrom? state (c :: cs) = lexFrom? state' cs := by
  unfold lexFrom?
  rw [List.foldlM_cons, h]
  rfl

theorem lexFrom?_append (h : cs.foldlM lexStep? state = some state') :
    lexFrom? state (cs ++ rest) = lexFrom? state' rest := by
  unfold lexFrom?
  rw [List.foldlM_append, h]
  rfl

/-- A character that a number or a name may begin with. -/
def startsWord (c : Char) : Bool := c.isAlphanum || c = '-'

/-- A character of a number or a name. -/
def inWord (c : Char) : Bool := startsWord c || c = '+' || c = '.'

theorem inWord_of_startsWord (h : startsWord c = true) : inWord c = true := by
  unfold inWord
  rw [h]
  rfl

/-- That no number or name goes on with these characters. -/
def Ends (rest : List Char) : Prop := ∀ c ∈ rest.head?, inWord c = false

/-- That characters are lexed into tokens, if no number or name goes on after them. It holds after
whatever was read before and before whatever ends a word, so the statements about parts of a
document can be put together. -/
def Lexes (cs : List Char) (ts : List Token) : Prop :=
  ∀ done rest, Ends rest →
    lexFrom? ⟨.between, done⟩ (cs ++ rest) = lexFrom? ⟨.between, ts.reverse ++ done⟩ rest

theorem ends_cons (h : inWord c = false) : Ends (c :: rest) := by
  rintro _ ⟨⟩
  exact h

theorem Lexes.lex? {s : String} (h : Lexes s.toList ts) : lex? s = some ts := by
  have hend : Ends [] := by simp [Ends]
  rw [lex?_eq, ← List.append_nil s.toList, h [] [] hend, List.append_nil]
  show some ts.reverse.reverse = _
  rw [List.reverse_reverse]

theorem Lexes.nil : Lexes [] [] := fun _ _ _ => rfl

/-- A mark, and what follows it. -/
theorem Lexes.mark {mark : Token}
    (hmark : ∀ done, lexStep? ⟨.between, done⟩ c = some ⟨.between, mark :: done⟩)
    (h : Lexes cs ts) : Lexes (c :: cs) (mark :: ts) := by
  intro done rest hends
  rw [List.cons_append, lexFrom?_cons (hmark done), h _ _ hends, List.reverse_cons,
    List.append_assoc]
  rfl

/-- What is lexed before a mark ends there. -/
theorem Lexes.append (h : Lexes cs ts) (hends : ∀ rest, Ends rest → Ends (cs' ++ rest))
    (h' : Lexes cs' ts') : Lexes (cs ++ cs') (ts ++ ts') := by
  intro done rest hrest
  rw [List.append_assoc, h _ _ (hends rest hrest), h' _ _ hrest, List.reverse_append,
    List.append_assoc]

/-! ### Numbers and names -/

theorem lexStep?_word (h : inWord c = true) :
    lexStep? ⟨.scalar seen, done⟩ c = some ⟨.scalar (c :: seen), done⟩ := if_pos h

theorem lexFrom?_word (h : ∀ c ∈ cs, inWord c = true) :
    lexFrom? ⟨.scalar seen, done⟩ (cs ++ rest) =
      lexFrom? ⟨.scalar (cs.reverse ++ seen), done⟩ rest := by
  induction cs generalizing seen with
  | nil => rfl
  | cons c cs ih =>
    obtain ⟨hfirst, hrest⟩ := List.forall_mem_cons.mp h
    rw [List.cons_append, lexFrom?_cons (lexStep?_word hfirst), ih hrest, List.reverse_cons,
      List.append_assoc]
    rfl

/-- A number or a name is finished by what does not go on with it. -/
theorem lexFrom?_ends {v : Json} (hread : readScalar? seen.reverse = some v) (h : Ends rest) :
    lexFrom? ⟨.scalar seen, done⟩ rest = lexFrom? ⟨.between, .scalar v :: done⟩ rest := by
  cases rest with
  | nil =>
    show (readScalar? seen.reverse).map _ = _
    rw [hread]
    rfl
  | cons c rest =>
    have hstep : lexStep? ⟨.scalar seen, done⟩ c = lexStep? ⟨.between, .scalar v :: done⟩ c := by
      have hc : ¬ inWord c = true := by simp [h c rfl]
      show (if inWord c then _ else (readScalar? seen.reverse).bind _) = startToken? _ c
      rw [if_neg hc, hread]
      rfl
    unfold lexFrom?
    rw [List.foldlM_cons, List.foldlM_cons, hstep]

theorem lexStep?_start (h : startsWord c = true) :
    lexStep? ⟨.between, done⟩ c = some ⟨.scalar [c], done⟩ := by
  have hother (d : Char) (hd : startsWord d = false) : c ≠ d := by
    rintro rfl
    cases hd.symm.trans h
  show startToken? done c = _
  unfold startToken?
  simp only [hother ' ' (by decide), hother '\n' (by decide), hother '\t' (by decide),
    hother '\r' (by decide), hother '[' (by decide), hother ']' (by decide),
    hother '\x7b' (by decide), hother '\x7d' (by decide), hother ',' (by decide),
    hother ':' (by decide), hother '"' (by decide)]
  exact if_pos h

theorem Lexes.scalar {v : Json} (hread : readScalar? cs = some v)
    (hcs : ∀ c ∈ cs, startsWord c = true) : Lexes cs [.scalar v] := by
  intro done rest hends
  cases cs with
  | nil => cases hread
  | cons c cs =>
    obtain ⟨hfirst, hothers⟩ := List.forall_mem_cons.mp hcs
    rw [List.cons_append, lexFrom?_cons (lexStep?_start hfirst),
      lexFrom?_word fun d hd => inWord_of_startsWord (hothers d hd)]
    refine lexFrom?_ends ?_ hends
    rw [List.reverse_append, List.reverse_reverse]
    exact hread

/-! ### Texts -/

theorem hexValue?_hexDigit {n : Nat} (h : n < 16) : hexValue? (hexDigit n) = some n := by
  have hall : ∀ n < 16, hexValue? (hexDigit n) = some n := by decide
  exact hall n h

theorem lexStep?_numeric {high : Option Nat} {digits value d : Nat} (hd : hexValue? c = some d)
    (h : digits ≠ 3) : lexStep? ⟨.numeric seen high digits value, done⟩ c =
      some ⟨.numeric seen high (digits + 1) (value * 16 + d), done⟩ := by
  unfold lexStep?
  simp only [hd, Option.bind_some, if_neg h]

theorem lexStep?_lastNumeric {high : Option Nat} {value d : Nat} {mode : LexMode}
    (hd : hexValue? c = some d) (h : closeEscape? seen high (value * 16 + d) = some mode) :
    lexStep? ⟨.numeric seen high 3 value, done⟩ c = some ⟨mode, done⟩ := by
  unfold lexStep?
  simp only [hd, Option.bind_some, if_true, h, Option.map_some]

theorem closeEscape?_of_lt {value : Nat} (h : value < 0xD800) :
    closeEscape? seen none value = some (.text (Char.ofNat value :: seen)) := by
  have hhigh : (decide (0xD800 ≤ value) && decide (value ≤ 0xDBFF)) = false := by grind
  have hlow : (decide (0xDC00 ≤ value) && decide (value ≤ 0xDFFF)) = false := by grind
  unfold closeEscape?
  simp only [hhigh, hlow, Bool.false_eq_true, if_false]

/-- A character that is written by its number is read by it. -/
theorem foldlM_numericEscape (h : c.toNat < 32) :
    ['\\', 'u', '0', '0', hexDigit (c.toNat / 16), hexDigit (c.toNat % 16)].foldlM lexStep?
      ⟨.text seen, done⟩ = some ⟨.text (c :: seen), done⟩ := by
  have hzeros : ['\\', 'u', '0', '0'].foldlM lexStep? ⟨.text seen, done⟩ =
      some ⟨.numeric seen none 2 0, done⟩ := rfl
  have hhigh : lexStep? ⟨.numeric seen none 2 0, done⟩ (hexDigit (c.toNat / 16)) =
      some ⟨.numeric seen none 3 (0 * 16 + c.toNat / 16), done⟩ :=
    lexStep?_numeric (hexValue?_hexDigit (by omega)) (by decide)
  have hvalue : (0 * 16 + c.toNat / 16) * 16 + c.toNat % 16 = c.toNat := by omega
  have hclose : closeEscape? seen none ((0 * 16 + c.toNat / 16) * 16 + c.toNat % 16) =
      some (.text (c :: seen)) := by
    rw [hvalue, closeEscape?_of_lt (by omega), Char.ofNat_toNat]
  have hlow : lexStep? ⟨.numeric seen none 3 (0 * 16 + c.toNat / 16), done⟩
      (hexDigit (c.toNat % 16)) = some ⟨.text (c :: seen), done⟩ :=
    lexStep?_lastNumeric (hexValue?_hexDigit (by omega)) hclose
  show (['\\', 'u', '0', '0'] ++ [_, _]).foldlM lexStep? _ = _
  rw [List.foldlM_append, hzeros]
  show (lexStep? _ _).bind _ = _
  rw [hhigh]
  show (lexStep? _ _).bind _ = _
  rw [hlow]
  rfl

theorem foldlM_escapeChar : (escapeChar c).foldlM lexStep? ⟨.text seen, done⟩ =
    some ⟨.text (c :: seen), done⟩ := by
  unfold escapeChar
  -- seven characters have an escape of their own
  iterate 7
    split
    case isTrue h => subst h; rfl
  split
  case isTrue h => exact foldlM_numericEscape h
  rename_i hquote hsolidus _ _ _ _ _ hcontrol
  show (lexStep? ⟨.text seen, done⟩ c).bind _ = _
  unfold lexStep?
  simp only [if_neg hquote, if_neg hsolidus, if_neg hcontrol]
  rfl

theorem lexFrom?_escaped :
    lexFrom? ⟨.text seen, done⟩ (cs.flatMap escapeChar ++ rest) =
      lexFrom? ⟨.text (cs.reverse ++ seen), done⟩ rest := by
  induction cs generalizing seen with
  | nil => rfl
  | cons c cs ih =>
    rw [List.flatMap_cons, List.append_assoc, lexFrom?_append foldlM_escapeChar, ih,
      List.reverse_cons, List.append_assoc]
    rfl

theorem toList_quote (s : String) :
    (quote s).toList = '"' :: (s.toList.flatMap escapeChar ++ ['"']) := by
  simp [quote]

theorem lexes_quote (s : String) : Lexes (quote s).toList [.text s] := by
  intro done rest hends
  have hopen : lexStep? ⟨.between, done⟩ '"' = some ⟨.text [], done⟩ := rfl
  have hclose : lexStep? ⟨.text s.toList.reverse, done⟩ '"' = some ⟨.between, .text s :: done⟩ := by
    show some (LexState.mk .between (.text (String.ofList s.toList.reverse.reverse) :: done)) = _
    rw [List.reverse_reverse, String.ofList_toList]
  rw [toList_quote, List.cons_append, lexFrom?_cons hopen, List.append_assoc, lexFrom?_escaped,
    List.append_nil]
  exact lexFrom?_cons hclose

end

/-! ## Documents -/

theorem startsWord_of_mem_int {c : Char} {n : Int} (h : c ∈ (toString n).toList) :
    startsWord c = true := by
  rw [Text.toList_toString_int, List.mem_append] at h
  rcases h with h | h
  · split at h
    · cases List.mem_singleton.mp h
      rfl
    · cases h
  · unfold startsWord Char.isAlphanum
    rw [Text.isDigit_of_mem_toDigits h, Bool.or_true, Bool.true_or]

theorem lexes_int {n : Int} (h : inDoubleRange n.natAbs 0 = true) :
    Lexes (toString n).toList [.scalar (.int n)] :=
  .scalar (readScalar?_int h) fun _ hc => startsWord_of_mem_int hc

theorem lexes_dec {m e : Int} (h : inDoubleRange m.natAbs e = true) :
    Lexes ((toString m).toList ++ 'e' :: (toString e).toList) [.scalar (.dec m e)] := by
  refine .scalar (readScalar?_dec h) fun c hc => ?_
  rcases List.mem_append.mp hc with hc | hc
  · exact startsWord_of_mem_int hc
  · rcases List.mem_cons.mp hc with rfl | hc
    · rfl
    · exact startsWord_of_mem_int hc

/-- The items of a list are lexed one after the other. -/
theorem lexes_compressItems {items : List Json}
    (h : ∀ item ∈ items, Lexes (compress item).toList (tokens item)) :
    Lexes (compressItems items).toList (tokensOfItems items) := by
  induction items with
  | nil => exact .nil
  | cons item rest ih =>
    obtain ⟨hitem, hrest⟩ := List.forall_mem_cons.mp h
    cases rest with
    | nil => exact hitem
    | cons next rest =>
      show Lexes (compress item ++ "," ++ compressItems (next :: rest)).toList
        (tokens item ++ .comma :: tokensOfItems (next :: rest))
      rw [String.toList_append, String.toList_append, List.append_assoc]
      exact hitem.append (fun _ _ => ends_cons rfl) (.mark (fun _ => rfl) (ih hrest))

/-- A field is its name, a colon, and its value. -/
theorem lexes_field {key : String} {value : Json}
    (h : Lexes (compress value).toList (tokens value)) :
    Lexes (quote key ++ ":" ++ compress value).toList (.text key :: .colon :: tokens value) := by
  rw [String.toList_append, String.toList_append, List.append_assoc]
  exact (lexes_quote key).append (fun _ _ => ends_cons rfl) (.mark (fun _ => rfl) h)

/-- The fields of an object are lexed one after the other. -/
theorem lexes_compressFields {fields : List (String × Json)}
    (h : ∀ f ∈ fields, Lexes (compress f.2).toList (tokens f.2)) :
    Lexes (compressFields fields).toList (tokensOfFields fields) := by
  induction fields with
  | nil => exact .nil
  | cons first rest ih =>
    obtain ⟨hfirst, hrest⟩ := List.forall_mem_cons.mp h
    obtain ⟨key, value⟩ := first
    cases rest with
    | nil => exact lexes_field hfirst
    | cons next rest =>
      show Lexes (quote key ++ ":" ++ compress value ++ "," ++ compressFields (next :: rest)).toList
        ((.text key :: .colon :: tokens value) ++ .comma :: tokensOfFields (next :: rest))
      rw [String.toList_append, String.toList_append (t := ","), List.append_assoc]
      exact (lexes_field hfirst).append (fun _ _ => ends_cons rfl) (.mark (fun _ => rfl) (ih hrest))

/-- A list or an object is its parts between two marks. -/
theorem Lexes.enclosed {opening closing : Char} {first last : Token} {cs : List Char}
    {ts : List Token}
    (hopen : ∀ done, lexStep? ⟨.between, done⟩ opening = some ⟨.between, first :: done⟩)
    (hclose : ∀ done, lexStep? ⟨.between, done⟩ closing = some ⟨.between, last :: done⟩)
    (hends : inWord closing = false) (h : Lexes cs ts) :
    Lexes (opening :: (cs ++ [closing])) (first :: (ts ++ [last])) :=
  .mark hopen (h.append (fun _ _ => ends_cons hends) (.mark hclose .nil))

theorem lexes_compress {d : Nat} {j : Json} (h : Writable d j) :
    Lexes (compress j).toList (tokens j) := by
  induction h with
  | null => exact .scalar rfl (List.all_eq_true.mp rfl)
  | @bool _ b => cases b <;> exact .scalar rfl (List.all_eq_true.mp rfl)
  | int h => exact lexes_int h
  | @dec _ m e h =>
    show Lexes (toString m ++ "e" ++ toString e).toList _
    rw [String.toList_append, String.toList_append, List.append_assoc]
    exact lexes_dec h
  | str => exact lexes_quote _
  | @arr _ items _ ih =>
    show Lexes ("[" ++ compressItems items ++ "]").toList _
    rw [String.toList_append, String.toList_append, List.append_assoc]
    exact .enclosed (fun _ => rfl) (fun _ => rfl) rfl (lexes_compressItems ih)
  | @obj _ fields _ _ ih =>
    show Lexes ("\x7b" ++ compressFields fields ++ "\x7d").toList _
    rw [String.toList_append, String.toList_append, List.append_assoc]
    exact .enclosed (fun _ => rfl) (fun _ => rfl) rfl (lexes_compressFields ih)

/-- **A printed document is lexed into its tokens.** -/
theorem lex?_compress {d : Nat} {j : Json} (h : Writable d j) :
    lex? j.compress = some (tokens j) := (lexes_compress h).lex?

end ClusterOperator.Json
