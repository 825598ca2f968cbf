import ClusterOperator.Json.Basic

/-!
# Reading JSON

A text is read in two passes. The lexer walks the characters once, holding what it has seen of the
token it is in; the assembler walks the tokens once, holding the lists and objects that are still
open. Each pass is a fold, so neither needs a bound of its own: nesting is the height of the
assembler's stack, and a document nested deeper than `maxDepth` is refused.

The grammar is the strict one. A number has no leading zeros; `-0` and every number with a fraction
or an exponent is a `dec`; a number too large for a double is refused; a text holds no raw control
character and no lone surrogate. Of two fields of one name the later counts.
-/

set_option autoImplicit false

namespace ClusterOperator.Json

/-- A token of a JSON text. -/
inductive Token
  | openList | closeList | openObject | closeObject | comma | colon
  /-- A text, with its escapes resolved. -/
  | text (s : String)
  /-- A literal name or a number. -/
  | scalar (value : Json)

/-! ## Numbers and literals -/

/-- The number that a list of decimal digits writes. -/
def digitsToNat (digits : List Char) : Nat :=
  digits.foldl (fun n d => n * 10 + (d.toNat - 48)) 0

/-- Whether a nonzero mantissa at an exponent stays below the largest double. -/
def inDoubleRange (mantissa : Nat) (exponent : Int) : Bool :=
  let digits := (Nat.toDigits 10 mantissa).length
  mantissa == 0 || (digits : Int) + exponent ≤ 308 ||
    ((digits : Int) + exponent == 309 &&
      (if exponent < 0 then mantissa < Nat.pow 2 1024 * Nat.pow 10 exponent.natAbs
        else mantissa * Nat.pow 10 exponent.toNat < Nat.pow 2 1024))

/-- A decimal exponent: an optional sign and at least one digit. -/
def readExponent? : List Char → Option Int
  | '+' :: rest => digits rest
  | '-' :: rest => (digits rest).map (-·)
  | rest => digits rest
where
  /-- At least one digit and nothing else. -/
  digits (cs : List Char) : Option Int :=
    if cs.isEmpty || !cs.all Char.isDigit then none else some (digitsToNat cs)

/-- An unsigned number, given the sign that stood before it. -/
def readMagnitude? (negative : Bool) (cs : List Char) : Option Json :=
  let whole := cs.takeWhile Char.isDigit
  let rest := cs.dropWhile Char.isDigit
  let signed (n : Nat) : Int := if negative then -(n : Int) else n
  if whole.isEmpty || (whole.length > 1 && whole.head? == some '0') then none
  else
    let decimal (fraction : List Char) (exponent : Int) : Option Json :=
      let mantissa := digitsToNat (whole ++ fraction)
      let scale := exponent - fraction.length
      if inDoubleRange mantissa scale then some (.dec (signed mantissa) scale) else none
    let afterFraction (fraction : List Char) : List Char → Option Json
      | [] => decimal fraction 0
      | c :: rest =>
        if c == 'e' || c == 'E' then (readExponent? rest).bind (decimal fraction) else none
    match rest with
    | [] =>
      if negative && digitsToNat whole == 0 then some (.dec 0 0)
      else if inDoubleRange (digitsToNat whole) 0 then some (.int (signed (digitsToNat whole)))
      else none
    | '.' :: rest =>
      let fraction := rest.takeWhile Char.isDigit
      if fraction.isEmpty then none else afterFraction fraction (rest.dropWhile Char.isDigit)
    | rest => afterFraction [] rest

/-- A literal name or a number. -/
def readScalar? (cs : List Char) : Option Json :=
  match cs with
  | ['n', 'u', 'l', 'l'] => some .null
  | ['t', 'r', 'u', 'e'] => some (.bool true)
  | ['f', 'a', 'l', 's', 'e'] => some (.bool false)
  | '-' :: rest => readMagnitude? true rest
  | cs => readMagnitude? false cs

/-! ## The lexer -/

/-- Where the lexer stands. Characters of a token in progress are held in reverse. -/
inductive LexMode
  /-- Between tokens. -/
  | between
  /-- In a literal name or a number. -/
  | scalar (seen : List Char)
  /-- In a text. -/
  | text (seen : List Char)
  /-- After the reverse solidus of an escape. -/
  | escape (seen : List Char)
  /-- In the four digits of a numeric escape; `high` is a surrogate that still lacks its other
  half. -/
  | numeric (seen : List Char) (high : Option Nat) (digits value : Nat)
  /-- After a high surrogate, where only another numeric escape may follow. -/
  | pair (seen : List Char) (high : Nat)
  /-- After the reverse solidus that follows a high surrogate. -/
  | pairEscape (seen : List Char) (high : Nat)

/-- The lexer's mode, with the finished tokens in reverse. -/
structure LexState where
  mode : LexMode
  tokens : List Token

def hexValue? (c : Char) : Option Nat :=
  if '0' ≤ c && c ≤ '9' then some (c.toNat - 48)
  else if 'a' ≤ c && c ≤ 'f' then some (c.toNat - 87)
  else if 'A' ≤ c && c ≤ 'F' then some (c.toNat - 55)
  else none

/-- The character of a one-letter escape. -/
def shortEscape? (c : Char) : Option Char :=
  if c = '"' then some '"' else if c = '\\' then some '\\' else if c = '/' then some '/'
  else if c = 'b' then some '\x08' else if c = 'f' then some '\x0c' else if c = 'n' then some '\n'
  else if c = 'r' then some '\r' else if c = 't' then some '\t' else none

/-- The mode after the last digit of a numeric escape. -/
def closeEscape? (seen : List Char) (high : Option Nat) (value : Nat) : Option LexMode :=
  let isLow := 0xDC00 ≤ value && value ≤ 0xDFFF
  match high with
  | some h =>
    if isLow then
      some (.text (Char.ofNat (0x10000 + (h - 0xD800) * 0x400 + (value - 0xDC00)) :: seen))
    else none
  | none =>
    if 0xD800 ≤ value && value ≤ 0xDBFF then some (.pair seen value)
    else if isLow then none
    else some (.text (Char.ofNat value :: seen))

/-- The token or mode that a character starts between tokens. -/
def startToken? (tokens : List Token) (c : Char) : Option LexState :=
  if c = ' ' || c = '\n' || c = '\t' || c = '\r' then some ⟨.between, tokens⟩
  else if c = '[' then some ⟨.between, .openList :: tokens⟩
  else if c = ']' then some ⟨.between, .closeList :: tokens⟩
  else if c = '\x7b' then some ⟨.between, .openObject :: tokens⟩
  else if c = '\x7d' then some ⟨.between, .closeObject :: tokens⟩
  else if c = ',' then some ⟨.between, .comma :: tokens⟩
  else if c = ':' then some ⟨.between, .colon :: tokens⟩
  else if c = '"' then some ⟨.text [], tokens⟩
  else if c.isAlphanum || c = '-' then some ⟨.scalar [c], tokens⟩
  else none

/-- The lexer's step over one character. -/
def lexStep? (state : LexState) (c : Char) : Option LexState :=
  match state.mode with
  | .between => startToken? state.tokens c
  | .scalar seen =>
    if c.isAlphanum || c = '-' || c = '+' || c = '.' then some ⟨.scalar (c :: seen), state.tokens⟩
    else (readScalar? seen.reverse).bind fun v => startToken? (.scalar v :: state.tokens) c
  | .text seen =>
    if c = '"' then some ⟨.between, .text (String.ofList seen.reverse) :: state.tokens⟩
    else if c = '\\' then some ⟨.escape seen, state.tokens⟩
    else if c.toNat < 32 then none
    else some ⟨.text (c :: seen), state.tokens⟩
  | .escape seen =>
    if c = 'u' then some ⟨.numeric seen none 0 0, state.tokens⟩
    else (shortEscape? c).map fun e => ⟨.text (e :: seen), state.tokens⟩
  | .numeric seen high digits value =>
    (hexValue? c).bind fun d =>
      if digits = 3 then (closeEscape? seen high (value * 16 + d)).map (⟨·, state.tokens⟩)
      else some ⟨.numeric seen high (digits + 1) (value * 16 + d), state.tokens⟩
  | .pair seen high => if c = '\\' then some ⟨.pairEscape seen high, state.tokens⟩ else none
  | .pairEscape seen high =>
    if c = 'u' then some ⟨.numeric seen (some high) 0 0, state.tokens⟩ else none

def lex? (s : String) : Option (List Token) :=
  (s.toList.foldlM lexStep? ⟨.between, []⟩).bind fun state =>
    match state.mode with
    | .between => some state.tokens.reverse
    | .scalar seen =>
      (readScalar? seen.reverse).map fun v => (Token.scalar v :: state.tokens).reverse
    | _ => none

/-! ## The assembler -/

/-- A list or object that is still open, with its finished parts in reverse. -/
inductive Frame
  | list (items : List Json)
  /-- An object that has read the name of a field but not yet its value. -/
  | object (fields : List (String × Json)) (key : String)

/-- What the assembler expects next. -/
inductive Expect
  /-- A value. -/
  | value
  /-- A value, or the end of the list just opened. -/
  | firstItem
  /-- A field name, or the end of the object just opened. -/
  | firstField (fields : List (String × Json))
  /-- A field name. -/
  | fieldName (fields : List (String × Json))
  /-- The colon after a field name. -/
  | colon
  /-- What follows a finished value. -/
  | after (value : Json)

/-- The assembler's state: its open lists and objects, innermost first, and what it expects. -/
structure Assembly where
  frames : List Frame
  expect : Expect

/-- Documents nested this deep are refused. -/
def maxDepth : Nat := 128

/-- The fields of an object in the order of their names; of two of one name the later counts. -/
def insertField (fields : List (String × Json)) (key : String) (value : Json) :
    List (String × Json) :=
  fields.filter (·.1 != key) ++ [(key, value)]

/-- The object of fields given in reverse. -/
def closeFields (fields : List (String × Json)) : Json :=
  .obj (fields.reverse.foldl (fun acc f => insertField acc f.1 f.2) [])

/-- Opens a list or an object, unless the nesting is at its limit. -/
def openFrame? (a : Assembly) (expect : Expect) (frame : Option Frame) : Option Assembly :=
  if a.frames.length + 2 ≤ maxDepth then some ⟨frame.toList ++ a.frames, expect⟩ else none

/-- The assembler's step where a value may start. -/
def startValue? (a : Assembly) : Token → Option Assembly
  | .scalar v => some ⟨a.frames, .after v⟩
  | .text s => some ⟨a.frames, .after (.str s)⟩
  | .openList => openFrame? a .firstItem (some (.list []))
  | .openObject => openFrame? a (.firstField []) (some (.object [] ""))
  | _ => none

/-- The assembler's step over one token. -/
def assembleStep? (a : Assembly) (t : Token) : Option Assembly :=
  match a.expect with
  | .value => startValue? a t
  | .firstItem =>
    match t, a.frames with
    | .closeList, .list _ :: rest => some ⟨rest, .after (.arr [])⟩
    | _, _ => startValue? a t
  | .firstField fields =>
    match t, a.frames with
    | .closeObject, .object _ _ :: rest => some ⟨rest, .after (.obj [])⟩
    | .text key, .object _ _ :: rest => some ⟨.object fields key :: rest, .colon⟩
    | _, _ => none
  | .fieldName fields =>
    match t, a.frames with
    | .text key, .object _ _ :: rest => some ⟨.object fields key :: rest, .colon⟩
    | _, _ => none
  | .colon =>
    match t with
    | .colon => some ⟨a.frames, .value⟩
    | _ => none
  | .after value =>
    match a.frames, t with
    | .list items :: rest, .comma => some ⟨.list (value :: items) :: rest, .value⟩
    | .list items :: rest, .closeList => some ⟨rest, .after (.arr (value :: items).reverse)⟩
    | .object fields key :: rest, .comma =>
      some ⟨.object fields key :: rest, .fieldName ((key, value) :: fields)⟩
    | .object fields key :: rest, .closeObject =>
      some ⟨rest, .after (closeFields ((key, value) :: fields))⟩
    | _, _ => none

/-- The document that a list of tokens writes. -/
def assemble? (tokens : List Token) : Option Json :=
  (tokens.foldlM assembleStep? ⟨[], .value⟩).bind fun a =>
    match a.frames, a.expect with
    | [], .after value => some value
    | _, _ => none

/-- The document that a text writes. -/
def parse? (s : String) : Option Json := (lex? s).bind assemble?

end ClusterOperator.Json
