/-!
# JSON documents

Everything the operator persists, applies or receives is a JSON document. Whole numbers are kept
apart from numbers written with a fraction or an exponent, because a counter written `3.0` is not a
counter: only `3` is.
-/

set_option autoImplicit false

namespace ClusterOperator

/-- A JSON document. -/
inductive Json
  /-- The absent value. -/
  | null
  /-- A truth value. -/
  | bool (b : Bool)
  /-- A number written without fraction and exponent. -/
  | int (n : Int)
  /-- A number written with a fraction or an exponent: `mantissa * 10 ^ exponent`. -/
  | dec (mantissa exponent : Int)
  /-- A text. -/
  | str (s : String)
  /-- A list. -/
  | arr (items : List Json)
  /-- An object, as its fields. -/
  | obj (fields : List (String × Json))
  deriving Inhabited, BEq, Repr

namespace Json

instance : Coe String Json := ⟨str⟩
instance : Coe Bool Json := ⟨bool⟩
instance : Coe Int Json := ⟨int⟩

def nat (n : Nat) : Json := .int n

/-- An optional value as a document, `null` when it is absent. -/
def ofOption {α : Type} (write : α → Json) : Option α → Json
  | some a => write a
  | none => .null

def ofList {α : Type} (write : α → Json) (items : List α) : Json := .arr (items.map write)

def texts (items : List String) : Json := ofList .str items

/-- An object from the fields that are present. -/
def ofFields (fields : List (String × Option Json)) : Json :=
  .obj (fields.filterMap fun f => f.2.map (f.1, ·))

def field? (key : String) : Json → Option Json
  | .obj fields => fields.lookup key
  | _ => none

def isNull : Json → Bool
  | .null => true
  | _ => false

end Json

end ClusterOperator
