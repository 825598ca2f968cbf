import ClusterOperator.Json.Basic
import ClusterOperator.SortedMap

/-!
# Reading typed values from documents

A record is read field by field. It is usually written as an object, whose fields come in any order
and may include unknown ones, but it may also be written as the list of its values in declaration
order. A field with a default may be missing; that is not the same as `null`, which is only a value
of a field that may be absent.

Whole numbers are read into their range or not at all. An enumeration is written as the name of its
value, or as an object with that name as its only field and `null` in it.
-/

set_option autoImplicit false

namespace ClusterOperator.Json

/-! ## Scalars -/

def asString? : Json → Option String
  | .str s => some s
  | _ => none

def asBool? : Json → Option Bool
  | .bool b => some b
  | _ => none

/-- A whole number in a range. -/
def asIntIn? (smallest largest : Int) : Json → Option Int
  | .int n => if smallest ≤ n ∧ n ≤ largest then some n else none
  | _ => none

def asInt32? (j : Json) : Option Int32 := (j.asIntIn? (-2147483648) 2147483647).map Int32.ofInt

def asInt64? (j : Json) : Option Int64 :=
  (j.asIntIn? (-9223372036854775808) 9223372036854775807).map Int64.ofInt

def asUInt64? (j : Json) : Option UInt64 :=
  (j.asIntIn? 0 18446744073709551615).map fun n => UInt64.ofNat n.toNat

def asUInt32? (j : Json) : Option UInt32 :=
  (j.asIntIn? 0 4294967295).map fun n => UInt32.ofNat n.toNat

def asUInt16? (j : Json) : Option UInt16 :=
  (j.asIntIn? 0 65535).map fun n => UInt16.ofNat n.toNat

/-- A natural number below 2^64. -/
def asNat64? (j : Json) : Option Nat := (j.asIntIn? 0 18446744073709551615).map Int.toNat

/-- A natural number below 2^32. -/
def asNat32? (j : Json) : Option Nat := (j.asIntIn? 0 4294967295).map Int.toNat

/-- A value of an enumeration, by its name. -/
def asChoice? {α : Type} (all : List α) (name : α → String) : Json → Option α
  | .str s => all.find? (name · == s)
  | .obj [(s, .null)] => all.find? (name · == s)
  | _ => none

/-! ## Containers -/

/-- A value that may be absent. -/
def asNullable? {α : Type} (read : Json → Option α) : Json → Option (Option α)
  | .null => some none
  | j => (read j).map some

def asList? {α : Type} (read : Json → Option α) : Json → Option (List α)
  | .arr items => items.mapM read
  | _ => none

def asTexts? : Json → Option (List String) := asList? asString?

def asMap? {α : Type} (read : Json → Option α) : Json → Option (SortedMap α)
  | .obj fields => (fields.mapM fun f => (read f.2).map (f.1, ·)).map SortedMap.ofList
  | _ => none

def ofMap {α : Type} (write : α → Json) (m : SortedMap α) : Json :=
  .obj (m.entries.map fun e => (e.1, write e.2))

/-! ## Records -/

/-- What is left to read of a record. -/
inductive Record
  /-- The fields of an object. -/
  | named (fields : List (String × Json))
  /-- The values not yet read of a list. -/
  | listed (items : List Json)

/-- A reader of a part of a record. -/
abbrev Reader (α : Type) := StateT Record Option α

/-- A field that must be there. -/
def required {α : Type} (key : String) (read : Json → Option α) : Reader α
  | .named fields => ((fields.lookup key).bind read).map (·, .named fields)
  | .listed [] => none
  | .listed (item :: rest) => (read item).map (·, .listed rest)

/-- A field that has a default. -/
def defaulted {α : Type} (key : String) (fallback : α) (read : Json → Option α) : Reader α
  | .named fields =>
    match fields.lookup key with
    | some item => (read item).map (·, .named fields)
    | none => some (fallback, .named fields)
  | .listed [] => some (fallback, .listed [])
  | .listed (item :: rest) => (read item).map (·, .listed rest)

/-- A field that may be missing or `null`. -/
def optional {α : Type} (key : String) (read : Json → Option α) : Reader (Option α) :=
  defaulted key none (asNullable? read)

/-- A field that may be missing from an object or `null`, but has its place in a list. -/
def nullable {α : Type} (key : String) (read : Json → Option α) : Reader (Option α)
  | .listed [] => none
  | r => optional key read r

/-- Reads a record that is written as an object or as a list. -/
def asRecord? {α : Type} (read : Reader α) : Json → Option α
  | .obj fields => (read (.named fields)).map (·.1)
  | .arr items =>
    match read (.listed items) with
    | some (a, .listed []) => some a
    | _ => none
  | _ => none

/-- Reads a record that is written as an object. -/
def asObject? {α : Type} (read : Reader α) : Json → Option α
  | .obj fields => (read (.named fields)).map (·.1)
  | _ => none

end ClusterOperator.Json
