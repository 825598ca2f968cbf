import ClusterOperator.Text.Numeral

/-!
# Versions

The version of a server is the part of its image tag before the first hyphen: up to three numbers,
the missing ones zero, and after them an optional build label. Versions are compared to refuse a
downgrade; a tag that names no version is never one.

Numbers are below 2^64 and have no leading zeros. A build label is a list of parts separated by
dots. It takes part in the order after the numbers: no label comes before any label, and labels
compare part by part, numbers before words, numbers by value and then by their zeros in front.
-/

set_option autoImplicit false

namespace ClusterOperator

structure Version where
  major : Nat
  minor : Nat
  patch : Nat
  /-- The parts of the build label; empty if there is none. -/
  build : List String := []
  deriving DecidableEq, Repr

namespace Version

/-- The largest number that a version may hold. -/
def largestNumber : Nat := 18446744073709551615

/-- A number without leading zeros. -/
def number? (cs : List Char) : Option Nat :=
  if cs.isEmpty || !cs.all Char.isDigit || (cs.length > 1 && cs.head? == some '0') then none
  else
    match Text.natUpTo largestNumber cs with
    | .ok n => some n
    | .error _ => none

/-- The parts of a list of characters between dots. -/
def dotParts : List Char → List (List Char)
  | [] => [[]]
  | c :: rest =>
    match dotParts rest with
    | [] => [[c]]
    | part :: parts => if c = '.' then [] :: part :: parts else (c :: part) :: parts

/-- Whether a part of a build label may be there: letters, digits and hyphens. -/
def isBuildPart (cs : List Char) : Bool :=
  !cs.isEmpty && cs.all fun c => c.isAlphanum || c == '-'

/-- The version that three numbers and an optional build label write. -/
def parse? (cs : List Char) : Option Version := do
  let core := cs.takeWhile (· != '+')
  let label := cs.dropWhile (· != '+')
  let build ← match label with
    | [] => some []
    | _ :: rest =>
      if (dotParts rest).all isBuildPart then some ((dotParts rest).map String.ofList) else none
  match dotParts core with
  | [a, b, c] => some { major := ← number? a, minor := ← number? b, patch := ← number? c, build }
  | _ => none

/-- The version that an image tag names. -/
def ofTag? (tag : String) : Option Version :=
  let part := tag.toList.takeWhile (· != '-')
  match part.count '.' with
  | 0 => parse? (part ++ ['.', '0', '.', '0'])
  | 1 => parse? (part ++ ['.', '0'])
  | _ => parse? part

def toText (v : Version) : String :=
  toString v.major ++ "." ++ toString v.minor ++ "." ++ toString v.patch ++
    (if v.build.isEmpty then "" else "+" ++ ".".intercalate v.build)

/-! ## Order -/

def comparePart (a b : String) : Ordering :=
  let isNumber (s : String) := s.toList.all Char.isDigit
  let value (s : String) := s.toList.dropWhile (· == '0')
  match isNumber a, isNumber b with
  | false, false => compare a b
  | true, false => .lt
  | false, true => .gt
  | true, true =>
    (compare (value a).length (value b).length).then
      ((compare (String.ofList (value a)) (String.ofList (value b))).then
        (compare a.length b.length))

def compareBuild : List String → List String → Ordering
  | [], [] => .eq
  | [], _ => .lt
  | _, [] => .gt
  | a :: as, b :: bs => (comparePart a b).then (compareBuild as bs)

def compare (a b : Version) : Ordering :=
  (Ord.compare a.major b.major).then
    ((Ord.compare a.minor b.minor).then
      ((Ord.compare a.patch b.patch).then (compareBuild a.build b.build)))

end Version

/-- Whether moving from one tag to another lowers the version. -/
def isDowngrade (old new : String) : Bool :=
  match Version.ofTag? old, Version.ofTag? new with
  | some o, some n => n.compare o == .lt
  | _, _ => false

end ClusterOperator
