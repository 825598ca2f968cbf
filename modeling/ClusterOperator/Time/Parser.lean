import ClusterOperator.Time.Instant

/-!
# Reading instants

The accepted text is wider than the one written: a date, a separator, a time of day that may stop
at the hour or the minute, an offset from UTC, and bracketed annotations, which say nothing about
the instant. The offset is required, because without it the text names no instant. Date, time and
offset may each be written with or without their separators, the same throughout each part.

Every reader takes a list of characters and answers what it read with the rest.
-/

set_option autoImplicit false

namespace ClusterOperator.Time

def readDigit? : List Char → Option (Nat × List Char)
  | c :: rest => if c.isDigit then some (c.toNat - 48, rest) else none
  | [] => none

/-- A number of exactly so many digits. -/
def readDigits? : Nat → Nat → List Char → Option (Nat × List Char)
  | 0, seen, cs => some (seen, cs)
  | n + 1, seen, cs => (readDigit? cs).bind fun (d, rest) => readDigits? n (seen * 10 + d) rest

/-- A two-digit number up to a largest value. -/
def readPair? (largest : Nat) (cs : List Char) : Option (Nat × List Char) :=
  (readDigits? 2 0 cs).bind fun (n, rest) => if n ≤ largest then some (n, rest) else none

/-- Whether another pair of digits follows, and what is left after its separator. -/
def anotherPair (separated : Bool) (cs : List Char) : Option (List Char) :=
  match separated, cs with
  | true, ':' :: rest => some rest
  | false, a :: b :: rest => if a.isDigit && b.isDigit then some (a :: b :: rest) else none
  | _, _ => none

/-- A year: four digits, or a sign and six. -/
def readYear? : List Char → Option (Int × List Char)
  | '+' :: rest => (readDigits? 6 0 rest).map fun (n, rest) => ((n : Int), rest)
  | '-' :: rest =>
    (readDigits? 6 0 rest).bind fun (n, rest) => if n = 0 then none else some (-(n : Int), rest)
  | cs => (readDigits? 4 0 cs).map fun (n, rest) => ((n : Int), rest)

/-- A date, with both separators or with none. -/
def readDate? (cs : List Char) : Option (Date × List Char) := do
  let (year, rest) ← readYear? cs
  let separated := rest.head? == some '-'
  let rest := if separated then rest.drop 1 else rest
  let (month, rest) ← readPair? 12 rest
  let rest ← if separated then (if rest.head? == some '-' then some (rest.drop 1) else none)
    else some rest
  let (day, rest) ← readPair? 31 rest
  let date : Date := ⟨year, month, day⟩
  if date.isValid && -9999 ≤ year && year ≤ 9999 then some (date, rest) else none

/-- The nanoseconds of a fraction of one to nine digits, if a fraction follows. -/
def readFraction? : List Char → Option (Nat × List Char)
  | c :: rest =>
    if c = '.' || c = ',' then
      let digits := (rest.take 9).takeWhile Char.isDigit
      if digits.isEmpty then none
      else
        let value := digits.foldl (fun n d => n * 10 + (d.toNat - 48)) 0
        some (value * Nat.pow 10 (9 - digits.length), rest.drop digits.length)
    else some (0, c :: rest)
  | [] => some (0, [])

/-- A time of day in nanoseconds. A leap second reads as the second before it. -/
def readTime? (cs : List Char) : Option (Nat × List Char) := do
  let (hour, rest) ← readPair? 23 cs
  let separated := rest.head? == some ':'
  match anotherPair separated rest with
  | none => some (hour * 3600 * 1000000000, rest)
  | some rest =>
    let (minute, rest) ← readPair? 59 rest
    match anotherPair separated rest with
    | none => some ((hour * 60 + minute) * 60 * 1000000000, rest)
    | some rest =>
      let (second, rest) ← readPair? 60 rest
      let (fraction, rest) ← readFraction? rest
      some (((hour * 60 + minute) * 60 + min second 59) * 1000000000 + fraction, rest)

/-- The magnitude of an offset in seconds; a fraction of a second is rounded. -/
def readOffsetMagnitude? (cs : List Char) : Option (Int × List Char) := do
  let (hours, rest) ← readPair? 25 cs
  let separated := rest.head? == some ':'
  match anotherPair separated rest with
  | none => some ((hours * 3600 : Nat), rest)
  | some rest =>
    let (minutes, rest) ← readPair? 59 rest
    match anotherPair separated rest with
    | none => some (((hours * 60 + minutes) * 60 : Nat), rest)
    | some rest =>
      let (seconds, rest) ← readPair? 59 rest
      let (fraction, rest) ← readFraction? rest
      let rounded := if fraction ≥ 500000000 then 1 else 0
      some (((hours * 60 + minutes) * 60 + seconds + rounded : Nat), rest)

/-- An offset from UTC in seconds. -/
def readOffset? : List Char → Option (Int × List Char)
  | 'Z' :: rest => some (0, rest)
  | 'z' :: rest => some (0, rest)
  | '+' :: rest => readOffsetMagnitude? rest
  | '-' :: rest => (readOffsetMagnitude? rest).map fun (n, rest) => (-n, rest)
  | _ => none

/-! ## Annotations -/

/-- Splits a list of characters at the first closing bracket. -/
def untilBracket : List Char → Option (List Char × List Char)
  | [] => none
  | ']' :: rest => some ([], rest)
  | c :: rest => (untilBracket rest).map fun (inside, rest) => (c :: inside, rest)

/-- Whether a part of a time zone's name starts and goes on with characters that it may have. -/
def isZonePart (cs : List Char) : Bool :=
  let leading (c : Char) := c.isAlpha || c == '.' || c == '_'
  match cs with
  | c :: rest => leading c && rest.all fun c => leading c || c.isDigit || c == '-' || c == '+'
  | [] => false

/-- The parts of a list of characters between separators. -/
def splitOn (separator : Char) : List Char → List (List Char)
  | [] => [[]]
  | c :: rest =>
    match splitOn separator rest with
    | [] => [[c]]
    | part :: parts => if c = separator then [] :: part :: parts else (c :: part) :: parts

/-- Whether the inside of a bracket names a time zone: a name of parts, or an offset. -/
def isZone (inside : List Char) : Bool :=
  match inside with
  | '!' :: rest => zone rest
  | rest => zone rest
where
  /-- A name of parts, or an offset of hours and minutes. -/
  zone : List Char → Bool
    | '+' :: rest => offset rest
    | '-' :: rest => offset rest
    | cs => (splitOn '/' cs).all isZonePart
  /-- Hours, or hours and minutes. -/
  offset (cs : List Char) : Bool :=
    cs.length ≤ 5 && match readOffsetMagnitude? cs with
      | some (_, []) => true
      | _ => false

/-- Whether the inside of a bracket is a key with values. None is understood, so one that insists
on being understood is refused. -/
def isProperty (inside : List Char) : Bool :=
  let key := inside.takeWhile (· != '=')
  let values := (inside.dropWhile (· != '=')).drop 1
  let leading (c : Char) := c.isLower || c == '_'
  inside.contains '=' &&
    (match key with
      | c :: rest => leading c && rest.all fun c => leading c || c.isDigit || c == '-'
      | [] => false) &&
    (splitOn '-' values).all fun part => !part.isEmpty && part.all Char.isAlphanum

/-- Whether the rest of a text is bracketed annotations: a time zone first, if any, then
properties. -/
def areAnnotations (zoneAllowed : Bool) : Nat → List Char → Bool
  | _, [] => true
  | 0, _ => false
  | n + 1, '[' :: rest =>
    match untilBracket rest with
    | none => false
    | some (inside, rest) =>
      if isProperty inside then areAnnotations false n rest
      else zoneAllowed && isZone inside && areAnnotations false n rest
  | _ + 1, _ => false

end Time

open Time

def Instant.parse? (s : String) : Option Instant := do
  let (date, rest) ← readDate? s.toList
  let rest ← match rest with
    | c :: rest => if c = 'T' || c = 't' || c = ' ' then some rest else none
    | [] => none
  let (ofDay, rest) ← readTime? rest
  let (offset, rest) ← readOffset? rest
  if areAnnotations true rest.length rest then
    Instant.ofNanos? ((date.toDays * 86400 - offset) * nanosPerSecond + ofDay)
  else none

end ClusterOperator
