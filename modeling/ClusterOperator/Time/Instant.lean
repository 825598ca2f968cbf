import ClusterOperator.Time.Calendar

/-!
# Instants

A point in time to the nanosecond. The record keeps its times as text, one text per instant: UTC,
marked `Z`, with a fraction only when it is not zero and without trailing zeros. Whole seconds
truncate toward 1970, on both sides of it, and everything the operator waits for is measured in
them.
-/

set_option autoImplicit false

namespace ClusterOperator.Time

def nanosPerSecond : Int := 1000000000

def minNanos : Int := -377705023201 * nanosPerSecond

def maxNanos : Int := 253402207200 * nanosPerSecond + 999999999

end Time

open Time

/-- A point in time. -/
structure Instant where
  /-- The nanoseconds since the start of 1970, UTC. -/
  nanos : Int
  lower : minNanos ≤ nanos
  upper : nanos ≤ maxNanos
  deriving DecidableEq

namespace Instant

/-- The instant a number of nanoseconds after the start of 1970, if there is one. -/
def ofNanos? (nanos : Int) : Option Instant :=
  if h : minNanos ≤ nanos ∧ nanos ≤ maxNanos then some ⟨nanos, h.1, h.2⟩ else none

/-- The start of 1970. -/
def epoch : Instant := ⟨0, by decide, by decide⟩

instance : Inhabited Instant := ⟨epoch⟩

/-- The whole seconds since the start of 1970, truncated toward it. -/
def second (t : Instant) : Int := t.nanos.tdiv nanosPerSecond

/-- The whole seconds from one instant to another, zero if the other is earlier. -/
def elapsed (since now : Instant) : Nat := (now.second - since.second).toNat

/-- The instant a number of seconds later, held inside the range of instants. -/
def addSeconds (t : Instant) (seconds : Int) : Instant :=
  (ofNanos? (t.nanos + seconds * nanosPerSecond)).getD t

def before (a b : Instant) : Bool := a.nanos < b.nanos

/-! ## Text -/

/-- A number in at least so many digits. -/
def padded (width n : Nat) : String :=
  let digits := Nat.toDigits 10 n
  String.ofList (List.replicate (width - digits.length) '0' ++ digits)

/-- A year: four digits, or a sign and six before the year zero. -/
def yearText (year : Int) : String :=
  if year < 0 then "-" ++ padded 6 year.natAbs else padded 4 year.natAbs

/-- A fraction of a second, from its nanoseconds. -/
def fractionText (nanos : Nat) : String :=
  if nanos = 0 then ""
  else "." ++ String.ofList ((padded 9 nanos).toList.reverse.dropWhile (· == '0')).reverse

def toText (t : Instant) : String :=
  let seconds := t.nanos / nanosPerSecond
  let date := Date.ofDays (seconds / 86400)
  let ofDay := (seconds % 86400).toNat
  yearText date.year ++ "-" ++ padded 2 date.month.toNat ++ "-" ++ padded 2 date.day.toNat ++ "T" ++
    padded 2 (ofDay / 3600) ++ ":" ++ padded 2 (ofDay / 60 % 60) ++ ":" ++ padded 2 (ofDay % 60) ++
    fractionText (t.nanos % nanosPerSecond).toNat ++ "Z"

instance : ToString Instant := ⟨toText⟩

end Instant

end ClusterOperator
