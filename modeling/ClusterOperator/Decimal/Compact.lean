/-!
# A compact decimal of a double

A double is written with few digits that read back as the same double. A finite double other than
zero is `m * 2 ^ q`, and every number between the midpoints to its neighbours rounds to it. That
interval and the double are divided by a power of ten and held in whole units of `2 ^ -s` with 64
bits of precision, the interval drawn in by a unit at each end so that rounding cannot lead out of
it. The digits are those of the coarsest decimal place with a multiple in the interval. Of several
multiples the one nearest to the double is taken, as long as the place is not far behind the point
of the divided number; further behind, the largest.
-/

set_option autoImplicit false

namespace ClusterOperator.Decimal

/-- A positive number: `mantissa * 2 ^ exponent`. -/
structure Binary where
  mantissa : Nat
  exponent : Int

/-- The weight of the leading bit of a double's mantissa. -/
def leadingBit : Nat := Nat.pow 2 52

/-- The magnitude of a finite double. -/
def Binary.ofBits (bits : UInt64) : Binary :=
  let fraction : Nat := bits.toNat % leadingBit
  let biased : Nat := bits.toNat / leadingBit % 2048
  if biased = 0 then ⟨fraction, -1074⟩ else ⟨leadingBit + fraction, (biased : Int) - 1075⟩

/-- A quotient rounded to the nearest whole number, a half upward. -/
def roundDiv (num den : Nat) : Nat := (2 * num + den) / (2 * den)

/-- A power of ten with a mantissa of 64 bits. -/
def tenPower (n : Int) : Binary :=
  let num := Nat.pow 10 n.toNat
  let den := Nat.pow 10 (-n).toNat
  let guess := (Nat.log2 num : Int) - Nat.log2 den
  let reached := den * Nat.pow 2 guess.toNat ≤ num * Nat.pow 2 (-guess).toNat
  let lead := if reached then guess else guess - 1
  let exponent := lead - 63
  ⟨roundDiv (num * Nat.pow 2 (-exponent).toNat) (den * Nat.pow 2 exponent.toNat), exponent⟩

/-- The power of ten that numbers near `2 ^ t` are divided by: the largest below, of every eighth
power. The fraction is close enough to the logarithm of two for every double. -/
def divisorPower (t : Int) : Int :=
  let below := t * 30103 / 100000
  below - (below - 4) % 8

/-- A double with the ends of its interval, divided by a power of ten. -/
structure Span where
  /-- The lower end, in units of `1 / one`. -/
  lower : Nat
  /-- The double, in units of `1 / one`. -/
  value : Nat
  /-- The upper end, in units of `1 / one`. -/
  upper : Nat
  one : Nat
  /-- What everything is divided by: this power of ten. -/
  ten : Int

/-- The interval of a positive double. Below a power of two the neighbour is nearer. -/
def Span.of (b : Binary) : Span :=
  let lead := (Nat.log2 (2 * b.mantissa + 1) : Int) + b.exponent - 1
  let exponent := lead - 63
  let value := b.mantissa * Nat.pow 2 (b.exponent - exponent).toNat
  let above := Nat.pow 2 (b.exponent - exponent - 1).toNat
  let below := if b.mantissa = leadingBit then above / 2 else above
  let ten := divisorPower (lead - 2)
  let factor := tenPower (-ten)
  let divide (n : Nat) : Nat := roundDiv (n * factor.mantissa) (Nat.pow 2 64)
  { lower := divide (value - below) + 1
    value := divide value
    upper := divide (value + above) - 1
    one := Nat.pow 2 (-(exponent + factor.exponent + 64)).toNat
    ten }

/-- The multiple of a decimal place that is taken from an interval, if one is in it. -/
def Span.at? (s : Span) (place : Int) : Option Nat :=
  let fine := Nat.pow 10 (-place).toNat
  let unit := Nat.pow 10 place.toNat * s.one
  let room := (s.upper - s.lower) * fine
  let rest := s.upper * fine % unit
  if rest < room || (0 ≤ place && rest = room) then
    let back :=
      if -9 < place then (2 * ((s.upper - s.value) * fine - rest) + unit - 1) / (2 * unit) else 0
    some (s.upper * fine / unit - min back ((room - rest) / unit))
  else none

/-- A positive decimal: `digits * 10 ^ exponent`. -/
structure Compact where
  digits : Nat
  exponent : Int
  deriving DecidableEq, Repr

def digitCount (n : Nat) : Nat := (Nat.toDigits 10 n).length

/-- The compact decimal of a positive double: the first hit, from the first digit on. Thirty places
are more than an interval ever needs. -/
def compact (b : Binary) : Compact :=
  let s := Span.of b
  let top : Int := digitCount (s.upper / s.one) - 1
  let hit := (List.range 30).findSome? fun i : Nat =>
    (s.at? (top - i)).map (Compact.mk · (top - i + s.ten))
  hit.getD ⟨0, 0⟩

/-- Digits with a point: positional between a hundred thousandth and 10^21, else with an exponent.
There is always a digit after the point of a positional number. -/
def Compact.toText (d : Compact) : String :=
  let digits := Nat.toDigits 10 d.digits
  let point := (digits.length : Int) + d.exponent
  let zeros (n : Int) := List.replicate n.toNat '0'
  let chars :=
    if 0 ≤ d.exponent && point ≤ 21 then digits ++ zeros d.exponent ++ ['.', '0']
    else if 0 < point && point ≤ 21 then
      digits.take point.toNat ++ '.' :: digits.drop point.toNat
    else if -5 ≤ point && point ≤ 0 then '0' :: '.' :: zeros (-point) ++ digits
    else
      let fraction := if digits.length = 1 then [] else '.' :: digits.drop 1
      digits.take 1 ++ fraction ++ 'e' :: (toString (point - 1)).toList
  String.ofList chars

/-- A double as text. -/
def text (x : Float) : String :=
  let bits := x.toBits
  let b := Binary.ofBits bits
  let sign := if bits ≥ 0x8000000000000000 then "-" else ""
  if bits.toNat / leadingBit % 2048 = 2047 then
    if bits.toNat % leadingBit = 0 then sign ++ "inf" else "NaN"
  else if b.mantissa = 0 then sign ++ "0.0"
  else sign ++ (compact b).toText

end ClusterOperator.Decimal
