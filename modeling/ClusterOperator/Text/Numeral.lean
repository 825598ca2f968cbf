/-!
# Whole numbers in decimal

Settings, ordinals and version parts are all decimal numerals with a largest value. Which of the
three faults a numeral has is told apart, because a rejected setting names it.
-/

set_option autoImplicit false

namespace ClusterOperator.Text

/-- Why a text is not a numeral of its range. -/
inductive NumeralFault
  /-- There is no text. -/
  | empty
  /-- A character is neither a digit nor a sign that the range allows. -/
  | invalidDigit
  /-- The number is above the range. -/
  | tooLarge
  /-- The number is below the range. -/
  | tooSmall
  deriving DecidableEq, Repr

def NumeralFault.message : NumeralFault → String
  | .empty => "cannot parse integer from empty string"
  | .invalidDigit => "invalid digit found in string"
  | .tooLarge => "number too large to fit in target type"
  | .tooSmall => "number too small to fit in target type"

def digit? (c : Char) : Option Nat := if c.isDigit then some (c.toNat - 48) else none

/-- Reads digits after a number already read, up to a largest value. A character that is no digit
is reported only if the digits before it stay in range. -/
def digitsUpTo (largest : Nat) : Nat → List Char → Except NumeralFault Nat
  | seen, [] => .ok seen
  | seen, c :: rest =>
    match digit? c with
    | none => .error .invalidDigit
    | some d =>
      if seen * 10 + d ≤ largest then digitsUpTo largest (seen * 10 + d) rest
      else .error .tooLarge

/-- The number that a list of characters writes: an optional plus sign and at least one digit. -/
def natUpTo (largest : Nat) : List Char → Except NumeralFault Nat
  | [] => .error .empty
  | ['+'] => .error .invalidDigit
  | ['-'] => .error .invalidDigit
  | '+' :: rest => digitsUpTo largest 0 rest
  | cs => digitsUpTo largest 0 cs

/-- The number that a list of characters writes: an optional sign and at least one digit, between
`-(largest + 1)` and `largest`. -/
def intUpTo (largest : Nat) : List Char → Except NumeralFault Int
  | [] => .error .empty
  | ['+'] => .error .invalidDigit
  | ['-'] => .error .invalidDigit
  | '-' :: rest =>
    match digitsUpTo (largest + 1) 0 rest with
    | .ok n => .ok (-(n : Int))
    | .error .tooLarge => .error .tooSmall
    | .error e => .error e
  | '+' :: rest => (digitsUpTo largest 0 rest).map Int.ofNat
  | cs => (digitsUpTo largest 0 cs).map Int.ofNat

end ClusterOperator.Text
