/-!
# Form encoding

The value of a parameter stands in the query of a request as text: letters, digits and four marks
stand for themselves, a space becomes a plus, and every other byte becomes a percent sign with two
hexadecimal digits.
-/

set_option autoImplicit false

namespace ClusterOperator.Text

/-- Whether a character stands for itself. -/
def isFormLiteral (c : Char) : Bool :=
  c.isAlphanum || c = '*' || c = '-' || c = '.' || c = '_'

def upperHexDigit (n : Nat) : Char := if n < 10 then Char.ofNat (48 + n) else Char.ofNat (55 + n)

/-- A byte as a percent sign and two digits. -/
def percentByte (b : UInt8) : List Char :=
  ['%', upperHexDigit (b.toNat / 16), upperHexDigit (b.toNat % 16)]

/-- A character as it stands in a query. -/
def formChar (c : Char) : List Char :=
  if isFormLiteral c then [c]
  else if c = ' ' then ['+']
  else (String.singleton c).toUTF8.toList.flatMap percentByte

def formEncoded (s : String) : String := String.ofList (s.toList.flatMap formChar)

end ClusterOperator.Text
