/-!
# Base 64

Secrets arrive, and credentials are sent, as groups of four characters for three bytes. Reading is
strict: the padding is required, stands only at the end, and the bits it covers are zero.
-/

set_option autoImplicit false

namespace ClusterOperator.Text.Base64

/-- The character of a value below sixty-four. -/
def encodeDigit (n : Nat) : Char :=
  if n < 26 then Char.ofNat (65 + n)
  else if n < 52 then Char.ofNat (71 + n)
  else if n < 62 then Char.ofNat (n - 4)
  else if n = 62 then '+' else '/'

/-- The value of a character. -/
def decodeDigit? (c : Char) : Option Nat :=
  if c.isUpper then some (c.toNat - 65)
  else if c.isLower then some (c.toNat - 71)
  else if c.isDigit then some (c.toNat + 4)
  else if c = '+' then some 62
  else if c = '/' then some 63
  else none

def encodeBytes : List UInt8 → List Char
  | [] => []
  | [a] =>
    let n := a.toNat * 16
    [encodeDigit (n / 64), encodeDigit (n % 64), '=', '=']
  | [a, b] =>
    let n := (a.toNat * 256 + b.toNat) * 4
    [encodeDigit (n / 4096), encodeDigit (n / 64 % 64), encodeDigit (n % 64), '=']
  | a :: b :: c :: rest =>
    let n := a.toNat * 65536 + b.toNat * 256 + c.toNat
    encodeDigit (n / 262144) :: encodeDigit (n / 4096 % 64) :: encodeDigit (n / 64 % 64) ::
      encodeDigit (n % 64) :: encodeBytes rest

/-- The bytes that a list of characters writes. -/
def decodeBytes? : List Char → Option (List UInt8)
  | [] => some []
  | [a, b, '=', '='] => do
    let n := (← decodeDigit? a) * 64 + (← decodeDigit? b)
    if n % 16 = 0 then some [UInt8.ofNat (n / 16)] else none
  | [a, b, c, '='] => do
    let n := (← decodeDigit? a) * 4096 + (← decodeDigit? b) * 64 + (← decodeDigit? c)
    if n % 4 = 0 then some [UInt8.ofNat (n / 1024), UInt8.ofNat (n / 4 % 256)] else none
  | a :: b :: c :: d :: rest => do
    let n := (← decodeDigit? a) * 262144 + (← decodeDigit? b) * 4096 + (← decodeDigit? c) * 64 +
      (← decodeDigit? d)
    let bytes ← decodeBytes? rest
    some (UInt8.ofNat (n / 65536) :: UInt8.ofNat (n / 256 % 256) :: UInt8.ofNat (n % 256) :: bytes)
  | _ => none

def encode (s : String) : String := String.ofList (encodeBytes s.toUTF8.toList)

def decode? (s : String) : Option (List UInt8) := decodeBytes? s.toList

end ClusterOperator.Text.Base64
