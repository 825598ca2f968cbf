/-!
# Text in bytes

A secret is a list of bytes that is meant to be a text. Reading it walks the bytes character by
character; where they stop being a text, the fault says how many bytes came before it and how long
the part is that can be no character, or that the bytes ended inside one.
-/

set_option autoImplicit false

namespace ClusterOperator.Text.Utf8

/-- Where bytes stop being a text. -/
structure Fault where
  /-- The number of bytes before the fault. -/
  index : Nat
  /-- The length of the part that is no character; absent when the bytes end inside one. -/
  length : Option Nat
  deriving DecidableEq, Repr

def Fault.message (f : Fault) : String :=
  match f.length with
  | some n => "invalid utf-8 sequence of " ++ toString n ++ " bytes from index " ++ toString f.index
  | none => "incomplete utf-8 byte sequence from index " ++ toString f.index

/-- Whether a byte continues a character. -/
def isTail (b : UInt8) : Bool := 0x80 ≤ b && b ≤ 0xBF

/-- Whether a byte may follow the first byte of a character. -/
def isSecond (first second : UInt8) : Bool :=
  if first = 0xE0 then 0xA0 ≤ second && second ≤ 0xBF
  else if first = 0xED then 0x80 ≤ second && second ≤ 0x9F
  else if first = 0xF0 then 0x90 ≤ second && second ≤ 0xBF
  else if first = 0xF4 then 0x80 ≤ second && second ≤ 0x8F
  else isTail second

/-- The number of bytes of a character, from its first. -/
def width (first : UInt8) : Nat :=
  if first < 0x80 then 1
  else if 0xC2 ≤ first && first ≤ 0xDF then 2
  else if 0xE0 ≤ first && first ≤ 0xEF then 3
  else if 0xF0 ≤ first && first ≤ 0xF4 then 4
  else 0

def low (b : UInt8) : Nat := b.toNat % 64

/-- The characters that bytes write, given the number of bytes before them. -/
def decodeFrom (index : Nat) : List UInt8 → Except Fault (List Char)
  | [] => .ok []
  | a :: rest =>
    if width a = 1 then
      (decodeFrom (index + 1) rest).map (Char.ofNat a.toNat :: ·)
    else if width a = 0 then .error ⟨index, some 1⟩
    else
      match rest with
      | [] => .error ⟨index, none⟩
      | b :: rest =>
        if !isSecond a b then .error ⟨index, some 1⟩
        else if width a = 2 then
          (decodeFrom (index + 2) rest).map (Char.ofNat ((a.toNat % 32) * 64 + low b) :: ·)
        else
          match rest with
          | [] => .error ⟨index, none⟩
          | c :: rest =>
            if !isTail c then .error ⟨index, some 2⟩
            else if width a = 3 then
              (decodeFrom (index + 3) rest).map
                (Char.ofNat ((a.toNat % 16) * 4096 + low b * 64 + low c) :: ·)
            else
              match rest with
              | [] => .error ⟨index, none⟩
              | d :: rest =>
                if !isTail d then .error ⟨index, some 3⟩
                else
                  (decodeFrom (index + 4) rest).map
                    (Char.ofNat ((a.toNat % 8) * 262144 + low b * 4096 + low c * 64 + low d) :: ·)

def decode (bytes : List UInt8) : Except Fault String :=
  (decodeFrom 0 bytes).map String.ofList

end ClusterOperator.Text.Utf8
