import ClusterOperator.Json.Basic
import ClusterOperator.Text.Hex

/-!
# Writing JSON

One line, no blanks. A text is written between quotes with the quote, the reverse solidus and the
control characters escaped; every other character stands for itself.
-/

set_option autoImplicit false

namespace ClusterOperator.Json

open Text (hexDigit)

/-- A character as it stands between quotes. -/
def escapeChar (c : Char) : List Char :=
  if c = '"' then ['\\', '"']
  else if c = '\\' then ['\\', '\\']
  else if c = '\n' then ['\\', 'n']
  else if c = '\r' then ['\\', 'r']
  else if c = '\t' then ['\\', 't']
  else if c = '\x08' then ['\\', 'b']
  else if c = '\x0c' then ['\\', 'f']
  else if c.toNat < 32 then ['\\', 'u', '0', '0', hexDigit (c.toNat / 16), hexDigit (c.toNat % 16)]
  else [c]

def quote (s : String) : String :=
  "\"" ++ String.ofList (s.toList.flatMap escapeChar) ++ "\""

mutual

/-- A document on one line. -/
def compress : Json → String
  | .null => "null"
  | .bool true => "true"
  | .bool false => "false"
  | .int n => toString n
  | .dec m e => toString m ++ "e" ++ toString e
  | .str s => quote s
  | .arr items => "[" ++ compressItems items ++ "]"
  | .obj fields => "\x7b" ++ compressFields fields ++ "\x7d"

def compressItems : List Json → String
  | [] => ""
  | [item] => compress item
  | item :: rest => compress item ++ "," ++ compressItems rest

def compressFields : List (String × Json) → String
  | [] => ""
  | [(key, value)] => quote key ++ ":" ++ compress value
  | (key, value) :: rest => quote key ++ ":" ++ compress value ++ "," ++ compressFields rest

end

end ClusterOperator.Json
