import ClusterOperator.Text.Hex
import ClusterOperator.Text.Printable

/-!
# Texts quoted in messages

A message that names a text someone else wrote shows it between quotes, with the quote and the
reverse solidus escaped, the common control characters by their letters, and every character that
cannot be seen, or would merge with its neighbour, by its code point in braces.
-/

set_option autoImplicit false

namespace ClusterOperator.Text

/-- A character as it stands inside a quoted text. -/
def quoteChar (c : Char) : String :=
  if c = '"' then "\\\""
  else if c = '\\' then "\\\\"
  else if c = '\n' then "\\n"
  else if c = '\r' then "\\r"
  else if c = '\t' then "\\t"
  else if c = '\x00' then "\\0"
  else if isExtending c || !isVisible c then "\\u\x7b" ++ hex c.toNat ++ "\x7d"
  else c.toString

def quoted (s : String) : String := "\"" ++ String.join (s.toList.map quoteChar) ++ "\""

end ClusterOperator.Text
