/-!
# Hexadecimal digits
-/

set_option autoImplicit false

namespace ClusterOperator.Text

/-- The hexadecimal digit of a number below sixteen. -/
def hexDigit (n : Nat) : Char := "0123456789abcdef".toList.getD n '0'

/-- The digits of a number in base sixteen, lower case. -/
def hex (n : Nat) : String := String.ofList (Nat.toDigits 16 n)

end ClusterOperator.Text
