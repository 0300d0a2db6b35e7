/-
# Text.Base64 — bytes written in sixty-four digits

Four digits write three bytes.  The last group may end in one or two signs of
padding instead of digits, and then writes two bytes or one; line breaks do not
count.
-/
import Exposure.Text.Cut

namespace Exposure.Text

set_option autoImplicit false

/-- The value of a digit of base 64. -/
def base64Value? (c : Char) : Option Nat :=
  let n := c.toNat
  if isUpper c then some (n - 65)
  else if isLower c then some (n - 97 + 26)
  else if isDigit c then some (n - 48 + 52)
  else if c == '+' then some 62
  else if c == '/' then some 63
  else none

/-- The bytes of the groups of four digits. -/
def base64Groups : List Char → Option (List Nat)
  | [] => some []
  | [a, b, '=', '='] => do
    let n := (← base64Value? a) * 64 + (← base64Value? b)
    return [n / 16]
  | [a, b, c, '='] => do
    let n := ((← base64Value? a) * 64 + (← base64Value? b)) * 64 + (← base64Value? c)
    return [n / 1024, n / 4 % 256]
  | a :: b :: c :: d :: rest => do
    let n := (((← base64Value? a) * 64 + (← base64Value? b)) * 64 + (← base64Value? c)) * 64
      + (← base64Value? d)
    return [n / 65536, n / 256 % 256, n % 256] ++ (← base64Groups rest)
  | _ => none

/-- The bytes that a text writes; none when it is malformed. -/
def base64Bytes? (s : String) : Option (List UInt8) :=
  (base64Groups (s.toList.filter fun c => c != '\n' && c != '\r')).map (·.map Nat.toUInt8)

end Exposure.Text
