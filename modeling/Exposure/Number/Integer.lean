/-
# Number.Integer — reading whole numbers of sixty-four bits

A number is an optional sign and digits of a base.  In base zero the text
chooses the base: `0x`, `0o` and `0b` announce sixteen, eight and two, a bare
leading zero announces eight, and underscores may stand between digits or after
the announcement.  A value that does not fit is told from a text that is no
number, and it is told first: reading stops at the digit that makes it too
large.
-/
import Exposure.Text.Cut

namespace Exposure.Number

set_option autoImplicit false

open Text

/-- Why a text gives no number. -/
inductive Fault where
  | malformed
  | outOfRange
  deriving DecidableEq, Repr

namespace Fault

def message : Fault → String
  | .malformed => "invalid syntax"
  | .outOfRange => "value out of range"

end Fault

/-- The largest unsigned number. -/
def unsignedMax : Nat := Nat.pow 2 64 - 1

/-- The signed numbers are those from minus this number on, and below it. -/
def signedEnd : Nat := Nat.pow 2 63

/-- The value of digits read onto `acc`, up to the first that makes it too large;
underscores are passed over where they are allowed. -/
def readDigits (base : Nat) (underscores : Bool) : Nat → List Char → Except Fault Nat
  | acc, [] => .ok acc
  | acc, c :: r =>
    if underscores && c == '_' then readDigits base underscores acc r
    else
      let d := digitValue c
      if base ≤ d then .error .malformed
      else if unsignedMax < acc * base + d then .error .outOfRange
      else readDigits base underscores (acc * base + d) r

/-- What the last character of a number was, for the rule on underscores. -/
inductive Seen where
  | nothing
  | digit
  | underscore
  | other
  deriving DecidableEq

/-- Whether every underscore stands between digits. -/
def underscoresFit (hex : Bool) : Seen → List Char → Bool
  | seen, [] => seen != .underscore
  | seen, c :: r =>
    if isDigit c || (hex && digitValue c < 16) then underscoresFit hex .digit r
    else if c == '_' then seen == .digit && underscoresFit hex .underscore r
    else seen != .underscore && underscoresFit hex .other r

/-- Whether the underscores of a number with an optional sign and an optional
announcement of its base stand between digits. -/
def underscoresOk (s : List Char) : Bool :=
  let s := match s with
    | '-' :: r => r
    | '+' :: r => r
    | s => s
  match s with
  | '0' :: b :: r =>
    if b == 'x' || b == 'X' then underscoresFit true .digit r
    else if b == 'b' || b == 'B' || b == 'o' || b == 'O' then underscoresFit false .digit r
    else underscoresFit false .nothing s
  | _ => underscoresFit false .nothing s

/-- The base that a text announces, and the digits after the announcement. -/
def announced (s : List Char) : Nat × List Char :=
  match s with
  | '0' :: b :: d :: r =>
    if b == 'b' || b == 'B' then (2, d :: r)
    else if b == 'o' || b == 'O' then (8, d :: r)
    else if b == 'x' || b == 'X' then (16, d :: r)
    else (8, b :: d :: r)
  | '0' :: r => (8, r)
  | s => (10, s)

/-- An unsigned number in `base`, or in the base that it announces when that is
zero. -/
def readUnsigned (base : Nat) (s : List Char) : Except Fault Nat :=
  if s.isEmpty then .error .malformed
  else if base = 0 then
    let (base, digits) := announced s
    match readDigits base true 0 digits with
    | .error f => .error f
    | .ok n => if s.contains '_' && !underscoresOk s then .error .malformed else .ok n
  else readDigits base false 0 s

/-- A signed number in `base`, or in the base that it announces. -/
def readSigned (base : Nat) (s : List Char) : Except Fault Int :=
  let (negative, digits) := match s with
    | '-' :: r => (true, r)
    | '+' :: r => (false, r)
    | s => (false, s)
  match readUnsigned base digits with
  | .error f => .error f
  | .ok n =>
    if negative then
      if n ≤ signedEnd then .ok (-(n : Int)) else .error .outOfRange
    else if n < signedEnd then .ok n
    else .error .outOfRange

/-- The number that sixty-four bits keep of `n`. -/
def wrap (n : Int) : Int := Int.bmod n (Nat.pow 2 64)

end Exposure.Number
