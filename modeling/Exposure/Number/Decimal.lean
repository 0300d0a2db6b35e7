/-
# Number.Decimal — reading numbers of double precision

A number is an optional sign and either a word for infinity or for no number,
in any case, or digits with a point and an exponent of ten; after `0x` the
digits are hexadecimal and an exponent of two must follow.  Underscores may
stand between digits.  A finite text beyond the largest number is out of range.
-/
import Exposure.Number.Binary64
import Exposure.Number.Integer

namespace Exposure.Number

set_option autoImplicit false

open Text

/-- A Latin letter in lower case. -/
def lowered (c : Char) : Char := if isUpper c then Char.ofNat (c.toNat + 32) else c

/-- The digits of a mantissa read so far. -/
structure Mantissa where
  value : Nat := 0
  /-- How many digits there were. -/
  digits : Nat := 0
  /-- How many of them stood after the point. -/
  places : Nat := 0
  point : Bool := false
  deriving Repr

/-- The mantissa at the front of a text, and what follows it. -/
def readMantissa (base : Nat) : Mantissa → List Char → Mantissa × List Char
  | m, [] => (m, [])
  | m, c :: r =>
    if c == '_' then readMantissa base m r
    else if c == '.' then
      if m.point then (m, c :: r) else readMantissa base { m with point := true } r
    else
      let d := digitValue c
      if d < base then
        readMantissa base
          { m with value := m.value * base + d, digits := m.digits + 1,
                   places := if m.point then m.places + 1 else m.places } r
      else (m, c :: r)

/-- The exponent at the end of a text: a sign, then digits and underscores that begin with
a digit.  `none` when there is no such exponent. -/
def readExponent (s : List Char) : Option Int :=
  let (negative, s) := match s with
    | '-' :: r => (true, r)
    | '+' :: r => (false, r)
    | s => (false, s)
  match s with
  | [] => none
  | c :: _ =>
    if isDigit c && s.all (fun c => isDigit c || c == '_') then
      -- an exponent of more than five digits decides the answer as well as its value would
      let e := s.foldl (fun e c => if c == '_' ∨ 10000 ≤ e then e else e * 10 + digitValue c) 0
      some (if negative then -(e : Int) else e)
    else none

/-- The number that an unsigned text writes in digits. -/
def readUnsignedReal (negative : Bool) (s : List Char) : Option Binary64 :=
  let (base, rest) := match s with
    | '0' :: x :: c :: r => if lowered x == 'x' then (16, c :: r) else (10, s)
    | s => (10, s)
  let (m, rest) := readMantissa base {} rest
  if m.digits = 0 then none
  else
    let exponentAt (letter : Char) : Option (Option Int) :=
      match rest with
      | [] => some none
      | c :: r => if lowered c == letter then (readExponent r).map some else none
    if base = 16 then
      match exponentAt 'p' with
      | some (some e) =>
        let e := e - 4 * m.places
        if e > 20000 then some (if m.value = 0 then .finite negative 0 0 else .infinity negative)
        else if e < -20000 then some (.finite negative 0 0)
        else if 0 ≤ e then some (.ofRatio negative (m.value * Nat.pow 2 e.toNat) 1)
        else some (.ofRatio negative m.value (Nat.pow 2 (-e).toNat))
      | _ => none
    else
      match exponentAt 'e' with
      | some e => some (.ofDecimal negative m.value (e.getD 0 - m.places))
      | none => none

/-- The number that a text writes. -/
def readReal (s : List Char) : Except Fault Binary64 :=
  let (negative, body) := match s with
    | '-' :: r => (true, r)
    | '+' :: r => (false, r)
    | s => (false, s)
  let word := String.ofList (body.map lowered)
  if word == "inf" || word == "infinity" then .ok (.infinity negative)
  else if word == "nan" && body.length = s.length then .ok .nan
  else
    match readUnsignedReal negative body with
    | none => .error .malformed
    | some x =>
      if s.contains '_' && !underscoresOk s then .error .malformed
      else match x with
        | .infinity _ => .error .outOfRange
        | x => .ok x

end Exposure.Number
