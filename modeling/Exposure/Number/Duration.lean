/-
# Number.Duration — spans of time in nanoseconds

A span is written as a sign and one or more numbers, each with its unit, as in
`1h30m` or `-1.5s`; a lone zero needs none.  The whole span must fit in
sixty-four bits.  The part after a point counts in double precision, so that
`1.0000000001h` is what the nearest doubles give, not the exact product.
-/
import Exposure.Number.Binary64
import Exposure.Text.Quoted

namespace Exposure.Number

set_option autoImplicit false

open Text

/-- Why a text is no span of time. -/
inductive DurationFault where
  | malformed (text : String)
  | noUnit (text : String)
  | unknownUnit (unit text : String)
  deriving DecidableEq, Repr

namespace DurationFault

def message : DurationFault → String
  | .malformed s => "time: invalid duration " ++ quoted s
  | .noUnit s => "time: missing unit in duration " ++ quoted s
  | .unknownUnit u s => "time: unknown unit " ++ quoted u ++ " in duration " ++ quoted s

end DurationFault

namespace Duration

/-- The nanoseconds in a unit. -/
def unitLength (unit : String) : Option Nat :=
  if unit == "ns" then some 1
  else if unit == "us" || unit == "µs" || unit == "μs" then some 1000
  else if unit == "ms" then some 1000000
  else if unit == "s" then some 1000000000
  else if unit == "m" then some 60000000000
  else if unit == "h" then some 3600000000000
  else none

/-- The largest sum of spans before the sign is put to it. -/
def largest : Nat := Nat.pow 2 63

/-- The digits of a fraction, while they fit: their value and their scale. -/
def fraction : Nat → Nat → List Char → Nat × Nat
  | f, scale, [] => (f, scale)
  | f, scale, c :: r =>
    if (largest - 1) / 10 < f ∨ largest < f * 10 + digitValue c then (f, scale)
    else fraction (f * 10 + digitValue c) (scale * 10) r

/-- The nanoseconds in `f / scale` of a unit, in double precision. -/
def fractionLength (f scale unit : Nat) : Nat :=
  (Binary64.timesNonneg (.ofRatio false f 1) (.ofRatio false unit scale)).truncated.toNat

/-- The sum of the numbers with their units in `s`, onto `total`. -/
def sum (whole : String) : Nat → Nat → List Char → Except DurationFault Nat
  | _, total, [] => .ok total
  | 0, total, _ => .ok total
  | fuel + 1, total, c :: r =>
    let s := c :: r
    let digits := s.takeWhile isDigit
    let rest := s.dropWhile isDigit
    let after := match rest with
      | '.' :: r => some (r.takeWhile isDigit)
      | _ => none
    let rest := match rest with
      | '.' :: r => r.dropWhile isDigit
      | rest => rest
    let value := digitsValue 10 (digits.map digitValue)
    let (f, scale) := fraction 0 1 (after.getD [])
    let inUnit (c : Char) : Bool := !(c == '.' || isDigit c)
    let unit := rest.takeWhile inUnit
    if digits.isEmpty && (after.getD []).isEmpty || largest < value then
      .error (.malformed whole)
    else if unit.isEmpty then .error (.noUnit whole)
    else match unitLength (String.ofList unit) with
      | none => .error (.unknownUnit (String.ofList unit) whole)
      | some length =>
        if largest / length < value then .error (.malformed whole)
        else
          let span := (value * length) + if 0 < f then fractionLength f scale length else 0
          if largest < span ∨ largest < total + span then .error (.malformed whole)
          else sum whole fuel (total + span) (rest.dropWhile inUnit)

/-- The nanoseconds that a text writes. -/
def read (text : String) : Except DurationFault Int :=
  let s := text.toList
  let (negative, body) := match s with
    | '-' :: r => (true, r)
    | '+' :: r => (false, r)
    | s => (false, s)
  if body == ['0'] then .ok 0
  else if body.isEmpty then .error (.malformed text)
  else match sum text body.length 0 body with
    | .error e => .error e
    | .ok total =>
      if negative then .ok (-(total : Int))
      else if largest ≤ total then .error (.malformed text)
      else .ok total

end Duration

end Exposure.Number
