/-
# Command.Stamp — the time and the name of a run

A time is the date and the clock in the world's time, to the second.  The name
of a run is a hundred and twenty-eight bits in hexadecimal digits with four
hyphens, of which six bits say that the others are random.
-/
import Exposure.Text.Cut
import Exposure.Text.Quoted

namespace Exposure.Stamp

set_option autoImplicit false

/-- The year, the month and the day that come some days after the start of 1970.  The years
are counted from March, in eras of four hundred years. -/
def dateOf (days : Int) : Int × Int × Int :=
  let shifted := days + 719468
  let era := shifted.fdiv 146097
  let dayOfEra := shifted - era * 146097
  let yearOfEra := (dayOfEra - dayOfEra / 1460 + dayOfEra / 36524 - dayOfEra / 146096) / 365
  let dayOfYear := dayOfEra - (365 * yearOfEra + yearOfEra / 4 - yearOfEra / 100)
  let monthFromMarch := (5 * dayOfYear + 2) / 153
  let day := dayOfYear - (153 * monthFromMarch + 2) / 5 + 1
  let month := if monthFromMarch < 10 then monthFromMarch + 3 else monthFromMarch - 9
  (yearOfEra + era * 400 + (if month ≤ 2 then 1 else 0), month, day)

/-- A number with leading zeros. -/
def padded (width : Nat) (n : Int) : String :=
  let digits := (Text.intText n).toList
  String.ofList (List.replicate (width - digits.length) '0' ++ digits)

/-- The time some seconds after the start of 1970. -/
def timeText (seconds : Int) : String :=
  let (year, month, day) := dateOf (seconds.fdiv 86400)
  let clock := seconds.fmod 86400
  padded 4 year ++ "-" ++ padded 2 month ++ "-" ++ padded 2 day ++ "T" ++ padded 2 (clock / 3600)
    ++ ":" ++ padded 2 (clock / 60 % 60) ++ ":" ++ padded 2 (clock % 60) ++ "Z"

/-- Sixteen random bytes with the bits that say so. -/
def marked (bytes : List Nat) : List Nat :=
  (bytes.modify 6 fun b => 64 + b % 16).modify 8 fun b => 128 + b % 64

/-- The name of a run from sixteen random bytes. -/
def runName (bytes : List Nat) : String :=
  let digits := (marked bytes).flatMap (Text.hexPadded 2)
  let part (start size : Nat) : String := String.ofList ((digits.drop start).take size)
  Text.joined "-" [part 0 8, part 8 4, part 12 4, part 16 4, part 20 12]

end Exposure.Stamp
