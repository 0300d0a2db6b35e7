/-
# Log.Line — records as lines

A record is a line of fields, the time, the level and the message first: either
`key=value`, with quotes where a value needs them, or an object.  Spans of time
are written with their units in the one and as nanoseconds in the other.
-/
import Exposure.JsonText
import Exposure.Log
import Exposure.Text.Blank

namespace Exposure.Log

set_option autoImplicit false

/-- Whether a text stands in quotes: it is empty, or has a blank, an equals sign, a quote or
something that is not printable. -/
def needsQuotes (s : String) : Bool :=
  s == "" || s.toList.any fun c => c == '=' || c == '"' || Text.isBlank c || !Text.isPrintable c

def shown (s : String) : String := if needsQuotes s then Text.quoted s else s

/-- `n` in units of ten to the power of `places`, without trailing zeros. -/
def decimal (n places : Nat) : String :=
  let digits := Nat.toDigits 10 (n % Nat.pow 10 places)
  let padded := List.replicate (places - digits.length) '0' ++ digits
  let fraction := (padded.reverse.dropWhile (· == '0')).reverse
  Nat.repr (n / Nat.pow 10 places) ++
    (if fraction.isEmpty then "" else "." ++ String.ofList fraction)

/-- A span of time with its units. -/
def spanText (nanoseconds : Int) : String :=
  let n := nanoseconds.natAbs
  let seconds := n / 1000000000
  let text :=
    if n == 0 then "0s"
    else if n < 1000 then decimal n 0 ++ "ns"
    else if n < 1000000 then decimal n 3 ++ "µs"
    else if n < 1000000000 then decimal n 6 ++ "ms"
    else
      (if seconds < 3600 then "" else Nat.repr (seconds / 3600) ++ "h")
        ++ (if seconds < 60 then "" else Nat.repr (seconds / 60 % 60) ++ "m")
        ++ decimal (n % 60000000000) 9 ++ "s"
  if nanoseconds < 0 then "-" ++ text else text

namespace Value

def plain : Value → String
  | .text s => s
  | .number n => Text.intText n
  | .flag b => if b then "true" else "false"
  | .texts ss => "[" ++ Text.joined " " ss ++ "]"
  | .duration n => spanText n

def tree : Value → JsonText.Tree
  | .text s => .text s
  | .number n => .number n
  | .flag b => .flag b
  | .texts ss => .list (ss.map .text)
  | .duration n => .number n

end Value

namespace Record

/-- A record as fields. -/
def line (time : String) (r : Record) : String :=
  let fields := [("time", time), ("level", r.level.text), ("msg", r.message)]
    ++ r.fields.map fun (k, v) => (k, v.plain)
  Text.joined " " (fields.map fun (k, v) => shown k ++ "=" ++ shown v)

/-- A record as an object. -/
def jsonLine (time : String) (r : Record) : String :=
  JsonText.line ([("time", .text time), ("level", .text r.level.text), ("msg", .text r.message)]
    ++ r.fields.map fun (k, v) => (k, v.tree))

end Record

end Exposure.Log
