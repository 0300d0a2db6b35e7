/-
# Yaml.Value — what a plain scalar means

A plain scalar is a null, a truth value, a number or a point in time when it is
written as one, and a text otherwise.  Whole numbers may be written in base two,
eight and sixteen and with underscores.  The tag of such a kind asks for a value
of that kind: a scalar that is of another kind is refused.  Under any other tag
every scalar is a text, and the tag of binary data says in which digits.
-/
import Exposure.Number.Decimal
import Exposure.Text.Base64
import Exposure.Text.Octets
import Exposure.Yaml.Fault

namespace Exposure.Yaml

set_option autoImplicit false

open Number Text

/-- The meaning of a scalar. -/
inductive Value where
  | null
  | flag (b : Bool)
  | whole (n : Int)
  | real (x : Binary64)
  | moment
  | text (s : String)
  deriving DecidableEq, Repr

namespace Value

/-- The short tag of a value's kind. -/
def tag : Value → String
  | .null => "!!null"
  | .flag _ => "!!bool"
  | .whole _ => "!!int"
  | .real _ => "!!float"
  | .moment => "!!timestamp"
  | .text _ => "!!str"

/-- The order of values of one kind. -/
def le : Value → Value → Bool
  | .text a, .text b => decide (a ≤ b)
  | .whole m, .whole n => decide (m ≤ n)
  | .flag a, .flag b => !a || b
  | _, _ => true

/-! ## Points in time -/

/-- A number of one or two digits. -/
def shortField : List Char → Option (Nat × List Char)
  | a :: b :: r =>
    if isDigit a then
      if isDigit b then some (digitValue a * 10 + digitValue b, r) else some (digitValue a, b :: r)
    else none
  | [a] => if isDigit a then some (digitValue a, []) else none
  | [] => none

/-- A field of one or two digits within bounds, and the rest. -/
def fieldWithin (low high : Nat) (s : List Char) : Option (Nat × List Char) :=
  match shortField s with
  | some (n, r) => if low ≤ n && n ≤ high then some (n, r) else none
  | none => none

/-- The days of a month. -/
def daysOf (year month : Nat) : Nat :=
  if month == 2 then
    if year % 4 == 0 && (year % 100 != 0 || year % 400 == 0) then 29 else 28
  else if month == 4 || month == 6 || month == 9 || month == 11 then 30 else 31

/-- Past a fraction of a second, if one stands here. -/
def skipFraction : List Char → List Char
  | p :: d :: r => if (p == '.' || p == ',') && isDigit d then r.dropWhile isDigit else p :: d :: r
  | s => s

/-- Whether a text is an offset from universal time. -/
def isZone : List Char → Bool
  | ['Z'] => true
  | [s, a, b, ':', c, d] =>
    (s == '+' || s == '-') && isDigit a && isDigit b && isDigit c && isDigit d &&
      digitValue a * 10 + digitValue b ≤ 24 && digitValue c * 10 + digitValue d ≤ 60
  | _ => false

/-- Whether a text is a time of day, up to its fraction; `zone` judges the rest. -/
def isClock (zone : List Char → Bool) (s : List Char) : Bool :=
  match fieldWithin 0 23 s with
  | some (_, ':' :: r) =>
    match fieldWithin 0 59 r with
    | some (_, ':' :: r) =>
      match fieldWithin 0 59 r with
      | some (_, r) => zone (skipFraction r)
      | none => false
    | _ => false
  | _ => false

/-- Whether a text is a date, with or without a time of day. -/
def isMoment (s : List Char) : Bool :=
  match s with
  | a :: b :: c :: d :: '-' :: r =>
    if isDigit a && isDigit b && isDigit c && isDigit d then
      let year := digitsValue 10 ([a, b, c, d].map digitValue)
      match fieldWithin 1 12 r with
      | some (month, '-' :: r) =>
        match shortField r with
        | some (day, r) =>
          1 ≤ day && day ≤ daysOf year month &&
            match r with
            | [] => true
            | 'T' :: r => isClock isZone r
            | 't' :: r => isClock isZone r
            | ' ' :: r => isClock List.isEmpty (r.dropWhile (· == ' '))
            | _ => false
        | none => false
      | _ => false
    else false
  | _ => false

/-! ## Numbers -/

/-- Whether a text is a sign, digits with an optional point, and an optional exponent. -/
def isReal (s : List Char) : Bool :=
  let s := match s with
    | '-' :: r => r
    | '+' :: r => r
    | s => s
  let exponent : List Char → Bool
    | [] => true
    | e :: r =>
      let r := match r with
        | '-' :: r => r
        | '+' :: r => r
        | r => r
      (e == 'e' || e == 'E') && !r.isEmpty && r.all isDigit
  let whole := s.takeWhile isDigit
  match s.dropWhile isDigit with
  | '.' :: r =>
    (!whole.isEmpty || !(r.takeWhile isDigit).isEmpty) && exponent (r.dropWhile isDigit)
  | r => !whole.isEmpty && exponent r

/-- The digits after an announcement of base two or eight, with the sign in front of it. -/
def afterBase (announcement : String) (s : List Char) : Option (List Char) :=
  let a := announcement.toList
  if a.isPrefixOf s then some (s.drop a.length)
  else if ('-' :: a).isPrefixOf s then some ('-' :: s.drop (a.length + 1))
  else none

/-- The number that a text without underscores writes. -/
def number? (s : List Char) : Option Value :=
  match readSigned 0 s with
  | .ok n => some (.whole n)
  | .error _ =>
    match readUnsigned 0 s with
    | .ok n => some (.whole n)
    | .error _ =>
      let real := if isReal s then (readReal s).toOption else none
      match real with
      | some x => some (.real x)
      | none =>
        match (afterBase "0b" s).map (readSigned 2), (afterBase "0o" s).map (readSigned 8) with
        | some (.ok n), _ => some (.whole n)
        | _, some (.ok n) => some (.whole n)
        | _, _ => none

/-! ## Resolution -/

/-- The words with a meaning of their own. -/
def word? (s : String) : Option Value :=
  if ["", "~", "null", "Null", "NULL"].contains s then some .null
  else if ["true", "True", "TRUE"].contains s then some (.flag true)
  else if ["false", "False", "FALSE"].contains s then some (.flag false)
  else if [".nan", ".NaN", ".NAN"].contains s then some (.real .nan)
  else if [".inf", ".Inf", ".INF", "+.inf", "+.Inf", "+.INF"].contains s then
    some (.real (.infinity false))
  else if ["-.inf", "-.Inf", "-.INF"].contains s then some (.real (.infinity true))
  else none

/-- The value that a plain scalar writes; `moments` lets it be a point in time. -/
def ofPlain (moments : Bool) (s : String) : Value :=
  match word? s with
  | some v => v
  | none =>
    match s.toList with
    | [] => .null
    | c :: r =>
      if c == '.' then
        match readReal (c :: r) with
        | .ok x => .real x
        | .error _ => .text s
      else if isDigit c || c == '+' || c == '-' then
        if moments && isMoment (c :: r) then .moment
        else (number? ((c :: r).filter (· != '_'))).getD (.text s)
      else .text s

/-- The value of a scalar under a short tag. -/
def ofTagged (tag s : String) : Except Fault Value :=
  if tag == "!!binary" then
    match base64Bytes? s with
    | some bytes => .ok (.text (ofOctets bytes))
    | none => .error { cause := .invalidBase64 }
  else if ["!!null", "!!bool", "!!int", "!!float", "!!timestamp"].contains tag then
    let v := ofPlain (tag == "!!timestamp") s
    let refused : Except Fault Value := .error { cause := .otherKind v.tag s tag }
    if v.tag == tag then .ok v
    else match tag, v with
      | "!!float", .whole n => if n < signedEnd then .ok (.real (.ofInt n)) else refused
      | _, _ => refused
  else .ok (.text s)

end Value

end Exposure.Yaml
