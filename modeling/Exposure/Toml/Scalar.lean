/-
# Toml.Scalar — texts, numbers and dates

A text stands in double quotes with escapes or in single quotes without, and in
three of either over several lines, where the first line break does not count
and a backslash at the end of a line takes the white space after it away.  A
number has no leading zeros and no sign before a base, and underscores only
between digits.
-/
import Exposure.Number.Decimal
import Exposure.Text.Category
import Exposure.Toml.Basic
import Exposure.Toml.Fault

namespace Exposure.Toml

set_option autoImplicit false

open Number Text

/-! ## Texts -/

/-- Whether a character may not stand in a document. -/
def isControl (c : Char) : Bool :=
  let n := c.toNat
  (n < 32 && c != '\t' && c != '\n' && c != '\r') || n == 127

/-- Part of a text: a character that stands for itself, an escape, or the number of one. -/
inductive Piece where
  | char (c : Char)
  /-- A backslash before a blank, which stands for nothing. -/
  | blank (c : Char)
  | code (digits : List Char)

/-- The character of a piece. -/
def Piece.char? : Piece → Except Fault.Cause Char
  | .char c => .ok c
  | .blank c => .error (.blankEscape c)
  | .code digits =>
    let n := digitsValue 16 (digits.map digitValue)
    if (0xD800 ≤ n && n ≤ 0xDFFF) || 0x10FFFF < n then
      .error (.invalidCodePoint (String.ofList digits))
    else .ok (Char.ofNat n)

/-- What was read of `start` when `rest` is left. -/
def readOf (start rest : List Char) : String :=
  String.ofList (start.take (start.length - rest.length))

/-- The digits of a number after a backslash in a text that starts at `start`. -/
def codeDigits (start : List Char) (long : Bool) : Nat → List Char → Lexed (List Char)
  | 0, r => .ok ([], r)
  | _, [] => slipAtEnd (.shortCode long (readOf start []))
  | n + 1, c :: r =>
    if digitValue c < 16 then
      match codeDigits start long n r with
      | .ok (ds, r) => .ok (c :: ds, r)
      | .error e => .error e
    else slip (.shortCode long (readOf start r)) r

/-- An escape, after its backslash. -/
def escape (start : List Char) : List Char → Lexed Piece
  | 'b' :: r => .ok (.char '\x08', r)
  | 't' :: r => .ok (.char '\t', r)
  | 'n' :: r => .ok (.char '\n', r)
  | 'f' :: r => .ok (.char '\x0c', r)
  | 'r' :: r => .ok (.char '\r', r)
  | '"' :: r => .ok (.char '"', r)
  | '\\' :: r => .ok (.char '\\', r)
  | ' ' :: r => .ok (.blank ' ', r)
  | '\t' :: r => .ok (.blank '\t', r)
  | 'u' :: r => (codeDigits start false 4 r).map fun (ds, r) => (.code ds, r)
  | 'U' :: r => (codeDigits start true 8 r).map fun (ds, r) => (.code ds, r)
  | c :: r => slip (.unknownEscape (some c)) r
  | [] => .error { cause := .unknownEscape none, rest := [], earlier := true, sawEnd := true }

/-- White space, line breaks among it. -/
def isSpace (c : Char) : Bool := c == ' ' || c == '\t' || c == '\r' || c == '\n'

/-- The text of its pieces, the latest first, before `rest`. -/
def textOf (pieces : List Piece) (rest : List Char) : Lexed String :=
  match pieces.reverse.mapM Piece.char? with
  | .ok cs => .ok (String.ofList cs, rest)
  | .error cause => slip cause rest

/-- A text in double quotes, after the opening one. -/
def basicText (start : List Char) : Nat → List Piece → List Char → Lexed String
  | 0, _, _ => slipAtEnd (.unclosedText "\"")
  | _, _, [] => slipAtEnd (.unclosedText "\"")
  | fuel + 1, acc, c :: r =>
    if c == '"' then textOf acc r
    else if c == '\n' || c == '\r' then slipBack .breakInText (if c == '\r' then r.tail else r)
    else if c == '\\' then
      match escape start r with
      | .ok (p, r) => basicText start fuel (p :: acc) r
      | .error e => .error e
    else basicText start fuel (.char c :: acc) r

/-- A text in single quotes, after the opening one. -/
def literalText : String → List Char → Lexed String
  | _, [] => slipAtEnd (.unclosedText "'")
  | acc, c :: r =>
    if c == '\'' then .ok (acc, r)
    else if c == '\n' || c == '\r' then slipBack .breakInText (if c == '\r' then r.tail else r)
    else literalText (acc.push c) r

/-- How many quotes stand at the front. -/
def quoteRun (quote : Char) (s : List Char) : Nat := (s.takeWhile (· == quote)).length

/-- The quotes that belong to a text over several lines which ends in a run of `n` quotes: all
but the last three, and at most `most`. -/
def closingQuotes (quote : Char) (most n : Nat) (rest : List Char) : Lexed Nat :=
  if n ≤ most + 3 then .ok (n - 3, rest) else slip (.tooManyQuotes quote) rest

/-- How many quotes may stand at the end of a text over several lines: two, and three behind an
escaped backslash. -/
def quotesAfter : List Piece → Nat
  | .char '\\' :: _ => 3
  | _ => 2

/-- A text over several lines in double quotes. -/
def basicLines (start : List Char) : Nat → List Piece → List Char → Lexed String
  | 0, _, _ => slipAtEnd (.unclosedText "\"\"\"")
  | _, _, [] => slipAtEnd (.unclosedText "\"\"\"")
  | fuel + 1, acc, c :: r =>
    if c == '"' then
      let n := quoteRun '"' (c :: r)
      if n < 3 then basicLines start fuel (.char c :: acc) r
      else match closingQuotes '"' (quotesAfter acc) n ((c :: r).drop n) with
        | .ok (more, r) => textOf (List.replicate more (.char '"') ++ acc) r
        | .error e => .error e
    else if c == '\\' then
      if (r.takeWhile isSpace).contains '\n' then basicLines start fuel acc (r.dropWhile isSpace)
      else match escape start r with
        | .ok (p, r) => basicLines start fuel (p :: acc) r
        | .error e => .error e
    else basicLines start fuel (.char c :: acc) r

/-- A text over several lines in single quotes. -/
def literalLines : Nat → String → List Char → Lexed String
  | 0, _, _ => slipAtEnd (.unclosedText "'''")
  | _, _, [] => slipAtEnd (.unclosedText "'''")
  | fuel + 1, acc, c :: r =>
    if c == '\'' then
      let n := quoteRun '\'' (c :: r)
      if n < 3 then literalLines fuel (acc.push c) r
      else (closingQuotes '\'' 2 n ((c :: r).drop n)).map fun (more, r) =>
        (acc ++ String.ofList (List.replicate more '\''), r)
    else literalLines fuel (acc.push c) r

/-- The text without a line break at its front. -/
def withoutFirstBreak : List Char → List Char
  | '\n' :: r => r
  | '\r' :: '\n' :: r => r
  | s => s

/-- A text that starts with a quote. -/
def quotedText (s : List Char) : Lexed String :=
  let fuel := s.length + 1
  match s with
  | '"' :: '"' :: '"' :: r => basicLines r fuel [] (withoutFirstBreak r)
  | '\'' :: '\'' :: '\'' :: r => literalLines fuel "" (withoutFirstBreak r)
  | '"' :: r => basicText r fuel [] r
  | '\'' :: r => literalText "" r
  | s => slipAt (fun c => .strayCharacter (c.getD '\x00')) s

/-! ## Numbers -/

/-- Whether every underscore stands between digits of any base. -/
def underscoresFit (s : List Char) : Bool :=
  let rec go : Bool → List Char → Bool
    | accept, [] => accept
    | accept, c :: r =>
      if c == '_' then accept && go false r else go (digitValue c < 16) r
  go false s

/-- Whether a number starts with a zero that has no business there. -/
def hasLeadingZero : List Char → Bool
  | '0' :: c :: _ => !(c == 'b' || c == 'o' || c == 'x')
  | s :: '0' :: _ :: _ => s == '-' || s == '+'
  | _ => false

/-- A whole number. -/
def whole (s : List Char) : Except Fault.Cause Value :=
  let text := String.ofList s
  if !underscoresFit s then .error (.underscores "integer" text)
  else if hasLeadingZero s then .error (.leadingZeros "integer" text)
  else match readSigned 0 s with
    | .ok n => .ok (.whole n)
    | .error _ => .error (.outOfRange text "int64")

/-- Whether a digit follows every point. -/
def pointsFit : List Char → Bool
  | [] => true
  | ['.'] => false
  | '.' :: c :: r => isDigit c && pointsFit (c :: r)
  | _ :: r => pointsFit r

/-- The pieces of a number around its point and its exponent. -/
def realPieces (s : List Char) : List (List Char) :=
  let marked := s.map fun c => if c == 'e' || c == 'E' then '.' else c
  (fields '.' marked).filter (!·.isEmpty)

/-- A number with a point or an exponent. -/
def real (s : List Char) : Except Fault.Cause Value :=
  let text := String.ofList s
  let pieces := realPieces s
  if !pieces.all underscoresFit then .error (.underscores "float" text)
  else if pieces.head?.any hasLeadingZero then .error (.leadingZeros "float" text)
  else if !pointsFit s then .error (.barePoint text)
  else match readReal (s.filter (· != '_')) with
    | .ok x => .ok (.real x)
    | .error .outOfRange => .error (.outOfRange text "float64")
    | .error .malformed => .error (.invalidReal text)

/-! ## Dates -/

/-- Two digits with a value from `low` to `high`. -/
def twoDigits (low high : Nat) : List Char → Option (Nat × List Char)
  | a :: b :: r =>
    let n := digitValue a * 10 + digitValue b
    if isDigit a && isDigit b && low ≤ n && n ≤ high then some (n, r) else none
  | _ => none

/-- A date at the front of a text. -/
def date? : List Char → Option (List Char)
  | a :: b :: c :: d :: '-' :: r =>
    if [a, b, c, d].all isDigit then
      let year := digitsValue 10 ([a, b, c, d].map digitValue)
      match twoDigits 1 12 r with
      | some (month, '-' :: r) =>
        let days :=
          if month == 2 then
            if year % 4 == 0 && (year % 100 != 0 || year % 400 == 0) then 29 else 28
          else if month == 4 || month == 6 || month == 9 || month == 11 then 30 else 31
        (twoDigits 1 days r).map (·.2)
      | _ => none
    else none
  | _ => none

/-- A time of day at the front of a text. -/
def clock? (s : List Char) : Option (List Char) :=
  match twoDigits 0 23 s with
  | some (_, ':' :: r) =>
    match twoDigits 0 59 r with
    | some (_, ':' :: r) =>
      match twoDigits 0 59 r with
      | some (_, '.' :: c :: r) => if isDigit c then some (r.dropWhile isDigit) else none
      | some (_, r) => some r
      | none => none
    | _ => none
  | _ => none

/-- Whether a text is an offset from universal time. -/
def isOffset : List Char → Bool
  | ['Z'] => true
  | s :: r =>
    (s == '+' || s == '-') &&
      match twoDigits 0 24 r with
      | some (_, ':' :: r) => (twoDigits 0 60 r).any (·.2.isEmpty)
      | _ => false
  | [] => false

/-- A date with the letters between its parts in one case. -/
def evenDate (s : List Char) : List Char :=
  s.map fun c => if c == 't' || c == ' ' then 'T' else if c == 'z' then 'Z' else c

/-- Whether a text is a date, a time of day, or both with or without an offset. -/
def isMoment (s : List Char) : Bool :=
  match date? s with
  | some [] => true
  | some ('T' :: r) =>
    match clock? r with
    | some [] => true
    | some r => isOffset r
    | none => false
  | some _ => false
  | none => (clock? s).any List.isEmpty

/-- The characters of a date. -/
def isDateChar (c : Char) : Bool := isDigit c || "-:Tt .Zz+".toList.contains c

/-- A lexeme of `n` characters. -/
def lexeme (read : List Char → Except Fault.Cause Value) (s : List Char) (n : Nat) : Lexed Value :=
  match read (s.take n) with
  | .ok v => .ok (v, s.drop n)
  | .error cause => slipPeeking cause (s.drop n)

/-- A date of which the first digits were seen. -/
def moment (s : List Char) : Lexed Value :=
  let read (taken : List Char) : Except Fault.Cause Value :=
    let date := evenDate (taken.reverse.dropWhile (· == ' ')).reverse
    if isMoment date then .ok .moment else .error (.invalidMoment (String.ofList date))
  lexeme read s (s.takeWhile isDateChar).length

/-- The characters of a number after its point or exponent. -/
def isRealChar (c : Char) : Bool := isDigit c || "_.-+eE".toList.contains c

/-- A number in base ten, with or without a sign. -/
def decimal (s : List Char) : Lexed Value :=
  let sign := match s with
    | '-' :: _ => 1
    | '+' :: _ => 1
    | _ => 0
  let body := s.drop sign
  let digits := (body.takeWhile fun c => isDigit c || c == '_').length
  let after := body.drop digits
  if after.head?.any fun c => c == '.' || c == 'e' || c == 'E' then
    lexeme real s (sign + digits + (after.takeWhile isRealChar).length)
  else lexeme whole s (sign + digits)

/-- A number or a date that starts with a digit. -/
def numberOrDate (s : List Char) : Lexed Value :=
  let based (name : String) (base : Nat) : Lexed Value :=
    let digits := s.drop 2
    if digits.head?.any (digitValue · < base) then
      lexeme whole s (2 + (digits.takeWhile fun c => digitValue c < base || c == '_').length)
    else
      slipPeeking (.missingBaseDigit name (String.ofList (s.take 2 ++ [digits.head?.getD '\x00'])))
        digits
  match s with
  | '0' :: 'x' :: _ => based "a hexadecimal" 16
  | '0' :: 'o' :: _ => based "an octal" 8
  | '0' :: 'b' :: _ => based "a binary" 2
  | s =>
    match s, s.dropWhile isDigit with
    | '0' :: '-' :: _, _ => decimal s
    | '0' :: ':' :: _, _ => decimal s
    | _, '-' :: _ => moment s
    | _, ':' :: _ => moment s
    | _, _ => decimal s

/-- The word `word` after what was read of `start`, letter by letter. -/
def finishWord (start word rest : List Char) (v : Value) : Lexed Value :=
  match word, rest with
  | [], rest => .ok (v, rest)
  | w :: ws, c :: r =>
    if c == w then finishWord start ws r v
    else slip (.unfinishedWord (readOf start (c :: r))) (c :: r)
  | _, [] => slipPeeking (.unfinishedWord (readOf start [])) []

/-- A number that starts with a sign. -/
def signed (s : List Char) : Lexed Value :=
  match s.tail with
  | 'i' :: r => finishWord s ['n', 'f'] r (.real (.infinity (s.head? == some '-')))
  | 'n' :: r => finishWord s ['a', 'n'] r (.real .nan)
  | '0' :: c :: r =>
    if c == 'b' || c == 'o' || c == 'x' then
      slip (.signedBase (String.ofList (s.take 2 ++ [c]))) (c :: r)
    else decimal s
  | '.' :: r => slip .leadingPoint r
  | c :: r => if isDigit c then decimal s else slip (.missingDigit (some c)) r
  | [] => slipAtEnd (.missingDigit none)

/-! ## Words -/

/-- Past a character, if it stands here. -/
def accept (c : Char) : List Char → Option (List Char)
  | x :: r => if x == c then some r else none
  | [] => none

/-- A truth value; other words are faults. -/
def truth (s : List Char) : Lexed Value :=
  let word := String.ofList (s.takeWhile isLetter)
  let rest := s.dropWhile isLetter
  if word == "true" then .ok (.flag true, rest)
  else if word == "false" then .ok (.flag false, rest)
  else slipPeeking (.strayWord word) rest

/-- A word that starts with `i` or `n`: infinity or no number, or one that looks like these and
is no number either.  Of another word that shares letters with these, those before the last
shared one are passed over. -/
def realWord (first : Char) (r : List Char) : Lexed Value :=
  let number (rest : List Char) : Lexed Value :=
    let word := readOf (first :: r) rest
    if word == "inf" then .ok (.real (.infinity false), rest)
    else if word == "nan" then .ok (.real .nan, rest)
    else match real word.toList with
      | .ok v => .ok (v, rest)
      | .error cause => slip cause rest
  let (last, r1) := match accept 'n' r with
    | some r => ('n', r)
    | none => (first, r)
  match if r1.length < r.length then accept 'f' r1 else none with
  | some rest => number rest
  | none =>
    match accept 'a' r1 with
    | none => truth (last :: r1)
    | some r2 =>
      match accept 'n' r2 with
      | some rest => number rest
      | none => truth ('a' :: r2)

end Exposure.Toml
