/-
# Yaml.Cursor — a place in a text

A cursor holds what is left of a text and where that stands: the line, the
column and the number of characters before it, all counted from zero, and how
many line breaks came since the last character that is not blank.  A carriage
return and a line feed together are one break.
-/
import Exposure.Text.Cut

namespace Exposure.Yaml

set_option autoImplicit false

/-- A space or a tab. -/
def isGap (c : Char) : Bool := c == ' ' || c == '\t'

/-- A character that ends a line. -/
def isBreak (c : Char) : Bool :=
  c == '\r' || c == '\n' || c == '\u0085' || c == '\u2028' || c == '\u2029'

/-- A character of an anchor's name. -/
def isWord (c : Char) : Bool :=
  Text.isDigit c || Text.isUpper c || Text.isLower c || c == '_' || c == '-'

/-- A place in a text. -/
structure Cursor where
  rest : List Char
  index : Nat := 0
  line : Nat := 0
  column : Nat := 0
  /-- The breaks since the last character that is not blank. -/
  breaks : Nat := 0
  deriving Repr, Inhabited

namespace Cursor

/-- The character `k` places ahead; none past the end. -/
def ahead? (c : Cursor) (k : Nat) : Option Char := c.rest[k]?

def head? (c : Cursor) : Option Char := c.rest.head?

def atEnd (c : Cursor) : Bool := c.rest.isEmpty

/-- Whether the character `k` places ahead is `x`. -/
def sees (c : Cursor) (k : Nat) (x : Char) : Bool := c.ahead? k == some x

/-- Whether a blank, a break or the end of the text stands `k` places ahead. -/
def isSpaceAt (c : Cursor) (k : Nat) : Bool :=
  match c.ahead? k with
  | none => true
  | some x => isGap x || isBreak x

/-- Whether a break or the end of the text stands here. -/
def atLineEnd (c : Cursor) : Bool :=
  match c.head? with
  | none => true
  | some x => isBreak x

def atGap (c : Cursor) : Bool := c.head?.any isGap

def atBreak (c : Cursor) : Bool := c.head?.any isBreak

/-- Past one character of the line. -/
def skip (c : Cursor) : Cursor :=
  match c.rest with
  | [] => c
  | x :: r =>
    { rest := r, index := c.index + 1, line := c.line, column := c.column + 1,
      breaks := if isGap x then c.breaks else 0 }

/-- Past `n` characters of the line. -/
def skipN : Nat → Cursor → Cursor
  | 0, c => c
  | n + 1, c => skipN n c.skip

/-- Past a line break, with the text it stands for; nothing happens elsewhere. -/
def readBreak (c : Cursor) : String × Cursor :=
  let next (r : List Char) (width : Nat) : Cursor :=
    { rest := r, index := c.index + width, line := c.line + 1, column := 0, breaks := c.breaks + 1 }
  match c.rest with
  | '\r' :: '\n' :: r => ("\n", next r 2)
  | x :: r =>
    if x == '\r' || x == '\n' || x == '\u0085' then ("\n", next r 1)
    else if isBreak x then (String.singleton x, next r 1)
    else ("", c)
  | [] => ("", c)

/-- Past a line break. -/
def skipBreak (c : Cursor) : Cursor := c.readBreak.2

/-- Past the blanks of the line. -/
def skipGaps (c : Cursor) : Cursor := skipN (c.rest.takeWhile isGap).length c

/-- Past everything on the line. -/
def skipToLineEnd (c : Cursor) : Cursor := skipN (c.rest.takeWhile (!isBreak ·)).length c

/-- Past the first characters that satisfy `p`, with their text. -/
def readWhile (p : Char → Bool) (c : Cursor) : String × Cursor :=
  let taken := c.rest.takeWhile p
  (String.ofList taken, skipN taken.length c)

/-- Whether a line starts here with three dashes or three dots that stand alone. -/
def atDocumentMark (c : Cursor) : Bool :=
  c.column == 0 && c.isSpaceAt 3 &&
    match c.rest with
    | '-' :: '-' :: '-' :: _ => true
    | '.' :: '.' :: '.' :: _ => true
    | _ => false

/-- Forward to the character with the number `target`. -/
def advanceTo (target : Nat) : Nat → Cursor → Cursor
  | 0, c => c
  | fuel + 1, c =>
    if target ≤ c.index || c.atEnd then c
    else if c.atBreak then advanceTo target fuel c.skipBreak
    else advanceTo target fuel c.skip

end Cursor

end Exposure.Yaml
