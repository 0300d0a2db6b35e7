/-
# Command.CommaList — one record of comma separated fields

The first line that is not empty is a record of fields with commas between
them.  A field that starts with a double quote goes on to the next one, over
commas and lines; two quotes there stand for one.  A quote anywhere else is an
error, told by its line and its column in bytes.
-/
import Exposure.Text.Cut

namespace Exposure.CommaList

set_option autoImplicit false

/-- Why a text is no record. -/
inductive Fault where
  /-- There is no line that is not empty. -/
  | noRecord
  /-- A quote in a field that does not start with one. -/
  | bareQuote (start line column : Nat)
  /-- A quoted field without its end, or with text after it. -/
  | quote (start line column : Nat)
  deriving DecidableEq, Repr

namespace Fault

/-- Where a record that starts at a line is wrong. -/
def place (start line column : Nat) : String :=
  (if start == line then "" else "record on line " ++ Nat.repr start ++ "; ")
    ++ "parse error on line " ++ Nat.repr line ++ ", column " ++ Nat.repr column ++ ": "

def message : Fault → String
  | .noRecord => "EOF"
  | .bareQuote s l c => place s l c ++ "bare \" in non-quoted-field"
  | .quote s l c => place s l c ++ "extraneous or missing \" in quoted-field"

end Fault

/-- What stands before the next character. -/
inductive Place where
  /-- The start of a field. -/
  | start
  /-- The inside of a field without quotes. -/
  | plain
  /-- The inside of a quoted field. -/
  | quoted
  /-- A quote in a quoted field: its end, or the first of two. -/
  | closed
  deriving DecidableEq, Repr

/-- Reads the rest of a record that started at line `start`; `field` has the current field
backwards. -/
def readRecord (start : Nat) :
    Place → Nat → Nat → List Char → List Char → Except Fault (List String)
  | place, line, column, field, [] =>
    match place with
    | .quoted => .error (.quote start line column)
    | _ => .ok [String.ofList field.reverse]
  | place, line, column, field, c :: rest =>
    let next := column + c.utf8Size
    let ended := String.ofList field.reverse
    match place with
    | .quoted =>
      if c == '"' then readRecord start .closed line next field rest
      else if c == '\n' && !rest.isEmpty then
        readRecord start .quoted (line + 1) 1 (c :: field) rest
      else readRecord start .quoted line next (c :: field) rest
    | .closed =>
      if c == '"' then readRecord start .quoted line next (c :: field) rest
      else if c == ',' then (readRecord start .start line next [] rest).map (ended :: ·)
      else if c == '\n' then .ok [ended]
      else .error (.quote start line (column - 1))
    | _ =>
      if c == ',' then (readRecord start .start line next [] rest).map (ended :: ·)
      else if c == '\n' then .ok [ended]
      else if c == '"' then
        if place == .start then readRecord start .quoted line next [] rest
        else .error (.bareQuote start line column)
      else readRecord start .plain line next (c :: field) rest

/-- A text in which a line ends with a single character. -/
def plainLines : List Char → List Char
  | [] => []
  | ['\r'] => []
  | '\r' :: '\n' :: rest => '\n' :: plainLines rest
  | c :: rest => c :: plainLines rest

/-- The fields of a text; an empty one has none. -/
def read (text : String) : Except Fault (List String) :=
  if text == "" then .ok []
  else
    let lines := plainLines text.toList
    let record := lines.dropWhile (· == '\n')
    let start := lines.length - record.length + 1
    if record.isEmpty then .error .noRecord else readRecord start .start start 1 [] record

end Exposure.CommaList
