/-
# Program.Assembly — functions that assembly calls

A line that is no comment calls a function of its package where `CALL`, blanks,
a middle dot, a name and `(SB)` follow each other; the first such place of a
line counts.  A function is listed once, where it is first called.  A line of
64 KiB or more cannot be read, and ends the reading.
-/
import Exposure.Program.Comment

namespace Exposure.Program

set_option autoImplicit false

open Text

/-- The characters that names start with. -/
def isNameStart (c : Char) : Bool := isLower c || isUpper c || c == '_'

/-- The characters of names. -/
def isNameChar (c : Char) : Bool := isNameStart c || isDigit c

/-- The name that is called at the start of a text. -/
def calledHere? (s : List Char) : Option String :=
  match dropStart? "CALL".toList s with
  | some (b :: rest) =>
    if !isMarkerBlank b then none
    else
      match rest.dropWhile isMarkerBlank with
      | '·' :: c :: rest =>
        let name := c :: rest.takeWhile isNameChar
        if isNameStart c && (dropStart? "(SB)".toList (rest.dropWhile isNameChar)).isSome then
          some (String.ofList name)
        else none
      | _ => none
  | _ => none

/-- The name of the first call in a line. -/
def firstCall? : List Char → Option String
  | [] => none
  | c :: rest => (calledHere? (c :: rest)).orElse fun _ => firstCall? rest

/-- The name that a line calls, unless it is a comment. -/
def lineCall? (line : List Char) : Option String :=
  let line := trim line
  if (dropStart? slashes line).isSome then none else firstCall? line

/-- A line of this many bytes is too long. -/
def lineLimit : Nat := 65536

/-- What reading an assembly file finds, and whether a line was too long. -/
structure AssemblyCalls where
  called : List String
  tooLong : Bool
  deriving DecidableEq, Repr

/-- The error of a line that is too long. -/
def lineTooLongText : String := "bufio.Scanner: token too long"

/-- Reads lines one after the other; `called` has the names so far. -/
def readLines (called : List String) : List (List Char) → AssemblyCalls
  | [] => ⟨called, false⟩
  | line :: rest =>
    if lineLimit ≤ (String.ofList line).utf8ByteSize then ⟨called, true⟩
    else
      match lineCall? line with
      | some name => readLines (if called.contains name then called else called ++ [name]) rest
      | none => readLines called rest

/-- The functions that a text of assembly calls. -/
def assemblyCalls (text : String) : AssemblyCalls := readLines [] (fields '\n' text.toList)

end Exposure.Program
