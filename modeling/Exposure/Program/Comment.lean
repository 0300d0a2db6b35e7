/-
# Program.Comment — comments that say who calls a function

A function may be called from outside its program's source: from C when it is
exported, from another package through a link name, from assembly, or by a
framework that a marker speaks of.  Directives have no blank after the slashes,
except that `export` needs one after the word; a marker may have blanks and a
note.
-/
import Exposure.Text.Blank
import Exposure.Text.Cut

namespace Exposure.Program

set_option autoImplicit false

open Text

/-- Why a function is called from outside. -/
inductive Reason where
  | exported
  | linkName
  | assembly
  | marker
  deriving DecidableEq, Repr

namespace Reason

def text : Reason → String
  | .exported => "cgo export"
  | .linkName => "linkname"
  | .assembly => "called from assembly"
  | .marker => "entrypoint marker"

end Reason

/-- A text without a start, if it has that. -/
def dropStart? : List Char → List Char → Option (List Char)
  | [], s => some s
  | p :: ps, c :: s => if p == c then dropStart? ps s else none
  | _ :: _, [] => none

/-- The two slashes of a comment. -/
def slashes : List Char := ['/', '/']

/-- What a directive in a comment says about the function below it. -/
def directive? (comment : String) : Option Reason :=
  let text := (dropStart? slashes comment.toList).getD comment.toList
  if (dropStart? "export ".toList text).isSome then some .exported
  else
    match dropStart? "go:linkname".toList text with
    | some [] => some .linkName
    | some (' ' :: _) => some .linkName
    | _ => none

/-- The blanks around a marker: those below 128 but the vertical tab. -/
def isMarkerBlank (c : Char) : Bool :=
  c == ' ' || c == '\t' || c == '\n' || c == '\x0c' || c == '\r'

/-- Whether a comment is a marker: the word, alone or with a note of one line. -/
def isMarker (comment : String) : Bool :=
  match dropStart? slashes comment.toList with
  | none => false
  | some text =>
    match dropStart? "vulnreach:entrypoint".toList (text.dropWhile isMarkerBlank) with
    | none => false
    | some [] => true
    | some (c :: rest) => isMarkerBlank c && !(rest.dropWhile isMarkerBlank).contains '\n'

end Exposure.Program
