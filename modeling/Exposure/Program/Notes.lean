/-
# Program.Notes — the comments around the functions of a file

The functions of a package stand in one file behind its package clause.  A
function takes one line; an empty line comes before it, then the comments that
stand apart from it with an empty line of their own, and then its own comments.

Comments without an empty line between them form a group.  The group that ends
right above a function holds its directives.  A marker counts for the function
on its line and for the one on the next line, and there the numbers of the lines
decide: a comment may give the lines behind it other numbers.
-/
import Exposure.Program.Basic
import Exposure.Program.Comment

namespace Exposure.Program

set_option autoImplicit false

open Text

/-! ## Comments in a text -/

/-- A comment where it stands. -/
structure Note where
  text : List Char
  /-- The line on which it starts. -/
  first : Nat
  /-- The line on which it ends. -/
  last : Nat
  /-- Whether it starts its line. -/
  opensLine : Bool
  deriving DecidableEq, Repr

/-- A text up to the first star with a slash behind it, and what follows. -/
def splitAtStar : List Char → List Char × List Char
  | [] => ([], [])
  | '*' :: '/' :: rest => (['*', '/'], rest)
  | c :: rest =>
    match splitAtStar rest with
    | (inside, after) => (c :: inside, after)

/-- The comments of a text, given the number of its first line and whether it starts that.
The first argument is at least the length of the text. -/
def notesFrom : Nat → Nat → Bool → List Char → List Note
  | 0, _, _, _ => []
  | _ + 1, _, _, [] => []
  | n + 1, line, _, '\n' :: rest => notesFrom n (line + 1) true rest
  | n + 1, line, opens, '/' :: '/' :: rest =>
    let body := rest.takeWhile (· != '\n')
    ⟨'/' :: '/' :: body.filter (· != '\r'), line, line, opens⟩
      :: notesFrom n line false (rest.dropWhile (· != '\n'))
  | n + 1, line, opens, '/' :: '*' :: rest =>
    match splitAtStar rest with
    | (body, rest) =>
      let last := line + body.count '\n'
      ⟨'/' :: '*' :: body, line, last, opens⟩ :: notesFrom n last false rest
  | n + 1, line, _, _ :: rest => notesFrom n line false rest

/-- The comments of a text. -/
def notesOf (line : Nat) (opens : Bool) (s : List Char) : List Note :=
  notesFrom s.length line opens s

/-- The group of comments that ends right above a line; the comments come nearest first. -/
def groupAbove : Nat → List Note → List Note
  | _, [] => []
  | line, n :: rest => if line ≤ n.last + 1 then groupAbove n.first rest ++ [n] else []

/-! ## Numbers of lines -/

/-- The number behind the last colon of a text, and what stands before that. -/
def lastNumber? (s : List Char) : Option (List Char × Nat) :=
  let digits := (s.reverse.takeWhile (· != ':')).reverse
  match s.reverse.dropWhile (· != ':') with
  | [] => none
  | _ :: before =>
    if !digits.isEmpty && digits.all isDigit then
      some (before.reverse, digits.foldl (fun n c => 10 * n + (c.toNat - '0'.toNat)) 0)
    else none

/-- The largest number of a line or of a column. -/
def largestPlace : Nat := 1073741824

def isPlace (n : Nat) : Bool := 1 ≤ n && n ≤ largestPlace

/-- The number of a line after the name of a file; that of a column may follow. -/
def givenNumber? (s : List Char) : Option Nat :=
  (lastNumber? s).bind fun (before, n) =>
    match lastNumber? before with
    | some (_, line) => if isPlace line && isPlace n then some line else none
    | none => if isPlace n then some n else none

namespace Note

/-- What is added to the numbers of the lines behind a comment, where `shift` was added before. -/
def shiftAfter (shift : Int) (n : Note) : Int :=
  match dropStart? "//line ".toList n.text, dropStart? "/*line ".toList n.text with
  | some s, _ =>
    if n.opensLine then ((givenNumber? s).map fun k => (k : Int) - (n.last + 1)).getD shift
    else shift
  | none, some s =>
    ((givenNumber? (s.take (s.length - 2))).map fun k => (k : Int) - n.last).getD shift
  | none, none => shift

def isMarker (n : Note) : Bool := Program.isMarker (String.ofList n.text)

def directive? (n : Note) : Option Reason := Program.directive? (String.ofList n.text)

end Note

/-! ## Files -/

/-- What the comments so far make of a file. -/
structure NotedFile where
  /-- The last line so far. -/
  line : Nat
  /-- What is added to the numbers of the next lines. -/
  shift : Int
  /-- The numbers of the lines with markers. -/
  markers : List Int
  /-- The number of every function's line, with its directive. -/
  functions : List (Int × Option Reason)

namespace NotedFile

/-- A file with its package clause. -/
def start : NotedFile := ⟨2, 0, [], []⟩

def addNote (file : NotedFile) (n : Note) : NotedFile :=
  { file with
    shift := n.shiftAfter file.shift
    markers := if n.isMarker then (n.first + file.shift) :: file.markers else file.markers }

/-- The text above a function. -/
def textAbove (f : FunctionDecl) : List Char :=
  ((if f.above.isEmpty then [] else f.above ++ [""]) ++ f.doc).flatMap (·.toList ++ ['\n'])

def addFunction (file : NotedFile) (f : FunctionDecl) : NotedFile :=
  let text := textAbove f
  let line := file.line + 2 + text.count '\n'
  let notes := notesOf (file.line + 2) true text
  let noted := notes.foldl addNote file
  let noted := { noted with
    line := line + f.trailing.toList.count '\n'
    functions := noted.functions
      ++ [(line + noted.shift, (groupAbove line notes.reverse).findSome? (·.directive?))] }
  (notesOf line false f.trailing.toList).foldl addNote noted

/-- Why every function is called from outside, as far as comments say so. -/
def reasons (file : NotedFile) : List (Option Reason) :=
  file.functions.map fun (line, directive) =>
    directive.orElse fun _ =>
      if file.markers.contains (line - 1) || file.markers.contains line then some .marker else none

end NotedFile

/-- Why functions are called from outside, as far as comments say so. -/
def commentReasons (functions : List FunctionDecl) : List (Option Reason) :=
  (functions.foldl NotedFile.addFunction .start).reasons

end Exposure.Program
