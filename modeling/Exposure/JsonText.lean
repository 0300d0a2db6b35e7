/-
# JsonText — values as indented text

A value is written over several lines, each level two blanks further in; an
empty list and an empty object stay on one line.  In texts, the quote, the
backslash and control characters are escaped, and with them the characters that
mean something to a web page: `<`, `>`, `&` and the two separators of lines and
paragraphs.  A byte that belongs to no character is the replacement character.
-/
import Exposure.Text.Cut
import Exposure.Text.Quoted

namespace Exposure.JsonText

set_option autoImplicit false

/-- A value to be written. -/
inductive Tree where
  | null
  | flag (b : Bool)
  | number (n : Int)
  | text (s : String)
  | list (items : List Tree)
  | object (fields : List (String × Tree))
  deriving Inhabited

/-- A character within quotes. -/
def charText (c : Char) : String :=
  match c with
  | '"' => "\\\""
  | '\\' => "\\\\"
  | '\x08' => "\\b"
  | '\x0c' => "\\f"
  | '\n' => "\\n"
  | '\r' => "\\r"
  | '\t' => "\\t"
  | '<' => "\\u003c"
  | '>' => "\\u003e"
  | '&' => "\\u0026"
  | '\u2028' => "\\u2028"
  | '\u2029' => "\\u2029"
  | c =>
    if c.toNat < 32 then "\\u" ++ String.ofList (Text.hexPadded 4 c.toNat)
    else String.singleton (Text.shownChar c)

/-- A text in quotes. -/
def quoted (s : String) : String := "\"" ++ String.join (s.toList.map charText) ++ "\""

/-- A line break and the blanks of a level. -/
def newLine (level : Nat) : String := "\n" ++ String.ofList (List.replicate (2 * level) ' ')

mutual

/-- A value whose first line is at a level. -/
def render (level : Nat) : Tree → String
  | .null => "null"
  | .flag b => if b then "true" else "false"
  | .number n => Text.intText n
  | .text s => quoted s
  | .list [] => "[]"
  | .list (t :: ts) =>
    "[" ++ newLine (level + 1) ++ render (level + 1) t ++ renderItems (level + 1) ts
      ++ newLine level ++ "]"
  | .object [] => "\x7b\x7d"
  | .object (f :: fs) =>
    "\x7b" ++ newLine (level + 1) ++ quoted f.1 ++ ": " ++ render (level + 1) f.2
      ++ renderFields (level + 1) fs ++ newLine level ++ "\x7d"

/-- The items after the first. -/
def renderItems (level : Nat) : List Tree → String
  | [] => ""
  | t :: ts => "," ++ newLine level ++ render level t ++ renderItems level ts

/-- The fields after the first. -/
def renderFields (level : Nat) : List (String × Tree) → String
  | [] => ""
  | f :: fs =>
    "," ++ newLine level ++ quoted f.1 ++ ": " ++ render level f.2 ++ renderFields level fs

end

/-- The text of a value. -/
def ofTree (t : Tree) : String := render 0 t

/-- An object of plain values on one line. -/
def line (fields : List (String × Tree)) : String :=
  "\x7b" ++ Text.joined "," (fields.map fun (k, t) => quoted k ++ ":" ++ itemLine t) ++ "\x7d"
where
  itemLine : Tree → String
    | .list ts => "[" ++ Text.joined "," (ts.map ofTree) ++ "]"
    | t => ofTree t

end Exposure.JsonText
