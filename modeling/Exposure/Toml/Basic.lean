/-
# Toml.Basic — tables of settings

A table maps names to values: texts, numbers, truth values, points in time,
arrays and further tables.  Its entries stay in the order in which they were
made.  A key is the list of names on the way to a value.
-/
import Exposure.Number.Binary64
import Exposure.Text.Cut

namespace Exposure.Toml

set_option autoImplicit false

/-- The names on the way to a value. -/
abbrev Key := List String

/-- A value of a table. -/
inductive Value where
  | text (s : String)
  | whole (n : Int)
  | real (x : Number.Binary64)
  | flag (b : Bool)
  | moment
  | array (items : List Value)
  | table (entries : List (String × Value))
  /-- Tables listed one by one under a name; the latest last. -/
  | tables (each : List (List (String × Value)))
  deriving Repr, Inhabited

/-- The entries of a table. -/
abbrev Table := List (String × Value)

namespace Key

/-- A character of a name that needs no quotes. -/
def isBare (c : Char) : Bool :=
  Text.isDigit c || Text.isUpper c || Text.isLower c || c == '_' || c == '-'

/-- A character within quotes. -/
def quotedChar (c : Char) : String :=
  let n := c.toNat
  let code := "\\u00" ++ String.ofList [Nat.digitChar (n / 16), Nat.digitChar (n % 16)]
  match c with
  | '"' => "\\\""
  | '\\' => "\\\\"
  | '\x08' => "\\b"
  | '\t' => "\\t"
  | '\n' => "\\n"
  | '\x0c' => "\\f"
  | '\r' => "\\r"
  | c => if n < 32 || n == 127 then code else String.singleton c

/-- A name as a key shows it, in quotes if it has to be. -/
def nameText (s : String) : String :=
  if s != "" && s.toList.all isBare then s
  else "\"" ++ String.join (s.toList.map quotedChar) ++ "\""

/-- The names with points between them. -/
def text (k : Key) : String := Text.joined "." (k.map nameText)

end Key

namespace Table

/-- The value of a name. -/
def get? (t : Table) (name : String) : Option Value := t.lookup name

/-- The table with a value for a name, at the place of the old one or at the end. -/
def put : Table → String → Value → Table
  | [], name, v => [(name, v)]
  | (n, w) :: rest, name, v =>
    if n == name then (n, v) :: rest else (n, w) :: put rest name v

/-- The table with a value for a name in the table at a key, which is made where it is
missing. -/
def putAt : Key → String → Value → Table → Table
  | [], name, v, t => t.put name v
  | k :: rest, name, v, t =>
    let inner := match t.get? k with
      | some (.table inner) => inner
      | _ => []
    t.put k (.table (putAt rest name v inner))

/-- The table at a key with `f` applied to it; of listed tables the latest counts.  None when
there is no table on the way or `f` refuses. -/
def modifyAt? (f : Table → Option Table) : Key → Table → Option Table
  | [], t => f t
  | k :: rest, t =>
    match t.get? k with
    | some (.table inner) => (modifyAt? f rest inner).map fun inner => t.put k (.table inner)
    | some (.tables each) =>
      match each.getLast? with
      | some inner =>
        (modifyAt? f rest inner).map fun inner => t.put k (.tables (each.dropLast ++ [inner]))
      | none => none
    | _ => none

/-- The table at a key; of listed tables the latest counts. -/
def at? : Key → Table → Option Table
  | [], t => some t
  | k :: rest, t =>
    match t.get? k with
    | some (.table inner) => at? rest inner
    | some (.tables each) =>
      match each.getLast? with
      | some inner => at? rest inner
      | none => none
    | _ => none

end Table

end Exposure.Toml
