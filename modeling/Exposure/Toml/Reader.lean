/-
# Toml.Reader — typed values from a table

A reader takes a value on top of one that is already there and gives the keys
that it made use of.  A field is found by its name, or else by its name in
another case.  Keys that no field wants are refused all together, in the order
of the document.
-/
import Exposure.Number.Duration
import Exposure.Text.Fold
import Exposure.Toml.Document

namespace Exposure.Toml

set_option autoImplicit false

open Number

/-- The name of a value's type. -/
def Value.typeName : Value → String
  | .text _ => "string"
  | .whole _ => "int64"
  | .real _ => "float64"
  | .flag _ => "bool"
  | .moment => "time.Time"
  | .array _ => "[]any"
  | .table _ => "map[string]any"
  | .tables _ => "[]map[string]any"

/-- How a value does not fit. -/
inductive Misfit where
  | cause (c : Fault.Cause)
  /-- The value is of another type. -/
  | type (found wanted : String)
  /-- A value stands in the place of a table. -/
  | noTable (found wanted : String)
  deriving DecidableEq, Repr

/-- Why a document gives no value. -/
inductive ReadError where
  /-- The text is malformed, or a number or a span of time in it does not fit. -/
  | malformed (fault : Fault)
  /-- A value is of another type than its field; the line is that of the key, if it has one. -/
  | mismatch (line : Option Nat) (key : Key) (found wanted : String)
  | noTable (line : Option Nat) (key : Key) (found wanted : String)
  | unknownKeys (keys : List Key)
  deriving DecidableEq, Repr

namespace ReadError

/-- A message about a key. -/
def about (line : Option Nat) (key : Key) (message : String) : String :=
  match line with
  | some n => Fault.located n key.text message
  | none => "toml: (last key " ++ Text.quoted key.text ++ "): " ++ message

def message : ReadError → String
  | .malformed fault => fault.message
  | .mismatch line key found wanted =>
    about line key ("incompatible types: TOML value has type " ++ found ++
      "; destination has type " ++ wanted)
  | .noTable line key found wanted =>
    about line key ("type mismatch for " ++ wanted ++ ": expected table but found " ++ found)
  | .unknownKeys ks => "unknown keys: " ++ Text.joined ", " (ks.map Key.text)

end ReadError

/-- A value that does not fit, at its key. -/
abbrev Misread := Key × Misfit

/-- Reads the value at a key on top of another, with the keys made use of. -/
abbrev Reader (α : Type) := Key → Value → α → Except Misread (α × List Key)

namespace Reader

/-- A reader that looks at the value alone. -/
def leaf {α : Type} (f : Value → Except Misfit α) : Reader α :=
  fun key v _ =>
    match f v with
    | .ok a => .ok (a, [])
    | .error m => .error (key, m)

/-- The value is not of the type `wanted`. -/
def refuse {α : Type} (wanted : String) (v : Value) : Except Misfit α :=
  .error (.type v.typeName wanted)

def text : Reader String := leaf fun
  | .text s => .ok s
  | v => refuse "string" v

def whole : Reader Int := leaf fun
  | .whole n => .ok n
  | v => refuse "integer" v

def flag : Reader Bool := leaf fun
  | .flag b => .ok b
  | v => refuse "boolean" v

/-- The largest whole number up to which every one is a number of double precision. -/
def largestExact : Int := Nat.pow 2 53 - 1

def real : Reader Binary64 := leaf fun
  | .real x => .ok x
  | .whole n =>
    if n < -largestExact || largestExact < n then .error (.cause (.inexact n)) else .ok (.ofInt n)
  | v => refuse "float" v

/-- A span of time with its units, or in nanoseconds. -/
def duration : Reader Int := leaf fun
  | .text s =>
    match Duration.read s with
    | .ok n => .ok n
    | .error _ => .error (.cause (.invalidDuration s))
  | .whole n => .ok n
  | v => refuse "integer" v

def texts : Reader (Option (List String)) := leaf fun
  | .array vs =>
    some <$> vs.mapM fun
      | .text s => .ok s
      | v => refuse "string" v
  | .tables (t :: _) => refuse "string" (.table t)
  | v => refuse "slice" v

/-- A field of a record: its name and how it is read on top of the record. -/
abbrev Field (α : Type) := String × Reader α

/-- A field with its place in the record. -/
def field {α β : Type} (name : String) (reader : Reader β) (get : α → β) (set : β → α → α) :
    Field α :=
  (name, fun k v a => (reader k v (get a)).map fun (b, used) => (set b a, used))

/-- The field of a name. -/
def find? {α : Type} (fields : List (Field α)) (name : String) : Option (Field α) :=
  (fields.find? (·.1 == name)).orElse fun _ => fields.find? (Text.sameFolded ·.1 name)

/-- Reads the entries of a table into the fields of a record. -/
def entries {α : Type} (fields : List (Field α)) (key : Key) :
    Table → α → List Key → Except Misread (α × List Key)
  | [], a, used => .ok (a, used)
  | (name, v) :: rest, a, used =>
    match find? fields name with
    | none => entries fields key rest a used
    | some (_, read) =>
      match read (key ++ [name]) v a with
      | .error e => .error e
      | .ok (a, more) => entries fields key rest a (used ++ (key ++ [name]) :: more)

/-- A record; a value that is no table is refused. -/
def record {α : Type} (type : String) (fields : List (Field α)) : Reader α :=
  fun key v a =>
    match v with
    | .table t => entries fields key t a []
    | v => .error (key, .noTable v.typeName type)

end Reader

/-- The error of a value that does not fit. -/
def Document.error (d : Document) (m : Misread) : ReadError :=
  let (key, misfit) := m
  let line := d.lines.lookup key
  match misfit with
  | .cause c => .malformed { cause := c, line := line.getD 0, key := key.text }
  | .type found wanted => .mismatch line key found wanted
  | .noTable found wanted => .noTable line key found wanted

/-- The record that a text writes on top of another. -/
def read {α : Type} (fields : List (Reader.Field α)) (text : String) (old : α) :
    Except ReadError α :=
  match Document.ofText text with
  | .error fault => .error (.malformed fault)
  | .ok d =>
    match Reader.entries fields [] d.root old [] with
    | .error m => .error (d.error m)
    | .ok (a, used) =>
      let unknown := d.keys.filter fun k => !used.contains k
      if unknown.isEmpty then .ok a else .error (.unknownKeys unknown)

end Exposure.Toml
