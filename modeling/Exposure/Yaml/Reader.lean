/-
# Yaml.Reader — typed values from a document

A reader takes a node on top of a value that is already there: a null leaves
that value alone, and a record keeps the fields that a mapping does not name.
-/
import Exposure.Dict
import Exposure.Number.Duration
import Exposure.Yaml.Reading

namespace Exposure.Yaml

set_option autoImplicit false

open Number Text

/-- Reads a node on top of a value; the flag tells whether the node gave a value. -/
abbrev Reader (α : Type) := Node → α → Reading (α × Bool)

namespace Reader

open Reading

/-- Reads scalars by their value and their text. -/
def scalar {α : Type} (type : String) (accept : Value → String → Option α) : Reader α :=
  fun n old => visit n fun
    | .scalar m text _ => do
      match ← valueOf m text with
      | .null => pure (old, false)
      | v =>
        match accept v text with
        | some a => pure (a, true)
        | none => note (.mismatch m.line m.tag text type); pure (old, false)
    | .mapping m _ pairs => do
      if ← distinctKeys pairs then note (.mismatch m.line m.tag "" type)
      pure (old, false)
    | .sequence m _ _ => do
      note (.mismatch m.line m.tag "" type)
      pure (old, false)
    | .alias _ name _ _ => fail (.unknownAnchor name)

/-- Any scalar, as it is written. -/
def text (type : String) : Reader String := scalar type fun
  | .text s, _ => some s
  | _, s => some s

/-- A whole number of sixty-four bits; a fraction is cut off. -/
def whole : Reader Int := scalar "int" fun
  | .whole n, _ => if n < signedEnd then some n else none
  | .real x, _ =>
    match x with
    | .nan => none
    | .infinity false => none
    | .infinity true => some (-signedEnd)
    | x =>
      let n := x.truncated
      if n < -signedEnd || n == signedEnd then some (-signedEnd)
      else if n < signedEnd then some n else none
  | _, _ => none

/-- A number of double precision. -/
def real : Reader Binary64 := scalar "float64" fun
  | .whole n, _ => some (.ofInt n)
  | .real x, _ => some x
  | _, _ => none

/-- The old words for true. -/
def affirmatives : List String := ["y", "Y", "yes", "Yes", "YES", "on", "On", "ON"]

/-- The old words for false. -/
def negatives : List String := ["n", "N", "no", "No", "NO", "off", "Off", "OFF"]

/-- A truth value, also as one of the old words. -/
def flag : Reader Bool := scalar "bool" fun
  | .flag b, _ => some b
  | .text s, _ =>
    if affirmatives.contains s then some true
    else if negatives.contains s then some false else none
  | _, _ => none

/-- A span of time in nanoseconds, with its units. -/
def duration : Reader Int := scalar "time.Duration" fun
  | .text s, _ => (Duration.read s).toOption
  | _, _ => none

/-- A list; a null is no list, and items that give no value are left out. -/
def list {α : Type} (type : String) (zero : α) (item : Reader α) : Reader (Option (List α)) :=
  fun n old => visit n fun
    | .scalar m text _ => do
      match ← valueOf m text with
      | .null => pure (none, true)
      | _ => note (.mismatch m.line m.tag text type); pure (old, false)
    | .mapping m _ pairs => do
      if ← distinctKeys pairs then note (.mismatch m.line m.tag "" type)
      pure (old, false)
    | .sequence _ _ items => do
      let read ← items.mapM fun n => item n zero
      pure (some (read.filterMap fun (a, good) => if good then some a else none), true)
    | .alias _ name _ _ => fail (.unknownAnchor name)

/-- A list of texts. -/
def texts : Reader (Option (List String)) := list "[]string" "" (text "string")

/-! ## Records and tables -/

/-- How the pairs of a mapping with texts for keys are read. -/
def named {α : Type} (pair : Place → Node → String → Node → α → Reading α) : PairReader α where
  any k := do return (← general (← depthBound) k).map General.value?
  key _ k := do
    let (name, good) ← text "string" k ""
    return if good then some (.text name) else none
  pair place k name v a :=
    match name with
    | .text name => pair place k name v a
    | _ => pure a

/-- What a record does with a field: reads it on top of the record. -/
abbrev Field (α : Type) := String × (Node → α → Reading α)

/-- A field with its place in the record. -/
def field {α β : Type} (name : String) (reader : Reader β) (get : α → β) (set : β → α → α) :
    Field α :=
  (name, fun n a => do
    let (b, _) ← reader n (get a)
    pure (set b a))

/-- A record, each field of which a mapping has once; `unknown` deals with the keys that are no
fields. -/
def recordOr {α : Type} (unknown : Node → String → Reading Unit) (type : String)
    (fields : List (Field α)) : Reader α :=
  fun n old => visit n fun
    | .scalar m text _ => do
      match ← valueOf m text with
      | .null => pure (old, false)
      | _ => note (.mismatch m.line m.tag text type); pure (old, false)
    | .sequence m _ _ => do
      note (.mismatch m.line m.tag "" type)
      pure (old, false)
    | .mapping _ _ pairs => do
      let reader := named fun place k name v value => do
        match fields.find? (·.1 == name) with
        | some (_, read) =>
          if place.earlier.contains (.text name) then
            note (.fieldTwice k.line name type)
            pure value
          else read v value
        | none => unknown k name; pure value
      pairsInto reader (← depthBound) false pairs old
    | .alias _ name _ _ => fail (.unknownAnchor name)

/-- A record with known fields only. -/
def record {α : Type} (type : String) (fields : List (Field α)) : Reader α :=
  recordOr (fun k name => note (.unknownField k.line name type)) type fields

/-- A record in which other keys do not count. -/
def openRecord {α : Type} (type : String) (fields : List (Field α)) : Reader α :=
  recordOr (fun _ _ => pure ()) type fields

/-- A node as it stands, for another reader. -/
def node : Reader (Option Node) := fun n _ => do
  count
  pure (some n, true)

/-- A table from texts; a null is no table.  A pair whose value gives none is left out, but for
a null where the table has nothing yet. -/
def table {α : Type} (type : String) (zero : α) (item : Reader α) : Reader (Option (Dict α)) :=
  fun n old => visit n fun
    | .scalar m text _ => do
      match ← valueOf m text with
      | .null => pure (none, true)
      | _ => note (.mismatch m.line m.tag text type); pure (old, false)
    | .sequence m _ _ => do
      note (.mismatch m.line m.tag "" type)
      pure (old, false)
    | .mapping _ _ pairs => do
      let reader := named fun place _ name v (d : Dict α) => do
        let (a, good) ← item v zero
        if good then pure (d.insert name a)
        else if (← tagOf v) == "!!null" && (place.fresh || (d.get? name).isNone) then
          pure (d.insert name zero)
        else pure d
      let (d, good) ← pairsInto reader (← depthBound) old.isNone pairs (old.getD .empty)
      pure (if good then (some d, true) else (old, false))
    | .alias _ name _ _ => fail (.unknownAnchor name)

end Reader

/-- The value that a document gives on top of `old`. -/
def readDocument {α : Type} (reader : Reader α) (d : Document) (old : α) : Except ReadError α :=
  match (do Reading.count; reader d.root old : Reading (α × Bool)).run { document := d } with
  | .error e => .error e
  | .ok ((a, _), s) => if s.problems.isEmpty then .ok a else .error (.problems s.problems.reverse)

/-- The value that the first document of a text gives on top of `old`; a text without a
document gives `old`. -/
def read {α : Type} (reader : Reader α) (text : String) (old : α) : Except ReadError α :=
  match Document.ofText text with
  | .error fault => .error (.malformed fault)
  | .ok none => .ok old
  | .ok (some d) => readDocument reader d old

end Exposure.Yaml
