/-
# Yaml.Reading — going through a document

Reading a document does not stop at the first thing that does not fit: it is
noted with its line, and a document with such notes is refused as a whole, with
all of them.  What ends a reading at once is a scalar that is not what its tag
says, an alias inside the node it names, and a document in which aliases make up
nearly all that is read.

A mapping may merge others: their pairs are read after its own, without the keys
that it has.  For that its keys are read once more as values of any kind, and a
collection is no key then.
-/
import Exposure.Text.Quoted
import Exposure.Yaml.Node

namespace Exposure.Yaml

set_option autoImplicit false

open Number Text

/-- Something in a document that does not fit. -/
inductive Problem where
  | mismatch (line : Nat) (tag text type : String)
  | unknownField (line : Nat) (name type : String)
  | fieldTwice (line : Nat) (name type : String)
  | repeatedKey (line : Nat) (key : String) (first : Nat)
  deriving DecidableEq, Repr

/-- The first seven bytes of a text with three dots when it has more than ten; a character
that is cut shows as one replacement character for each of its bytes. -/
def clipped (s : String) : String :=
  if s.utf8ByteSize ≤ 10 then s
  else
    let rec go : Nat → List Char → List Char
      | room, c :: r =>
        if c.utf8Size ≤ room then c :: go (room - c.utf8Size) r
        else List.replicate room '�'
      | _, [] => []
    String.ofList (go 7 s.toList) ++ "..."

namespace Problem

def message : Problem → String
  | .mismatch line tag text type =>
    let shown := if tag == "!!seq" || tag == "!!map" then text else " `" ++ clipped text ++ "`"
    "line " ++ Nat.repr line ++ ": cannot unmarshal " ++ tag ++ shown ++ " into " ++ type
  | .unknownField line name type =>
    "line " ++ Nat.repr line ++ ": field " ++ name ++ " not found in type " ++ type
  | .fieldTwice line name type =>
    "line " ++ Nat.repr line ++ ": field " ++ name ++ " already set in type " ++ type
  | .repeatedKey line key first =>
    "line " ++ Nat.repr line ++ ": mapping key " ++ quoted key ++ " already defined at line " ++
      Nat.repr first

end Problem

/-- Why a text gives no value. -/
inductive ReadError where
  | malformed (fault : Fault)
  | problems (ps : List Problem)
  /-- A mapping that merges others has a collection for a key. -/
  | collectionKey
  deriving DecidableEq, Repr

namespace ReadError

def message : ReadError → String
  | .malformed fault => fault.message
  | .problems ps => "yaml: unmarshal errors:\n  " ++ joined "\n  " (ps.map Problem.message)
  | .collectionKey => "yaml: a collection cannot be a key"

end ReadError

/-- How far a reading is: the problems so far, the latest first, how many nodes were read and how
many of them below an alias, the aliases being read, the innermost first, and the keys that a
merge leaves out, while one is read. -/
structure Progress where
  document : Document
  problems : List Problem := []
  read : Nat := 0
  readByAlias : Nat := 0
  active : List Nat := []
  merged : Option (List Value) := none

/-- A step of reading. -/
abbrev Reading (α : Type) := StateT Progress (Except ReadError) α

namespace Reading

/-- Ends the reading. -/
def fail {α : Type} (cause : Fault.Cause) : Reading α := throw (.malformed { cause })

/-- Notes a problem. -/
def note (p : Problem) : Reading Unit := modify fun s => { s with problems := p :: s.problems }

/-- Whether `a` of `n` nodes below an alias are too many: more than 99 of a hundred up to
400000 nodes, more than ten of a hundred from 4000000 on, and in between by a straight line. -/
def isExcessive (a n : Nat) : Bool :=
  100 < a && 1000 < n &&
    if n ≤ 400000 then 99 * n < 100 * a
    else if 4000000 ≤ n then n < 10 * a
    else (99 * 3600000 - 89 * (n - 400000)) * n < 100 * 3600000 * a

/-- Counts a node. -/
def count : Reading Unit := do
  modify fun s =>
    { s with
      read := s.read + 1
      readByAlias := if s.active.isEmpty then s.readByAlias else s.readByAlias + 1 }
  let s ← get
  if isExcessive s.readByAlias s.read then fail .excessiveAliases

/-- Reads a node, or the node that an alias stands for. -/
def visit {α : Type} (n : Node) (read : Node → Reading α) : Reading α := do
  count
  match n with
  | .alias _ name serial anchor =>
    let s ← get
    if s.active.contains serial then fail (.containsItself name)
    match s.document.target? anchor with
    | none => fail (.unknownAnchor name)
    | some target =>
      set { s with active := serial :: s.active }
      count
      let a ← read target
      modify fun s => { s with active := s.active.tail }
      pure a
  | n => read n

/-- The short tag of a node, or of the one that an alias stands for. -/
def tagOf (n : Node) : Reading String := do
  let tag : Node → String
    | .scalar m _ _ => m.tag
    | .sequence m _ _ => m.tag
    | .mapping m _ _ => m.tag
    | .alias .. => ""
  match n with
  | .alias _ _ _ anchor => pure (((← get).document.target? anchor).elim "" tag)
  | n => pure (tag n)

/-- The value of a scalar, or its fault. -/
def valueOf (m : Mark) (text : String) : Reading Value :=
  match Value.ofTagged m.tag text with
  | .ok v => pure v
  | .error fault => throw (.malformed fault)

/-- The keys of a mapping that an earlier key repeats. -/
def repeated : List (Node × Node) → List Problem
  | [] => []
  | (k, _) :: rest =>
    (rest.filter fun (k', _) => k.sameKey k').map
        (fun (k', _) => Problem.repeatedKey k'.line k'.keyText k.line)
      ++ repeated rest

/-- Notes the repeated keys of a mapping; false when there are any. -/
def distinctKeys (pairs : List (Node × Node)) : Reading Bool := do
  let ps := repeated pairs
  modify fun s => { s with problems := ps.reverse ++ s.problems }
  pure ps.isEmpty

/-! ## Mappings -/

/-- Whether a key merges another mapping into its own. -/
def isMerge : Node → Bool
  | .scalar m text _ => text == "<<" && m.tag == "!!merge"
  | _ => false

/-- Where a pair stands: whether what it is read into is new, and the keys before it. -/
structure Place where
  fresh : Bool
  earlier : List Value := []

/-- How the pairs of a mapping are read into a value: a key, given whether the mapping is being
merged, which may be none, and then the pair; `any` reads a node whatever it is and tells its
value if it is a scalar, and none if it has problems. -/
structure PairReader (α : Type) where
  any : Node → Reading (Option (Option Value))
  key : Bool → Node → Reading (Option Value)
  pair : Place → Node → Value → Node → α → Reading α

/-- The keys that a mapping has for the mappings it merges. -/
def ownKeys (any : Node → Reading (Option (Option Value))) :
    List (Node × Node) → List Value → Reading (List Value)
  | [], keys => pure keys
  | (k, _) :: rest, keys => do
    match ← any k with
    | none => ownKeys any rest keys
    | some (some v) => ownKeys any rest (v :: keys)
    | some none => throw .collectionKey

/-- The pairs of a mapping read into a value, then those of the mappings it merges; false when
keys of it are repeated, which leaves the value alone. -/
def pairsInto {α : Type} (r : PairReader α) :
    Nat → Bool → List (Node × Node) → α → Reading (α × Bool)
  | 0, _, _, _ => fail .tooDeep
  | fuel + 1, fresh, pairs, old => do
    if !(← distinctKeys pairs) then return (old, false)
    let outer := (← get).merged
    modify fun s => { s with merged := none }
    let mut value := old
    let mut merged := outer
    let mut place : Place := { fresh }
    for (k, v) in pairs do
      if !isMerge k then
        if let some name ← r.key outer.isSome k then
          if !(merged.any (·.contains name)) then
            merged := merged.map (name :: ·)
            value ← r.pair place k name v value
            place := { place with earlier := name :: place.earlier }
    modify fun s => { s with merged }
    match pairs.reverse.find? (isMerge ·.1) with
    | none => return (value, true)
    | some (_, source) =>
      if merged.isNone then
        let keys ← ownKeys r.any pairs []
        modify fun s => { s with merged := some keys }
      let sources := match source with
        | .sequence _ _ items => items
        | n => [n]
      let d := (← get).document
      for m in sources do
        let isMapping := match m with
          | .alias _ _ _ anchor => (d.target? anchor).any (·.isMapping)
          | m => m.isMapping
        if !isMapping then fail .mergeOfNoMapping
        value ← visit m fun
          | .mapping _ _ ps => do return (← pairsInto r fuel false ps value).1
          | _ => fail .mergeOfNoMapping
      if merged.isNone then modify fun s => { s with merged := none }
      return (value, true)

/-! ## Values of any kind -/

/-- A value of any kind; a collection is known by its notation alone. -/
inductive General where
  | value (v : Value)
  | collection (shown : String)

namespace General

/-- The notation of a value. -/
def shown : General → String
  | .value .null => "interface \x7b\x7d(nil)"
  | .value (.flag b) => if b then "true" else "false"
  | .value (.whole n) => Int.repr n
  | .value (.real x) => x.text
  | .value .moment => "time.Time\x7b\x7d"
  | .value (.text s) => quoted s
  | .collection s => s

/-- The value, if it is no collection. -/
def value? : General → Option Value
  | .value v => some v
  | .collection _ => none

end General

/-- Reads a node whatever it is; none when keys of it are repeated. -/
def general : Nat → Node → Reading (Option General)
  | 0, _ => fail .tooDeep
  | fuel + 1, n => visit n fun
    | .scalar m text _ => do return some (.value (← valueOf m text))
    | .sequence _ _ items => do
      let read ← items.mapM (general fuel)
      let shown := read.filterMap fun g => g.map General.shown
      return some (.collection ("[]interface \x7b\x7d\x7b" ++ joined ", " shown ++ "\x7d"))
    | .mapping _ _ pairs => do
      let tags ← pairs.mapM fun (k, _) => tagOf k
      let isTextual := tags.all fun t => t == "!!str" || t == "!!merge"
      let reader : PairReader (List (Value × String)) := {
        any := fun k => do return (← general fuel k).map General.value?
        key := fun merging k => do
          match ← general fuel k with
          | none => return none
          | some (.value v) => return some v
          | some (.collection shown) =>
            if merging then throw .collectionKey
            else if isTextual then
              note (.mismatch k.line (← tagOf k) "" "string")
              return none
            else fail (.collectionKey shown)
        pair := fun _ _ name v entries => do
          match ← general fuel v with
          | some g => return (name, (General.value name).shown ++ ":" ++ g.shown) :: entries
          | none => return entries }
      let (entries, good) ← pairsInto reader fuel true pairs []
      let type := if isTextual then "map[string]interface \x7b\x7d\x7b"
        else "map[interface \x7b\x7d]interface \x7b\x7d\x7b"
      let shown := (entries.reverse.mergeSort fun a b => a.1.le b.1).map (·.2)
      return if good then some (.collection (type ++ joined ", " shown ++ "\x7d")) else none
    | .alias _ name _ _ => fail (.unknownAnchor name)

/-- How deep the merges and the collections of a document may nest: an alias that is being read
is not read again, so that no way down is longer than this. -/
def depthBound : Reading Nat := do
  let size := (← get).document.size
  return (size + 1) * (size + 1)

end Reading

end Exposure.Yaml
