/-
# Upload.Basic — what is handed to a backend

An upload is the list of paths of one bug, or the reachable constructs or the
touch points of one archive, under the bug's name or the archive's digest.  Its
document has the run that made it, the key, the time and the items.

Of the paths of one bug, every target keeps at most a given number, the shortest
first; targets stay in the order in which they first appear.
-/
import Exposure.JsonText
import Exposure.Log
import Exposure.Number.Integer
import Exposure.Scan

namespace Exposure

set_option autoImplicit false

/-! ## Path records -/

/-- A chain of calls from an entry point to a target. -/
structure PathRecord where
  bug : String
  source : Construct
  target : Construct
  constructs : List Construct
  deriving DecidableEq, Repr

namespace PathRecord

/-- The record of a chain; its ends are its first and its last construct.  A chain without
constructs has no ends, and no record. -/
def ofChain (bug : String) : List Construct → Option PathRecord
  | [] => none
  | source :: rest => some ⟨bug, source, rest.getLastD source, source :: rest⟩

/-- The number of calls along the chain. -/
def calls (r : PathRecord) : Nat := r.constructs.length - 1

/-- No more calls than another record. -/
def callsLe (a b : PathRecord) : Bool := decide (a.calls ≤ b.calls)

end PathRecord

/-! ## Limits on paths -/

/-- The names of the targets, in the order of their first appearance. -/
def targetNames : List PathRecord → List String
  | [] => []
  | r :: rs => r.target.name :: (targetNames rs).filter (· != r.target.name)

/-- The records with a target. -/
def recordsTo (target : String) (rs : List PathRecord) : List PathRecord :=
  rs.filter (·.target.name == target)

/-- The first `limit` records of a list, the shortest first; a list that is short enough stays
as it is. -/
def shortestOf (limit : Nat) (rs : List PathRecord) : List PathRecord :=
  if limit < rs.length then (rs.mergeSort PathRecord.callsLe).take limit else rs

/-- That a target has too many paths. -/
def droppedRecord (bug target : String) (found limit : Nat) : Log.Record :=
  Log.warn "dropping paths above limit" [("bug", .text bug), ("target", .text target),
    ("found", .number found), ("limit", .number limit)]

/-- The room set aside for what is kept, with products of sixty-four bits. -/
def keptRoom (limit : Int) (rs : List PathRecord) : Int :=
  min rs.length (Number.wrap (limit * (targetNames rs).length))

/-- What is kept of a list of paths, with a record for each target that has too many.  A
limit that is not positive keeps all.  There is no answer when the room comes out negative. -/
def capPaths (bug : String) (limit : Int) (rs : List PathRecord) :
    Option (List PathRecord × List Log.Record) :=
  if limit < 1 then some (rs, [])
  else if keptRoom limit rs < 0 then none
  else
    let n := limit.toNat
    let targets := targetNames rs
    some (targets.flatMap fun t => shortestOf n (recordsTo t rs),
      targets.filterMap fun t =>
        let found := (recordsTo t rs).length
        if n < found then some (droppedRecord bug t found n) else none)

/-! ## Uploads -/

/-- What is uploaded at once.  No list at all is not the same as a list without items. -/
inductive Upload where
  | paths (bug : String) (records : Option (List PathRecord))
  | reachable (digest : String) (profiles : Option (List Profile))
  | touchPoints (digest : String) (points : Option (List TouchPoint))
  deriving DecidableEq, Repr

namespace Upload

/-- The word for the kind of an upload. -/
def kind : Upload → String
  | .paths _ _ => "paths"
  | .reachable _ _ => "reachable"
  | .touchPoints _ _ => "touchpoints"

/-- What an upload is about. -/
def key : Upload → String
  | .paths bug _ => bug
  | .reachable digest _ => digest
  | .touchPoints digest _ => digest

/-- The characters that stay as they are in the name of a file. -/
def isFileNameChar (c : Char) : Bool :=
  ('a' ≤ c && c ≤ 'z') || ('A' ≤ c && c ≤ 'Z') || ('0' ≤ c && c ≤ '9')
    || c == '-' || c == '.' || c == '_'

/-- The name of the file for a key. -/
def fileName (key : String) : String :=
  if key == "" then "_"
  else String.ofList (key.toList.map fun c => if isFileNameChar c then c else '_')

end Upload

/-! ## Documents -/

namespace JsonText

/-- A list of items; an empty one is null. -/
def listOrNull (items : List Tree) : Tree := if items.isEmpty then .null else .list items

def ofConstruct (c : Construct) : Tree :=
  .object [("lang", .text c.lang.text), ("kind", .text c.kind.text), ("qname", .text c.name)]

def ofPathRecord (r : PathRecord) : Tree :=
  .object [("bug", .text r.bug), ("source", ofConstruct r.source), ("target", ofConstruct r.target),
    ("path", listOrNull (r.constructs.map ofConstruct))]

/-- Empty parts of a profile are left out. -/
def ofProfile (p : Profile) : Tree :=
  .object ([("original", ofConstruct p.reported)]
    ++ (if p.normalized.isNameless then [] else [("normalized", ofConstruct p.normalized)])
    ++ (if p.locator == "" then [] else [("locator", .text p.locator)])
    ++ (if p.digest == "" then [] else [("digest", .text p.digest)]))

def ofTouchPoint (t : TouchPoint) : Tree :=
  .object [("from", ofProfile t.caller), ("to", ofProfile t.callee),
    ("direction", .text t.direction.text)]

end JsonText

namespace Upload

/-- The items of an upload. -/
def items : Upload → Option (List JsonText.Tree)
  | .paths _ rs => rs.map (·.map JsonText.ofPathRecord)
  | .reachable _ ps => ps.map (·.map JsonText.ofProfile)
  | .touchPoints _ ts => ts.map (·.map JsonText.ofTouchPoint)

/-- The document of an upload. -/
def document (u : Upload) (run time : String) : JsonText.Tree :=
  .object [("run", .text run), ("key", .text u.key), ("timestamp", .text time),
    ("items", (u.items.map JsonText.Tree.list).getD .null)]

/-- What is recorded of an upload. -/
def summary : Upload → List Log.Record
  | .paths bug rs =>
    let rs := rs.getD []
    Log.info "paths" [("bug", .text bug), ("count", .number rs.length)]
      :: rs.map fun r => Log.debug "path" [("bug", .text bug), ("source", .text r.source.name),
        ("target", .text r.target.name), ("len", .number r.calls)]
  | .reachable digest ps =>
    [Log.info "reachable constructs" [("digest", .text digest),
      ("count", .number (ps.getD []).length)]]
  | .touchPoints digest ts =>
    [Log.info "touch points" [("digest", .text digest), ("count", .number (ts.getD []).length)]]

end Upload

end Exposure
