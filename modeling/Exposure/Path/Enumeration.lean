/-
# Path.Enumeration — all simple paths between two nodes

Two strategies list the paths without a repeated node from a source to a
target.  The direct one walks the whole graph depth first; the pruned one first
marks the nodes from which the target can be reached and walks only those.
Both walks go through the callees in their order, stop at the target, end early
once a positive limit of paths is reached, and look at a watch at every 4096th
node they visit.  What was found by then is listed in lexicographic order.

The stack of a walk holds distinct nodes, so a walk nests at most as deep as
there are nodes, which is the fuel it is given.
-/
import Exposure.Path.Basic
import Exposure.Text.Quoted
import Exposure.Watch

namespace Exposure

set_option autoImplicit false

/-- How paths are enumerated; the words are those of a configuration. -/
inductive Strategy where
  | direct
  | pruned
  deriving DecidableEq, Repr

/-- A strategy with the number of paths to stop at; none if not positive. -/
structure Enumerator where
  strategy : Strategy
  limit : Int
  deriving DecidableEq, Repr

/-- Why an enumeration failed. -/
inductive PathError where
  | unknownStrategy (name : String)
  | outOfRange (node : Int) (size : Nat)
  | interrupted (cause : Interrupt)
  /-- An enumerator of the caller's own gave up. -/
  | failed (message : String)
  deriving DecidableEq, Repr

namespace PathError

def message : PathError → String
  | .unknownStrategy name =>
    "unknown path strategy " ++ Text.quoted name ++ " (want dfs or pruned)"
  | .outOfRange node size =>
    "node index " ++ Text.intText node ++ " out of range [0, " ++ Nat.repr size ++ ")"
  | .interrupted cause => cause.message
  | .failed m => m

end PathError

namespace Strategy

def text : Strategy → String
  | .direct => "dfs"
  | .pruned => "pruned"

/-- The strategy of a name; no name means the pruned one. -/
def ofName (name : String) : Except PathError Strategy :=
  if name = "dfs" then .ok .direct
  else if name = "" ∨ name = "pruned" then .ok .pruned
  else .error (.unknownStrategy name)

end Strategy

/-! ## The nodes that reach a target -/

/-- `marked` and `pending` with the unmarked ones among `found`. -/
def markAll (found : List Nat) (marked pending : List Nat) : List Nat × List Nat :=
  found.foldl (fun (m, p) n => if m.contains n then (m, p) else (n :: m, n :: p)) (marked, pending)

/-- Marks the callers of the pending nodes until none is pending. -/
def closeBackward (a : Adjacency) : Nat → List Nat → List Nat → List Nat
  | 0, _, marked => marked
  | _ + 1, [], marked => marked
  | fuel + 1, n :: pending, marked =>
    match markAll (a.callers n) marked pending with
    | (marked, pending) => closeBackward a fuel pending marked

/-- The nodes from which `target` can be reached.  Every round handles one node
that was marked once, so there are at most as many rounds as nodes. -/
def backwardClosure (a : Adjacency) (target : Nat) : List Nat :=
  closeBackward a (a.size + 1) [target] [target]

/-! ## Walking -/

/-- What a walk has come to. -/
structure Progress where
  /-- The paths found, latest first. -/
  found : List Path
  /-- The number of nodes visited. -/
  visits : Nat
  /-- Whether the walk has been told to end. -/
  done : Bool
  /-- The watch that the walk looks at. -/
  watch : Watch
  /-- Why the walk was interrupted, if it was. -/
  stopped : Option Interrupt
  deriving DecidableEq, Repr

namespace Progress

/-- The number of visits between two looks at the watch. -/
def lookInterval : Nat := 4096

/-- One more visited node, with the look that may be due. -/
def visit (p : Progress) : Progress :=
  let visits := p.visits + 1
  if visits % lookInterval = 0 then
    match p.watch.look with
    | (true, watch) => { p with visits, watch, done := true, stopped := some watch.cause }
    | (false, watch) => { p with visits, watch }
  else { p with visits }

/-- One more path, and the end of the walk when the limit is reached. -/
def record (p : Progress) (limit : Int) (path : Path) : Progress :=
  let found := path :: p.found
  { p with found, done := p.done || (decide (0 < limit) && decide (limit ≤ found.length)) }

end Progress

/-- A walk from `n` with the nodes of `stack` behind it, nearest first. -/
def walk (a : Adjacency) (allowed : Nat → Bool) (target : Nat) (limit : Int) :
    Nat → List Nat → Nat → Progress → Progress
  | 0, _, _, p => p
  | fuel + 1, stack, n, p =>
    if p.done then p
    else
      let p := p.visit
      if p.done then p
      else if n = target then p.record limit (n :: stack).reverse
      else
        (a.callees n).foldl (fun p s =>
          if p.done || (n :: stack).contains s || !allowed s then p
          else walk a allowed target limit fuel (n :: stack) s p) p

/-- Paths in lexicographic order, with the reason why some may be missing. -/
structure Listing where
  paths : List Path
  failure : Option PathError
  deriving DecidableEq, Repr

/-- The listing of a finished walk. -/
def Progress.listing (p : Progress) : Listing :=
  ⟨p.found.mergeSort Path.le, p.stopped.map .interrupted⟩

/-- The node of a number, if it is in the graph. -/
def Adjacency.node (a : Adjacency) (n : Int) : Except PathError Nat :=
  match n with
  | .ofNat k => if k < a.size then .ok k else .error (.outOfRange n a.size)
  | .negSucc _ => .error (.outOfRange n a.size)

namespace Enumerator

/-- The paths between two nodes of the graph, and the watch after the walk. -/
def paths (e : Enumerator) (a : Adjacency) (source target : Nat) (watch : Watch) :
    Listing × Watch :=
  let start : Progress := ⟨[], 0, false, watch, none⟩
  let finish (allowed : Nat → Bool) :=
    let p := walk a allowed target e.limit (a.size + 1) [] source start
    (p.listing, p.watch)
  match e.strategy with
  | .direct => finish fun _ => true
  | .pruned =>
    let relevant := backwardClosure a target
    if relevant.contains source then finish relevant.contains
    else (⟨[], none⟩, watch)

/-- The paths between two numbers, which have to be nodes of the graph. -/
def allPaths (e : Enumerator) (a : Adjacency) (source target : Int) (watch : Watch) : Listing :=
  match a.node source, a.node target with
  | .error failure, _ => ⟨[], some failure⟩
  | _, .error failure => ⟨[], some failure⟩
  | .ok s, .ok t => (e.paths a s t watch).1

end Enumerator

end Exposure
