/-
# Path.Basic — adjacency and paths

An adjacency gives the neighbours of every node on both sides; a path is the
list of its nodes.  Paths are listed in lexicographic order.
-/
import Exposure.Graph.Callgraph

namespace Exposure

set_option autoImplicit false

/-- The neighbours of the nodes below `size`. -/
structure Adjacency where
  size : Nat
  callees : Nat → List Nat
  callers : Nat → List Nat

namespace Adjacency

/-- The adjacency of a list of callee lists: `i` calls `j` as often as `j` stands in
the list of `i`. -/
def ofLists (rows : List (List Nat)) : Adjacency :=
  let table := rows.toArray
  let callees := fun i => table[i]?.getD []
  { size := rows.length
    callees
    callers := fun j => (List.range rows.length).flatMap fun i =>
      (callees i).filterMap fun k => if k = j then some i else none }

end Adjacency

/-- The neighbours of the nodes of a call graph. -/
def Callgraph.adjacency (g : Callgraph) : Adjacency := ⟨g.size, g.callees, g.callers⟩

/-- A path: its nodes in order. -/
abbrev Path := List Nat

namespace Path

/-- The number of calls along a path. -/
def calls (p : Path) : Nat := p.length - 1

/-- Lexicographic order of node lists; a beginning comes before the whole. -/
def order : Path → Path → Ordering
  | [], [] => .eq
  | [], _ :: _ => .lt
  | _ :: _, [] => .gt
  | a :: as, b :: bs => (compare a b).then (order as bs)

/-- The lexicographic order as a test for sorting. -/
def le (p q : Path) : Bool := order p q != .gt

/-- The effective identities along a list of nodes, all of which have to be in
the graph. -/
def identities (g : Callgraph) (nodes : List Int) : Except NodeError (List Construct) :=
  nodes.mapM fun n => (g.describe n).map (·.effective)

end Path

end Exposure
