/-
# Graph.Raw — graphs over constructs

A raw graph is what a construction engine delivers: a list of vertices and, for
a vertex, the constructs called from it.  Nothing is promised about it: names
may repeat, vertices of one name may call different constructs, and callees need
not be listed as vertices.

A `Digraph` is a raw graph grown by `addVertex` and `addEdge`.  It keeps the
order of first mention, holds one construct for a name and one edge for a pair
of names.
-/
import Exposure.Construct.Set

namespace Exposure

set_option autoImplicit false

/-- Vertices in some order, and the callees of every construct. -/
structure RawGraph where
  vertices : List Construct
  callees : Construct → List Construct

/-- A graph of constructs in the order in which they were mentioned. -/
structure Digraph where
  /-- The constructs mentioned so far; the first of a name counts. -/
  members : ConstructSet
  /-- The edges in the order of their addition: caller's name, callee. -/
  edges : List (String × Construct)

namespace Digraph

/-- The graph without vertices. -/
def empty : Digraph := ⟨.empty, []⟩

instance : Inhabited Digraph := ⟨empty⟩

/-- The vertices in the order of their first mention. -/
def vertices (g : Digraph) : List Construct := g.members.members

/-- The vertex of this name, if there is one. -/
def vertex? (g : Digraph) (name : String) : Option Construct :=
  g.vertices.find? (·.name == name)

/-- The graph with the vertex `v`. -/
def addVertex (g : Digraph) (v : Construct) : Digraph := { g with members := g.members.add v }

/-- Whether the edge between two names is there. -/
def hasEdge (g : Digraph) (caller callee : String) : Bool :=
  g.edges.any fun e => e.1 == caller && e.2.name == callee

/-- The graph with an edge and both its ends. -/
def addEdge (g : Digraph) (caller callee : Construct) : Digraph :=
  let g := (g.addVertex caller).addVertex callee
  if g.hasEdge caller.name callee.name then g
  else { g with edges := g.edges ++ [(caller.name, (g.vertex? callee.name).getD callee)] }

/-- The constructs called from `name`, in the order in which their edges came. -/
def callees (g : Digraph) (name : String) : List Construct :=
  (g.edges.filter fun e => e.1 == name).map (·.2)

/-- The number of vertices. -/
def size (g : Digraph) : Nat := g.members.size

/-- The number of edges. -/
def edgeCount (g : Digraph) : Nat := g.edges.length

/-- A grown graph as a raw one. -/
def toRaw (g : Digraph) : RawGraph := ⟨g.vertices, fun v => g.callees v.name⟩

/-- The vertices, each with its callees. -/
def rows (g : Digraph) : List (Construct × List Construct) :=
  g.vertices.map fun v => (v, g.callees v.name)

end Digraph

end Exposure
