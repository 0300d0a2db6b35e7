/-
# Graph.Callgraph — the indexed call graph

Importing a raw graph numbers its constructs in the order in which they are
first met, as a vertex or as a callee, and records every call once, at both of
its ends.  What is known of a node is found out when it gets its number.

A construct is looked up by the name it was reported under and, failing that,
by the name that some node has without its synthetic parts; of several such
nodes the first one met answers.
-/
import Exposure.Graph.Profile
import Exposure.Graph.Raw
import Exposure.Text.Cut

namespace Exposure

set_option autoImplicit false

/-- A node: what is known of it, and the nodes it calls and is called by. -/
structure Node where
  profile : Profile
  callees : List Nat
  callers : List Nat
  deriving DecidableEq, Repr, Inhabited

/-- A call graph whose nodes are numbered from zero. -/
structure Callgraph where
  nodes : Array Node
  /-- The number of calls. -/
  edgeCount : Nat
  /-- What was found out about archives while importing. -/
  provenance : Provenance

/-- Why a question about a node has no answer. -/
inductive NodeError where
  /-- The node is not in the graph of `size` nodes. -/
  | outOfRange (node : Int) (size : Nat)
  /-- The node has no list of neighbours. -/
  | noNeighbours (node : Int)
  deriving DecidableEq, Repr

namespace NodeError

def message : NodeError → String
  | .outOfRange node size =>
    "callgraph: node index " ++ Text.intText node ++ " out of range [0, " ++ Nat.repr size ++ ")"
  | .noNeighbours node => "node " ++ Text.intText node ++ " has no neighbours"

end NodeError

namespace Callgraph

def empty : Callgraph := ⟨#[], 0, .empty⟩

/-- The number of nodes. -/
def size (g : Callgraph) : Nat := g.nodes.size

/-- What is known of node `i`. -/
def profile? (g : Callgraph) (i : Nat) : Option Profile := g.nodes[i]?.map (·.profile)

/-- The nodes that `i` calls. -/
def callees (g : Callgraph) (i : Nat) : List Nat := (g.nodes[i]?.map (·.callees)).getD []

/-- The nodes that call `i`. -/
def callers (g : Callgraph) (i : Nat) : List Nat := (g.nodes[i]?.map (·.callers)).getD []

/-! ## Looking up -/

/-- The node that was reported under `name`. -/
def reportedIndex? (g : Callgraph) (name : String) : Option Nat :=
  g.nodes.findIdx? fun n => n.profile.reported.name == name

/-- The first node whose name without synthetic parts is `name`. -/
def normalizedIndex? (g : Callgraph) (name : String) : Option Nat :=
  g.nodes.findIdx? fun n => !n.profile.normalized.isNameless && n.profile.normalized.name == name

/-- The node that `name` denotes. -/
def index? (g : Callgraph) (name : String) : Option Nat :=
  (g.reportedIndex? name).or (g.normalizedIndex? name)

/-! ## Importing -/

/-- The node of a construct, numbered next if it is new. -/
def intern (resolver : Resolver) (g : Callgraph) (c : Construct) : Nat × Callgraph :=
  match g.reportedIndex? c.name with
  | some i => (i, g)
  | none =>
    match g.provenance.describe resolver c with
    | (profile, provenance) =>
      (g.size, { g with nodes := g.nodes.push ⟨profile, [], []⟩, provenance })

/-- The graph with the call from `i` to `j`, recorded at both ends. -/
def connect (g : Callgraph) (i j : Nat) : Callgraph :=
  if (g.callees i).contains j then g
  else
    { g with
      nodes := (g.nodes.modify i fun n => { n with callees := n.callees ++ [j] }).modify j
        fun n => { n with callers := n.callers ++ [i] }
      edgeCount := g.edgeCount + 1 }

/-- The graph with a call from node `i` to a construct. -/
def addCallee (resolver : Resolver) (i : Nat) (g : Callgraph) (c : Construct) : Callgraph :=
  match g.intern resolver c with
  | (j, g) => g.connect i j

/-- The graph with a vertex of `raw` and all its calls. -/
def addVertex (raw : RawGraph) (resolver : Resolver) (g : Callgraph) (v : Construct) : Callgraph :=
  match g.intern resolver v with
  | (i, g) => (raw.callees v).foldl (addCallee resolver i) g

/-- The call graph of a raw graph. -/
def ofRaw (raw : RawGraph) (resolver : Resolver) : Callgraph :=
  raw.vertices.foldl (addVertex raw resolver) empty

/-! ## Questions about a node -/

/-- The node with this number, which has to be in the graph. -/
def node (g : Callgraph) (i : Int) : Except NodeError Node :=
  match i with
  | .ofNat n => match g.nodes[n]? with
    | some node => .ok node
    | none => .error (.outOfRange i g.size)
  | .negSucc _ => .error (.outOfRange i g.size)

/-- The construct that node `i` was reported as. -/
def identity (g : Callgraph) (i : Int) : Except NodeError Construct :=
  (g.node i).map (·.profile.reported)

/-- What is known of node `i`. -/
def describe (g : Callgraph) (i : Int) : Except NodeError Profile := (g.node i).map (·.profile)

/-- The neighbours of node `i` on one side. -/
def neighbours (g : Callgraph) (side : Node → List Nat) (i : Int) : Except NodeError (List Nat) :=
  match g.node i with
  | .ok n => .ok (side n)
  | .error _ => .error (.noNeighbours i)

/-- The constructs whose archive is not known. -/
def unresolved (g : Callgraph) : ConstructSet := g.provenance.unresolved

end Callgraph

end Exposure
