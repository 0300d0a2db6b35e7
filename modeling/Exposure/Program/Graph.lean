/-
# Program.Graph — the call graph of constructs

A graph of functions becomes a graph of constructs: the functions of excluded
packages are dropped with their calls, and functions that share a name become
one vertex with the calls of all.  Vertices come by name, and so do the calls
of each function.
-/
import Exposure.Dict
import Exposure.Graph.Raw

namespace Exposure.Program

set_option autoImplicit false

/-- What a call graph keeps of a function. -/
structure Function where
  construct : Construct
  /-- The path of its package. -/
  path : String
  /-- Whether its package belongs to the application. -/
  isOwn : Bool
  deriving DecidableEq, Repr

/-- A function with those that it calls. -/
structure FunctionNode where
  function : Function
  callees : List Function
  deriving DecidableEq, Repr

/-- The nodes of the functions that are not excluded, by name. -/
def keptNodes (isExcluded : String → Bool) (nodes : List FunctionNode) : List FunctionNode :=
  (nodes.filter fun n => !isExcluded n.function.path).mergeSort
    fun a b => Construct.nameLe a.function.construct b.function.construct

/-- What a node calls, without what is excluded, by name. -/
def keptCallees (isExcluded : String → Bool) (n : FunctionNode) : List Construct :=
  let kept := (n.callees.filter fun f => !isExcluded f.path).map (·.construct)
  (Dict.ofList (kept.map fun c => (c.name, c))).values

/-- The graph with the calls of a node. -/
def addCalls (isExcluded : String → Bool) (g : Digraph) (n : FunctionNode) : Digraph :=
  (keptCallees isExcluded n).foldl (·.addEdge n.function.construct ·) g

/-- The graph of the constructs of functions. -/
def constructGraph (isExcluded : String → Bool) (nodes : List FunctionNode) : Digraph :=
  let kept := keptNodes isExcluded nodes
  let vertices := kept.foldl (fun g n => g.addVertex n.function.construct) Digraph.empty
  kept.foldl (addCalls isExcluded) vertices

/-- The constructs of the application among the functions that are not excluded. -/
def ownConstructs (isExcluded : String → Bool) (nodes : List FunctionNode) : ConstructSet :=
  .ofList (((keptNodes isExcluded nodes).filter (·.function.isOwn)).map (·.function.construct))

end Exposure.Program
