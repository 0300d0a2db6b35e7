/-
# Program.Build — building the call graph of a program

The packages are loaded, the entry points looked up, and the functions that the
algorithm takes become the graph.  Entry points that are missing fail a strict
build and are dropped by any other; `rta` cannot do without one.
-/
import Exposure.Algorithm
import Exposure.Analysis.Builder
import Exposure.Program.Entries
import Exposure.Program.Graph

namespace Exposure.Program

set_option autoImplicit false

/-- What a build of a program is asked for. -/
structure Request where
  patterns : List String := []
  /-- Whether tests are loaded too. -/
  tests : Bool := false
  /-- The name of the algorithm. -/
  algorithm : String := ""
  /-- The packages whose functions are left out. -/
  exclude : List String := []
  /-- The names of the entry points; the default ones when there are none. -/
  entryPoints : List String := []

/-- Why there is no call graph of a program. -/
inductive Failure where
  | load (e : LoadFailure)
  | interrupted (cause : Interrupt)
  | missingEntryPoints (names : List String)
  | unknownAlgorithm (name : String)
  | noEntryPoints
  deriving DecidableEq, Repr

namespace Failure

def message : Failure → String
  | .load e => e.message
  | .interrupted cause => cause.message
  | .missingEntryPoints names => "entry point not found: " ++ Text.joined ", " names
  | .unknownAlgorithm name => Algorithm.unknownText ++ " " ++ Text.quoted name
  | .noEntryPoints => "rta needs at least one entry point"

/-- The error for a run. -/
def toBuildError : Failure → BuildError
  | .interrupted cause => .interrupted cause
  | e@(.missingEntryPoints _) => .missingEntryPoint e.message
  | e@(.unknownAlgorithm _) => .unknownAlgorithm e.message
  | e => .other e.message

end Failure

/-- The call graph of a program. -/
structure BuiltProgram where
  graph : Digraph
  entries : ConstructSet
  apps : ConstructSet
  modules : Modules
  records : List Log.Record

/-! ## The functions of a graph -/

/-- The functions that `rta` takes: the first entry point, those that are entered indirectly,
and both ends of every call that can be reached. -/
def reachedFunctions (bodies : List FunctionBody) (entries : List Entry) : List FunctionKey :=
  let reached := calledFrom bodies (entries.map (·.function))
  let ends := reached.flatMap fun k =>
    match calleesIn bodies k with
    | [] => []
    | callees => k :: callees
  ((entries.take 1 ++ entries.filter (·.isIndirect)).map (·.function) ++ ends).eraseDups

/-- The functions that an algorithm takes. -/
def graphFunctions (ps : List Package) (bodies : List FunctionBody) (entries : List Entry) :
    Algorithm → List FunctionKey
  | .static => staticFunctions ps bodies
  | .cha => hierarchyFunctions ps bodies
  | .vta => hierarchyFunctions ps bodies
  | .rta => reachedFunctions bodies entries

/-- What a graph keeps of a function. -/
def functionOf (own : List String) (k : FunctionKey) : Function :=
  ⟨k.construct, k.path, own.contains k.path⟩

/-- The functions of a graph with their calls. -/
def graphNodes (own : List String) (bodies : List FunctionBody) (keys : List FunctionKey) :
    List FunctionNode :=
  keys.map fun k => ⟨functionOf own k, (calleesIn bodies k).map (functionOf own)⟩

/-! ## Building -/

/-- The entry points of a program, and the records of looking them up. -/
def findEntries (request : Request) (strict : Bool) (loaded : Loaded) (bodies : List FunctionBody) :
    Except Failure (List Entry × List Log.Record) :=
  if request.entryPoints.isEmpty then .ok (defaultEntries loaded, [])
  else
    match namedEntries request.entryPoints (hierarchyFunctions loaded.packages bodies) with
    | (entries, []) => .ok (entries, [])
    | (entries, missing) =>
      if strict then .error (.missingEntryPoints missing)
      else .ok (entries, [Log.warn "entry points not found" [("entry_points", .texts missing)]])

/-- Builds the call graph of loaded packages. -/
def buildLoaded (request : Request) (strict : Bool) (watch : Watch) (loaded : Loaded) :
    Except Failure BuiltProgram :=
  let ps := loaded.packages
  let bodies := allBodies ps
  let (rang, watch) := watch.look
  if rang then .error (.interrupted watch.cause)
  else
    match findEntries request strict loaded bodies with
    | .error e => .error e
    | .ok (entries, records) =>
      match Algorithm.ofName? request.algorithm with
      | none => .error (.unknownAlgorithm request.algorithm)
      | some algorithm =>
        if algorithm == .rta && entries.isEmpty then .error .noEntryPoints
        else
          let own := (ps.filter (·.isOwn)).map (·.path)
          let nodes := graphNodes own bodies (graphFunctions ps bodies entries algorithm)
          let isExcluded := PackagePath.isExcluded request.exclude
          .ok {
            graph := constructGraph isExcluded nodes
            entries := .ofList (entries.map (·.construct))
            apps := ownConstructs isExcluded nodes
            modules := .ofPackages (ps.map fun p => (p.path, p.module)) []
            records := records }

/-- Builds the call graph of the packages that a request names, if there are any to load from. -/
def build (request : Request) (strict : Bool) (watch : Watch) (packages : Option (List Package)) :
    Except Failure BuiltProgram :=
  match packages.elim (.error .noLoader) (load request.patterns request.tests) with
  | .error e => .error (.load e)
  | .ok loaded => buildLoaded request strict watch loaded

/-- A program as a builder. -/
def builder (request : Request) (packages : Option (List Package)) : Builder where
  build strict watch :=
    match build request strict watch packages with
    | .ok b =>
      .built {
        graph := b.graph.toRaw
        entries := b.entries
        apps := some b.apps
        resolver := some b.modules.resolver
        records := b.records }
    | .error e => .failed e.toBuildError

end Exposure.Program
