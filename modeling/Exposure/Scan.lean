/-
# Scan — reachable library constructs and touch points

A scan goes through a range of nodes.  A library node that is not blacklisted
is a reachable construct of its archive; a call between the application and
such a node is a touch point of that node's archive.  Library nodes without a
digest belong to no archive and are only counted.

The node range is divided into ranges that tile it, each is scanned on its own
and the results are put together in order.
-/
import Exposure.Classification
import Exposure.Dict
import Exposure.Graph.Callgraph
import Exposure.Watch

namespace Exposure

set_option autoImplicit false

/-! ## Ranges -/

/-- The nodes from `low` up to and without `high`. -/
structure NodeRange where
  low : Int
  high : Int
  deriving DecidableEq, Repr

namespace NodeRange

/-- The number of nodes in a range. -/
def length (r : NodeRange) : Int := r.high - r.low

def text (r : NodeRange) : String :=
  "[" ++ Text.intText r.low ++ ", " ++ Text.intText r.high ++ ")"

end NodeRange

/-- Ranges that tile the nodes below `nodes`: `parts` of them, or one if that is not
positive, all of one length except that the last takes the remainder. -/
def partitions (nodes parts : Int) : List NodeRange :=
  let k := (max parts 1).toNat
  let n := (max nodes 0).toNat
  let step := n / k
  (List.range k).map fun i =>
    ⟨(i * step : Nat), if i + 1 = k then (n : Nat) else ((i + 1) * step : Nat)⟩

/-! ## Touch points -/

/-- Which side of a touch point is the application. -/
structure Direction where
  text : String
  deriving DecidableEq, Repr, Inhabited

namespace Direction

def appToLib : Direction := ⟨"app->lib"⟩
def libToApp : Direction := ⟨"lib->app"⟩

end Direction

/-- A call between the application and a library. -/
structure TouchPoint where
  caller : Profile
  callee : Profile
  direction : Direction
  deriving DecidableEq, Repr, Inhabited

namespace TouchPoint

/-- The library side of a touch point. -/
def library (t : TouchPoint) : Profile :=
  if t.direction = .libToApp then t.caller else t.callee

/-- Touch points are listed by the names of the caller and the callee. -/
def le (a b : TouchPoint) : Bool :=
  match compare a.caller.name b.caller.name with
  | .lt => true
  | .gt => false
  | .eq => decide (a.callee.name ≤ b.callee.name)

end TouchPoint

/-! ## Findings -/

/-- What a scan found, by the digest of the library side. -/
structure Findings where
  /-- The reachable constructs of every archive by their effective names. -/
  reachable : Dict (Dict Profile)
  /-- The touch points of every archive, each once, in the order in which they
  were found. -/
  touchPoints : Dict (List TouchPoint)
  /-- The number of library nodes without a digest. -/
  unattributed : Nat
  deriving DecidableEq

namespace Findings

def none : Findings := ⟨.empty, .empty, 0⟩

/-- The findings with a reachable library node. -/
def addReachable (f : Findings) (p : Profile) : Findings :=
  if p.isResolved then
    { f with reachable := f.reachable.alter p.digest fun known =>
        (known.getD .empty).insert p.name p }
  else { f with unattributed := f.unattributed + 1 }

/-- `known` with the touch points of `more` that it lacks. -/
def joinTouchPoints (known more : List TouchPoint) : List TouchPoint :=
  more.foldl (fun acc t => if acc.contains t then acc else acc ++ [t]) known

/-- The findings with a touch point, if its library side has an archive. -/
def addTouchPoint (f : Findings) (t : TouchPoint) : Findings :=
  if t.library.isResolved then
    { f with touchPoints := f.touchPoints.alter t.library.digest fun known =>
        joinTouchPoints (known.getD []) [t] }
  else f

/-- The findings of two scans, the later one last. -/
def merge (f later : Findings) : Findings where
  reachable := f.reachable.mergeWith Dict.overlay later.reachable
  touchPoints := f.touchPoints.mergeWith joinTouchPoints later.touchPoints
  unattributed := f.unattributed + later.unattributed

/-- The number of reachable constructs of all archives. -/
def reachableCount (f : Findings) : Nat := f.reachable.values.foldl (fun n d => n + d.size) 0

/-- The number of touch points of all archives. -/
def touchPointCount (f : Findings) : Nat := f.touchPoints.values.foldl (fun n ts => n + ts.length) 0

/-- The reachable constructs of an archive by effective name. -/
def reachableOf (f : Findings) (digest : String) : List Profile :=
  ((f.reachable.get? digest).getD .empty).values

/-- The touch points of an archive by the names of their ends. -/
def touchPointsOf (f : Findings) (digest : String) : List TouchPoint :=
  ((f.touchPoints.get? digest).getD []).mergeSort TouchPoint.le

/-- The digests of the archives with findings, in order. -/
def digests (f : Findings) : List String :=
  (f.touchPoints.keys.foldl (fun (d : Dict Unit) k => d.insert k ())
    (f.reachable.mapValues fun _ _ => ())).keys

end Findings

/-! ## Scanning -/

/-- The graph as a scan sees it.  What is known of a node may be unavailable, with
the reason. -/
structure ScanGraph where
  size : Nat
  callees : Nat → List Nat
  profile : Nat → Except String Profile

/-- A call graph as a scan sees it. -/
def Callgraph.scanGraph (g : Callgraph) : ScanGraph where
  size := g.size
  callees := g.callees
  profile i := (g.describe i).mapError (·.message)

/-- What a scan is told: how to classify names and whether to look for touch points. -/
structure Scanner where
  blacklist : Blacklist
  apps : AppIndex
  touchPoints : Bool
  deriving DecidableEq, Repr

/-- Why a range could not be scanned to its end. -/
inductive ScanError where
  | outsideGraph (range : NodeRange) (size : Nat)
  | interrupted (cause : Interrupt)
  deriving DecidableEq, Repr

namespace ScanError

def message : ScanError → String
  | .outsideGraph range size =>
    "range " ++ range.text ++ " outside graph of " ++ Nat.repr size ++ " nodes"
  | .interrupted cause => cause.message

end ScanError

namespace Scanner

/-- The touch point of a call, if it is one: `library` says on which side the library
node stands that was already found to count. -/
def touchPoint? (s : Scanner) (fromLibrary : Bool) (caller callee : Profile) : Option TouchPoint :=
  if fromLibrary then
    if s.apps.isApp callee.name then some ⟨caller, callee, .libToApp⟩ else none
  else if s.apps.isLibrary callee.name && !s.blacklist.covers callee.name then
    some ⟨caller, callee, .appToLib⟩
  else none

/-- The findings with the touch points of a node's calls, up to the first callee that
nothing is known of. -/
def addCalls (s : Scanner) (g : ScanGraph) (fromLibrary : Bool) (caller : Profile) :
    List Nat → Findings → Findings × Option String
  | [], f => (f, none)
  | j :: rest, f =>
    match g.profile j with
    | .error reason => (f, some reason)
    | .ok callee =>
      addCalls s g fromLibrary caller rest <|
        match s.touchPoint? fromLibrary caller callee with
        | some t => f.addTouchPoint t
        | none => f

/-- The findings with those of node `i`, and the reason why it was left, if it was. -/
def scanNode (s : Scanner) (g : ScanGraph) (f : Findings) (i : Nat) : Findings × Option String :=
  match g.profile i with
  | .error reason => (f, some reason)
  | .ok p =>
    let library := s.apps.isLibrary p.name
    if library && s.blacklist.covers p.name then (f, none)
    else
      let f := if library then f.addReachable p else f
      if s.touchPoints then s.addCalls g library p (g.callees i) f else (f, none)

/-- The number of nodes between two looks at the watch. -/
def lookInterval : Nat := 1024

/-- The record of a node that was left. -/
def skipped (range : NodeRange) (i : Nat) (reason : String) : Log.Record :=
  Log.warn "skipping node" [("node", .number i), ("range", .text range.text),
    ("error", .text ("scanning node: " ++ reason))]

/-- What came of scanning a range. -/
structure Outcome where
  findings : Findings
  failure : Option ScanError
  records : List Log.Record
  /-- The watch after the scan. -/
  watch : Watch

/-- Scans the nodes `i`, `i + 1`, … of `range`, `left` of them. -/
def scanFrom (s : Scanner) (g : ScanGraph) (range : NodeRange) :
    Nat → Nat → Outcome → Outcome
  | 0, _, o => o
  | left + 1, i, o =>
    let scan (o : Outcome) :=
      match s.scanNode g o.findings i with
      | (f, none) => { o with findings := f }
      | (f, some reason) =>
        { o with findings := f, records := o.records ++ [skipped range i reason] }
    if ((i : Int) - range.low) % lookInterval = 0 then
      match o.watch.look with
      | (true, watch) => { o with watch, failure := some (.interrupted watch.cause) }
      | (false, watch) => scanFrom s g range left (i + 1) (scan { o with watch })
    else scanFrom s g range left (i + 1) (scan o)

/-- Scans a range, which has to lie within the graph. -/
def run (s : Scanner) (g : ScanGraph) (range : NodeRange) (watch : Watch) :
    Except ScanError Outcome :=
  if range.low < 0 ∨ range.high > g.size ∨ range.low > range.high then
    .error (.outsideGraph range g.size)
  else
    .ok (s.scanFrom g range range.length.toNat range.low.toNat ⟨.none, none, [], watch⟩)

end Scanner

end Exposure
