/-
# Analysis.Search — the paths of one bug

For each target of a bug that is in the graph and each entry point, the paths
between the two are enumerated, or one shortest path is taken.  The first
enumeration that fails ends the search of the bug; a panic counts as a failure.
A summary of several searches keeps the least, the largest and the mean of path
lengths and of the numbers of targets.
-/
import Exposure.Number.Binary64
import Exposure.Path.Enumeration
import Exposure.Path.Shortest
import Exposure.Upload.Basic

namespace Exposure

set_option autoImplicit false

/-! ## Enumerations -/

/-- What the enumeration of the paths between two nodes comes to. -/
inductive Enumerated where
  | found (paths : List Path)
  | failed (message : String)
  | panicked (message : String)
  /-- The enumeration has not come back. -/
  | stalled
  deriving DecidableEq, Repr

/-- Enumerates the paths from a source to a target, with the watch after that. -/
abbrev PathSearch := Callgraph → Nat → Nat → Watch → Enumerated × Watch

/-- A listing is found unless something is missing from it. -/
def Listing.enumerated (l : Listing) : Enumerated :=
  match l.failure with
  | none => .found l.paths
  | some e => .failed e.message

/-- The search of an enumerator. -/
def Enumerator.search (e : Enumerator) : PathSearch := fun g source target watch =>
  match e.paths g.adjacency source target watch with
  | (listing, watch) => (listing.enumerated, watch)

/-! ## Bugs -/

/-- What the search of a bug comes to. -/
inductive BugSearch where
  | found (paths : List Path)
  | failed (message : String)
  | stalled
  deriving DecidableEq, Repr

/-- The nodes that the targets denote, in the order of the targets' names. -/
def targetNodes (g : Callgraph) (targets : ConstructSet) : List Nat :=
  targets.names.filterMap g.index?

/-- The paths between pairs of nodes, after those found before. -/
def searchPairs (search : PathSearch) (g : Callgraph) :
    List (Nat × Nat) → Watch → List Path → BugSearch
  | [], _, found => .found found
  | (source, target) :: rest, watch, found =>
    match search g source target watch with
    | (.found paths, watch) => searchPairs search g rest watch (found ++ paths)
    | (.failed m, _) => .failed m
    | (.panicked m, _) => .failed ("panic: " ++ m)
    | (.stalled, _) => .stalled

/-- The pairs to be searched: target after target, each from every entry. -/
def searchedPairs (entries targets : List Nat) : List (Nat × Nat) :=
  targets.flatMap fun t => entries.map (·, t)

/-- One shortest path to a target from each entry that has one. -/
def shortestFromEntries (g : Callgraph) (entries : List Nat) (target : Nat) : List Path :=
  let known := shortestPathsTo g.adjacency target entries.contains
  entries.filterMap fun e => known.lookup e

/-- The search of one bug. -/
def searchBug (shortestOnly : Bool) (search : PathSearch) (g : Callgraph) (entries : List Nat)
    (targets : ConstructSet) (watch : Watch) : BugSearch :=
  let nodes := targetNodes g targets
  if shortestOnly then .found (nodes.flatMap (shortestFromEntries g entries))
  else searchPairs search g (searchedPairs entries nodes) watch []

/-- The record of a path.  There is none of a path without nodes, or with a node that is not in
the graph. -/
def pathRecord (g : Callgraph) (bug : String) (p : Path) : Option PathRecord :=
  match Path.identities g (p.map Int.ofNat) with
  | .ok chain => PathRecord.ofChain bug chain
  | .error _ => none

/-- The records of a bug's paths, provided that every path has one. -/
def pathRecords (g : Callgraph) (bug : String) (paths : List Path) : Option (List PathRecord) :=
  paths.mapM (pathRecord g bug)

/-! ## Summaries -/

/-- The least, the largest, the sum and the number of some numbers. -/
structure Spread where
  count : Nat := 0
  sum : Nat := 0
  least : Nat := 0
  largest : Nat := 0
  deriving DecidableEq, Repr

namespace Spread

def add (s : Spread) (v : Nat) : Spread where
  count := s.count + 1
  sum := s.sum + v
  least := if s.count = 0 || v < s.least then v else s.least
  largest := if s.count = 0 || s.largest < v then v else s.largest

/-- The mean with two places. -/
def mean (s : Spread) : String := (Number.Binary64.ofRatio false s.sum s.count).twoPlaces

/-- The statistics under a name; there are none of no numbers. -/
def stats (s : Spread) (name : String) : List (String × String) :=
  if s.count = 0 then []
  else [(name ++ "_min", Nat.repr s.least), (name ++ "_avg", s.mean),
    (name ++ "_max", Nat.repr s.largest)]

end Spread

/-- What several searches came to. -/
structure SearchSummary where
  /-- The number of bugs with a path. -/
  reachable : Nat := 0
  lengths : Spread := {}
  targets : Spread := {}
  deriving DecidableEq, Repr

namespace SearchSummary

/-- One more search, with the number of its targets in the graph. -/
def add (s : SearchSummary) (paths : List Path) (present : Nat) : SearchSummary where
  reachable := if paths.isEmpty then s.reachable else s.reachable + 1
  lengths := paths.foldl (fun l p => l.add p.calls) s.lengths
  targets := s.targets.add present

def stats (s : SearchSummary) : List (String × String) :=
  ("bugs_reachable", Nat.repr s.reachable)
    :: (s.lengths.stats "path_len" ++ s.targets.stats "target_count")

end SearchSummary

end Exposure
