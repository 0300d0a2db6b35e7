/-
# Expectation.Check — a result against what was expected of it

An expected failure is part of its text.  Otherwise the run has to succeed, the
reachable bugs and the listed paths have to be exactly the expected ones, and
the listed constructs, touch points, archives and statistics have to be there.
Every difference is a line of text; lines of one kind come by what is expected.
-/
import Exposure.Analysis.Run
import Exposure.Text.Quoted

namespace Exposure

set_option autoImplicit false

/-- What is expected of a run. -/
structure Expectation where
  /-- Part of the failure; empty if the run succeeds. -/
  error : String := ""
  /-- The bugs with a path. -/
  reachable : List String := []
  /-- The paths of the listed bugs. -/
  paths : Dict (List String) := .empty
  reachableConstructs : List String := []
  unreachableConstructs : List String := []
  touchPoints : List String := []
  /-- Whether there are no other touch points. -/
  exactTouchPoints : Bool := false
  /-- The archives with reachable constructs. -/
  archives : List String := []
  stats : Dict String := .empty

namespace Expectation

/-- Names in a row, as expectations write paths and touch points. -/
def chainText (names : List String) : String := Text.joined " -> " names

/-- The members of one list that another has not, sorted. -/
def without (xs ys : List String) : List String :=
  (xs.filter fun x => !ys.contains x).mergeSort fun a b => decide (a ≤ b)

/-- The differences between two sets. -/
def compareSets (what : String) (wanted got : List String) : List String :=
  (without wanted got).map (fun m => "missing " ++ what ++ ": " ++ m)
    ++ (without got wanted).map fun u => "unexpected " ++ what ++ ": " ++ u

/-- Those that are not among `got`, behind a word for it. -/
def lacking (text : String) (wanted got : List String) : List String :=
  (wanted.filter fun w => !got.contains w).map (text ++ ·)

/-! ## What a run found -/

/-- The reachable constructs of all archives. -/
def reachableProfiles (f : Option Findings) : List Profile :=
  (f.map fun f => f.digests.flatMap f.reachableOf).getD []

/-- The touch points of all archives. -/
def touchPointNames (f : Option Findings) : List String :=
  (f.map fun f => (f.digests.flatMap f.touchPointsOf).map fun t =>
    chainText [t.caller.name, t.callee.name]).getD []

/-! ## Differences -/

/-- The differences of a run that was to fail. -/
def errorMismatches (expected : String) (r : RunResult) : List String :=
  match r.error with
  | none => ["expected error containing " ++ Text.quoted expected ++ ", run succeeded"]
  | some e =>
    if Text.includes expected e.message then []
    else ["expected error containing " ++ Text.quoted expected ++ ", got " ++ Text.quoted e.message]

/-- The differences in the paths of the listed bugs. -/
def pathMismatches (e : Expectation) (r : RunResult) : List String :=
  e.paths.entries.flatMap fun (bug, wanted) =>
    let got := ((r.paths.get? bug).getD []).map fun p => chainText (p.constructs.map (·.name))
    compareSets ("path of " ++ bug) wanted got

/-- The searched bugs without a document among `files`. -/
def uploadMismatches (root : String) (files : FileTree) (r : RunResult) : List String :=
  r.paths.keys.filterMap fun bug =>
    let path := FilePath.join [root, "paths", Upload.fileName bug ++ ".json"]
    match files.status path with
    | .ok _ => none
    | .error e => some ("no paths document for " ++ bug ++ ": " ++ e.message)

def touchPointMismatches (e : Expectation) (r : RunResult) : List String :=
  let got := touchPointNames r.findings
  if e.exactTouchPoints then compareSets "touch point" e.touchPoints got
  else lacking "missing touch point: " e.touchPoints got

def statMismatches (e : Expectation) (r : RunResult) : List String :=
  e.stats.entries.filterMap fun (key, wanted) =>
    let got := r.stats.get? key
    if got == some wanted then none
    else some ("stat " ++ key ++ ": expected " ++ Text.quoted wanted ++ ", got "
      ++ Text.quoted (got.getD ""))

/-- The differences of a run that was to succeed and did. -/
def resultMismatches (e : Expectation) (root : String) (files : FileTree) (r : RunResult) :
    List String :=
  let profiles := reachableProfiles r.findings
  let reachable := profiles.map (·.name)
  compareSets "reachable bug" e.reachable r.reachable
    ++ e.pathMismatches r
    ++ uploadMismatches root files r
    ++ lacking "should have been reachable: " e.reachableConstructs reachable
    ++ (e.unreachableConstructs.filter reachable.contains).map
      ("should not have been reachable: " ++ ·)
    ++ lacking "archive without reachable constructs: " e.archives (profiles.map (·.locator))
    ++ e.touchPointMismatches r
    ++ e.statMismatches r

/-- All differences between a run, whose documents are below `root`, and what was expected. -/
def mismatches (e : Expectation) (root : String) (files : FileTree) (r : RunResult) : List String :=
  if e.error != "" then errorMismatches e.error r
  else
    match r.error with
    | some cause => ["run failed: " ++ cause.message]
    | none => e.resultMismatches root files r

/-- What is said of a run with some differences. -/
def verdict (e : Expectation) (mismatches : List String) : String :=
  if !mismatches.isEmpty then "Test failed: " ++ Nat.repr mismatches.length ++ " mismatches"
  else if e.error != "" then "got expected error"
  else "All expectations met"

end Expectation

end Exposure
