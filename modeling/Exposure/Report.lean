/-
# Report — what is printed of a run

A report lists the bugs of a run, sorted, with their paths, and the archives of
which something was found, sorted by their digests.  It is printed as lines of
text or as an indented document.
-/
import Exposure.Analysis.Run

namespace Exposure

set_option autoImplicit false

/-- A bug in a report. -/
structure BugReport where
  id : String
  paths : List PathRecord
  deriving DecidableEq, Repr

namespace BugReport

def isReachable (b : BugReport) : Bool := !b.paths.isEmpty

end BugReport

/-- An archive in a report. -/
structure ArchiveReport where
  digest : String
  locator : String
  reachable : Nat
  touchPoints : Nat
  deriving DecidableEq, Repr

/-- What is printed of a run. -/
structure Report where
  success : Bool
  error : String
  bugs : List BugReport
  archives : List ArchiveReport
  /-- The statistics, if there are any at all. -/
  stats : Option (Dict String)

namespace Report

/-- An archive with the locator of the first thing found in it. -/
def archive (f : Findings) (digest : String) : ArchiveReport :=
  let reachable := f.reachableOf digest
  let points := f.touchPointsOf digest
  let locators := reachable.map (·.locator) ++ points.map (·.library.locator)
  ⟨digest, locators.headD "", reachable.length, points.length⟩

/-- The archives of findings. -/
def archivesOf (f : Findings) : List ArchiveReport := f.digests.map (archive f)

/-- The report of a run. -/
def ofResult (r : RunResult) : Report where
  success := r.isSuccess
  error := (r.error.map (·.message)).getD ""
  bugs := r.paths.entries.map fun (id, paths) => ⟨id, paths⟩
  archives := (r.findings.map archivesOf).getD []
  stats := some r.stats

/-! ## Text -/

/-- The line of a path. -/
def pathLine (r : PathRecord) : String :=
  "  " ++ Text.joined " -> " (r.constructs.map (·.name)) ++ "\n"

/-- The lines of a bug; one that is not reachable has a line only in a full text. -/
def bugLines (full : Bool) (b : BugReport) : String :=
  if b.isReachable then
    b.id ++ ": reachable (" ++ Nat.repr b.paths.length ++ " paths)\n" ++
      String.join (b.paths.map pathLine)
  else if full then b.id ++ ": not reachable\n"
  else ""

def archiveLine (a : ArchiveReport) : String :=
  "archive " ++ a.locator ++ " (" ++ a.digest ++ "): " ++ Nat.repr a.reachable
    ++ " reachable constructs, " ++ Nat.repr a.touchPoints ++ " touch points\n"

/-- The report as lines; the full text has the bugs that are not reachable and the archives. -/
def text (r : Report) (full : Bool) : String :=
  (if r.success then "" else "analysis failed: " ++ r.error ++ "\n")
    ++ String.join (r.bugs.map (bugLines full))
    ++ (if full then String.join (r.archives.map archiveLine) else "")

/-! ## Documents -/

def bugTree (b : BugReport) : JsonText.Tree :=
  .object ([("id", .text b.id), ("reachable", .flag b.isReachable)]
    ++ if b.isReachable then [("paths", .list (b.paths.map JsonText.ofPathRecord))] else [])

def archiveTree (a : ArchiveReport) : JsonText.Tree :=
  .object [("digest", .text a.digest), ("locator", .text a.locator),
    ("reachable_constructs", .number a.reachable), ("touch_points", .number a.touchPoints)]

def statsTree : Option (Dict String) → JsonText.Tree
  | none => .null
  | some stats => .object (stats.entries.map fun (k, v) => (k, .text v))

/-- The report as a document. -/
def tree (r : Report) (version time : String) : JsonText.Tree :=
  .object ([("success", .flag r.success)]
    ++ (if r.error == "" then [] else [("error", .text r.error)])
    ++ [("bugs", JsonText.listOrNull (r.bugs.map bugTree))]
    ++ (if r.archives.isEmpty then [] else [("archives", .list (r.archives.map archiveTree))])
    ++ [("stats", statsTree r.stats), ("version", .text version), ("timestamp", .text time)])

end Report

end Exposure
