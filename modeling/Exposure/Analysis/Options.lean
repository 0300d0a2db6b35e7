/-
# Analysis.Options — how a run goes about its work

The pool size is the fixed number of workers, or a factor for every processor;
with 64 bits the product may wrap around.
-/
import Exposure.Number.Integer
import Exposure.Path.Enumeration
import Exposure.Regex.Pattern

namespace Exposure

set_option autoImplicit false

/-- A pattern that keeps entry points by their name. -/
structure EntryFilter where
  pattern : String
  regex : Regex
  deriving DecidableEq, Repr

namespace EntryFilter

/-- The filter that a pattern describes. -/
def ofPattern (pattern : String) : Except Regex.Fault EntryFilter :=
  (Regex.ofPattern pattern).map fun regex => ⟨pattern, regex⟩

def keeps (f : EntryFilter) (name : String) : Bool := f.regex.isMatch name

end EntryFilter

/-- How a run goes about its work. -/
structure Options where
  /-- Nanoseconds until the run is given up; not positive means never. -/
  timeout : Int := 0
  /-- One shortest path for each entry point in place of all paths. -/
  shortestOnly : Bool := false
  touchPoints : Bool := false
  /-- Uploaded paths for each target; not positive means all. -/
  maxPaths : Int := 0
  /-- The fixed size of the pool; not positive means a factor for every processor. -/
  workers : Int := 0
  workerFactor : Int := 0
  enumerator : Enumerator := ⟨.pruned, 0⟩
  strict : Bool := false
  entryFilter : Option EntryFilter := none
  statusInterval : Int := 0
  platform : Option (List String) := none
  custom : Option (List String) := none
  /-- The constructs of the application, in place of what the builder lists. -/
  apps : Option ConstructSet := none

namespace Options

/-- The time between two status records, unless something else is asked for: half a minute. -/
def defaultStatusInterval : Int := 30000000000

/-- The number of workers on a machine with `processors` processors. -/
def poolSize (o : Options) (processors : Nat) : Int :=
  if 0 < o.workers then o.workers else Number.wrap (max o.workerFactor 1 * processors)

end Options

end Exposure
