/-
# Analysis.Measure — what a run counts

While it goes on, a run notes measures: how it ended, which phases it finished,
how large the graph is, what came of every bug, how long the paths are, how many
nodes were scanned and which uploads went through.
-/
import Exposure.Upload.Basic

namespace Exposure

set_option autoImplicit false

/-- How a run ended. -/
inductive RunOutcome where
  | success
  | failure
  | timeout
  deriving DecidableEq, Repr

/-- The parts of a run. -/
inductive Phase where
  | construct
  | search
  | scan
  deriving DecidableEq, Repr

/-- What came of a bug. -/
inductive BugOutcome where
  | reachable
  | unreachable
  | failed
  deriving DecidableEq, Repr

/-- One thing that is counted. -/
inductive Measure where
  | run (outcome : RunOutcome)
  | phase (p : Phase)
  | graphSize (nodes edges : Nat)
  | bug (outcome : BugOutcome)
  | pathLength (calls : Nat)
  | scanned (nodes : Int)
  | upload (kind : String) (succeeded : Bool)
  deriving DecidableEq, Repr

end Exposure
