/-
# Watch — looking out for an interruption

A long computation looks at its watch from time to time and stops once the
watch has gone off.  How many looks still find it quiet is all that matters to
the computation, so that number is the watch: with `none` it never goes off,
with `some n` it goes off at look `n + 1` and stays so.
-/

namespace Exposure

set_option autoImplicit false

/-- Why a computation was told to stop. -/
inductive Interrupt where
  | cancelled
  | deadline
  deriving DecidableEq, Repr

namespace Interrupt

def message : Interrupt → String
  | .cancelled => "context canceled"
  | .deadline => "context deadline exceeded"

end Interrupt

/-- A watch: the number of looks that still find it quiet, and what it says
once it has gone off. -/
structure Watch where
  quiet : Option Nat
  cause : Interrupt
  deriving DecidableEq, Repr

namespace Watch

/-- The watch that never goes off. -/
def silent : Watch := ⟨none, .cancelled⟩

/-- The watch that has gone off. -/
def ringing (cause : Interrupt) : Watch := ⟨some 0, cause⟩

/-- One look: whether the watch has gone off, and the watch after it. -/
def look (w : Watch) : Bool × Watch :=
  match w.quiet with
  | none => (false, w)
  | some 0 => (true, w)
  | some (n + 1) => (false, { w with quiet := some n })

end Watch

end Exposure
