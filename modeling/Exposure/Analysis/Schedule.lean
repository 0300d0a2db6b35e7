/-
# Analysis.Schedule — the schedule of an undisturbed run

Rounds in which every party makes one step bring a run as far as it comes by
itself.  Then it has ended, or it waits for a builder or a worker that does not
come back; in that case what was to cut it short does so.
-/
import Exposure.Analysis.Run

namespace Exposure

set_option autoImplicit false

/-- What cuts a run short that does not end by itself. -/
inductive Cutoff where
  | nothing
  | timer
  | caller (cause : Interrupt)
  deriving DecidableEq, Repr

namespace RunState

/-- One step of every party but the front. -/
def round (a : Analysis) (bugs : Dict ConstructSet) (s : RunState) : RunState :=
  let s := s.step a bugs (.pipeline false none)
  let s := (List.range s.searches.length).foldl (fun s i => s.step a bugs (.search i none)) s
  (List.range s.scans.length).foldl (fun s i => s.step a bugs (.scan i none)) s

def hasEnded (s : RunState) : Bool :=
  match s.stage with
  | .ended _ => true
  | _ => false

/-- Rounds until the pipeline has ended, but no more than a given number. -/
def rounds (a : Analysis) (bugs : Dict ConstructSet) : Nat → RunState → RunState
  | 0, s => s
  | n + 1, s => if s.hasEnded then s else rounds a bugs n (s.round a bugs)

/-- The notes that the pipeline has still to write. -/
def notesLeft (s : RunState) : Nat :=
  match s.stage with
  | .noting notes _ => notes.length
  | _ => 0

/-- Enough rounds for the rest of a run: a worker of a bug takes five, and every node is at
most a range of its own and in an archive of its own. -/
def roundsLeft (bugs : Dict ConstructSet) (s : RunState) : Nat :=
  64 + s.notesLeft + 8 * bugs.size + 8 * (s.prepared.map (·.graph.size)).getD 0

/-- The notes of the front, and its return. -/
def closeAll (a : Analysis) (bugs : Dict ConstructSet) (s : RunState) : RunState :=
  match s.front with
  | .closing notes _ => s.steps a bugs (List.replicate (notes.length + 1) .close)
  | _ => s

/-- A run that goes as far as it comes by itself, cut short only if it has not ended by then. -/
def undisturbed (a : Analysis) (bugs : Dict ConstructSet) (cutoff : Cutoff) (outbox : Outbox) :
    RunState :=
  let s := ({ outbox } : RunState).round a bugs
  let s := s.rounds a bugs (s.roundsLeft bugs)
  if s.hasEnded then (s.step a bugs (.conclude .done)).closeAll a bugs
  else
    match cutoff with
    | .nothing => s
    | .timer => (s.steps a bugs [.ring, .conclude .timeout]).closeAll a bugs
    | .caller cause => (s.steps a bugs [.cancel cause, .conclude .caller]).closeAll a bugs

end RunState

end Exposure
