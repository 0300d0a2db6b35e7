/-
# Path.Shortest — distances and shortest paths to a target

Both searches go backward from the target, one level of callers after another.
`distancesTo` gives every node its distance; `shortestPathsTo` gives every node
met a shortest path, and with a set of nodes to stop at it ends after the first
level in which one of them was met.

A level that is not the last one brings a node that was not met before, so
there are at most as many levels as nodes.
-/
import Exposure.Path.Basic

namespace Exposure

set_option autoImplicit false

/-! ## Distances -/

/-- The distances after the callers of one level, and the next level. -/
def distanceLevel (a : Adjacency) (d : Nat) (level : List Nat) (known : List (Nat × Nat)) :
    List Nat × List (Nat × Nat) :=
  level.foldl (fun acc n =>
    (a.callers n).foldl (fun (next, known) c =>
      if (known.lookup c).isSome then (next, known) else (next ++ [c], known ++ [(c, d)])) acc)
    ([], known)

/-- Level after level from distance `d` on, until a level is empty. -/
def distanceLevels (a : Adjacency) : Nat → Nat → List Nat → List (Nat × Nat) → List (Nat × Nat)
  | 0, _, _, known => known
  | _ + 1, _, [], known => known
  | fuel + 1, d, level, known =>
    match distanceLevel a d level known with
    | (next, known) => distanceLevels a fuel (d + 1) next known

/-- The nodes that reach `target`, in the order in which they were met, each with
the length of a shortest path. -/
def distances (a : Adjacency) (target : Nat) : List (Nat × Nat) :=
  distanceLevels a (a.size + 1) 1 [target] [(target, 0)]

/-- The distance of every node to `target`; `none` where it cannot be reached. -/
def distancesTo (a : Adjacency) (target : Nat) : List (Option Nat) :=
  let known := distances a target
  (List.range a.size).map fun n => known.lookup n

/-! ## Shortest paths -/

/-- A search for shortest paths after part of a level. -/
structure Frontier where
  /-- The next level so far. -/
  next : List Nat
  /-- Every node met, with its path to the target. -/
  known : List (Nat × Path)
  /-- Whether a node to stop at was met in this level. -/
  halted : Bool

/-- The search after `c`, met as a caller of a node with path `path`. -/
def Frontier.meet (stops : Nat → Bool) (path : Path) (f : Frontier) (c : Nat) : Frontier :=
  if (f.known.lookup c).isSome then f
  else ⟨f.next ++ [c], f.known ++ [(c, c :: path)], f.halted || stops c⟩

/-- The search after the callers of one level. -/
def shortestLevel (a : Adjacency) (stops : Nat → Bool) (level : List Nat)
    (known : List (Nat × Path)) : Frontier :=
  level.foldl (fun f n =>
    (a.callers n).foldl (Frontier.meet stops ((f.known.lookup n).getD [])) f) ⟨[], known, false⟩

/-- Level after level, until one is empty or a node to stop at was met. -/
def shortestLevels (a : Adjacency) (stops : Nat → Bool) :
    Nat → List Nat → List (Nat × Path) → List (Nat × Path)
  | 0, _, known => known
  | _ + 1, [], known => known
  | fuel + 1, level, known =>
    let f := shortestLevel a stops level known
    if f.halted then f.known else shortestLevels a stops fuel f.next f.known

/-- A shortest path to `target` for every node met, in the order in which they were
met; the target has the path of itself alone. -/
def shortestPathsTo (a : Adjacency) (target : Nat) (stops : Nat → Bool) : List (Nat × Path) :=
  let start := [(target, [target])]
  if stops target then start else shortestLevels a stops (a.size + 1) [target] start

end Exposure
