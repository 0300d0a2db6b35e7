/-
# Proofs.Trails — a walk goes along its trail

A walk that nothing stops comes to one node after the other.  The stacks it has
there, in this order, are its trail, which says where the walk goes but not what it
finds.  What it finds, counts and looks at is done node by node (`Progress.enter`),
and once it is done it passes the rest of the trail without a change.

So a walk is its steps, one for every stack of its trail (`walk_eq_foldl`), and
whatever one step keeps the walk keeps.
-/
import Exposure.Path.Enumeration

namespace Exposure

set_option autoImplicit false

/-- The stacks of a walk from `n` that nothing stops, in order, with the nodes of `stack` behind
it. -/
def trail (a : Adjacency) (allowed : Nat → Bool) (target : Nat) :
    Nat → List Nat → Nat → List (List Nat)
  | 0, _, _ => []
  | fuel + 1, stack, n =>
    (n :: stack) ::
      if n = target then []
      else
        (a.callees n).flatMap fun s =>
          if (n :: stack).contains s || !allowed s then []
          else trail a allowed target fuel (n :: stack) s

namespace Progress

/-- What a visit comes to: a look that finds the watch gone off, a look that does not, or no look at
all. -/
theorem visit_cases (p : Progress) :
    ((p.visits + 1) % lookInterval = 0 ∧ p.watch.quiet = some 0 ∧
      p.visit = { p with visits := p.visits + 1, done := true, stopped := some p.watch.cause }) ∨
    ((p.visits + 1) % lookInterval = 0 ∧ p.watch.quiet ≠ some 0 ∧
      p.visit = { p with
        visits := p.visits + 1, watch := ⟨p.watch.quiet.map (· - 1), p.watch.cause⟩ }) ∨
    ((p.visits + 1) % lookInterval ≠ 0 ∧ p.visit = { p with visits := p.visits + 1 }) := by
  obtain ⟨found, visits, done, ⟨quiet, cause⟩, stopped⟩ := p
  by_cases due : (visits + 1) % lookInterval = 0
  · cases quiet with
    | none => simp [Progress.visit, due, Watch.look]
    | some n => cases n <;> simp [Progress.visit, due, Watch.look]
  · simp [Progress.visit, due]

/-- One stack of a trail: a visit, and a path if the target is on top. -/
def enter (target : Nat) (limit : Int) (p : Progress) (stack : List Nat) : Progress :=
  if p.done then p
  else if p.visit.done then p.visit
  else if stack.head? = some target then p.visit.record limit stack.reverse
  else p.visit

variable {target : Nat} {limit : Int} {p : Progress}

theorem enter_of_done (done : p.done = true) (stack : List Nat) : p.enter target limit stack = p :=
  if_pos done

theorem foldl_enter_of_done (done : p.done = true) (row : List (List Nat)) :
    row.foldl (enter target limit) p = p := by
  induction row with
  | nil => rfl
  | cons stack row ih => rw [List.foldl_cons, enter_of_done done, ih]

/-- What a step comes to. -/
theorem enter_cases (target : Nat) (limit : Int) (p : Progress) (stack : List Nat) :
    (p.done = true ∧ p.enter target limit stack = p) ∨
    (p.done = false ∧ p.visit.done = true ∧ p.enter target limit stack = p.visit) ∨
    (p.done = false ∧ p.visit.done = false ∧ stack.head? = some target ∧
      p.enter target limit stack = p.visit.record limit stack.reverse) ∨
    (p.done = false ∧ p.visit.done = false ∧ stack.head? ≠ some target ∧
      p.enter target limit stack = p.visit) := by
  unfold enter
  cases p.done <;> cases p.visit.done <;> by_cases top : stack.head? = some target <;> simp [top]

theorem visits_enter (isOpen : p.done = false) (stack : List Nat) :
    (p.enter target limit stack).visits = p.visits + 1 := by
  have visited : p.visit.visits = p.visits + 1 := by
    rcases visit_cases p with ⟨-, -, eq⟩ | ⟨-, -, eq⟩ | ⟨-, eq⟩ <;> rw [eq]
  rcases p.enter_cases target limit stack with ⟨done, -⟩ | ⟨-, -, eq⟩ |
    ⟨-, -, -, eq⟩ | ⟨-, -, -, eq⟩
  · simp [isOpen] at done
  · rw [eq, visited]
  · rw [eq, Progress.record, visited]
  · rw [eq, visited]

end Progress

/-- **A walk is its steps along its trail.** -/
theorem walk_eq_foldl (a : Adjacency) (allowed : Nat → Bool) (target : Nat) (limit : Int) :
    ∀ (fuel : Nat) (stack : List Nat) (n : Nat) (p : Progress),
      walk a allowed target limit fuel stack n p =
        (trail a allowed target fuel stack n).foldl (.enter target limit) p
  | 0, _, _, _ => rfl
  | fuel + 1, stack, n, p => by
      rw [walk, trail, List.foldl_cons, Progress.enter]
      by_cases done : p.done = true
      · rw [if_pos done, if_pos done, Progress.foldl_enter_of_done done]
      rw [if_neg done, if_neg done]
      by_cases doneNow : p.visit.done = true
      · rw [if_pos doneNow, if_pos doneNow, Progress.foldl_enter_of_done doneNow]
      rw [if_neg doneNow, if_neg doneNow]
      by_cases here : n = target
      · simp [here]
      · have other : (n :: stack).head? ≠ some target := by simpa using here
        rw [if_neg here, if_neg here, if_neg other, List.foldl_flatMap]
        congr 1
        funext q s
        by_cases qDone : q.done = true
        · rw [Progress.foldl_enter_of_done qDone, qDone, Bool.true_or, Bool.true_or, if_pos rfl]
        · by_cases barred : ((n :: stack).contains s || !allowed s) = true
          · rw [Bool.or_assoc, barred, Bool.or_true, if_pos rfl, if_pos rfl, List.foldl_nil]
          · rw [Bool.or_assoc, Bool.eq_false_iff.2 qDone, Bool.false_or, if_neg barred,
              if_neg barred]
            exact walk_eq_foldl a allowed target limit fuel (n :: stack) s q

end Exposure
