/-
# Proofs.Reach — reachability and simple paths of an adjacency

`Reaches a s t` is reachability by zero or more calls, and `IsPath a s t p` says
that `p` is a simple path: distinct nodes from `s` to `t`, each of which calls
the next.  The two agree (`reaches_iff_exists_isPath`), and a simple path has no
more nodes than the graph (`IsPath.length_le`).

The backward closure of a target is exactly the set of nodes that reach it
(`mem_backwardClosure`).  Its rounds keep `Closing`: every marked node reaches
the target, and the callers of a marked node are marked unless it is pending.  A
round takes one node off the pending ones and puts back only nodes that it
marks, so the unmarked and the pending ones together get fewer.
-/
import Exposure.Path.Enumeration
import Mathlib.Data.List.Chain
import Mathlib.Data.List.Nodup
import Mathlib.Data.List.Perm.Subperm

namespace Exposure

set_option autoImplicit false

/-- Distinct nodes of a graph are no more than there are. -/
theorem length_le_of_lt {l : List Nat} {n : Nat} (nodup : l.Nodup) (below : ∀ x ∈ l, x < n) :
    l.length ≤ n := by
  have within : l ⊆ List.range n := fun x member => List.mem_range.2 (below x member)
  simpa using (List.subperm_of_subset nodup within).length_le

namespace Adjacency

/-- The neighbours of a finite graph: they are nodes, and the callers of a node are those
that call it.  Calls may be listed more than once. -/
structure Valid (a : Adjacency) : Prop where
  callees_lt : ∀ i < a.size, ∀ j ∈ a.callees i, j < a.size
  callers_lt : ∀ j < a.size, ∀ i ∈ a.callers j, i < a.size
  transposed : ∀ i < a.size, ∀ j < a.size, j ∈ a.callees i ↔ i ∈ a.callers j

/-- Node `i` calls node `j`. -/
def Calls (a : Adjacency) (i j : Nat) : Prop := j ∈ a.callees i

/-- Zero or more calls lead from `s` to `t`. -/
def Reaches (a : Adjacency) (s t : Nat) : Prop := Relation.ReflTransGen a.Calls s t

/-- A simple path from `s` to `t`. -/
structure IsPath (a : Adjacency) (s t : Nat) (p : Path) : Prop where
  head : p.head? = some s
  last : p.getLast? = some t
  chain : p.IsChain a.Calls
  nodup : p.Nodup

/-- A walk from `s` to `t`, on which nodes may come back. -/
structure IsWalk (a : Adjacency) (s t : Nat) (p : Path) : Prop where
  head : p.head? = some s
  last : p.getLast? = some t
  chain : p.IsChain a.Calls

variable {a : Adjacency}

theorem Valid.reaches_lt (valid : a.Valid) {s t : Nat} (below : s < a.size)
    (reach : a.Reaches s t) : t < a.size := by
  induction reach with
  | refl => exact below
  | tail _ call ih => exact valid.callees_lt _ ih _ call

/-! ## Walks -/

namespace IsWalk

variable {s t : Nat} {p : Path}

theorem length_eq (walk : a.IsWalk s t p) : p.length = p.calls + 1 := by
  cases p with
  | nil => simpa using walk.head
  | cons x q => rfl

theorem reaches (walk : a.IsWalk s t p) : a.Reaches s t := by
  cases p with
  | nil => simpa using walk.head
  | cons x q =>
      obtain rfl : x = s := by simpa using walk.head
      refine List.relationReflTransGen_of_exists_isChain_cons q walk.chain ?_
      have last := walk.last
      rw [List.getLast?_eq_some_getLast (List.cons_ne_nil x q)] at last
      exact Option.some.inj last

end IsWalk

/-! ## Simple paths -/

namespace IsPath

variable {s t : Nat} {p : Path}

theorem isWalk (path : a.IsPath s t p) : a.IsWalk s t p := ⟨path.head, path.last, path.chain⟩

theorem single (s : Nat) : a.IsPath s s [s] := ⟨rfl, rfl, .singleton s, List.nodup_singleton s⟩

theorem exists_eq_cons (path : a.IsPath s t p) : ∃ q, p = s :: q := by
  cases p with
  | nil => simpa using path.head
  | cons x q => exact ⟨q, by simpa using path.head⟩

theorem cons {x : Nat} (path : a.IsPath s t p) (call : a.Calls x s) (fresh : x ∉ p) :
    a.IsPath x t (x :: p) := by
  obtain ⟨q, rfl⟩ := path.exists_eq_cons
  exact ⟨rfl, by simpa using path.last, List.isChain_cons_cons.2 ⟨call, path.chain⟩,
    List.nodup_cons.2 ⟨fresh, path.nodup⟩⟩

theorem tail {x y : Nat} {q : Path} (path : a.IsPath x t (x :: y :: q)) : a.IsPath y t (y :: q) :=
  ⟨rfl, by simpa using path.last, (List.isChain_cons_cons.1 path.chain).2,
    (List.nodup_cons.1 path.nodup).2⟩

/-- What is left of a path from one of its nodes on is a path. -/
theorem suffix {x : Nat} {front rest : Path} (path : a.IsPath s t (front ++ x :: rest)) :
    a.IsPath x t (x :: rest) :=
  ⟨rfl, by simpa using path.last, path.chain.suffix (List.suffix_append front _),
    path.nodup.sublist (List.sublist_append_right front _)⟩

theorem reaches (path : a.IsPath s t p) : a.Reaches s t := path.isWalk.reaches

theorem lt (valid : a.Valid) (below : s < a.size) (path : a.IsPath s t p) :
    ∀ x ∈ p, x < a.size := by
  intro x member
  obtain ⟨front, rest, rfl⟩ := List.append_of_mem member
  cases front with
  | nil =>
      obtain rfl : x = s := by simpa using path.head
      exact below
  | cons y front =>
      obtain rfl : y = s := by simpa using path.head
      have chain : (y :: (front ++ [x])).IsChain a.Calls :=
        path.chain.prefix ⟨rest, by simp⟩
      have reach := List.relationReflTransGen_of_exists_isChain_cons (front ++ [x]) chain rfl
      exact valid.reaches_lt below (by simpa [Reaches] using reach)

/-- A simple path has no more nodes than the graph. -/
theorem length_le (valid : a.Valid) (below : s < a.size) (path : a.IsPath s t p) :
    p.length ≤ a.size :=
  length_le_of_lt path.nodup (path.lt valid below)

end IsPath

/-- Whatever is reached is reached along a simple path: a node that comes back is skipped. -/
theorem reaches_iff_exists_isPath {s t : Nat} : a.Reaches s t ↔ ∃ p, a.IsPath s t p := by
  constructor
  · intro reach
    induction reach using Relation.ReflTransGen.head_induction_on with
    | refl => exact ⟨[t], IsPath.single t⟩
    | @head x y call _ ih =>
        obtain ⟨p, path⟩ := ih
        by_cases member : x ∈ p
        · obtain ⟨front, rest, rfl⟩ := List.append_of_mem member
          exact ⟨x :: rest, path.suffix⟩
        · exact ⟨x :: p, path.cons call member⟩
  · rintro ⟨p, path⟩
    exact path.reaches

end Adjacency

/-! ## The backward closure -/

/-- Marking adds the nodes found that were not marked, to both lists. -/
theorem markAll_spec (found : List Nat) :
    ∀ marked pending : List Nat, ∃ new, markAll found marked pending =
      (new ++ marked, new ++ pending) ∧
      new.Nodup ∧ (∀ x ∈ new, x ∉ marked ∧ x ∈ found) ∧ ∀ x ∈ found, x ∈ new ++ marked := by
  induction found with
  | nil => exact fun marked pending => ⟨[], by simp [markAll]⟩
  | cons n found ih =>
      intro marked pending
      by_cases known : n ∈ marked
      · obtain ⟨new, eq, nodup, fresh, all⟩ := ih marked pending
        refine ⟨new, ?_, nodup, fun x hx => ⟨(fresh x hx).1, ?_⟩, fun x hx => ?_⟩
        · simpa [markAll, known] using eq
        · exact List.mem_cons_of_mem n (fresh x hx).2
        · rcases List.mem_cons.1 hx with rfl | hx
          · exact List.mem_append_right _ known
          · exact all x hx
      · obtain ⟨new, eq, nodup, fresh, all⟩ := ih (n :: marked) (n :: pending)
        refine ⟨new ++ [n], ?_, ?_, fun x hx => ?_, fun x hx => ?_⟩
        · simpa [markAll, known] using eq
        · refine nodup.append (List.nodup_singleton n) ?_
          simpa using fun member => (fresh n member).1 List.mem_cons_self
        · rcases List.mem_append.1 hx with hx | hx
          · exact ⟨fun h => (fresh x hx).1 (List.mem_cons_of_mem n h),
              List.mem_cons_of_mem n (fresh x hx).2⟩
          · obtain rfl := List.mem_singleton.1 hx
            exact ⟨known, List.mem_cons_self⟩
        · have among : ∀ y ∈ new ++ n :: marked, y ∈ new ++ [n] ++ marked := by simp
          rcases List.mem_cons.1 hx with rfl | hx
          · exact among x (by simp)
          · exact among x (all x hx)

/-- What the rounds of a backward closure keep. -/
structure Closing (a : Adjacency) (target : Nat) (pending marked : List Nat) : Prop where
  nodup : marked.Nodup
  below : ∀ n ∈ marked, n < a.size
  pending_marked : ∀ n ∈ pending, n ∈ marked
  reaches : ∀ n ∈ marked, a.Reaches n target
  target_marked : target ∈ marked
  closed : ∀ n ∈ marked, n ∉ pending → ∀ c ∈ a.callers n, c ∈ marked

namespace Closing

variable {a : Adjacency} {target : Nat}

theorem start (below : target < a.size) : Closing a target [target] [target] where
  nodup := List.nodup_singleton target
  below := by simpa using below
  pending_marked := by simp
  reaches := by
    intro n member
    rw [List.mem_singleton.1 member]
    exact .refl
  target_marked := by simp
  closed := fun n member other => absurd member other

/-- One round: the callers of a pending node are marked. -/
theorem round (valid : a.Valid) {n : Nat} {pending marked new : List Nat}
    (closing : Closing a target (n :: pending) marked) (nodup : new.Nodup)
    (fresh : ∀ x ∈ new, x ∉ marked ∧ x ∈ a.callers n)
    (all : ∀ x ∈ a.callers n, x ∈ new ++ marked) :
    Closing a target (new ++ pending) (new ++ marked) := by
  have nMarked := closing.pending_marked n List.mem_cons_self
  have nBelow := closing.below n nMarked
  refine ⟨?_, fun x hx => ?_, fun x hx => ?_, fun x hx => ?_, ?_, fun x hx other c caller => ?_⟩
  · exact nodup.append closing.nodup fun x hx marked => (fresh x hx).1 marked
  · rcases List.mem_append.1 hx with hx | hx
    · exact valid.callers_lt n nBelow x (fresh x hx).2
    · exact closing.below x hx
  · rcases List.mem_append.1 hx with hx | hx
    · exact List.mem_append_left _ hx
    · exact List.mem_append_right _ (closing.pending_marked x (List.mem_cons_of_mem n hx))
  · rcases List.mem_append.1 hx with hx | hx
    · have caller := (fresh x hx).2
      have xBelow := valid.callers_lt n nBelow x caller
      have call : a.Calls x n := (valid.transposed x xBelow n nBelow).2 caller
      exact .head call (closing.reaches n nMarked)
    · exact closing.reaches x hx
  · exact List.mem_append_right _ closing.target_marked
  · -- A node that is neither new nor pending was closed before, unless it is the one handled.
    have old : x ∈ marked := by
      rcases List.mem_append.1 hx with hx | hx
      · exact absurd (List.mem_append_left _ hx) other
      · exact hx
    by_cases same : x = n
    · subst same
      exact all c caller
    · have notPending : x ∉ n :: pending := by
        simp only [List.mem_cons, not_or]
        exact ⟨same, fun h => other (List.mem_append_right _ h)⟩
      exact List.mem_append_right _ (closing.closed x old notPending c caller)

theorem length_le {pending marked : List Nat} (closing : Closing a target pending marked) :
    marked.length ≤ a.size :=
  length_le_of_lt closing.nodup closing.below

/-- The rounds end with nothing pending. -/
theorem closeBackward (valid : a.Valid) :
    ∀ (fuel : Nat) (pending marked : List Nat), Closing a target pending marked →
      a.size - marked.length + pending.length ≤ fuel →
      Closing a target [] (closeBackward a fuel pending marked)
  | 0, pending, marked, closing, enough => by
      obtain rfl : pending = [] := List.length_eq_zero_iff.1 (by omega)
      exact closing
  | _ + 1, [], marked, closing, _ => closing
  | fuel + 1, n :: pending, marked, closing, enough => by
      obtain ⟨new, eq, nodup, fresh, all⟩ := markAll_spec (a.callers n) marked pending
      have next := closing.round valid nodup fresh all
      have room := next.length_le
      simp only [Exposure.closeBackward, eq]
      refine closeBackward valid fuel _ _ next ?_
      simp only [List.length_append, List.length_cons] at room enough ⊢
      omega

end Closing

/-- **The backward closure of a target has exactly the nodes that reach it.** -/
theorem mem_backwardClosure {a : Adjacency} (valid : a.Valid) {n target : Nat} (nBelow : n < a.size)
    (targetBelow : target < a.size) : n ∈ backwardClosure a target ↔ a.Reaches n target := by
  have closing : Closing a target [] (backwardClosure a target) :=
    Closing.closeBackward valid _ _ _ (Closing.start targetBelow) (by simp)
  constructor
  · exact closing.reaches n
  · intro reach
    -- The callers of a marked node are marked, so marks spread backward along the calls.
    induction reach using Relation.ReflTransGen.head_induction_on with
    | refl => exact closing.target_marked
    | head call _ ih =>
        have yBelow := valid.callees_lt _ nBelow _ call
        have yMarked := ih yBelow
        exact closing.closed _ yMarked List.not_mem_nil _
          ((valid.transposed _ nBelow _ yBelow).1 call)

end Exposure
