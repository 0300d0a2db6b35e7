/-
# Proofs.SimplePaths — an enumeration lists every simple path once

Where no call is listed twice, a walk meets no path twice: the paths that it
meets from one node part at the callee they take first (`nodup_pathsFrom`).  So
the listing of an unlimited walk is strictly ordered, and its members are the
simple paths.

Both recursions are given fuel, and neither uses it up.  The stack of a walk
holds distinct nodes (`walk_add_fuel`), and a round of the backward closure marks
as many nodes as it puts off (`closeBackward_add_fuel`); with more fuel both do
the same.
-/
import Exposure.Proofs.Enumeration

namespace Exposure

set_option autoImplicit false

/-- The neighbours of a finite graph in which no call is listed twice. -/
structure Adjacency.Simple (a : Adjacency) : Prop extends a.Valid where
  callees_nodup : ∀ i < a.size, (a.callees i).Nodup

/-! ## No path is met twice -/

section Distinct

variable {a : Adjacency} {allowed : Nat → Bool} {target : Nat}

/-- Paths that take different callees are different. -/
theorem disjoint_pathsFrom {fuel : Nat} {stack : List Nat} {s s' : Nat} (apart : s ≠ s') :
    (pathsFrom a allowed target fuel stack s).Disjoint
      (pathsFrom a allowed target fuel stack s') := by
  intro p met met'
  obtain ⟨q, rfl, -⟩ := isPath_of_mem_pathsFrom met
  obtain ⟨q', same, -⟩ := isPath_of_mem_pathsFrom met'
  have rest : s :: q = s' :: q' := List.append_cancel_left same
  exact apart (List.cons.inj rest).1

theorem nodup_pathsFrom (simple : a.Simple) :
    ∀ {fuel : Nat} {stack : List Nat} {n : Nat}, n < a.size →
      (pathsFrom a allowed target fuel stack n).Nodup
  | 0, stack, n, _ => List.nodup_nil
  | fuel + 1, stack, n, below => by
      rw [pathsFrom]
      split
      · exact List.nodup_singleton _
      rw [List.nodup_flatMap]
      constructor
      · intro s callee
        split
        · exact List.nodup_nil
        · exact nodup_pathsFrom simple (simple.callees_lt n below s callee)
      · refine (simple.callees_nodup n below).imp fun {s s'} apart => ?_
        intro p met met'
        simp only at met met'
        -- a callee that is barred has no paths
        split at met
        · cases met
        split at met'
        · cases met'
        exact disjoint_pathsFrom apart met met'

end Distinct

theorem nodup_simplePaths {a : Adjacency} (simple : a.Simple) {source : Nat}
    (below : source < a.size) (target : Nat) : (simplePaths a source target).Nodup :=
  nodup_pathsFrom simple below

/-! ## No recursion runs out of fuel -/

/-- A walk does the same with more fuel, since its stack holds distinct nodes of the graph. -/
theorem walk_add_fuel {a : Adjacency} (valid : a.Valid) (allowed : Nat → Bool) (target : Nat)
    (limit : Int) (more : Nat) :
    ∀ {fuel : Nat} {stack : List Nat} {n : Nat} (p : Progress), (n :: stack).Nodup →
      (∀ x ∈ n :: stack, x < a.size) → a.size ≤ fuel + stack.length →
      walk a allowed target limit (fuel + more) stack n p =
        walk a allowed target limit fuel stack n p
  | 0, stack, n, p, nodup, below, enough => by
      have short := length_le_of_lt nodup below
      simp only [List.length_cons] at short
      omega
  | fuel + 1, stack, n, p, nodup, below, enough => by
      have nBelow := below n List.mem_cons_self
      rw [Nat.add_right_comm, walk, walk]
      split
      · rfl
      simp only
      split
      · rfl
      split
      · rfl
      refine List.foldl_ext _ _ _ fun q s callee => ?_
      split
      · rfl
      · rename_i free
        have fresh : s ∉ n :: stack := by
          intro member
          simp [member] at free
        refine walk_add_fuel valid allowed target limit more q
          (List.nodup_cons.2 ⟨fresh, nodup⟩) ?_ ?_
        · intro x member
          rcases List.mem_cons.1 member with rfl | member
          · exact valid.callees_lt n nBelow x callee
          · exact below x member
        · simp only [List.length_cons]
          omega

/-- The rounds of a backward closure do the same with more fuel. -/
theorem closeBackward_add_fuel {a : Adjacency} (valid : a.Valid) {target : Nat} (more : Nat) :
    ∀ {fuel : Nat} {pending marked : List Nat}, Closing a target pending marked →
      a.size - marked.length + pending.length ≤ fuel →
      closeBackward a (fuel + more) pending marked = closeBackward a fuel pending marked
  | 0, pending, marked, closing, enough => by
      obtain rfl : pending = [] := List.length_eq_zero_iff.1 (by omega)
      cases more <;> rfl
  | fuel + 1, [], marked, _, _ => by
      rw [Nat.add_right_comm]
      rfl
  | fuel + 1, n :: pending, marked, closing, enough => by
      obtain ⟨new, eq, nodup, fresh, all⟩ := markAll_spec (a.callers n) marked pending
      have next := closing.round valid nodup fresh all
      have room := next.length_le
      rw [Nat.add_right_comm]
      simp only [closeBackward, eq]
      refine closeBackward_add_fuel valid more next ?_
      simp only [List.length_append, List.length_cons] at room enough ⊢
      omega

/-! ## Exact listings -/

/-- A listing of all simple paths between two nodes, each once, in lexicographic order. -/
structure Listing.Exact (l : Listing) (a : Adjacency) (source target : Nat) : Prop where
  complete : l.failure = none
  mem_paths : ∀ p, p ∈ l.paths ↔ a.IsPath source target p
  nodup : l.paths.Nodup
  ordered : l.paths.Pairwise (List.Lex (· < ·))

namespace Listing.Exact

variable {l : Listing} {a : Adjacency} {source target : Nat}

/-- There is one simple path from a node to itself. -/
theorem paths_self (exact : l.Exact a source source) : l.paths = [[source]] := by
  refine List.perm_singleton.1
    ((List.perm_ext_iff_of_nodup exact.nodup (List.nodup_singleton _)).2 fun p => ?_)
  rw [exact.mem_paths, List.mem_singleton]
  constructor
  · intro path
    obtain ⟨q, rfl⟩ := path.exists_eq_cons
    cases q with
    | nil => rfl
    | cons x q =>
        have back : source ∈ x :: q := List.mem_of_getLast? (by simpa using path.last)
        exact absurd back (List.nodup_cons.1 path.nodup).1
  · rintro rfl
    exact .single source

/-- There is none to a node that cannot be reached. -/
theorem paths_eq_nil (exact : l.Exact a source target) (apart : ¬ a.Reaches source target) :
    l.paths = [] := by
  refine List.eq_nil_iff_forall_not_mem.2 fun p member => ?_
  exact apart ((exact.mem_paths p).1 member).reaches

end Listing.Exact

section

variable {a : Adjacency} {source target : Nat} {watch : Watch}

/-- An enumeration without a limit and without an interruption is exact. -/
theorem exact_allPaths (e : Enumerator) (simple : a.Simple) (sourceBelow : source < a.size)
    (targetBelow : target < a.size) (quiet : watch.quiet = none) (unlimited : e.limit ≤ 0) :
    (e.allPaths a source target watch).Exact a source target := by
  have kept : keptOf e.limit (simplePaths a source target) = simplePaths a source target :=
    if_neg (by omega)
  rw [allPaths_eq e simple.toValid sourceBelow targetBelow quiet, kept]
  have perm : ((simplePaths a source target).reverse.mergeSort Path.le).Perm
      (simplePaths a source target) :=
    (List.mergeSort_perm _ _).trans (List.reverse_perm _)
  have nodup : ((simplePaths a source target).reverse.mergeSort Path.le).Nodup :=
    perm.nodup_iff.2 (nodup_simplePaths simple sourceBelow target)
  refine ⟨rfl, fun p => ?_, nodup, ?_⟩
  · exact perm.mem_iff.trans (mem_pathsFrom simple.toValid sourceBelow)
  · exact ((Path.sorted_mergeSort _).and nodup).imp fun ⟨order, apart⟩ => order.resolve_left apart

/-- **Enumerations are exact.** In a finite graph without repeated calls, either strategy comes to
its end without a limit or an interruption, with fuel to spare, and lists the simple paths from the
source to the target, each once and in strictly increasing order: the node alone where both are the
same, and nothing where the target cannot be reached. -/
theorem simple_paths_listed (simple : a.Simple) (sourceBelow : source < a.size)
    (targetBelow : target < a.size) (quiet : watch.quiet = none) (strategy : Strategy) {limit : Int}
    (unlimited : limit ≤ 0) :
    let listing := Enumerator.allPaths ⟨strategy, limit⟩ a source target watch
    listing.Exact a source target ∧
      (source = target → listing.paths = [[source]]) ∧
      (¬ a.Reaches source target → listing.paths = []) ∧
      ∀ more, closeBackward a (a.size + 1 + more) [target] [target] = backwardClosure a target ∧
        ∀ allowed p, walk a allowed target limit (a.size + 1 + more) [] source p =
          walk a allowed target limit (a.size + 1) [] source p := by
  intro listing
  have exact := exact_allPaths ⟨strategy, limit⟩ simple sourceBelow targetBelow quiet unlimited
  refine ⟨exact, ?_, exact.paths_eq_nil, fun more => ⟨?_, fun allowed p => ?_⟩⟩
  · rintro rfl
    exact exact.paths_self
  · exact closeBackward_add_fuel simple.toValid more (Closing.start targetBelow) (by simp)
  · exact walk_add_fuel simple.toValid allowed target limit more p (List.nodup_singleton source)
      (by simpa using sourceBelow) (by simp)

end

/-- Listed neighbours are those of a finite graph without repeated calls if no list repeats one. -/
theorem simple_ofLists {rows : List (List Nat)} (below : ∀ row ∈ rows, ∀ j ∈ row, j < rows.length)
    (nodup : ∀ row ∈ rows, row.Nodup) : (Adjacency.ofLists rows).Simple := by
  refine ⟨valid_ofLists below, fun i iBelow => ?_⟩
  have here : rows[i]? = some rows[i] := List.getElem?_eq_getElem iBelow
  simp only [Adjacency.ofLists, List.getElem?_toArray, here, Option.getD_some]
  exact nodup _ (List.getElem_mem iBelow)

/-- Two ways from the first node to the last, with a call back and a call to itself. -/
def diamond : Adjacency := .ofLists [[2, 1, 0], [3, 0], [3], [1]]

theorem simple_paths_listed_diamond :
    (Enumerator.allPaths ⟨.pruned, 0⟩ diamond (0 : Nat) (3 : Nat) .silent).Exact diamond 0 3 ∧
      [0, 1, 3] ∈ (Enumerator.allPaths ⟨.pruned, 0⟩ diamond (0 : Nat) (3 : Nat) .silent).paths ∧
      [0, 2, 3] ∈ (Enumerator.allPaths ⟨.pruned, 0⟩ diamond (0 : Nat) (3 : Nat) .silent).paths ∧
      [0, 1, 0, 2, 3] ∉
        (Enumerator.allPaths ⟨.pruned, 0⟩ diamond (0 : Nat) (3 : Nat) .silent).paths := by
  have simple : diamond.Simple := simple_ofLists (by decide) (by decide)
  obtain ⟨exact, -⟩ := simple_paths_listed simple (by decide : 0 < 4) (by decide : 3 < 4)
    (rfl : Watch.silent.quiet = none) .pruned (by decide : (0 : Int) ≤ 0)
  have isPath (p : Path) (head : p.head? = some 0) (last : p.getLast? = some 3)
      (chain : p.IsChain fun i j => j ∈ diamond.callees i)
      (nodup : p.Nodup) : diamond.IsPath 0 3 p :=
    ⟨head, last, chain, nodup⟩
  refine ⟨exact, ?_, ?_, ?_⟩
  · exact (exact.mem_paths _).2 (isPath _ rfl rfl (by decide) (by decide))
  · exact (exact.mem_paths _).2 (isPath _ rfl rfl (by decide) (by decide))
  · intro listed
    exact absurd ((exact.mem_paths _).1 listed).nodup (by decide)

end Exposure
