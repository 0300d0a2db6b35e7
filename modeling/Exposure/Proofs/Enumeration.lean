/-
# Proofs.Enumeration — what the two strategies list

`pathsFrom` is the walk without its bookkeeping: the paths in the order in which
they are met, with no limit and no watch.  Two facts about it carry everything
here:

* its members are the simple paths to the target that avoid the stack
  (`mem_pathsFrom`);
* walking only nodes that reach the target meets the same paths in the same
  order (`pathsFrom_backwardClosure`), since from any other node it meets none.

These are the paths on the trail of the walk, and what holds of the paths met and
the progress made is carried through a walk by its steps (`walk_meets`).

A walk with a limit keeps a beginning of that list.  `Progress.Kept limit met p`
says that `p` has kept of the paths `met` what the limit allows and is done
exactly if the limit has been reached; visiting a node and recording a path keep
it so, hence a whole walk does (`walk_kept`).
-/
import Exposure.Proofs.Reach
import Exposure.Proofs.Trails

namespace Exposure

set_option autoImplicit false

/-! ## The paths of a walk -/

/-- The paths that a walk from `n` meets, with the nodes of `stack` behind it. -/
def pathsFrom (a : Adjacency) (allowed : Nat → Bool) (target : Nat) :
    Nat → List Nat → Nat → List Path
  | 0, _, _ => []
  | fuel + 1, stack, n =>
    if n = target then [(n :: stack).reverse]
    else
      (a.callees n).flatMap fun s =>
        if (n :: stack).contains s || !allowed s then []
        else pathsFrom a allowed target fuel (n :: stack) s

section Members

variable {a : Adjacency} {allowed : Nat → Bool} {target : Nat}

/-- What is met is a simple path that goes on from the stack and avoids it. -/
theorem isPath_of_mem_pathsFrom :
    ∀ {fuel : Nat} {stack : List Nat} {n : Nat} {p : Path}, p ∈
      pathsFrom a allowed target fuel stack n →
      ∃ q, p = stack.reverse ++ n :: q ∧ a.IsPath n target (n :: q) ∧ ∀ x ∈ q, x ∉ stack
  | 0, stack, n, p, met => by simp [pathsFrom] at met
  | fuel + 1, stack, n, p, met => by
      rw [pathsFrom] at met
      split at met
      · rename_i here
        subst here
        exact ⟨[], by simpa using met, .single n, by simp⟩
      · obtain ⟨s, callee, met⟩ := List.mem_flatMap.1 met
        split at met
        · simp at met
        · rename_i free
          simp only [List.contains_eq_mem, List.mem_cons, Bool.or_eq_true, decide_eq_true_eq,
            not_or] at free
          obtain ⟨q, rfl, path, avoids⟩ := isPath_of_mem_pathsFrom met
          refine ⟨s :: q, by simp, path.cons callee ?_, fun x hx => ?_⟩
          · simp only [List.mem_cons, not_or]
            exact ⟨Ne.symm free.1.1, fun h => avoids n h List.mem_cons_self⟩
          · rcases List.mem_cons.1 hx with rfl | hx
            · exact free.1.2
            · exact fun h => avoids x hx (List.mem_cons_of_mem n h)

/-- Every simple path that avoids the stack and what is not allowed is met. -/
theorem mem_pathsFrom_of_isPath (q : Path) :
    ∀ {fuel : Nat} {stack : List Nat} {n : Nat}, a.IsPath n target (n :: q) → (∀ x ∈ q, x ∉ stack) →
      (∀ x ∈ q, allowed x = true) → q.length < fuel →
      stack.reverse ++ n :: q ∈ pathsFrom a allowed target fuel stack n := by
  induction q with
  | nil =>
      intro fuel stack n path _ _ enough
      obtain ⟨fuel, rfl⟩ := Nat.exists_eq_succ_of_ne_zero (Nat.ne_of_gt enough)
      obtain rfl : n = target := by simpa using path.last
      simp [pathsFrom]
  | cons s q ih =>
      intro fuel stack n path avoids free enough
      obtain ⟨fuel, rfl⟩ := Nat.exists_eq_succ_of_ne_zero (Nat.ne_of_gt (Nat.zero_lt_of_lt enough))
      have call : a.Calls n s := (List.isChain_cons_cons.1 path.chain).1
      have fresh := (List.nodup_cons.1 path.nodup).1
      have other : n ≠ target := by
        rintro rfl
        exact fresh (List.mem_of_getLast? (by simpa using path.last))
      have apart : ∀ x ∈ q, x ∉ n :: stack := by
        intro x hx h
        rcases List.mem_cons.1 h with rfl | h
        · exact fresh (List.mem_cons_of_mem s hx)
        · exact avoids x (List.mem_cons_of_mem s hx) h
      have rest : (n :: stack).reverse ++ s :: q ∈ pathsFrom a allowed target fuel (n :: stack) s :=
        ih path.tail apart (fun x hx => free x (List.mem_cons_of_mem s hx)) (by simpa using enough)
      rw [pathsFrom, if_neg other]
      refine List.mem_flatMap.2 ⟨s, call, ?_⟩
      have avoided : ¬ (s = n ∨ s ∈ stack) := by
        rintro (rfl | h)
        · exact fresh List.mem_cons_self
        · exact avoids s List.mem_cons_self h
      have entered : ((n :: stack).contains s || !allowed s) = false := by
        simpa [free s List.mem_cons_self] using avoided
      rw [entered]
      simpa using rest

theorem pathsFrom_eq_nil_of_not_reaches {fuel : Nat} {stack : List Nat} {n : Nat}
    (apart : ¬ a.Reaches n target) : pathsFrom a allowed target fuel stack n = [] := by
  refine List.eq_nil_iff_forall_not_mem.2 fun p met => ?_
  obtain ⟨q, -, path, -⟩ := isPath_of_mem_pathsFrom met
  exact apart path.reaches

/-- With one step of fuel for every node, the paths met from the source are the simple
paths. -/
theorem mem_pathsFrom {source : Nat} (valid : a.Valid) (below : source < a.size) {p : Path} :
    p ∈ pathsFrom a (fun _ => true) target (a.size + 1) [] source ↔ a.IsPath source target p := by
  constructor
  · intro met
    obtain ⟨q, rfl, path, -⟩ := isPath_of_mem_pathsFrom met
    exact path
  · intro path
    obtain ⟨q, rfl⟩ := path.exists_eq_cons
    have short := path.length_le valid below
    exact mem_pathsFrom_of_isPath q path (by simp) (by simp) (by simp at short; omega)

/-- Leaving out the nodes that do not reach the target leaves out no path. -/
theorem pathsFrom_backwardClosure (valid : a.Valid) (targetBelow : target < a.size) :
    ∀ {fuel : Nat} {stack : List Nat} {n : Nat}, n < a.size →
      pathsFrom a (backwardClosure a target).contains target fuel stack n
        = pathsFrom a (fun _ => true) target fuel stack n
  | 0, stack, n, _ => rfl
  | fuel + 1, stack, n, below => by
      rw [pathsFrom, pathsFrom]
      split
      · rfl
      · refine List.flatMap_congr fun s callee => ?_
        have sBelow := valid.callees_lt n below s callee
        by_cases marked : s ∈ backwardClosure a target
        · simp [marked, pathsFrom_backwardClosure valid targetBelow sBelow]
        · have apart := mt (mem_backwardClosure valid sBelow targetBelow).2 marked
          simp [marked, pathsFrom_eq_nil_of_not_reaches apart]

end Members

/-! ## A walk keeps a beginning of its paths -/

/-- What a limit keeps of the paths met; all of them if it is not positive. -/
def keptOf (limit : Int) (met : List Path) : List Path :=
  if 0 < limit then met.take limit.toNat else met

/-- The limit has been reached by the paths met. -/
def LimitReached (limit : Int) (met : List Path) : Prop := 0 < limit ∧ limit ≤ met.length

theorem keptOf_append_of_reached {limit : Int} {met : List Path} (reached : LimitReached limit met)
    (more : List Path) : keptOf limit (met ++ more) = keptOf limit met := by
  obtain ⟨positive, enough⟩ := reached
  simp only [keptOf, positive, if_true]
  rw [List.take_append_of_le_length (by omega)]

theorem keptOf_of_not_reached {limit : Int} {met : List Path} (room : ¬ LimitReached limit met) :
    keptOf limit met = met := by
  unfold keptOf
  split
  · rename_i positive
    refine List.take_of_length_le ?_
    have : ¬ limit ≤ met.length := fun h => room ⟨positive, h⟩
    omega
  · rfl

namespace Progress

/-- A walk that is not interrupted has met the paths `met`. -/
structure Kept (limit : Int) (met : List Path) (p : Progress) : Prop where
  found : p.found.reverse = keptOf limit met
  done : p.done = true ↔ LimitReached limit met
  quiet : p.watch.quiet = none
  stopped : p.stopped = none

namespace Kept

variable {limit : Int} {met : List Path} {p : Progress}

theorem start {watch : Watch} (quiet : watch.quiet = none) :
    Kept limit [] ⟨[], 0, false, watch, none⟩ where
  found := by simp [keptOf]
  done := by simp [LimitReached]
  quiet := quiet
  stopped := rfl

/-- A walk that is done has met enough, whatever else there is to meet. -/
theorem append_of_done (kept : Kept limit met p) (isDone : p.done = true) (more : List Path) :
    Kept limit (met ++ more) p := by
  have reached := kept.done.1 isDone
  have still : LimitReached limit (met ++ more) := ⟨reached.1, by simp; have := reached.2; omega⟩
  exact ⟨by rw [keptOf_append_of_reached reached]; exact kept.found,
    ⟨fun _ => still, fun _ => isDone⟩, kept.quiet, kept.stopped⟩

/-- A visited node leaves what was met as it is. -/
theorem visit (kept : Kept limit met p) : Kept limit met p.visit := by
  have look : p.watch.look = (false, p.watch) := by simp [Watch.look, kept.quiet]
  unfold Progress.visit
  simp only [look]
  split <;> exact ⟨kept.found, kept.done, kept.quiet, kept.stopped⟩

theorem record (kept : Kept limit met p) (isOpen : p.done = false) (path : Path) :
    Kept limit (met ++ [path]) (p.record limit path) := by
  have room : ¬ LimitReached limit met := fun h => by simp [kept.done.2 h] at isOpen
  have all := keptOf_of_not_reached room
  have count : p.found.length = met.length := by
    rw [← List.length_reverse, kept.found, all]
  refine ⟨?_, ?_, kept.quiet, kept.stopped⟩
  · simp only [Progress.record, List.reverse_cons, kept.found, all]
    unfold keptOf
    split
    · rename_i positive
      have : ¬ limit ≤ met.length := fun h => room ⟨positive, h⟩
      exact (List.take_of_length_le (by simp; omega)).symm
    · rfl
  · simp [Progress.record, isOpen, LimitReached, count]

end Kept

end Progress

section Walk

variable {a : Adjacency} {allowed : Nat → Bool} {target : Nat} {limit : Int}

/-- The paths met at some stacks, which are those with the target on top. -/
def metAt (target : Nat) (row : List (List Nat)) : List Path :=
  (row.filter (·.head? == some target)).map List.reverse

theorem metAt_cons_of_top {stack : List Nat} (top : stack.head? = some target) :
    metAt target [stack] = [stack.reverse] := by
  simp [metAt, top]

theorem metAt_cons_of_not_top {stack : List Nat} (other : stack.head? ≠ some target) :
    metAt target [stack] = [] := by
  simp [metAt, other]

/-- The paths that a walk meets are those on its trail. -/
theorem pathsFrom_eq_metAt : ∀ (fuel : Nat) (stack : List Nat) (n : Nat),
    pathsFrom a allowed target fuel stack n = metAt target (trail a allowed target fuel stack n)
  | 0, _, _ => rfl
  | fuel + 1, stack, n => by
      rw [pathsFrom, trail]
      by_cases here : n = target
      · simp [here, metAt]
      · have later : metAt target ((a.callees n).flatMap fun s =>
            if (n :: stack).contains s || !allowed s then []
            else trail a allowed target fuel (n :: stack) s) =
            (a.callees n).flatMap fun s =>
              if (n :: stack).contains s || !allowed s then []
              else pathsFrom a allowed target fuel (n :: stack) s := by
          rw [metAt, List.filter_flatMap, List.map_flatMap]
          refine List.flatMap_congr fun s _ => ?_
          split
          · rfl
          · exact (pathsFrom_eq_metAt fuel (n :: stack) s).symm
        rw [if_neg here, if_neg here, ← later]
        simp [metAt, here]

/-- What every step keeps of the paths met and the progress made, a walk keeps. -/
theorem walk_meets {motive : List Path → Progress → Prop}
    (step : ∀ met p stack, motive met p →
      motive (met ++ metAt target [stack]) (p.enter target limit stack))
    (fuel : Nat) (stack : List Nat) (n : Nat) {met : List Path} {p : Progress}
    (before : motive met p) :
    motive (met ++ pathsFrom a allowed target fuel stack n)
      (walk a allowed target limit fuel stack n p) := by
  rw [pathsFrom_eq_metAt, walk_eq_foldl]
  generalize trail a allowed target fuel stack n = row
  induction row generalizing met p with
  | nil => simpa [metAt] using before
  | cons stack row ih =>
      have split : metAt target (stack :: row) = metAt target [stack] ++ metAt target row := by
        rw [metAt, ← List.singleton_append, List.filter_append, List.map_append]
        rfl
      rw [split, ← List.append_assoc, List.foldl_cons]
      exact ih (step met p stack before)

theorem Progress.Kept.enter {met : List Path} {p : Progress} (kept : p.Kept limit met)
    (stack : List Nat) : (p.enter target limit stack).Kept limit (met ++ metAt target [stack]) := by
  rcases p.enter_cases target limit stack with
    ⟨done, eq⟩ | ⟨-, done, eq⟩ | ⟨-, isOpen, top, eq⟩ | ⟨-, isOpen, other, eq⟩ <;> rw [eq]
  · exact kept.append_of_done done _
  · exact kept.visit.append_of_done done _
  · rw [metAt_cons_of_top top]
    exact kept.visit.record isOpen _
  · rw [metAt_cons_of_not_top other, List.append_nil]
    exact kept.visit

/-- A walk meets its paths after those met before. -/
theorem walk_kept (fuel : Nat) (stack : List Nat) (n : Nat) (met : List Path) (p : Progress)
    (kept : p.Kept limit met) :
    (walk a allowed target limit fuel stack n p).Kept limit
      (met ++ pathsFrom a allowed target fuel stack n) :=
  walk_meets (motive := fun met p => p.Kept limit met) (fun _ _ stack kept => kept.enter stack)
    fuel stack n kept

end Walk

/-! ## The order of a listing -/

namespace Path

theorem nil_le (q : Path) : le [] q = true := by cases q <;> simp [le, order]

theorem cons_le_nil (x : Nat) (p : Path) : le (x :: p) [] = false := by simp [le, order]

theorem cons_le_cons {x y : Nat} {p q : Path} :
    le (x :: p) (y :: q) = true ↔ x < y ∨ x = y ∧ le p q = true := by
  simp only [le, order]
  rcases Nat.lt_trichotomy x y with less | rfl | more
  · simp [Nat.compare_eq_lt.2 less, less]
  · simp
  · have apart : ¬ x < y ∧ ¬ x = y := by omega
    simp [Nat.compare_eq_gt.2 more, apart]

theorem le_trans : ∀ p q r : Path, le p q = true → le q r = true → le p r = true
  | [], _, r, _, _ => nil_le r
  | x :: p, [], _, pq, _ => by simp [cons_le_nil] at pq
  | x :: p, y :: q, [], _, qr => by simp [cons_le_nil] at qr
  | x :: p, y :: q, z :: r, pq, qr => by
      rw [cons_le_cons] at pq qr ⊢
      rcases pq with less | ⟨rfl, pq⟩
      · exact .inl (by omega)
      · exact qr.imp_right fun ⟨same, qr⟩ => ⟨same, le_trans p q r pq qr⟩

theorem le_total : ∀ p q : Path, (le p q || le q p) = true
  | [], q => by simp [nil_le]
  | x :: p, [] => by simp [nil_le]
  | x :: p, y :: q => by
      have rest := le_total p q
      rw [Bool.or_eq_true] at rest ⊢
      rw [cons_le_cons, cons_le_cons]
      rcases Nat.lt_trichotomy x y with less | rfl | more
      · exact .inl (.inl less)
      · exact rest.imp (fun h => .inr ⟨rfl, h⟩) fun h => .inr ⟨rfl, h⟩
      · exact .inr (.inl more)

/-- The order of listings is the lexicographic one. -/
theorem le_iff : ∀ {p q : Path}, le p q = true ↔ p = q ∨ List.Lex (· < ·) p q
  | [], [] => by simp [nil_le]
  | [], _ :: _ => by simp [nil_le]
  | _ :: _, [] => by simp [cons_le_nil]
  | x :: p, y :: q => by
      have rest : le p q = true ↔ p = q ∨ List.Lex (· < ·) p q := le_iff
      rw [cons_le_cons, rest, List.cons_lex_cons_iff, List.cons.injEq]
      tauto

theorem sorted_mergeSort (ps : List Path) :
    (ps.mergeSort le).Pairwise fun p q => p = q ∨ List.Lex (· < ·) p q :=
  (List.pairwise_mergeSort le_trans le_total ps).imp le_iff.1

end Path

/-! ## The two strategies -/

/-- All simple paths between two nodes, in the order in which a walk meets them. -/
def simplePaths (a : Adjacency) (source target : Nat) : List Path :=
  pathsFrom a (fun _ => true) target (a.size + 1) [] source

section Strategies

variable {a : Adjacency} {source target : Nat} {watch : Watch}

/-- Either strategy lists what its limit keeps of the simple paths. -/
theorem paths_eq (e : Enumerator) (valid : a.Valid) (sourceBelow : source < a.size)
    (targetBelow : target < a.size) (quiet : watch.quiet = none) :
    (e.paths a source target watch).1
        = ⟨(keptOf e.limit (simplePaths a source target)).reverse.mergeSort Path.le, none⟩ ∧
      (e.paths a source target watch).2.quiet = none := by
  have walked : ∀ allowed, pathsFrom a allowed target (a.size + 1) [] source =
      simplePaths a source target →
      let p := walk a allowed target e.limit (a.size + 1) [] source ⟨[], 0, false, watch, none⟩
      p.listing = ⟨(keptOf e.limit (simplePaths a source target)).reverse.mergeSort Path.le, none⟩ ∧
        p.watch.quiet = none := by
    intro allowed same p
    have kept : p.Kept e.limit (simplePaths a source target) := by
      have met : p.Kept e.limit ([] ++ pathsFrom a allowed target (a.size + 1) [] source) :=
        walk_kept _ _ _ _ _ (Progress.Kept.start quiet)
      rwa [List.nil_append, same] at met
    refine ⟨?_, kept.quiet⟩
    rw [Progress.listing, ← kept.found, List.reverse_reverse, kept.stopped]
    rfl
  unfold Enumerator.paths
  split
  · exact walked _ rfl
  · by_cases marked : source ∈ backwardClosure a target
    · simpa [marked] using walked _ (pathsFrom_backwardClosure valid targetBelow sourceBelow)
    · have apart := mt (mem_backwardClosure valid sourceBelow targetBelow).2 marked
      have nothing : simplePaths a source target = [] := pathsFrom_eq_nil_of_not_reaches apart
      simp [marked, nothing, keptOf, quiet]

theorem Adjacency.node_of_lt {n : Nat} (below : n < a.size) : a.node n = .ok n := if_pos below

/-- Between nodes of the graph the paths are enumerated. -/
theorem Enumerator.allPaths_of_lt (e : Enumerator) (sourceBelow : source < a.size)
    (targetBelow : target < a.size) (watch : Watch) :
    e.allPaths a source target watch = (e.paths a source target watch).1 := by
  simp only [allPaths, Adjacency.node_of_lt sourceBelow, Adjacency.node_of_lt targetBelow]

theorem allPaths_eq (e : Enumerator) (valid : a.Valid) (sourceBelow : source < a.size)
    (targetBelow : target < a.size) (quiet : watch.quiet = none) :
    e.allPaths a source target watch
      = ⟨(keptOf e.limit (simplePaths a source target)).reverse.mergeSort Path.le, none⟩ :=
  (e.allPaths_of_lt sourceBelow targetBelow watch).trans
    (paths_eq e valid sourceBelow targetBelow quiet).1

/-- **Both strategies list the same paths, sorted; a limit keeps that many of them.** -/
theorem strategies_list_the_same (valid : a.Valid) (sourceBelow : source < a.size)
    (targetBelow : target < a.size) (quiet : watch.quiet = none) (limit : Int) :
    Enumerator.allPaths ⟨.direct, limit⟩ a source target watch
        = Enumerator.allPaths ⟨.pruned, limit⟩ a source target watch ∧
      (Enumerator.allPaths ⟨.direct, limit⟩ a source target watch).failure = none ∧
      ((Enumerator.allPaths ⟨.direct, limit⟩ a source target watch).paths.Pairwise
        fun p q => p = q ∨ List.Lex (· < ·) p q) ∧
      ∀ unlimited : Enumerator, unlimited.limit ≤ 0 → 0 < limit →
        ((Enumerator.allPaths ⟨.direct, limit⟩ a source target watch).paths.length : Int)
            = min limit (unlimited.allPaths a source target watch).paths.length ∧
          (Enumerator.allPaths ⟨.direct, limit⟩ a source target watch).paths.Subperm
            (unlimited.allPaths a source target watch).paths := by
  have direct := allPaths_eq ⟨.direct, limit⟩ valid sourceBelow targetBelow quiet
  have pruned := allPaths_eq ⟨.pruned, limit⟩ valid sourceBelow targetBelow quiet
  refine ⟨direct.trans pruned.symm, by rw [direct], ?_, fun unlimited free positive => ?_⟩
  · rw [direct]
    exact Path.sorted_mergeSort _
  · have all := allPaths_eq unlimited valid sourceBelow targetBelow quiet
    have everything : keptOf unlimited.limit (simplePaths a source target)
        = simplePaths a source target := by
      rw [keptOf, if_neg (by omega)]
    rw [direct, all, everything]
    simp only [keptOf, positive, if_true]
    constructor
    · simp only [List.length_mergeSort, List.length_reverse, List.length_take]
      omega
    · have sorts : ∀ ps : List Path, (ps.reverse.mergeSort Path.le).Perm ps := fun ps =>
        (List.mergeSort_perm _ _).trans (List.reverse_perm ps)
      have shorter : ((simplePaths a source target).take limit.toNat).Subperm
          (simplePaths a source target) := (List.take_sublist _ _).subperm
      exact (sorts _).subperm.trans (shorter.trans (sorts _).symm.subperm)

/-- The listed neighbours of nodes that are all below their number are those of a finite graph. -/
theorem valid_ofLists {rows : List (List Nat)} (below : ∀ row ∈ rows, ∀ j ∈ row, j < rows.length) :
    (Adjacency.ofLists rows).Valid := by
  have callee_lt : ∀ i j, j ∈ (Adjacency.ofLists rows).callees i → j < rows.length := by
    intro i j callee
    simp only [Adjacency.ofLists, List.getElem?_toArray] at callee
    cases here : rows[i]? with
    | none => simp [here] at callee
    | some row =>
        rw [here] at callee
        exact below row (List.mem_of_getElem? here) j callee
  have mem_callers : ∀ i j, i ∈ (Adjacency.ofLists rows).callers j ↔
      i < rows.length ∧ j ∈ (Adjacency.ofLists rows).callees i := by
    intro i j
    simp only [Adjacency.ofLists, List.mem_flatMap, List.mem_range, List.mem_filterMap,
      Option.ite_none_right_eq_some, Option.some.injEq]
    constructor
    · rintro ⟨k, kBelow, l, callee, rfl, rfl⟩
      exact ⟨kBelow, callee⟩
    · rintro ⟨iBelow, callee⟩
      exact ⟨i, iBelow, j, callee, rfl, rfl⟩
  exact {
    callees_lt := fun i _ j callee => callee_lt i j callee
    callers_lt := fun j _ i caller => ((mem_callers i j).1 caller).1
    transposed := fun i iBelow j _ => ((mem_callers i j).trans (and_iff_right iBelow)).symm }

/-- The strategies agree on a graph with a call to itself, a circle and a call listed twice, of
whose two paths a limit of one keeps one. -/
theorem strategies_list_the_same_on_circle :
    Enumerator.allPaths ⟨.direct, 1⟩ (.ofLists [[1, 0, 1], [0, 2], []]) (0 : Nat) (2 : Nat) .silent
        = Enumerator.allPaths ⟨.pruned, 1⟩ (.ofLists [[1, 0, 1], [0, 2], []]) (0 : Nat) (2 : Nat)
          .silent ∧
      ((Enumerator.allPaths ⟨.direct, 1⟩ (.ofLists [[1, 0, 1], [0, 2], []]) (0 : Nat) (2 : Nat)
        .silent).paths.length : Int)
        = min (1 : Int)
          (Enumerator.allPaths ⟨.pruned, 0⟩ (.ofLists [[1, 0, 1], [0, 2], []]) (0 : Nat)
          (2 : Nat) .silent).paths.length := by
  have valid : (Adjacency.ofLists [[1, 0, 1], [0, 2], []]).Valid := valid_ofLists (by decide)
  have agree := strategies_list_the_same valid (by decide : 0 < 3) (by decide : 2 < 3)
    (rfl : Watch.silent.quiet = none) 1
  exact ⟨agree.1, (agree.2.2.2 ⟨.pruned, 0⟩ (by decide) (by decide)).1⟩

end Strategies

end Exposure
