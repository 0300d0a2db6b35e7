/-
# Proofs.Metric — the searches measure the distance

The distance of two nodes is the least number of calls on a walk from one to the
other, and infinite where there is no walk (`Adjacency.distance`).

A search that is told where to stop meets every node up to the distance of the
nearest stop and no other (`Settled.met_iff`).  A node nearer than the last level
has its callers met, so none of the nodes to stop at is nearer, and what is as
near as the last level has been met with it.  `shortest_paths_exact` says this of
the search for shortest paths and `distances_exact` says it of the distances,
which never stop.

Neither search is cut short by its fuel: every level but the last one meets a new
node (`shortestLevels_add_fuel`).
-/
import Exposure.Proofs.Distance
import Mathlib.Data.ENat.Lattice

namespace Exposure

set_option autoImplicit false

/-! ## Distances -/

namespace Adjacency

variable {a : Adjacency} {s t : Nat} {p : Path}

/-- The least number of calls on a walk from `s` to `t`. -/
noncomputable def distance (a : Adjacency) (s t : Nat) : ℕ∞ :=
  ⨅ p, ⨅ _ : a.IsWalk s t p, (p.calls : ℕ∞)

theorem IsWalk.distance_le (walk : a.IsWalk s t p) : a.distance s t ≤ p.calls := iInf₂_le p walk

theorem le_distance {n : ℕ∞} (least : ∀ q, a.IsWalk s t q → n ≤ q.calls) : n ≤ a.distance s t :=
  le_iInf₂ least

/-- A walk than which none is shorter has the distance as its length. -/
theorem IsWalk.distance_eq (walk : a.IsWalk s t p)
    (least : ∀ q, a.IsWalk s t q → p.length ≤ q.length) : a.distance s t = p.calls := by
  refine le_antisymm walk.distance_le (le_distance fun q other => ?_)
  have short := least q other
  rw [walk.length_eq, other.length_eq] at short
  exact_mod_cast Nat.le_of_succ_le_succ short

/-- A finite distance is the length of some walk. -/
theorem exists_isWalk_of_distance (finite : a.distance s t ≠ ⊤) :
    ∃ p, a.IsWalk s t p ∧ a.distance s t = p.calls := by
  have lengths : a.distance s t = ⨅ w : { p // a.IsWalk s t p }, (w.1.calls : ℕ∞) := iInf_subtype'
  have some : Nonempty { p // a.IsWalk s t p } := by
    by_contra none
    rw [not_nonempty_iff] at none
    exact finite (lengths.trans (iInf_of_empty _))
  obtain ⟨w, attained⟩ := ENat.exists_eq_iInf fun w : { p // a.IsWalk s t p } => (w.1.calls : ℕ∞)
  exact ⟨w.1, w.2, lengths.trans attained.symm⟩

/-- The distance is finite exactly where the target is reached. -/
theorem distance_ne_top_iff : a.distance s t ≠ ⊤ ↔ a.Reaches s t := by
  constructor
  · intro finite
    obtain ⟨p, walk, -⟩ := exists_isWalk_of_distance finite
    exact walk.reaches
  · intro reach
    obtain ⟨p, path⟩ := reaches_iff_exists_isPath.1 reach
    exact ne_top_of_le_ne_top (ENat.natCast_ne_top _) path.isWalk.distance_le

/-- The distance to `t` of the nearest node to stop at. -/
noncomputable def stopDistance (a : Adjacency) (stops : Nat → Bool) (t : Nat) : ℕ∞ :=
  ⨅ s, ⨅ _ : stops s = true, a.distance s t

end Adjacency

/-! ## What a search meets -/

section Search

variable {a : Adjacency} {target : Nat} {stops : Nat → Bool} {d : Nat} {level : List Nat}
    {known : List (Nat × Path)}

theorem Levelled.distance_eq (valid : a.Valid) (levelled : Levelled a target stops d level known)
    {x : Nat} {p : Path} (found : known.lookup x = some p) : a.distance x target = p.calls :=
  (levelled.sound.path x p found).isWalk.distance_eq fun _ walk => levelled.least valid found walk

/-- No node to stop at is nearer than a node met. -/
theorem Levelled.le_stopDistance (valid : a.Valid) (inside : ∀ s, a.Reaches s target → s < a.size)
    (levelled : Levelled a target stops d level known) {x : Nat} {p : Path}
    (found : known.lookup x = some p) : (p.calls : ℕ∞) ≤ a.stopDistance stops target := by
  refine le_iInf₂ fun s isStop => Adjacency.le_distance fun q walk => ?_
  by_contra nearer
  have shorter : q.calls < p.calls := by exact_mod_cast not_le.1 nearer
  have shallow := levelled.shallow x p found
  have pLength := (levelled.sound.path x p found).isWalk.length_eq
  have qLength := walk.length_eq
  -- a stop with a shorter walk was met before the last level, where there are none
  obtain ⟨p', here, short⟩ := levelled.near valid walk (inside s walk.reaches) (.inr (by omega))
  have before : s ∉ level := fun member => by
    have depth := (levelled.front s p' here).1 member
    omega
  have going := levelled.unstopped s (by simp [Met, here]) before
  simp [isStop] at going

/-- **A search meets the nodes up to the distance of the nearest node to stop at, and no other.** -/
theorem Settled.met_iff (valid : a.Valid) (inside : ∀ s, a.Reaches s target → s < a.size)
    (settled : Settled a target stops d level known) (n : Nat) :
    Met known n ↔ a.distance n target ≠ ⊤ ∧ a.distance n target ≤ a.stopDistance stops target := by
  constructor
  · intro met
    obtain ⟨p, found⟩ := Option.isSome_iff_exists.1 met
    rw [settled.distance_eq valid found]
    exact ⟨ENat.natCast_ne_top _, settled.le_stopDistance valid inside found⟩
  · rintro ⟨finite, near⟩
    obtain ⟨q, walk, attained⟩ := Adjacency.exists_isWalk_of_distance finite
    have within : level = [] ∨ q.length ≤ d + 1 := by
      refine settled.ended.imp_right fun ⟨s, member, isStop⟩ => ?_
      obtain ⟨p, here, depth⟩ := settled.depths s member
      have stop : a.stopDistance stops target ≤ p.calls :=
        (iInf₂_le s isStop).trans_eq (settled.distance_eq valid here)
      have calls : q.calls ≤ p.calls := by
        rw [attained] at near
        exact_mod_cast near.trans stop
      rw [walk.length_eq, ← depth, (settled.sound.path s p here).isWalk.length_eq]
      omega
    obtain ⟨p, found, -⟩ := settled.near valid walk (inside n walk.reaches) within
    simp [Met, found]

/-- The path of a search is as long as the distance. -/
theorem distance_eq_of_lookup (valid : a.Valid) (below : target < a.size) {x : Nat} {p : Path}
    (found : (shortestPathsTo a target stops).lookup x = some p) :
    a.distance x target = p.calls := by
  obtain ⟨d, level, settled⟩ := settled_shortestPathsTo valid below stops
  exact settled.distance_eq valid found

/-- The nearest nodes to stop at are met, and no other nodes to stop at. -/
theorem lookup_isSome_iff_of_stop (valid : a.Valid) (inside : ∀ s, a.Reaches s target → s < a.size)
    (below : target < a.size) {s : Nat} (reach : a.Reaches s target) :
    ((shortestPathsTo a target stops).lookup s).isSome = true ↔
      ∀ e, stops e = true → a.distance s target ≤ a.distance e target := by
  obtain ⟨d, level, settled⟩ := settled_shortestPathsTo valid below stops
  have finite := Adjacency.distance_ne_top_iff.2 reach
  exact (settled.met_iff valid inside s).trans ((and_iff_right finite).trans le_iInf₂_iff)

/-! ## Fuel -/

/-- The levels do the same with more fuel, since each one but the last meets a new node. -/
theorem shortestLevels_add_fuel (valid : a.Valid) (more : Nat) :
    ∀ {fuel d : Nat} {level : List Nat} {known : List (Nat × Path)},
      Levelled a target stops d level known →
      (∀ n ∈ level, stops n = false) → a.size - known.length +
        (if level = [] then 0 else 1) ≤ fuel →
      shortestLevels a stops (fuel + more) level known = shortestLevels a stops fuel level known
  | 0, d, level, known, levelled, _, enough => by
      obtain rfl : level = [] := by
        by_contra some
        simp [some] at enough
      cases more <;> rfl
  | fuel + 1, d, [], known, _, _, _ => by
      rw [Nat.add_right_comm]
      rfl
  | fuel + 1, d, n :: level, known, levelled, going, enough => by
      have next := levelled.nextLevel valid going
      rw [Nat.add_right_comm]
      simp only [shortestLevels]
      split
      · rfl
      · rename_i further
        simp only [reduceCtorEq, if_false] at enough
        obtain ⟨goingOn, enoughLeft⟩ :=
          levelled.goes_on valid further (Nat.le_of_succ_le_succ enough)
        exact shortestLevels_add_fuel valid more next goingOn enoughLeft

end Search

/-! ## Searches of an imported graph -/

/-- In an imported graph only nodes call, so only nodes reach a node. -/
theorem Callgraph.Imported.lt_of_reaches {g : Callgraph} {met : List Construct}
    {calls : List (String × String)} (imported : g.Imported met calls) {s t : Nat}
    (below : t < g.size) (reach : g.adjacency.Reaches s t) : s < g.size := by
  cases reach using Relation.ReflTransGen.head_induction_on with
  | refl => exact below
  | head call _ =>
      obtain ⟨e, -, source, -⟩ := (imported.callees _ _).1 call
      exact reportedIndex?_lt source

section Imported

variable (raw : RawGraph) (resolver : Resolver) {target : Nat}

/-- **The search for shortest paths is exact.** It has an entry for exactly the nodes that are at a
finite distance from the target and no farther away than the nearest node to stop at, and one entry
for each. An entry is a simple path of least length, and goes on as the entry of its second
node.  The search ends with fuel to spare. -/
theorem shortest_paths_exact (below : target < (Callgraph.ofRaw raw resolver).size)
    (stops : Nat → Bool) :
    let a := (Callgraph.ofRaw raw resolver).adjacency
    let known := shortestPathsTo a target stops
    (known.map (·.1)).Nodup ∧
      (∀ n, (known.lookup n).isSome = true ↔
        a.distance n target ≠ ⊤ ∧ a.distance n target ≤ a.stopDistance stops target) ∧
      (∀ n p, known.lookup n = some p → a.IsPath n target p ∧ a.distance n target = p.calls) ∧
      (∀ n p, known.lookup n = some p → n ≠ target → ∃ m q, p = n :: m :: q ∧
        known.lookup m = some (m :: q)) ∧
      (stops target = false → ∀ more,
        shortestLevels a stops (a.size + 1 + more) [target] [(target, [target])] = known) := by
  intro a known
  have imported := Callgraph.Imported.ofRaw raw resolver
  have valid : a.Valid := imported.valid
  obtain ⟨d, level, settled⟩ := settled_shortestPathsTo valid below stops
  refine ⟨settled.sound.keys, ?_, fun n p found => ?_, settled.sound.tail, fun going more => ?_⟩
  · exact settled.met_iff valid fun s reach => imported.lt_of_reaches below reach
  · exact ⟨settled.sound.path n p found, settled.distance_eq valid found⟩
  · have whole : known = shortestLevels a stops (a.size + 1) [target] [(target, [target])] := by
      simp [known, shortestPathsTo, going]
    rw [whole]
    refine shortestLevels_add_fuel valid more (Levelled.start_target below stops)
      (by simpa using going) ?_
    simp only [List.length_singleton, List.cons_ne_nil, if_false]
    omega

/-- **The distances of a call graph are exact.** Every node has one: the target is at distance 0,
what reaches it at the number of calls of a shortest path, which is less than the number of nodes,
and everything else at no distance at all.  The search ends with fuel to spare. -/
theorem distances_exact (below : target < (Callgraph.ofRaw raw resolver).size) :
    let a := (Callgraph.ofRaw raw resolver).adjacency
    (distancesTo a target).length = a.size ∧
      (distancesTo a target)[target]? = some (some 0) ∧
      (∀ n, a.Reaches n target → ∃ p, a.IsPath n target p ∧ a.distance n target = p.calls ∧
        p.calls < a.size ∧ (distancesTo a target)[n]? = some (some p.calls)) ∧
      (∀ n < a.size, ¬ a.Reaches n target → (distancesTo a target)[n]? = some none) ∧
      ∀ more, distanceLevels a (a.size + 1 + more) 1 [target] [(target, 0)] =
        distances a target := by
  intro a
  have imported := Callgraph.Imported.ofRaw raw resolver
  have valid : a.Valid := imported.valid
  have met (n : Nat) (nBelow : n < a.size) := isSome_shortestPathsTo valid below nBelow
  have start : Levelled a target (fun _ => false) 0 [target] [(target, [target])] :=
    .start_target below _
  obtain ⟨d, level, settled⟩ := settled_shortestPathsTo valid below fun _ => false
  refine ⟨by simp [distancesTo], ?_, fun n reach => ?_, fun n nBelow apart => ?_, fun more => ?_⟩
  · rw [getElem?_distancesTo valid below below, settled.start]
    rfl
  · have nBelow := imported.lt_of_reaches below reach
    obtain ⟨p, found⟩ := Option.isSome_iff_exists.1 ((met n nBelow).2 reach)
    have path := settled.sound.path n p found
    have short := path.length_le valid nBelow
    rw [path.isWalk.length_eq] at short
    refine ⟨p, path, settled.distance_eq valid found, short, ?_⟩
    rw [getElem?_distancesTo valid below nBelow, found]
    rfl
  · rw [getElem?_distancesTo valid below nBelow, Option.not_isSome_iff_eq_none.1
      (mt (met n nBelow).1 apart)]
    rfl
  · rw [distances_eq valid below]
    have levels : distanceLevels a (a.size + 1 + more) 1 [target] [(target, 0)] =
        lengths (shortestLevels a (fun _ => false)
          (a.size + 1 + more) [target] [(target, [target])]) :=
      distanceLevels_eq valid _ start
    rw [levels, shortestLevels_add_fuel valid more start (by simp)]
    · rfl
    · simp only [List.length_singleton, List.cons_ne_nil, if_false]
      omega

end Imported

/-- A way down from `d` by `a` and `b` to `c`, another one by `f`, a circle with a call to itself,
and a vertex apart.  The nodes are numbered in the order of the letters. -/
def descent : RawGraph where
  vertices := ["a", "b", "c", "d", "e", "f"].map (.ofName .java)
  callees v := (if v.name = "b" then ["b", "c"] else if v.name = "d" then ["a"]
    else if v.name = "e" then []
    else ["b"]).map (.ofName .java)

theorem shortest_paths_exact_descent :
    let a := (Callgraph.ofRaw descent .nothing).adjacency
    let known := shortestPathsTo a 2 [0, 4].contains
    known.lookup 5 = some [5, 1, 2] ∧ a.IsPath 5 2 [5, 1, 2] ∧ a.distance 5 2 = 2 ∧
      a.distance 5 2 ≤ a.stopDistance [0, 4].contains 2 ∧ known.lookup 1 = some [1, 2] ∧
      known.lookup 3 = none ∧ a.distance 3 2 ≠ ⊤ ∧
        a.stopDistance [0, 4].contains 2 < a.distance 3 2 := by
  intro a known
  obtain ⟨-, met, path, tail, -⟩ :=
    shortest_paths_exact descent .nothing (by decide +kernel : 2 < a.size) [0, 4].contains
  have met5 : known.lookup 5 = some [5, 1, 2] := by decide +kernel
  have unmet3 : known.lookup 3 = none := by decide +kernel
  have way3 : a.IsWalk 3 2 [3, 0, 1, 2] := by
    have chain : [3, 0, 1, 2].IsChain fun i j => j ∈ a.callees i := by decide +kernel
    exact ⟨rfl, rfl, chain⟩
  obtain ⟨path5, distance5⟩ := path 5 _ met5
  obtain ⟨m, q, same, met1⟩ := tail 5 _ met5 (by decide)
  obtain ⟨rfl, rfl⟩ : 1 = m ∧ [2] = q := by simpa using same
  have finite3 : a.distance 3 2 ≠ ⊤ := Adjacency.distance_ne_top_iff.2 way3.reaches
  have far3 : ¬ a.distance 3 2 ≤ a.stopDistance [0, 4].contains 2 := fun near => by
    have entry := (met 3).2 ⟨finite3, near⟩
    simp [a, known, unmet3] at entry
  exact ⟨met5, path5, distance5, ((met 5).1 (by simp [a, known, met5])).2, met1, unmet3, finite3,
    not_le.1 far3⟩

theorem distances_exact_descent :
    let a := (Callgraph.ofRaw descent .nothing).adjacency
    distancesTo a 2 = [some 2, some 1, some 0, some 3, none, some 2] ∧ a.distance 3 2 = 3 ∧
      ¬ a.Reaches 4 2 := by
  intro a
  have all : distancesTo a 2 = [some 2, some 1, some 0, some 3, none, some 2] := by decide +kernel
  obtain ⟨-, -, finite, -, -⟩ := distances_exact descent .nothing (by decide +kernel : 2 < a.size)
  refine ⟨all, ?_, fun reach => ?_⟩
  · have chain : [3, 0, 1, 2].IsChain fun i j => j ∈ a.callees i := by decide +kernel
    obtain ⟨p, -, distance, -, listed⟩ := finite 3 (Adjacency.IsWalk.reaches ⟨rfl, rfl, chain⟩)
    have three : 3 = p.calls := by simpa [a, all] using listed
    rw [distance, ← three]
    rfl
  · obtain ⟨p, -, -, -, listed⟩ := finite 4 reach
    simp [a, all] at listed

end Exposure
