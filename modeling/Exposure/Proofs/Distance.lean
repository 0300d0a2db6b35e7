/-
# Proofs.Distance — the searches of a call graph agree

Distances and shortest paths are found by one and the same search: at every
level both have met the same nodes in the same order, and a distance is the
number of calls of the path (`distances_eq`).  So what is known of the paths, that
they are simple and that no walk is shorter, is known of the distances.

With the backward closure and the enumerators this makes four searches that say
which nodes reach a target, and three that say how far away they are.
`searches_agree` is the main result.
-/
import Exposure.Proofs.BugSearch
import Exposure.Proofs.SimplePaths
import Mathlib.Tactic.TFAE

namespace Exposure

set_option autoImplicit false

/-- The calls of an imported graph are listed once each. -/
theorem Callgraph.Imported.simple {g : Callgraph} {met : List Construct}
    {calls : List (String × String)} (imported : g.Imported met calls) : g.adjacency.Simple where
  toValid := imported.valid
  callees_nodup i _ := imported.callees_nodup i

/-! ## Distances count the calls of shortest paths -/

/-- What is known of the nodes met, with the lengths of their paths only. -/
def lengths (known : List (Nat × Path)) : List (Nat × Nat) := known.map fun e => (e.1, e.2.calls)

theorem lookup_lengths (x : Nat) :
    ∀ known : List (Nat × Path), (lengths known).lookup x = (known.lookup x).map Path.calls
  | [] => rfl
  | (y, p) :: known => by
      have rest := lookup_lengths x known
      simp only [lengths, List.map_cons, List.lookup_cons] at rest ⊢
      split
      · rfl
      · exact rest

/-- The distances after the caller `c`, met at distance `d`. -/
def meetAt (d : Nat) (met : List Nat × List (Nat × Nat)) (c : Nat) : List Nat × List (Nat × Nat) :=
  if (met.2.lookup c).isSome then met else (met.1 ++ [c], met.2 ++ [(c, d)])

/-- The nodes of a search for paths, with the lengths of their paths only. -/
def Frontier.distances (f : Frontier) : List Nat × List (Nat × Nat) := (f.next, lengths f.known)

section Level

variable {a : Adjacency} {target d : Nat}

theorem meetAt_distances {path : Path} (depth : path.length = d) (f : Frontier) (c : Nat) :
    meetAt d f.distances c = (f.meet (fun _ => false) path c).distances := by
  have longer : lengths (f.known ++ [(c, c :: path)]) = lengths f.known ++ [(c, d)] := by
    simp [lengths, Path.calls, depth]
  by_cases met : (f.known.lookup c).isSome = true
  · simp [meetAt, Frontier.meet, Frontier.distances, lookup_lengths, met]
  · simp [meetAt, Frontier.meet, Frontier.distances, lookup_lengths, met, longer]

theorem foldl_meetAt {path : Path} (depth : path.length = d) :
    ∀ (cs : List Nat) (f : Frontier),
      cs.foldl (meetAt d) f.distances = (cs.foldl (Frontier.meet (fun _ => false) path) f).distances
  | [], _ => rfl
  | c :: cs, f => by
      rw [List.foldl_cons, List.foldl_cons, meetAt_distances depth, foldl_meetAt depth cs]

/-- A level meets the same callers with distances as with paths. -/
theorem foldl_callers (valid : a.Valid) {known : List (Nat × Path)} :
    ∀ (level : List Nat) {f : Frontier}, Growing a target (fun _ => false) d known f →
      (∀ n ∈ level, ∃ path, known.lookup n = some path ∧ path.length = d + 1) →
      level.foldl (fun met n => (a.callers n).foldl (meetAt (d + 1)) met) f.distances =
        (level.foldl (Frontier.meetCallers a fun _ => false) f).distances
  | [], _, _, _ => rfl
  | n :: level, f, growing, depths => by
      obtain ⟨path, here, depth⟩ := depths n List.mem_cons_self
      obtain ⟨grown, -⟩ := growing.meetCallers valid here depth
      have callers : (a.callers n).foldl (meetAt (d + 1)) f.distances =
          (f.meetCallers a (fun _ => false) n).distances := by
        rw [foldl_meetAt depth, Frontier.meetCallers, growing.stays n path here, Option.getD_some]
      rw [List.foldl_cons, List.foldl_cons, callers]
      exact foldl_callers valid level grown fun x member => depths x (List.mem_cons_of_mem n member)

theorem distanceLevel_eq (valid : a.Valid) {level : List Nat} {known : List (Nat × Path)}
    (levelled : Levelled a target (fun _ => false) d level known) :
    distanceLevel a (d + 1) level (lengths known) =
      (shortestLevel a (fun _ => false) level known).distances := by
  exact foldl_callers valid level (.start levelled.sound) levelled.depths

theorem distanceLevels_eq (valid : a.Valid) :
    ∀ (fuel : Nat) {d : Nat} {level : List Nat} {known : List (Nat × Path)},
      Levelled a target (fun _ => false) d level known →
      distanceLevels a fuel (d + 1) level (lengths known) =
        lengths (shortestLevels a (fun _ => false) fuel level known)
  | 0, _, _, _, _ => rfl
  | _ + 1, _, [], _, _ => rfl
  | fuel + 1, d, n :: level, known, levelled => by
      obtain ⟨grown, -⟩ := shortestLevel_spec valid (fun _ => false) levelled.sound levelled.depths
      have next := levelled.nextLevel valid fun _ _ => rfl
      have going : (shortestLevel a (fun _ => false) (n :: level) known).halted = false := by
        simpa using grown.halted
      simp only [distanceLevels, distanceLevel_eq valid levelled, Frontier.distances,
        shortestLevels, going]
      exact distanceLevels_eq valid fuel next

end Level

/-- The distances are the lengths of the shortest paths. -/
theorem distances_eq {a : Adjacency} (valid : a.Valid) {target : Nat} (below : target < a.size) :
    distances a target = lengths (shortestPathsTo a target fun _ => false) :=
  distanceLevels_eq valid (a.size + 1) (Levelled.start_target below _)

theorem getElem?_distancesTo {a : Adjacency} (valid : a.Valid) {target n : Nat}
    (below : target < a.size) (nBelow : n < a.size) :
    (distancesTo a target)[n]? = some
      (((shortestPathsTo a target fun _ => false).lookup n).map Path.calls) := by
  simp [distancesTo, distances_eq valid below, lookup_lengths, nBelow]

/-! ## The searches agree -/

section Agreement

variable {a : Adjacency} {source target : Nat} {p : Path}

/-- The path met is one of least length among all paths to the target. -/
theorem min?_calls (valid : a.Valid) (below : target < a.size) {paths : List Path}
    (listed : ∀ q, q ∈ paths ↔ a.IsPath source target q)
    (found : (shortestPathsTo a target fun _ => false).lookup source = some p) :
    (paths.map Path.calls).min? = some p.calls := by
  have path := isPath_of_mem_shortestPathsTo valid below found
  rw [List.min?_eq_some_iff]
  refine ⟨List.mem_map_of_mem ((listed p).2 path), fun n member => ?_⟩
  obtain ⟨q, here, rfl⟩ := List.mem_map.1 member
  have other := (listed q).1 here
  have least := length_le_of_isWalk valid below found other.isWalk
  rw [path.isWalk.length_eq, other.isWalk.length_eq] at least
  omega

/-- **The searches of a call graph agree.**  A node is marked by the backward closure of the target
exactly if it has a finite distance, exactly if it is met by the search for shortest paths, and
exactly if an enumeration without a limit lists a path.  Then the least number of calls listed, the
distance and the length of the path met are the same number, and the path met is listed. -/
theorem searches_agree (raw : RawGraph) (resolver : Resolver) {source target : Nat}
    (sourceBelow : source < (Callgraph.ofRaw raw resolver).size)
    (targetBelow : target < (Callgraph.ofRaw raw resolver).size) {watch : Watch}
    (quiet : watch.quiet = none) (strategy : Strategy) {limit : Int} (unlimited : limit ≤ 0) :
    let a := (Callgraph.ofRaw raw resolver).adjacency
    let shortest := shortestPathsTo a target fun _ => false
    let listing := Enumerator.allPaths ⟨strategy, limit⟩ a source target watch
    listing.failure = none ∧
      [source ∈ backwardClosure a target,
        ∃ d < a.size, (distancesTo a target)[source]? = some (some d),
        ∃ p, shortest.lookup source = some p,
        listing.paths ≠ []].TFAE ∧
      (source ∈ backwardClosure a target → ∃ d p, (listing.paths.map Path.calls).min? = some d ∧
        (distancesTo a target)[source]? = some (some d) ∧
          shortest.lookup source = some p ∧ p.calls = d ∧
        p ∈ listing.paths) := by
  intro a shortest listing
  have simple : a.Simple := (Callgraph.Imported.ofRaw raw resolver).simple
  have exact : listing.Exact a source target :=
    exact_allPaths ⟨strategy, limit⟩ simple sourceBelow targetBelow quiet unlimited
  have marked : source ∈ backwardClosure a target ↔ a.Reaches source target :=
    mem_backwardClosure simple.toValid sourceBelow targetBelow
  have met : (∃ p, shortest.lookup source = some p) ↔ a.Reaches source target :=
    Option.isSome_iff_exists.symm.trans
      (isSome_shortestPathsTo simple.toValid targetBelow sourceBelow)
  have distance := getElem?_distancesTo simple.toValid targetBelow sourceBelow
  refine ⟨exact.complete, ?_, fun mark => ?_⟩
  · tfae_have 1 ↔ 3 := marked.trans met.symm
    tfae_have 2 ↔ 3 := by
      rw [distance]
      constructor
      · rintro ⟨d, -, finite⟩
        obtain ⟨p, found, -⟩ := Option.map_eq_some_iff.1 (Option.some.inj finite)
        exact ⟨p, found⟩
      · rintro ⟨p, found⟩
        have path := isPath_of_mem_shortestPathsTo simple.toValid targetBelow found
        have short := path.length_le simple.toValid sourceBelow
        rw [path.isWalk.length_eq] at short
        exact ⟨p.calls, short, congrArg some (Option.map_eq_some_iff.2 ⟨p, found, rfl⟩)⟩
    tfae_have 4 ↔ 1 := by
      rw [marked, Adjacency.reaches_iff_exists_isPath]
      constructor
      · intro some
        obtain ⟨p, listed⟩ := List.exists_mem_of_ne_nil _ some
        exact ⟨p, (exact.mem_paths p).1 listed⟩
      · rintro ⟨p, path⟩
        exact List.ne_nil_of_mem ((exact.mem_paths p).2 path)
    tfae_finish
  · obtain ⟨p, found⟩ := met.2 (marked.1 mark)
    have path := isPath_of_mem_shortestPathsTo simple.toValid targetBelow found
    refine ⟨p.calls, p, min?_calls simple.toValid targetBelow exact.mem_paths found, ?_, found, rfl,
      (exact.mem_paths p).2 path⟩
    exact distance.trans (congrArg some (Option.map_eq_some_iff.2 ⟨p, found, rfl⟩))

end Agreement

/-- A call that can be made directly and by way of another one, and a call back. -/
def shortcut : RawGraph where
  vertices := ["a", "b", "c"].map (.ofName .java)
  callees v := (if v.name = "a" then ["b", "c"] else if v.name = "b" then ["c"] else ["a"]).map
    (.ofName .java)

theorem searches_agree_shortcut :
    let a := (Callgraph.ofRaw shortcut .nothing).adjacency
    let listing := Enumerator.allPaths ⟨.direct, 0⟩ a (0 : Nat) (2 : Nat) .silent
    (distancesTo a 2)[0]? = some (some 1) ∧ (listing.paths.map Path.calls).min? = some 1 ∧
      ∃ p, (shortestPathsTo a 2 fun _ => false).lookup 0 = some p ∧ p.calls = 1 ∧
        p ∈ listing.paths := by
  intro a listing
  have distance : (distancesTo a 2)[0]? = some (some 1) := by decide +kernel
  obtain ⟨-, agree, least⟩ := searches_agree shortcut .nothing (by decide +kernel : 0 < a.size)
    (by decide +kernel : 2 < a.size) (rfl : Watch.silent.quiet = none) .direct
    (by decide : (0 : Int) ≤ 0)
  have finite : ∃ d < a.size, (distancesTo a 2)[0]? = some (some d) :=
    ⟨1, by decide +kernel, distance⟩
  have marked : 0 ∈ backwardClosure a 2 := (agree.out 0 1).2 finite
  obtain ⟨d, p, smallest, same, found, calls, listed⟩ := least marked
  obtain rfl : 1 = d := by simpa using distance.symm.trans same
  exact ⟨distance, smallest, p, found, calls, listed⟩

end Exposure
