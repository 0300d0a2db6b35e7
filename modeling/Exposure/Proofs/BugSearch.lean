/-
# Proofs.BugSearch — the paths of a bug answer whether it can be reached

Enumerators and the search for shortest paths go about it in different ways and
keep different paths.  `Answers` is what all of them promise: every path leads
from an entry to a target, and there is a path if a target can be reached at
all.  No limit takes the last path away, and no search fails as long as nothing
interrupts it.
-/
import Exposure.Analysis.Search
import Exposure.Proofs.Enumeration
import Exposure.Proofs.Import
import Exposure.Proofs.Shortest

namespace Exposure

set_option autoImplicit false

/-- The neighbours of an imported graph are those of a finite graph. -/
theorem Callgraph.Imported.valid {g : Callgraph} {met : List Construct}
    {calls : List (String × String)} (imported : g.Imported met calls) : g.adjacency.Valid where
  callees_lt _ _ _ callee := imported.callees_lt callee
  callers_lt _ _ _ caller := imported.callers_lt caller
  transposed i _ j _ := imported.mem_callees_iff i j

theorem Callgraph.index?_lt {g : Callgraph} {name : String} {i : Nat}
    (found : g.index? name = some i) : i < g.size := by
  rcases Option.or_eq_some_iff.1 found with reported | ⟨-, normalized⟩
  · exact reportedIndex?_lt reported
  · exact (Array.findIdx?_eq_some_iff_getElem.1 normalized).1

theorem targetNodes_lt {g : Callgraph} {targets : ConstructSet} :
    ∀ t ∈ targetNodes g targets, t < g.size := by
  intro t member
  obtain ⟨name, -, found⟩ := List.mem_filterMap.1 member
  exact Callgraph.index?_lt found

/-- The paths `found` say whether a target can be reached from an entry. -/
structure Answers (a : Adjacency) (entries targets : List Nat) (found : List Path) : Prop where
  sound : ∀ p ∈ found, ∃ e ∈ entries, ∃ t ∈ targets, a.IsPath e t p
  complete : (∃ e ∈ entries, ∃ t ∈ targets, a.Reaches e t) → found ≠ []

theorem Answers.ne_nil_iff {a : Adjacency} {entries targets : List Nat} {found : List Path}
    (answers : Answers a entries targets found) :
    found ≠ [] ↔ ∃ e ∈ entries, ∃ t ∈ targets, a.Reaches e t := by
  refine ⟨fun some => ?_, answers.complete⟩
  obtain ⟨p, member⟩ := List.exists_mem_of_ne_nil found some
  obtain ⟨e, entry, t, target, path⟩ := answers.sound p member
  exact ⟨e, entry, t, target, path.reaches⟩

/-- The paths have nodes, all of which are in the graph. -/
theorem Answers.recordable {g : Callgraph} {entries targets : List Nat} {found : List Path}
    (answers : Answers g.adjacency entries targets found) (valid : g.adjacency.Valid)
    (below : ∀ e ∈ entries, e < g.size) {p : Path} (member : p ∈ found) :
    p ≠ [] ∧ ∀ n ∈ p, n < g.size := by
  obtain ⟨e, entry, t, -, path⟩ := answers.sound p member
  refine ⟨?_, path.lt valid (below e entry)⟩
  rintro rfl
  cases path.head

section Search

variable {g : Callgraph}

/-! ## Enumerators -/

theorem mem_keptOf {limit : Int} {met : List Path} {p : Path} (member : p ∈ keptOf limit met) :
    p ∈ met := by
  unfold keptOf at member
  split at member
  · exact List.mem_of_mem_take member
  · exact member

theorem keptOf_ne_nil (limit : Int) {met : List Path} (some : met ≠ []) :
    keptOf limit met ≠ [] := by
  unfold keptOf
  split
  · rw [Ne, List.take_eq_nil_iff, not_or]
    exact ⟨by omega, some⟩
  · exact some

/-- What an enumerator lists between two nodes without an interruption. -/
def Enumerator.listed (e : Enumerator) (a : Adjacency) (source target : Nat) : List Path :=
  (keptOf e.limit (simplePaths a source target)).reverse.mergeSort Path.le

theorem Enumerator.isPath_of_mem_listed (e : Enumerator) (valid : g.adjacency.Valid)
    {source target : Nat} (below : source < g.size) {p : Path}
    (member : p ∈ e.listed g.adjacency source target) : g.adjacency.IsPath source target p :=
  (mem_pathsFrom valid below).1 (mem_keptOf (List.mem_reverse.1 (List.mem_mergeSort.1 member)))

theorem Enumerator.listed_ne_nil (e : Enumerator) (valid : g.adjacency.Valid) {source target : Nat}
    (below : source < g.size) (reach : g.adjacency.Reaches source target) :
    e.listed g.adjacency source target ≠ [] := by
  obtain ⟨p, path⟩ := Adjacency.reaches_iff_exists_isPath.1 reach
  have met : p ∈ simplePaths g.adjacency source target := (mem_pathsFrom valid below).2 path
  obtain ⟨q, kept⟩ := List.exists_mem_of_ne_nil _ (keptOf_ne_nil e.limit (List.ne_nil_of_mem met))
  exact List.ne_nil_of_mem (List.mem_mergeSort.2 (List.mem_reverse.2 kept))

/-- One enumeration without an interruption. -/
theorem Enumerator.search_eq (e : Enumerator) (valid : g.adjacency.Valid) {source target : Nat}
    (sourceBelow : source < g.size) (targetBelow : target < g.size) {watch : Watch}
    (quiet : watch.quiet = none) :
    ∃ after, e.search g source target watch = (.found (e.listed g.adjacency source target), after) ∧
      after.quiet = none := by
  obtain ⟨listing, still⟩ := paths_eq e valid sourceBelow targetBelow quiet
  exact ⟨_, by simp [Enumerator.search, listing, Listing.enumerated, Enumerator.listed], still⟩

/-- The enumerations between several pairs of nodes, one after the other. -/
theorem searchPairs_eq (e : Enumerator) (valid : g.adjacency.Valid) :
    ∀ (pairs : List (Nat × Nat)) (watch : Watch) (found : List Path),
      (∀ pair ∈ pairs, pair.1 < g.size ∧ pair.2 < g.size) → watch.quiet = none →
      searchPairs e.search g pairs watch found =
        .found (found ++ pairs.flatMap fun pair => e.listed g.adjacency pair.1 pair.2)
  | [], _, found, _, _ => by simp [searchPairs]
  | (source, target) :: pairs, watch, found, below, quiet => by
      obtain ⟨sourceBelow, targetBelow⟩ := below (source, target) List.mem_cons_self
      obtain ⟨after, here, still⟩ := e.search_eq valid sourceBelow targetBelow quiet
      have rest := searchPairs_eq e valid pairs after (found ++ e.listed g.adjacency source target)
        (fun pair member => below pair (List.mem_cons_of_mem _ member)) still
      simp [searchPairs, here, rest]

theorem mem_searchedPairs {entries targets : List Nat} {pair : Nat × Nat} :
    pair ∈ searchedPairs entries targets ↔ pair.1 ∈ entries ∧ pair.2 ∈ targets := by
  simp only [searchedPairs, List.mem_flatMap, List.mem_map]
  constructor
  · rintro ⟨t, target, e, entry, rfl⟩
    exact ⟨entry, target⟩
  · rintro ⟨entry, target⟩
    exact ⟨pair.2, target, pair.1, entry, rfl⟩

/-! ## Shortest paths -/

theorem shortestFromEntries_spec (valid : g.adjacency.Valid) {entries : List Nat}
    (below : ∀ e ∈ entries, e < g.size) {target : Nat} (targetBelow : target < g.size) :
    Answers g.adjacency entries [target] (shortestFromEntries g entries target) := by
  have stops : ∀ s, entries.contains s = true ↔ s ∈ entries := fun s => by simp
  refine ⟨fun p member => ?_, ?_⟩
  · obtain ⟨e, entry, found⟩ := List.mem_filterMap.1 member
    exact ⟨e, entry, target, List.mem_singleton_self _,
      isPath_of_mem_shortestPathsTo valid targetBelow found⟩
  · rintro ⟨e, entry, _, isTarget, reach⟩
    obtain rfl := List.mem_singleton.1 isTarget
    obtain ⟨s, isStop, met⟩ := (exists_stop_shortestPathsTo valid targetBelow fun s isStop =>
      below s ((stops s).1 isStop)).2 ⟨e, (stops e).2 entry, reach⟩
    obtain ⟨p, found⟩ := Option.isSome_iff_exists.1 met
    exact List.ne_nil_of_mem (List.mem_filterMap.2 ⟨s, (stops s).1 isStop, found⟩)

/-! ## Bugs -/

/-- **The search of a bug finds paths, and they say whether it can be reached**, with every
enumerator and with shortest paths alike. -/
theorem searchBug_spec (e : Enumerator) (shortestOnly : Bool) (valid : g.adjacency.Valid)
    {entries : List Nat} (entriesBelow : ∀ e ∈ entries, e < g.size) {targets : ConstructSet}
    (targetsBelow : ∀ t ∈ targetNodes g targets, t < g.size) :
    ∃ found, searchBug shortestOnly e.search g entries targets .silent = .found found ∧
      Answers g.adjacency entries (targetNodes g targets) found := by
  unfold searchBug
  cases shortestOnly with
  | true =>
      refine ⟨_, rfl, fun p member => ?_, ?_⟩
      · obtain ⟨t, target, found⟩ := List.mem_flatMap.1 member
        obtain ⟨e, entry, _, isTarget, path⟩ :=
          (shortestFromEntries_spec valid entriesBelow (targetsBelow t target)).sound p found
        obtain rfl := List.mem_singleton.1 isTarget
        exact ⟨e, entry, _, target, path⟩
      · rintro ⟨e, entry, t, target, reach⟩
        have some := (shortestFromEntries_spec valid entriesBelow (targetsBelow t target)).complete
          ⟨e, entry, t, List.mem_singleton_self _, reach⟩
        obtain ⟨p, found⟩ := List.exists_mem_of_ne_nil _ some
        exact List.ne_nil_of_mem (List.mem_flatMap.2 ⟨t, target, found⟩)
  | false =>
      have pairsBelow : ∀ pair ∈ searchedPairs entries (targetNodes g targets), pair.1 < g.size ∧
          pair.2 < g.size := by
        intro pair member
        obtain ⟨entry, target⟩ := mem_searchedPairs.1 member
        exact ⟨entriesBelow _ entry, targetsBelow _ target⟩
      refine ⟨_, searchPairs_eq e valid _ .silent [] pairsBelow rfl, fun p member => ?_, ?_⟩
      · obtain ⟨pair, among, listed⟩ := List.mem_flatMap.1 member
        obtain ⟨entry, target⟩ := mem_searchedPairs.1 among
        exact ⟨pair.1, entry, pair.2, target,
          e.isPath_of_mem_listed valid (entriesBelow _ entry) listed⟩
      · rintro ⟨s, entry, t, target, reach⟩
        obtain ⟨p, listed⟩ :=
          List.exists_mem_of_ne_nil _ (e.listed_ne_nil valid (entriesBelow s entry) reach)
        exact List.ne_nil_of_mem
          (List.mem_flatMap.2 ⟨(s, t), mem_searchedPairs.2 ⟨entry, target⟩, listed⟩)

end Search

end Exposure
