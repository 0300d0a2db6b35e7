/-
# Proofs.BugPaths — which paths a bug has, and how often

The list of a bug is put together from the lists between an entry and a target,
target after target (`assembled`).  The ends of a path say from which of them it
comes, so what the whole list has between two nodes is the list between the two,
once for each target name that denotes the last one (`filter_assembled`).  The
rest follows from what the single lists are.

* With shortest paths the entries are also where the search stops.  So the
  entries nearest to a target have a shortest path, and those farther away have
  none (`shortest_of_nearest_entries`, `farther_entry_has_no_path`).
* In every mode a path is listed as often as there are target names for its last
  node (`paths_repeat_with_names`).  Two names denote one node where one of them
  is the other without its synthetic parts (`wrapper_listed_twice`).
-/
import Exposure.Proofs.Fairness
import Exposure.Proofs.Interruption
import Exposure.Proofs.Metric
import Exposure.Proofs.Statistics

namespace Exposure

set_option autoImplicit false

/-! ## Lists put together -/

/-- A path goes from `s` to `t`. -/
def Path.joins (s t : Nat) (p : Path) : Bool := p.head? == some s && p.getLast? == some t

theorem Path.joins_iff {s t : Nat} {p : Path} :
    p.joins s t = true ↔ p.head? = some s ∧ p.getLast? = some t := by
  simp [joins]

theorem Adjacency.IsPath.joins {a : Adjacency} {s t : Nat} {p : Path} (path : a.IsPath s t p) :
    p.joins s t = true :=
  Path.joins_iff.2 ⟨path.head, path.last⟩

/-- The lists between entries and targets, target after target. -/
def assembled (entries targets : List Nat) (between : Nat → Nat → List Path) : List Path :=
  targets.flatMap fun t => entries.flatMap fun s => between s t

theorem flatMap_single {α : Type} (x : Nat) (block : List α) :
    ∀ l : List Nat, (l.flatMap fun y => if y = x then block else []) =
      (List.replicate (l.count x) block).flatten
  | [] => rfl
  | y :: l => by
      have rest := flatMap_single x block l
      by_cases here : y = x
      · simp [here, rest, List.replicate_succ]
      · simp [here, rest]

section Assembled

variable {entries targets : List Nat} {between : Nat → Nat → List Path}

theorem mem_assembled {p : Path} :
    p ∈ assembled entries targets between ↔ ∃ t ∈ targets, ∃ s ∈ entries, p ∈ between s t := by
  simp only [assembled, List.mem_flatMap]

/-- What a list has between two nodes is the list between the two, once for each time the last one
is a target. -/
theorem filter_assembled
    (joins : ∀ s ∈ entries, ∀ t ∈ targets, ∀ p ∈ between s t, p.joins s t = true)
    (distinct : entries.Nodup) {s : Nat} (entry : s ∈ entries) (t : Nat) :
    (assembled entries targets between).filter (Path.joins s t) =
      (List.replicate (targets.count t) (between s t)).flatten := by
  have single : ∀ t' ∈ targets, ∀ s' ∈ entries, (between s' t').filter (Path.joins s t) =
      if s' = s then if t' = t then between s t else [] else [] := by
    intro t' target s' entry'
    have ends := joins s' entry' t' target
    split
    · rename_i sameSource
      split
      · rename_i sameTarget
        rw [sameSource, sameTarget] at ends ⊢
        exact List.filter_eq_self.2 ends
      · rename_i apart
        refine List.filter_eq_nil_iff.2 fun p member both => apart ?_
        exact Option.some.inj
          ((Path.joins_iff.1 (ends p member)).2.symm.trans (Path.joins_iff.1 both).2)
    · rename_i apart
      refine List.filter_eq_nil_iff.2 fun p member both => apart ?_
      exact Option.some.inj
        ((Path.joins_iff.1 (ends p member)).1.symm.trans (Path.joins_iff.1 both).1)
  have once : entries.count s = 1 := List.nodup_iff_count_eq_one.1 distinct s entry
  have perTarget : ∀ t' ∈ targets, (entries.flatMap fun s' =>
      (between s' t').filter (Path.joins s t)) =
      if t' = t then between s t else [] := by
    intro t' target
    rw [List.flatMap_congr (single t' target), flatMap_single, once]
    simp
  simp only [assembled, List.filter_flatMap]
  rw [List.flatMap_congr perTarget, flatMap_single]

/-- A path is listed once for each time its last node is a target, if no list between two nodes
repeats one. -/
theorem count_assembled
    (joins : ∀ s ∈ entries, ∀ t ∈ targets, ∀ p ∈ between s t, p.joins s t = true)
    (distinct : entries.Nodup) (nodup : ∀ s ∈ entries, ∀ t ∈ targets, (between s t).Nodup)
    {s t : Nat} {p : Path} (entry : s ∈ entries) (target : t ∈ targets) (listed : p ∈ between s t) :
    (assembled entries targets between).count p = targets.count t := by
  have once : (between s t).count p = 1 :=
    List.nodup_iff_count_eq_one.1 (nodup s entry t target) p listed
  rw [← List.count_filter (joins s entry t target p listed),
    filter_assembled joins distinct entry t, List.count_flatten]
  simp [once]

end Assembled

/-! ## Targets as nodes -/

/-- The number of target names that denote node `t`. -/
def ConstructSet.namesFor (targets : ConstructSet) (g : Callgraph) (t : Nat) : Nat :=
  targets.names.countP fun name => g.index? name == some t

/-- No two target names denote node `t`. -/
def ConstructSet.DenotesOnce (targets : ConstructSet) (g : Callgraph) (t : Nat) : Prop :=
  ∀ n ∈ targets.names, ∀ n' ∈ targets.names, g.index? n = some t → g.index? n' = some t → n = n'

theorem count_targetNodes (g : Callgraph) (targets : ConstructSet) (t : Nat) :
    (targetNodes g targets).count t = targets.namesFor g t :=
  List.count_filterMap

theorem ConstructSet.namesFor_le_one_iff {targets : ConstructSet} {g : Callgraph} {t : Nat} :
    targets.namesFor g t ≤ 1 ↔ targets.DenotesOnce g t := by
  have nodup := targets.nodup_names.filter fun name => g.index? name == some t
  rw [namesFor, List.countP_eq_length_filter, ← List.toFinset_card_of_nodup nodup,
    Finset.card_le_one]
  simp only [List.mem_toFinset, List.mem_filter, beq_iff_eq]
  constructor
  · intro once n named n' named' here here'
    exact once n ⟨named, here⟩ n' ⟨named', here'⟩
  · intro once n ⟨named, here⟩ n' ⟨named', here'⟩
    exact once n named n' named' here here'

/-- The targets are as many as the nodes that they denote if and only if no two of them denote
one. -/
theorem length_targetNodes_eq_card_iff (g : Callgraph) (targets : ConstructSet) :
    (targetNodes g targets).length = (targetNodes g targets).toFinset.card ↔
      ∀ t, targets.DenotesOnce g t := by
  have distinct : (targetNodes g targets).Nodup ↔ ∀ t, targets.DenotesOnce g t := by
    rw [List.nodup_iff_count_le_one]
    exact forall_congr' fun t => by rw [count_targetNodes, ConstructSet.namesFor_le_one_iff]
  rw [← distinct, List.card_toFinset]
  constructor
  · intro same
    exact List.dedup_eq_self.1 ((List.dedup_sublist _).eq_of_length same.symm)
  · intro nodup
    rw [nodup.dedup]

theorem mem_targetNodes_iff {g : Callgraph} {targets : ConstructSet} {t : Nat} :
    t ∈ targetNodes g targets ↔ 0 < targets.namesFor g t := by
  rw [← count_targetNodes, List.count_pos_iff]

/-! ## Shortest paths from the nearest entries -/

/-- The shortest path between an entry and a target, unless there is a nearer entry. -/
def shortestBetween (g : Callgraph) (entries : List Nat) (s t : Nat) : List Path :=
  ((shortestPathsTo g.adjacency t entries.contains).lookup s).toList

theorem searchBug_shortest (search : PathSearch) (g : Callgraph) (entries : List Nat)
    (targets : ConstructSet) (watch : Watch) :
    searchBug true search g entries targets watch =
      .found (assembled entries (targetNodes g targets) (shortestBetween g entries)) := by
  simp only [searchBug, if_true, assembled, shortestBetween, ← List.filterMap_eq_flatMap_toList]
  rfl

theorem isPath_of_mem_shortestBetween {g : Callgraph} {entries : List Nat}
    (valid : g.adjacency.Valid) {s t : Nat} (below : t < g.size) {p : Path}
    (member : p ∈ shortestBetween g entries s t) : g.adjacency.IsPath s t p :=
  isPath_of_mem_shortestPathsTo valid below (Option.mem_toList.1 member)

/-- **Shortest paths are those of the nearest entries.** With shortest paths only, an entry than
which none is nearer to a target has one path to it, of least length, listed once for each target
name that denotes the target.  An entry that is farther away has none, and every path is one from an
entry to a target. -/
theorem shortest_of_nearest_entries (raw : RawGraph) (resolver : Resolver) {entries : List Nat}
    (distinct : entries.Nodup) (targets : ConstructSet) (search : PathSearch) (watch : Watch) :
    let g := Callgraph.ofRaw raw resolver
    let a := g.adjacency
    ∃ found, searchBug true search g entries targets watch = .found found ∧
      (∀ p ∈ found, ∃ s ∈ entries, ∃ t ∈ targetNodes g targets, a.IsPath s t p) ∧
      ∀ s ∈ entries, ∀ t ∈ targetNodes g targets, a.Reaches s t →
        ((∀ e ∈ entries, a.distance s t ≤ a.distance e t) → ∃ p, a.IsPath s t p ∧
          a.distance s t = p.calls ∧
          0 < targets.namesFor g t ∧
            found.filter (Path.joins s t) = List.replicate (targets.namesFor g t) p) ∧
        ((∃ e ∈ entries, a.distance e t < a.distance s t) →
          found.filter (Path.joins s t) = []) := by
  intro g a
  have imported := Callgraph.Imported.ofRaw raw resolver
  have valid : a.Valid := imported.valid
  have path : ∀ s ∈ entries, ∀ t ∈ targetNodes g targets, ∀ p ∈ shortestBetween g entries s t,
      a.IsPath s t p :=
    fun s _ t target p member => isPath_of_mem_shortestBetween valid
      (targetNodes_lt t target) member
  refine ⟨_, searchBug_shortest search g entries targets watch, fun p member => ?_,
    fun s entry t target reach => ?_⟩
  · obtain ⟨t, target, s, entry, listed⟩ := mem_assembled.1 member
    exact ⟨s, entry, t, target, path s entry t target p listed⟩
  have tBelow := targetNodes_lt t target
  have between := filter_assembled
    (fun s entry t target p member => (path s entry t target p member).joins)
    distinct entry t
  have met : ((shortestPathsTo a t entries.contains).lookup s).isSome = true ↔
      ∀ e, entries.contains e = true → a.distance s t ≤ a.distance e t :=
    lookup_isSome_iff_of_stop valid
      (fun s reach => imported.lt_of_reaches tBelow reach) tBelow reach
  rw [between, count_targetNodes]
  refine ⟨fun nearest => ?_, fun ⟨e, other, nearer⟩ => ?_⟩
  · obtain ⟨p, found⟩ :=
      Option.isSome_iff_exists.1 (met.2 fun e isEntry => nearest e (by simpa using isEntry))
    refine ⟨p, isPath_of_mem_shortestPathsTo valid tBelow found,
      distance_eq_of_lookup valid tBelow found, mem_targetNodes_iff.1 target, ?_⟩
    simp [shortestBetween, a, found]
  · have unmet : (shortestPathsTo a t entries.contains).lookup s = none := by
      refine Option.not_isSome_iff_eq_none.1 fun isMet => ?_
      exact absurd (met.1 isMet e (by simpa using other)) (not_le.2 nearer)
    simp [shortestBetween, a, unmet]

/-- A call of a call. -/
def twoCalls : RawGraph where
  vertices := ["A", "B", "T"].map (.ofName .java)
  callees v := (if v.name = "A" then ["B"] else if v.name = "B" then ["T"] else []).map
    (.ofName .java)

theorem reaches_twoCalls : (Callgraph.ofRaw twoCalls .nothing).adjacency.Reaches 0 2 := by
  have chain : [0, 1, 2].IsChain fun i j =>
      j ∈ (Callgraph.ofRaw twoCalls .nothing).adjacency.callees i := by
    decide +kernel
  exact Adjacency.IsWalk.reaches ⟨rfl, rfl, chain⟩

theorem shortest_of_nearest_entries_two_calls :
    let g := Callgraph.ofRaw twoCalls .nothing
    ∃ found, searchBug true (Enumerator.search ⟨.pruned, 0⟩) g [0, 1]
      (.ofNames .java ["T"]) .silent = .found found ∧
      (∃ p, g.adjacency.IsPath 1 2 p ∧ g.adjacency.distance 1 2 = p.calls ∧
        found.filter (Path.joins 1 2) = [p]) ∧
      found.filter (Path.joins 0 2) = [] := by
  intro g
  have valid : g.adjacency.Valid := (Callgraph.Imported.ofRaw twoCalls .nothing).valid
  have target : 2 ∈ targetNodes g (.ofNames .java ["T"]) := by decide +kernel
  have fromB : (shortestPathsTo g.adjacency 2 fun _ => false).lookup 1 = some [1, 2] := by
    decide +kernel
  have fromA : (shortestPathsTo g.adjacency 2 fun _ => false).lookup 0 = some [0, 1, 2] := by
    decide +kernel
  have near : g.adjacency.distance 1 2 = 1 :=
    distance_eq_of_lookup valid (targetNodes_lt 2 target) fromB
  have far : g.adjacency.distance 0 2 = 2 :=
    distance_eq_of_lookup valid (targetNodes_lt 2 target) fromA
  have named : (ConstructSet.ofNames .java ["T"]).namesFor g 2 = 1 := by decide +kernel
  have nearer : g.adjacency.distance 1 2 < g.adjacency.distance 0 2 := by
    rw [near, far]
    decide
  obtain ⟨found, outcome, -, lists⟩ :=
    shortest_of_nearest_entries twoCalls .nothing (by decide : [0, 1].Nodup) (.ofNames .java ["T"])
      (Enumerator.search ⟨.pruned, 0⟩) .silent
  obtain ⟨nearest, -⟩ := lists 1 (by decide) 2 target
    (isPath_of_mem_shortestPathsTo valid (targetNodes_lt 2 target) fromB).reaches
  obtain ⟨-, farther⟩ := lists 0 (by decide) 2 target reaches_twoCalls
  obtain ⟨p, path, least, -, once⟩ := nearest fun e entry => by
    rcases List.mem_cons.1 entry with rfl | last
    · exact nearer.le
    · rw [List.mem_singleton.1 last]
  rw [named] at once
  exact ⟨found, outcome, ⟨p, path, least, once⟩, farther ⟨1, by decide, nearer⟩⟩

/-- An entry from which the target can be reached has no path, since another entry is nearer. -/
theorem farther_entry_has_no_path :
    let g := Callgraph.ofRaw twoCalls .nothing
    2 ∈ targetNodes g (.ofNames .java ["T"]) ∧ g.adjacency.Reaches 0 2 ∧
      ∃ found, searchBug true (Enumerator.search ⟨.pruned, 0⟩) g [0, 1]
        (.ofNames .java ["T"]) .silent = .found found ∧ ∀ p ∈ found, p.joins 0 2 = false := by
  intro g
  refine ⟨by decide +kernel, reaches_twoCalls, [[1, 2]], by decide +kernel, by decide⟩

/-! ## Paths that come back -/

/-- The paths between an entry and a target in one of the modes. -/
def pathsBetween (shortestOnly : Bool) (e : Enumerator) (g : Callgraph) (entries : List Nat)
    (s t : Nat) : List Path :=
  if shortestOnly then shortestBetween g entries s t else e.listed g.adjacency s t

section Modes

variable {g : Callgraph} {entries : List Nat} {targets : ConstructSet}

theorem flatMap_searchedPairs (entries targets : List Nat) (between : Nat → Nat → List Path) :
    ((searchedPairs entries targets).flatMap fun pair => between pair.1 pair.2) =
      assembled entries targets between := by
  simp only [searchedPairs, assembled, List.flatMap_assoc, List.flatMap_map]

/-- The list of a bug without an interruption. -/
theorem searchBug_eq (shortestOnly : Bool) (e : Enumerator) (valid : g.adjacency.Valid)
    (below : ∀ s ∈ entries, s < g.size) (targets : ConstructSet) :
    searchBug shortestOnly e.search g entries targets .silent =
      .found
        (assembled entries (targetNodes g targets) (pathsBetween shortestOnly e g entries)) := by
  cases shortestOnly with
  | true => exact searchBug_shortest e.search g entries targets .silent
  | false =>
      have pairsBelow : ∀ pair ∈ searchedPairs entries (targetNodes g targets), pair.1 < g.size ∧
          pair.2 < g.size := by
        intro pair member
        obtain ⟨entry, target⟩ := mem_searchedPairs.1 member
        exact ⟨below _ entry, targetNodes_lt _ target⟩
      have listed := searchPairs_eq e valid _ .silent [] pairsBelow rfl
      rw [List.nil_append, flatMap_searchedPairs entries _ (e.listed g.adjacency)] at listed
      exact listed

/-- An interruption leaves the list out or leaves it as it is. -/
theorem searchBug_found_or_failed (shortestOnly : Bool) (e : Enumerator) {found : List Path}
    (silent : searchBug shortestOnly e.search g entries targets .silent = .found found)
    (watch : Watch) :
    searchBug shortestOnly e.search g entries targets watch = .found found ∨
      ∃ m, searchBug shortestOnly e.search g entries targets watch = .failed m := by
  cases shortestOnly with
  | true => exact .inl silent
  | false =>
      cases outcome : searchPairs e.search g
        (searchedPairs entries (targetNodes g targets)) watch [] with
      | found all =>
          have same := (searchPairs_silent e _ outcome).symm.trans silent
          exact .inl (outcome.trans same)
      | failed m => exact .inr ⟨m, outcome⟩
      | stalled => exact absurd outcome (searchPairs_ne_stalled e.search_ne_stalled _ _ _)

theorem Enumerator.nodup_listed (e : Enumerator) (simple : g.adjacency.Simple) {s : Nat}
    (below : s < g.size) (t : Nat) : (e.listed g.adjacency s t).Nodup := by
  have all := nodup_simplePaths simple below t
  have kept : (keptOf e.limit (simplePaths g.adjacency s t)).Nodup := by
    unfold keptOf
    split
    · exact all.sublist (List.take_sublist _ _)
    · exact all
  exact ((List.mergeSort_perm _ _).trans (List.reverse_perm _)).nodup_iff.2 kept

theorem isPath_of_mem_pathsBetween (shortestOnly : Bool) (e : Enumerator)
    (valid : g.adjacency.Valid) {s t : Nat} (sBelow : s < g.size) (tBelow : t < g.size) {p : Path}
    (member : p ∈ pathsBetween shortestOnly e g entries s t) : g.adjacency.IsPath s t p := by
  cases shortestOnly with
  | true => exact isPath_of_mem_shortestBetween valid tBelow member
  | false => exact e.isPath_of_mem_listed valid sBelow member

theorem nodup_pathsBetween (shortestOnly : Bool) (e : Enumerator) (simple : g.adjacency.Simple)
    {s : Nat} (below : s < g.size) (t : Nat) :
    (pathsBetween shortestOnly e g entries s t).Nodup := by
  cases shortestOnly with
  | true =>
      cases known : (shortestPathsTo g.adjacency t entries.contains).lookup s <;>
        simp [pathsBetween, shortestBetween, known]
  | false => exact e.nodup_listed simple below t

/-- Of the entries from which a target can be reached, one has a path to it. -/
theorem exists_mem_pathsBetween (shortestOnly : Bool) (e : Enumerator) (valid : g.adjacency.Valid)
    (below : ∀ s ∈ entries, s < g.size) {t : Nat} (tBelow : t < g.size)
    (reached : ∃ s ∈ entries, g.adjacency.Reaches s t) :
    ∃ s ∈ entries, ∃ p, p ∈ pathsBetween shortestOnly e g entries s t := by
  obtain ⟨s, entry, reach⟩ := reached
  cases shortestOnly with
  | true =>
      have some := (shortestFromEntries_spec valid below tBelow).complete
        ⟨s, entry, t, List.mem_singleton_self _, reach⟩
      obtain ⟨p, member⟩ := List.exists_mem_of_ne_nil _ some
      obtain ⟨s', entry', found⟩ := List.mem_filterMap.1 member
      exact ⟨s', entry', p, Option.mem_toList.2 found⟩
  | false =>
      obtain ⟨p, listed⟩ :=
        List.exists_mem_of_ne_nil _ (e.listed_ne_nil valid (below s entry) reach)
      exact ⟨s, entry, p, listed⟩

end Modes

/-- **A path is listed as often as there are target names for its last node.** So no path comes back
exactly if every node that an entry reaches has at most one target name, and the number of targets
is that of the nodes that they denote exactly if every node has at most one.  An interruption leaves
the list out or leaves it as it is. -/
theorem paths_repeat_with_names (raw : RawGraph) (resolver : Resolver) {entries : List Nat}
    (distinct : entries.Nodup) (below : ∀ s ∈ entries, s < (Callgraph.ofRaw raw resolver).size)
    (targets : ConstructSet) (shortestOnly : Bool) (e : Enumerator) :
    let g := Callgraph.ofRaw raw resolver
    (∃ found, searchBug shortestOnly e.search g entries targets .silent = .found found ∧
      (∀ watch, searchBug shortestOnly e.search g entries targets watch = .found found ∨
        ∃ m, searchBug shortestOnly e.search g entries targets watch = .failed m) ∧
      (∀ p ∈ found, ∃ t, p.getLast? = some t ∧ found.count p = targets.namesFor g t) ∧
      (found.Nodup ↔ ∀ t, (∃ s ∈ entries, g.adjacency.Reaches s t) → targets.DenotesOnce g t)) ∧
    (targetNodes g targets).length = targets.presentIn g ∧
    ((targetNodes g targets).length = (targetNodes g targets).toFinset.card ↔
      ∀ t, targets.DenotesOnce g t) := by
  intro g
  have simple : g.adjacency.Simple := (Callgraph.Imported.ofRaw raw resolver).simple
  have path : ∀ s ∈ entries, ∀ t ∈ targetNodes g targets,
      ∀ p ∈ pathsBetween shortestOnly e g entries s t,
      g.adjacency.IsPath s t p := fun s entry t target p member =>
    isPath_of_mem_pathsBetween shortestOnly e simple.toValid (below s entry)
      (targetNodes_lt t target) member
  have counted : ∀ s ∈ entries, ∀ t ∈ targetNodes g targets,
      ∀ p ∈ pathsBetween shortestOnly e g entries s t,
      (assembled entries (targetNodes g targets) (pathsBetween shortestOnly e g entries)).count p =
        targets.namesFor g t := by
    intro s entry t target p listed
    rw [← count_targetNodes]
    exact count_assembled
      (fun s entry t target p member => (path s entry t target p member).joins) distinct
      (fun s entry t _ => nodup_pathsBetween shortestOnly e simple (below s entry) t)
      entry target listed
  have silent := searchBug_eq shortestOnly e simple.toValid below targets
  refine ⟨⟨_, silent, searchBug_found_or_failed shortestOnly e silent, fun p member => ?_, ?_⟩,
    length_targetNodes g targets, length_targetNodes_eq_card_iff g targets⟩
  · obtain ⟨t, target, s, entry, listed⟩ := mem_assembled.1 member
    exact ⟨t, (path s entry t target p listed).last, counted s entry t target p listed⟩
  · rw [List.nodup_iff_count_le_one]
    constructor
    · intro once t reached
      rw [← ConstructSet.namesFor_le_one_iff]
      by_cases target : t ∈ targetNodes g targets
      · obtain ⟨s, entry, p, listed⟩ := exists_mem_pathsBetween shortestOnly e simple.toValid below
          (targetNodes_lt t target) reached
        rw [← counted s entry t target p listed]
        exact once p
      · have unnamed := mt mem_targetNodes_iff.2 target
        omega
    · intro once p
      by_cases member : p ∈ assembled entries (targetNodes g targets)
        (pathsBetween shortestOnly e g entries)
      · obtain ⟨t, target, s, entry, listed⟩ := mem_assembled.1 member
        rw [counted s entry t target p listed, ConstructSet.namesFor_le_one_iff]
        exact once t ⟨s, entry, (path s entry t target p listed).reaches⟩
      · rw [List.count_eq_zero_of_not_mem member]
        exact Nat.zero_le 1

/-- A function that calls another one through a wrapper. -/
def wrapped : RawGraph where
  vertices := [.ofName .go "app.main"]
  callees v := if v.name = "app.main" then [.ofName .go "lib.F$bound", .ofName .go "lib.G"] else []

/-- One name is that of a node without its synthetic parts, and the other one that of another
node. -/
theorem paths_repeat_with_names_wrapped :
    let g := Callgraph.ofRaw wrapped .nothing
    let targets := ConstructSet.ofNames .go ["lib.F", "lib.G"]
    targetNodes g targets = [1, 2] ∧
      (targetNodes g targets).length = (targetNodes g targets).toFinset.card ∧
      ∃ found, searchBug false (Enumerator.search ⟨.direct, 0⟩) g [0] targets .silent =
        .found found ∧ found.Nodup := by
  intro g targets
  have nodes : targetNodes g targets = [1, 2] := by
    rw [targetNodes, ConstructSet.names_of_ordered (by decide +kernel)]
    decide +kernel
  have once (t : Nat) : targets.DenotesOnce g t := by
    rw [← ConstructSet.namesFor_le_one_iff, ← count_targetNodes, nodes]
    exact List.nodup_iff_count_le_one.1 (by decide) t
  obtain ⟨⟨found, outcome, -, -, nodup⟩, -, count⟩ := paths_repeat_with_names wrapped .nothing
    (by decide : [0].Nodup) (by decide +kernel) targets false ⟨.direct, 0⟩
  exact ⟨nodes, count.2 once, found, outcome, nodup.2 fun t _ => once t⟩

/-- A wrapper whose name stands beside that of the function in it: its path is listed twice, and the
two targets are one node. -/
theorem wrapper_listed_twice :
    let g := Callgraph.ofRaw wrapped .nothing
    let targets := ConstructSet.ofNames .go ["lib.F", "lib.F$bound"]
    searchBug false (Enumerator.search ⟨.pruned, 0⟩) g [0] targets .silent =
      .found [[0, 1], [0, 1]] ∧
      (targetNodes g targets).length = 2 ∧ (targetNodes g targets).toFinset.card = 1 := by
  intro g targets
  have nodes : targetNodes g targets = [1, 1] := by
    rw [targetNodes, ConstructSet.names_of_ordered (by decide +kernel)]
    decide +kernel
  refine ⟨?_, by simp [nodes], by simp [nodes]⟩
  simp only [searchBug, nodes]
  decide +kernel

end Exposure
