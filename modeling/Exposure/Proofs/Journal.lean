/-
# Proofs.Journal — what has been written down by when

The pipeline writes its notes in four chapters: on the graph, on the number of
bugs, on the search and on the scan.  The front writes a few notes of its own
before it returns, and may do so at any moment.  `Journal` says what both have
written by the stage that the pipeline is in, and that the statistics, the graph
and the findings of a run are those of these notes (`Reached.journal`).

So a snapshot shows a beginning of the story, and shows nothing of a chapter
without all of the chapters before it (`prefix_of_mem`).  `ordered_of_run` reads
off which parts of a result come only together.
-/
import Exposure.Proofs.Interruption

namespace Exposure

set_option autoImplicit false

/-! ## Notes -/

namespace Note

/-- The statistic of a note. -/
def stat? : Note → Option (String × String)
  | .stat key value => some (key, value)
  | _ => none

/-- The graph of a note. -/
def graph? : Note → Option Callgraph
  | .graph g => some g
  | _ => none

/-- The findings of a note. -/
def findings? : Note → Option Findings
  | .findings f => some f
  | _ => none

/-- The statistics among notes. -/
def statsOf (notes : List Note) : List (String × String) := notes.filterMap stat?

/-- The last graph among notes. -/
def graphOf (notes : List Note) : Option Callgraph := (notes.filterMap graph?).getLast?

/-- The last findings among notes. -/
def findingsOf (notes : List Note) : Option Findings := (notes.filterMap findings?).getLast?

/-- The keys of the statistics among notes. -/
def keysOf (notes : List Note) : List String := (statsOf notes).map (·.1)

theorem statsOf_append (first more : List Note) :
    statsOf (first ++ more) = statsOf first ++ statsOf more :=
  List.filterMap_append

theorem keysOf_append (first more : List Note) :
    keysOf (first ++ more) = keysOf first ++ keysOf more := by
  simp [keysOf, statsOf_append]

theorem keysOf_subset {first told : List Note} (begun : first <+: told) :
    keysOf first ⊆ keysOf told := by
  obtain ⟨more, rfl⟩ := begun
  rw [keysOf_append]
  exact List.subset_append_left _ _

theorem ne_of_not_mem_keysOf {notes : List Note} {key : String} (other : key ∉ keysOf notes) :
    ∀ e ∈ statsOf notes, e.1 ≠ key :=
  fun _ member same => other (same ▸ List.mem_map_of_mem member)

theorem mem_keysOf {notes : List Note} {key : String} :
    key ∈ keysOf notes ↔ ∃ value, .stat key value ∈ notes := by
  simp only [keysOf, statsOf, List.mem_map, List.mem_filterMap]
  constructor
  · rintro ⟨e, ⟨n, member, same⟩, rfl⟩
    cases n with
    | stat key value =>
        obtain rfl : (key, value) = e := by simpa [stat?] using same
        exact ⟨value, member⟩
    | _ => simp [stat?] at same
  · rintro ⟨value, member⟩
    exact ⟨(key, value), ⟨_, member, rfl⟩, rfl⟩

theorem onStats_eq (n : Note) (es : List (String × String)) :
    n.onStats (.ofList es) = .ofList (es ++ statsOf [n]) := by
  cases n with
  | stat key value => exact (Dict.ofList_concat es key value).symm
  | _ => exact congrArg Dict.ofList (List.append_nil es).symm

/-- A statistic may as well stand before those under other keys. -/
theorem onStats_append {n : Note} {es later : List (String × String)}
    (apart : ∀ e ∈ statsOf [n], ∀ e' ∈ later, e'.1 ≠ e.1) :
    n.onStats (.ofList (es ++ later)) = .ofList (es ++ statsOf [n] ++ later) := by
  cases n with
  | stat key value => exact Dict.insert_ofList_append value (apart (key, value) List.mem_cons_self)
  | _ => exact congrArg (Dict.ofList <| · ++ later) (List.append_nil es).symm

theorem onGraph_graphOf (n : Note) (notes : List Note) :
    n.onGraph (graphOf notes) = graphOf (notes ++ [n]) := by
  cases n <;> simp [onGraph, graphOf, graph?, List.filterMap_append]

theorem onFindings_findingsOf (n : Note) (notes : List Note) :
    n.onFindings (findingsOf notes) = findingsOf (notes ++ [n]) := by
  cases n <;> simp [onFindings, findingsOf, findings?, List.filterMap_append]

theorem graphOf_isSome {g : Callgraph} {notes : List Note} (member : .graph g ∈ notes) :
    (graphOf notes).isSome = true := by
  have found : g ∈ notes.filterMap graph? := List.mem_filterMap.2 ⟨_, member, rfl⟩
  simpa [graphOf, Option.isSome_iff_ne_none] using List.ne_nil_of_mem found

theorem findingsOf_isSome {notes : List Note} :
    (findingsOf notes).isSome = true ↔ ∃ f, .findings f ∈ notes := by
  rw [findingsOf, Option.isSome_iff_ne_none, ne_eq, List.getLast?_eq_none_iff]
  constructor
  · intro some
    obtain ⟨f, found⟩ := List.exists_mem_of_ne_nil _ some
    obtain ⟨n, member, same⟩ := List.mem_filterMap.1 found
    cases n with
    | findings f' => exact ⟨f', member⟩
    | _ => simp [findings?] at same
  · rintro ⟨f, member⟩
    have found : f ∈ notes.filterMap findings? := List.mem_filterMap.2 ⟨_, member, rfl⟩
    exact List.ne_nil_of_mem found

end Note

open Note (statsOf keysOf graphOf findingsOf)

namespace RunState

variable {a : Analysis} {bugs : Dict ConstructSet} {s t : RunState}

/-! ### The statistics of each chapter -/

theorem stats_buildNotes (a : Analysis) (b : Built) (g : Callgraph) :
    statsOf (buildNotes a b g) =
      [("cg_construction_ms", Text.intText b.elapsed), ("cg_nodes", Nat.repr g.size),
        ("cg_edges", Nat.repr g.edgeCount), ("cg_unresolved", Nat.repr g.unresolved.size),
        ("entry_points", Nat.repr ((keptEntries a g b.entries).filterMap (·.2)).length),
        ("phase1_ms", Timing.milliseconds a.timing.construct)] := by
  simp [statsOf, buildNotes, List.filterMap_cons, List.filterMap_map, Function.comp_def, Note.stat?]

theorem stats_searchNotes (a : Analysis) (submitted : Nat) (summary : SearchSummary) :
    statsOf (searchNotes a submitted summary) =
      summary.stats ++ [("phase2_ms", Timing.milliseconds a.timing.search)] := by
  simp [statsOf, searchNotes, List.filterMap_cons, List.filterMap_map,
    Function.comp_def, Note.stat?]

theorem stats_scanNotes (a : Analysis) (ranges : Nat) (f : Findings) :
    statsOf (scanNotes a ranges f) =
      [("reachable_constructs", Nat.repr f.reachableCount),
        ("touch_points", Nat.repr f.touchPointCount), ("unattributed", Text.intText f.unattributed),
        ("phase3_ms", Timing.milliseconds a.timing.scan)] := by
  simp [statsOf, scanNotes, List.filterMap_cons, List.filterMap_map, Function.comp_def, Note.stat?]

theorem stats_closingNotes (a : Analysis) (error : Option RunError) :
    statsOf (closingNotes a error) =
      (if error = some .timeout then [("timeout", "true")] else []) ++
        [("elapsed_ms", Timing.milliseconds a.timing.total)] := by
  cases error with
  | none => rfl
  | some e => cases e <;> rfl

/-- The notes of the front are about no graph and no findings. -/
theorem eq_none_of_mem_closingNotes {error : Option RunError} {n : Note}
    (member : n ∈ closingNotes a error) : n.graph? = none ∧ n.findings? = none := by
  have all : (closingNotes a error).all (fun n => n.graph?.isNone && n.findings?.isNone) =
      true := by
    cases error with
    | none => rfl
    | some e => cases e <;> rfl
  simpa using List.all_eq_true.1 all n member

theorem onGraph_of_none {n : Note} (none : n.graph? = none) (g : Option Callgraph) :
    n.onGraph g = g := by
  cases n with
  | graph => simp [Note.graph?] at none
  | _ => rfl

theorem onFindings_of_none {n : Note} (none : n.findings? = none) (f : Option Findings) :
    n.onFindings f = f := by
  cases n with
  | findings => simp [Note.findings?] at none
  | _ => rfl

/-! ## The story of a run -/

/-- The notes that the pipeline is about to write. -/
def pending : Stage → List Note
  | .noting notes _ => notes
  | _ => []

/-- The pipeline has gone on to the search, so there is an entry point. -/
def hasEntered : Stage → Prop
  | .building => False
  | .noting _ .search => False
  | .noting _ (.finish (some _)) => False
  | .ended (some (.build _)) => False
  | .ended (some .noEntryPoints) => False
  | .ended (some .timeout) => False
  | .ended (some (.interrupted _)) => False
  | _ => True

/-- What the pipeline comes to write about. -/
structure Story where
  built : Built
  summary : SearchSummary
  ranges : Nat
  findings : Findings

namespace Story

variable (story : Story) (a : Analysis) (bugs : Dict ConstructSet)

/-- The number of bugs with targets. -/
def targeted (bugs : Dict ConstructSet) : Nat := (bugs.entries.filter hasTargets).length

/-- Nothing to write about. -/
def blank : Story := ⟨{ graph := ⟨[], fun _ => []⟩, entries := .empty }, {}, 0, .none⟩

def graphNotes : List Note := buildNotes a story.built (Prepared.ofBuilt a story.built).graph

def bugNotes (bugs : Dict ConstructSet) : List Note :=
  [.stat "bugs_total" (Nat.repr (targeted bugs))]

def pathNotes : List Note := searchNotes a (targeted bugs) story.summary

def findingNotes : List Note := scanNotes a story.ranges story.findings

/-- All four chapters. -/
def whole : List Note :=
  story.graphNotes a ++ bugNotes bugs ++ story.pathNotes a bugs ++ story.findingNotes a

/-- The chapters that are complete at a stage. -/
def complete : Stage → List Note
  | .submittingBugs _ _ | .noting _ .await | .ended (some .noEntryPoints) => story.graphNotes a
  | .awaitingSearch | .noting _ .scan | .ended (some (.search _)) =>
      story.graphNotes a ++ bugNotes bugs
  | .submittingRanges _ | .awaitingScan | .noting _ (.finish none) | .ended (some (.scan _)) =>
    story.graphNotes a ++ bugNotes bugs ++ story.pathNotes a bugs
  | .ended none => story.whole a bugs
  | _ => []

/-- The chapter that is being written at a stage. -/
def current : Stage → List Note
  | .noting _ .search | .noting _ (.finish (some _)) => story.graphNotes a
  | .noting _ .await => bugNotes bugs
  | .noting _ .scan => story.pathNotes a bugs
  | .noting _ (.finish none) => story.findingNotes a
  | _ => []

/-- What is complete and what is being written is a beginning of the story. -/
theorem complete_append_current_prefix (stage : Stage) :
    story.complete a bugs stage ++ story.current a bugs stage <+: story.whole a bugs := by
  have graph : story.graphNotes a <+: story.whole a bugs := by
    simp only [whole, List.append_assoc]
    exact List.prefix_append _ _
  have upToBugs : story.graphNotes a ++ bugNotes bugs <+: story.whole a bugs := by
    simp only [whole, List.append_assoc]
    exact List.prefix_append_right_inj _ |>.2 (List.prefix_append _ _)
  have upToPaths : story.graphNotes a ++ bugNotes bugs ++ story.pathNotes a bugs <+:
      story.whole a bugs :=
    List.prefix_append _ _
  cases stage with
  | building => simp [complete, current]
  | noting notes next =>
      cases next with
      | finish error =>
          cases error with
          | none => exact List.prefix_rfl
          | some e => simpa [complete, current] using graph
      | search => simpa [complete, current] using graph
      | await => exact upToBugs
      | scan => exact upToPaths
  | submittingBugs => simpa [complete, current] using graph
  | awaitingSearch => simpa [complete, current] using upToBugs
  | submittingRanges => simpa [complete, current] using upToPaths
  | awaitingScan => simpa [complete, current] using upToPaths
  | ended error =>
      cases error with
      | none => simp [complete, current]
      | some e =>
          cases e with
          | noEntryPoints => simpa [complete, current] using graph
          | search => simpa [complete, current] using upToBugs
          | scan => simpa [complete, current] using upToPaths
          | _ => simp [complete, current]

/-- Once the pipeline has gone on to the search, all is written about the graph. -/
theorem graphNotes_prefix_complete {stage : Stage} (entered : hasEntered stage) :
    story.graphNotes a <+: story.complete a bugs stage := by
  cases stage with
  | building => exact entered.elim
  | noting notes next =>
      cases next with
      | finish error =>
          cases error with
          | none => simp [complete]
          | some e => exact entered.elim
      | search => exact entered.elim
      | _ => simp [complete]
  | ended error =>
      cases error with
      | none => simp [complete, whole]
      | some e =>
          cases e with
          | search | scan => simp [complete]
          | _ => exact entered.elim
  | _ => simp [complete]

/-- Before that, nothing else is. -/
theorem prefix_graphNotes {stage : Stage} (outside : ¬ hasEntered stage) :
    story.complete a bugs stage ++ story.current a bugs stage <+: story.graphNotes a := by
  cases stage with
  | building => simp [complete, current]
  | noting notes next =>
      cases next with
      | finish error =>
          cases error with
          | none => exact absurd trivial outside
          | some e => simp [complete, current]
      | search => simp [complete, current]
      | _ => exact absurd trivial outside
  | ended error =>
      cases error with
      | none => exact absurd trivial outside
      | some e =>
          cases e with
          | search | scan => exact absurd trivial outside
          | _ => simp [complete, current]
  | _ => exact absurd trivial outside

end Story

/-! ## The journal -/

/-- What the front has written by where it is. -/
def wroteClosing (a : Analysis) (closed : List Note) : Front → Prop
  | .watching => closed = []
  | .closing rest error => closed ++ rest = closingNotes a error
  | .returned r => closed = closingNotes a r.error

/-- What has been written down, `told` by the pipeline and `closed` by the front. -/
structure Journal (a : Analysis) (bugs : Dict ConstructSet) (s : RunState) (story : Story)
    (told closed : List Note) : Prop where
  /-- The pipeline has written some of its current chapter and is about to write the rest. -/
  pipeline : ∃ part, told = story.complete a bugs s.stage ++ part ∧
    part ++ pending s.stage = story.current a bugs s.stage
  front : wroteClosing a closed s.front
  stats : s.stats = .ofList (statsOf told ++ statsOf closed)
  graph : s.graph = graphOf told
  findings : s.findings = findingsOf told
  built : ∀ p, s.prepared = some p → p = .ofBuilt a story.built
  entry : hasEntered s.stage → (Prepared.ofBuilt a story.built).entries ≠ []
  summary : searchIsOver s.stage → story.summary = s.summary

/-! ### Keys -/

namespace Story

variable {story : Story}

theorem keysOf_graphNotes : keysOf (story.graphNotes a) =
    ["cg_construction_ms", "cg_nodes", "cg_edges", "cg_unresolved", "entry_points",
      "phase1_ms"] := by
  rw [keysOf, graphNotes, stats_buildNotes]
  rfl

theorem keysOf_bugNotes : keysOf (bugNotes bugs) = ["bugs_total"] := rfl

/-- The keys that a summary of searches may have. -/
def summaryKeys : List String :=
  ["bugs_reachable", "path_len_min", "path_len_avg", "path_len_max", "target_count_min",
    "target_count_avg", "target_count_max"]

theorem key_of_mem_summary {summary : SearchSummary} {e : String × String}
    (member : e ∈ summary.stats) : e.1 ∈ summaryKeys := by
  have spread (v : Spread) (name : String) (among : e ∈ v.stats name) :
      e.1 = name ++ "_min" ∨ e.1 = name ++ "_avg" ∨ e.1 = name ++ "_max" := by
    unfold Spread.stats at among
    split at among
    · cases among
    · simp only [List.mem_cons, List.not_mem_nil, or_false] at among
      rcases among with rfl | rfl | rfl <;> simp
  rcases List.mem_cons.1 member with rfl | member
  · exact List.mem_cons_self
  rcases List.mem_append.1 member with lengths | targets
  · rcases spread _ _ lengths with same | same | same <;> rw [same] <;> decide
  · rcases spread _ _ targets with same | same | same <;> rw [same] <;> decide

theorem not_mem_summary {key : String} (other : key ∉ summaryKeys) (summary : SearchSummary) :
    key ∉ summary.stats.map (·.1) := by
  intro member
  obtain ⟨e, among, rfl⟩ := List.mem_map.1 member
  exact other (key_of_mem_summary among)

theorem keysOf_pathNotes : keysOf (story.pathNotes a bugs) =
    story.summary.stats.map (·.1) ++ ["phase2_ms"] := by
  rw [keysOf, pathNotes, stats_searchNotes, List.map_append]
  rfl

theorem keysOf_findingNotes : keysOf (story.findingNotes a) =
    ["reachable_constructs", "touch_points", "unattributed", "phase3_ms"] := by
  rw [keysOf, findingNotes, stats_scanNotes]
  rfl

/-- A key of the story that is of no summary stands in one of four lists. -/
theorem mem_keysOf_whole {key : String} (other : key ∉ summaryKeys) :
    key ∈ keysOf (story.whole a bugs) ↔
      key ∈ ["cg_construction_ms", "cg_nodes", "cg_edges", "cg_unresolved", "entry_points",
        "phase1_ms"] ∨ key = "bugs_total" ∨ key = "phase2_ms" ∨
        key ∈ ["reachable_constructs", "touch_points", "unattributed", "phase3_ms"] := by
  simp only [whole, Note.keysOf_append, keysOf_graphNotes, keysOf_bugNotes, keysOf_pathNotes,
    keysOf_findingNotes,
    List.mem_append, not_mem_summary other, false_or, List.mem_singleton, or_assoc]

end Story

theorem keysOf_closingNotes (a : Analysis) (error : Option RunError) :
    keysOf (closingNotes a error) = (if error = some .timeout then ["timeout"] else []) ++
      ["elapsed_ms"] := by
  rw [keysOf, stats_closingNotes, List.map_append]
  split <;> rfl

/-- The front and the pipeline write under different keys. -/
theorem not_mem_keysOf_closingNotes {story : Story} {error : Option RunError} {key : String}
    (member : key ∈ keysOf (story.whole a bugs)) : key ∉ keysOf (closingNotes a error) := by
  have timeout : "timeout" ∉ keysOf (story.whole a bugs) := by
    rw [Story.mem_keysOf_whole (by decide)]
    decide
  have elapsed : "elapsed_ms" ∉ keysOf (story.whole a bugs) := by
    rw [Story.mem_keysOf_whole (by decide)]
    decide
  rw [keysOf_closingNotes]
  rintro closing
  rcases List.mem_append.1 closing with first | last
  · split at first
    · exact timeout (List.mem_singleton.1 first ▸ member)
    · cases first
  · exact elapsed (List.mem_singleton.1 last ▸ member)

/-! ### Steps -/

/-- Nothing has been written down from one state to the other. -/
structure SameNotes (s t : RunState) : Prop where
  front : t.front = s.front
  stats : t.stats = s.stats
  graph : t.graph = s.graph
  findings : t.findings = s.findings

namespace Journal

variable {story : Story} {told closed : List Note}

/-- What the pipeline has told is a beginning of the story. -/
theorem told_prefix (journal : Journal a bugs s story told closed) :
    told <+: story.whole a bugs := by
  obtain ⟨part, rfl, current⟩ := journal.pipeline
  refine List.IsPrefix.trans ?_ (story.complete_append_current_prefix a bugs s.stage)
  rw [← current, ← List.append_assoc]
  exact List.prefix_append _ _

/-- What the front has written is a beginning of its notes. -/
theorem closed_prefix (journal : Journal a bugs s story told closed) :
    ∃ error, closed <+: closingNotes a error := by
  have front := journal.front
  cases here : s.front with
  | watching =>
      rw [here] at front
      obtain rfl : closed = [] := front
      exact ⟨none, List.nil_prefix⟩
  | closing rest error =>
      rw [here] at front
      exact ⟨error, rest, front⟩
  | returned r =>
      rw [here] at front
      exact ⟨r.error, front ▸ List.prefix_rfl⟩

/-- Nothing is written down. -/
theorem congr (journal : Journal a bugs s story told closed) (stage : t.stage = s.stage)
    (same : SameNotes s t) (prepared : t.prepared = s.prepared)
    (summary : searchIsOver s.stage → t.summary = s.summary) :
    Journal a bugs t story told closed where
  pipeline := stage ▸ journal.pipeline
  front := same.front ▸ journal.front
  stats := same.stats.trans journal.stats
  graph := same.graph.trans journal.graph
  findings := same.findings.trans journal.findings
  built p built := journal.built p (prepared.symm.trans built)
  entry entered := journal.entry (stage ▸ entered)
  summary past := (journal.summary (stage ▸ past)).trans (summary (stage ▸ past)).symm

/-- The pipeline turns to a new stage, with nothing left to write at the old one. -/
theorem turn (journal : Journal a bugs s story told closed) {before after : Stage} {story' : Story}
    (here : s.stage = before) (there : t.stage = after) (idle : pending before = [])
    (complete : story'.complete a bugs after = story.complete a bugs before ++
      story.current a bugs before)
    (current : story'.current a bugs after = pending after) (same : SameNotes s t)
    (built : ∀ p, t.prepared = some p → p = .ofBuilt a story'.built)
    (entry : hasEntered after → (Prepared.ofBuilt a story'.built).entries ≠ [])
    (summary : searchIsOver after → story'.summary = t.summary) :
    Journal a bugs t story' told closed where
  pipeline := by
    obtain ⟨part, rfl, written⟩ := journal.pipeline
    rw [here, idle, List.append_nil] at written
    refine ⟨[], ?_, ?_⟩
    · rw [there, here, complete, written, List.append_nil]
    · rw [there, current, List.nil_append]
  front := same.front ▸ journal.front
  stats := same.stats.trans journal.stats
  graph := same.graph.trans journal.graph
  findings := same.findings.trans journal.findings
  built := built
  entry := there ▸ entry
  summary := there ▸ summary

/-- The pipeline goes on to another stage, and nothing new is known. -/
theorem goesOn (journal : Journal a bugs s story told closed) {before after : Stage}
    (here : s.stage = before)
    (there : t.stage = after) (idle : pending before = [])
    (complete : story.complete a bugs after = story.complete a bugs before ++
      story.current a bugs before)
    (current : story.current a bugs after = pending after) (same : SameNotes s t)
    (prepared : t.prepared = s.prepared) (summary : t.summary = s.summary)
    (entered : hasEntered after → hasEntered before)
    (past : searchIsOver after → searchIsOver before) : Journal a bugs t story told closed :=
  journal.turn here there idle complete current same
    (fun p known => journal.built p (prepared.symm.trans known))
    (fun enter => journal.entry (here ▸ entered enter))
    fun ended => (journal.summary (here ▸ past ended)).trans summary.symm

/-- The pipeline writes a note of its chapter. -/
theorem tell (journal : Journal a bugs s story told closed) {n : Note} {notes : List Note}
    {next : Next} (stage : s.stage = .noting (n :: notes) next)
    (stage' : t.stage = .noting notes next) (front : t.front = s.front)
    (stats : t.stats = n.onStats s.stats) (graph : t.graph = n.onGraph s.graph)
    (findings : t.findings = n.onFindings s.findings) (prepared : t.prepared = s.prepared)
    (summary : t.summary = s.summary) : Journal a bugs t story (told ++ [n]) closed := by
  -- where the pipeline is in its chapter makes no difference to what the chapter is
  have same : story.complete a bugs t.stage = story.complete a bugs s.stage ∧
      story.current a bugs t.stage = story.current a bugs s.stage ∧
      (hasEntered t.stage ↔ hasEntered s.stage) ∧
        (searchIsOver t.stage ↔ searchIsOver s.stage) := by
    rw [stage, stage']
    cases next with
    | finish error => cases error <;> exact ⟨rfl, rfl, .rfl, .rfl⟩
    | _ => exact ⟨rfl, rfl, .rfl, .rfl⟩
  obtain ⟨complete, current, entered, past⟩ := same
  have pipeline : ∃ part, told ++ [n] = story.complete a bugs t.stage ++ part ∧
      part ++ pending t.stage = story.current a bugs t.stage := by
    obtain ⟨part, rfl, written⟩ := journal.pipeline
    refine ⟨part ++ [n], by rw [complete, List.append_assoc], ?_⟩
    rw [current, ← written, stage, stage']
    simp [pending]
  have mine : n ∈ story.whole a bugs := by
    obtain ⟨part, rfl, written⟩ := journal.pipeline
    refine (story.complete_append_current_prefix a bugs s.stage).subset (List.mem_append_right _ ?_)
    rw [← written, stage]
    simp [pending]
  have apart : ∀ e ∈ statsOf [n], ∀ e' ∈ statsOf closed, e'.1 ≠ e.1 := by
    intro e own
    obtain ⟨error, begun⟩ := journal.closed_prefix
    have ownKey : e.1 ∈ keysOf (story.whole a bugs) :=
      List.mem_map_of_mem
        (List.filterMap_subset _ (List.cons_subset.2 ⟨mine, List.nil_subset _⟩) own)
    exact Note.ne_of_not_mem_keysOf fun other => not_mem_keysOf_closingNotes ownKey
      (Note.keysOf_subset begun other)
  exact
    { pipeline
      front := front ▸ journal.front
      stats := by rw [stats, journal.stats, Note.onStats_append apart, Note.statsOf_append]
      graph := by rw [graph, journal.graph, Note.onGraph_graphOf]
      findings := by rw [findings, journal.findings, Note.onFindings_findingsOf]
      built := fun p built => journal.built p (prepared.symm.trans built)
      entry := fun here => journal.entry (entered.1 here)
      summary := fun here => (journal.summary (past.1 here)).trans summary.symm }

/-- The front writes one of its notes. -/
theorem close (journal : Journal a bugs s story told closed) {n : Note} {notes : List Note}
    {error : Option RunError} (front : s.front = .closing (n :: notes) error)
    (front' : t.front = .closing notes error) (stage : t.stage = s.stage)
    (stats : t.stats = n.onStats s.stats) (graph : t.graph = n.onGraph s.graph)
    (findings : t.findings = n.onFindings s.findings) (prepared : t.prepared = s.prepared)
    (summary : t.summary = s.summary) : Journal a bugs t story told (closed ++ [n]) := by
  have written : closed ++ n :: notes = closingNotes a error := by
    have before := journal.front
    rwa [front] at before
  obtain ⟨noGraph, noFindings⟩ : n.graph? = none ∧ n.findings? = none :=
    eq_none_of_mem_closingNotes (written ▸ List.mem_append_right _ List.mem_cons_self)
  exact
    { pipeline := stage ▸ journal.pipeline
      front := by
        rw [front', wroteClosing, List.append_assoc]
        exact written
      stats := by rw [stats, journal.stats, Note.onStats_eq, Note.statsOf_append, List.append_assoc]
      graph := by rw [graph, onGraph_of_none noGraph, journal.graph]
      findings := by rw [findings, onFindings_of_none noFindings, journal.findings]
      built := fun p built => journal.built p (prepared.symm.trans built)
      entry := fun here => journal.entry (stage ▸ here)
      summary := fun past => (journal.summary (stage ▸ past)).trans summary.symm }

/-- The front comes to write, or to return. -/
theorem face (journal : Journal a bugs s story told closed) {front : Front}
    (wrote : wroteClosing a closed front) (front_eq : t.front = front) (stage : t.stage = s.stage)
    (stats : t.stats = s.stats) (graph : t.graph = s.graph) (findings : t.findings = s.findings)
    (prepared : t.prepared = s.prepared) (summary : t.summary = s.summary) :
    Journal a bugs t story told closed where
  pipeline := stage ▸ journal.pipeline
  front := front_eq ▸ wrote
  stats := stats.trans journal.stats
  graph := graph.trans journal.graph
  findings := findings.trans journal.findings
  built p built := journal.built p (prepared.symm.trans built)
  entry entered := journal.entry (stage ▸ entered)
  summary past := (journal.summary (stage ▸ past)).trans summary.symm

end Journal

/-- Nothing is submitted before the search. -/
theorem Reached.no_searches (reached : Reached a bugs s)
    (fresh : unsubmitted bugs s.stage = bugs.entries) : s.searches = [] := by
  have submitted := reached.submitted
  rw [fresh] at submitted
  exact List.map_eq_nil_iff.1 (List.append_left_eq_self.1 submitted)

/-- Once no bug is left, every bug with targets is submitted. -/
theorem Reached.searches_length (reached : Reached a bugs s)
    (none : unsubmitted bugs s.stage = []) : s.searches.length = Story.targeted bugs := by
  have submitted := congrArg List.length reached.submitted
  simpa [none, Story.targeted] using submitted

/-- While bugs are submitted, the pipeline counts them. -/
theorem Reached.submitted_count (reached : Reached a bugs s) {rest : List (String × ConstructSet)}
    {submitted : Nat} (stage : s.stage = .submittingBugs rest submitted) :
    s.searches.length = submitted := by
  revert rest submitted
  refine reached.invariant (P := fun s => ∀ {rest : List (String × ConstructSet)} {submitted : Nat},
    s.stage = .submittingBugs rest submitted → s.searches.length = submitted) (by simp) ?_
  intro s t reached before step rest submitted stage
  cases step
  case goesOnToSearch here =>
      obtain ⟨-, rfl⟩ : _ ∧ 0 = submitted := by simpa using stage
      exact List.length_eq_zero_iff.2 (reached.no_searches (by rw [here]; rfl))
  case passesOver count here _ _ =>
      obtain ⟨-, rfl⟩ : _ ∧ count = submitted := by simpa using stage
      exact before here
  case submits count here _ _ =>
      obtain ⟨-, rfl⟩ : _ ∧ count + 1 = submitted := by simpa using stage
      simp [before here]
  case starts | skips | fails | finds | counts | stores | uploads =>
      refine Eq.trans ?_ (before stage)
      exact List.length_modify _ _ _
  case buildFails | builds | writes | goesOnToAwait | goesOnToScan | goesOnToEnd |
      submitsNoMore | givesUpSearch
      | leavesSearch | submitsRanges | submitsNoMoreRanges | givesUpScan | leavesScan => cases stage
  all_goals exact before stage

namespace Journal

variable {story : Story} {told closed : List Note}

/-- The pipeline starts with the notes on the graph that it has built. -/
theorem opens (journal : Journal a bugs s story told closed) {b : Built} {next : Next}
    (here : s.stage = .building)
    (there : t.stage = .noting (buildNotes a b (Prepared.ofBuilt a b).graph) next)
    (first : next = .finish (some .noEntryPoints) ∨ next = .search) (same : SameNotes s t)
    (prepared : t.prepared = some (.ofBuilt a b)) :
    Journal a bugs t { story with built := b } told closed := by
  have built (p : Prepared) (known : t.prepared = some p) : p = .ofBuilt a b :=
    Option.some.inj (known.symm.trans prepared)
  rcases first with rfl |
    rfl <;> exact journal.turn here there rfl rfl rfl same built False.elim False.elim

/-- The pipeline comes to the bugs, since there is an entry point. -/
theorem comesToBugs (journal : Journal a bugs s story told closed) (reached : Reached a bugs s)
    (here : s.stage = .noting [] .search) (there : t.stage = .submittingBugs bugs.entries 0)
    (same : SameNotes s t) (prepared : t.prepared = s.prepared) :
    Journal a bugs t story told closed := by
  obtain ⟨p, built, some⟩ : s.HasEntry := by
    have fits := reached.fits
    rwa [here] at fits
  exact journal.turn here there rfl rfl rfl same
    (fun p known => journal.built p (prepared.symm.trans known))
    (fun _ => journal.built p built ▸ some) False.elim

/-- All bugs are submitted, and their number comes next. -/
theorem countsBugs (journal : Journal a bugs s story told closed) (reached : Reached a bugs s)
    {submitted : Nat} (here : s.stage = .submittingBugs [] submitted)
    (there : t.stage = .noting [.stat "bugs_total" (Nat.repr submitted)] .await)
    (same : SameNotes s t) (prepared : t.prepared = s.prepared) :
    Journal a bugs t story told closed := by
  have all : submitted = Story.targeted bugs :=
    (reached.submitted_count here).symm.trans (reached.searches_length (by rw [here]; rfl))
  have entry : (Prepared.ofBuilt a story.built).entries ≠ [] :=
    journal.entry (by rw [here]; trivial)
  exact journal.turn here there rfl (List.append_nil _).symm (by rw [all]; rfl) same
    (fun p known => journal.built p (prepared.symm.trans known)) (fun _ => entry) False.elim

/-- The search is over, and what it came to is known. -/
theorem leavesSearch (journal : Journal a bugs s story told closed) (reached : Reached a bugs s)
    (here : s.stage = .awaitingSearch)
    (there : t.stage = .noting (searchNotes a s.searches.length s.summary) .scan)
    (same : SameNotes s t) (prepared : t.prepared = s.prepared) (summary : t.summary = s.summary) :
    Journal a bugs t { story with summary := s.summary } told closed := by
  have all : s.searches.length = Story.targeted bugs := reached.searches_length (by rw [here]; rfl)
  have entry : (Prepared.ofBuilt a story.built).entries ≠ [] :=
    journal.entry (by rw [here]; trivial)
  exact journal.turn here there rfl (List.append_nil _).symm (by rw [all]; rfl) same
    (fun p known => journal.built p (prepared.symm.trans known)) (fun _ => entry)
    fun _ => summary.symm

/-- The scan is over, and what it found is known. -/
theorem leavesScan (journal : Journal a bugs s story told closed) (here : s.stage = .awaitingScan)
    (there : t.stage = .noting (scanNotes a s.scans.length (mergedFindings s.scans)) (.finish none))
    (same : SameNotes s t) (prepared : t.prepared = s.prepared) (summary : t.summary = s.summary) :
    Journal a bugs t { story with ranges := s.scans.length, findings := mergedFindings s.scans }
      told closed := by
  have entry : (Prepared.ofBuilt a story.built).entries ≠ [] :=
    journal.entry (by rw [here]; trivial)
  have known : story.summary = s.summary := journal.summary (by rw [here]; trivial)
  exact journal.turn here there rfl (List.append_nil _).symm rfl same
    (fun p known => journal.built p (prepared.symm.trans known)) (fun _ => entry)
    fun _ => known.trans summary.symm

/-- A front that is watching has written nothing, and comes to write all of its notes. -/
theorem wrote_of_watching (journal : Journal a bugs s story told closed)
    (front : s.front = .watching) (error : Option RunError) :
    wroteClosing a closed (.closing (closingNotes a error) error) := by
  have nothing := journal.front
  rw [front] at nothing
  obtain rfl : closed = [] := nothing
  exact List.nil_append _

/-- A front that returns has written all of its notes. -/
theorem wrote_of_closing (journal : Journal a bugs s story told closed) {error : Option RunError}
    (front : s.front = .closing [] error) :
    wroteClosing a closed (.returned (s.snapshot error)) := by
  have written := journal.front
  rwa [front, wroteClosing, List.append_nil] at written

end Journal

/-- Every transition goes on with the journal. -/
theorem Transition.keeps_journal (step : Transition a bugs s t) (reached : Reached a bugs s)
    {story : Story} {told closed : List Note} (journal : Journal a bugs s story told closed) :
    ∃ story told closed, Journal a bugs t story told closed := by
  cases step
  -- the pipeline leaves a phase, and more of the story is known
  case builds b stage _ _ =>
      refine ⟨_, told, closed, journal.opens stage rfl ?_ ⟨rfl, rfl, rfl, rfl⟩ rfl⟩
      cases (Prepared.ofBuilt a b).entries.isEmpty <;> simp
  case goesOnToSearch stage =>
      exact ⟨story, told, closed, journal.comesToBugs reached stage rfl ⟨rfl, rfl, rfl, rfl⟩ rfl⟩
  case submitsNoMore stage =>
      exact ⟨story, told, closed, journal.countsBugs reached stage rfl ⟨rfl, rfl, rfl, rfl⟩ rfl⟩
  case leavesSearch stage _ =>
      exact ⟨_, told, closed, journal.leavesSearch reached stage rfl ⟨rfl, rfl, rfl, rfl⟩ rfl rfl⟩
  case leavesScan stage _ =>
      exact ⟨_, told, closed, journal.leavesScan stage rfl ⟨rfl, rfl, rfl, rfl⟩ rfl rfl⟩
  -- the pipeline goes on to another stage
  case buildFails stage _ _ =>
      exact ⟨story, told, closed,
        journal.goesOn stage rfl rfl rfl rfl ⟨rfl, rfl, rfl, rfl⟩ rfl rfl False.elim False.elim⟩
  case goesOnToAwait stage | goesOnToScan stage _ =>
      exact ⟨story, told, closed,
        journal.goesOn stage rfl rfl rfl rfl ⟨rfl, rfl, rfl, rfl⟩ rfl rfl id id⟩
  case goesOnToEnd error stage =>
      cases error with
      | none => exact ⟨story, told, closed,
          journal.goesOn stage rfl rfl rfl rfl ⟨rfl, rfl, rfl, rfl⟩ rfl rfl id id⟩
      | some e =>
          obtain ⟨rfl, -⟩ : e = .noEntryPoints ∧ _ := by
            have fits := reached.fits
            rwa [stage] at fits
          exact ⟨story, told, closed,
            journal.goesOn stage rfl rfl rfl rfl ⟨rfl, rfl, rfl, rfl⟩ rfl rfl id id⟩
  case givesUpSearch stage _ | givesUpScan stage _ =>
      exact ⟨story, told, closed,
        journal.goesOn stage rfl rfl (List.append_nil _).symm rfl ⟨rfl, rfl, rfl, rfl⟩
        rfl rfl id False.elim⟩
  case passesOver stage _ _ | submits stage _ _ | submitsRanges stage _ |
      submitsNoMoreRanges stage =>
      exact ⟨story, told, closed,
        journal.goesOn stage rfl rfl (List.append_nil _).symm rfl ⟨rfl, rfl, rfl, rfl⟩
        rfl rfl id id⟩
  -- a note is written
  case writes n notes next stage =>
      exact ⟨story, told ++ [n], closed, journal.tell stage rfl rfl rfl rfl rfl rfl rfl⟩
  case closes n notes error front =>
      exact ⟨story, told, closed ++ [n], journal.close front rfl rfl rfl rfl rfl rfl rfl⟩
  -- the front comes to write, or returns
  case concludes front _ | timesOut front _ | heedsCaller front _ =>
      exact ⟨story, told, closed,
        journal.face (journal.wrote_of_watching front _) rfl rfl rfl rfl rfl rfl rfl⟩
  case returns front =>
      exact ⟨story, told, closed,
        journal.face (journal.wrote_of_closing front) rfl rfl rfl rfl rfl rfl rfl⟩
  -- a worker goes on, and counts only while the search is not over
  case counts found task =>
      refine ⟨story, told, closed, journal.congr rfl ⟨rfl, rfl, rfl, rfl⟩ rfl fun past => ?_⟩
      simp [reached.searches_finished past _ (List.mem_of_getElem? found)] at task
  all_goals exact ⟨story, told, closed, journal.congr rfl ⟨rfl, rfl, rfl, rfl⟩ rfl fun _ => rfl⟩

/-- Every run keeps a journal. -/
theorem Reached.journal (reached : Reached a bugs s) :
    ∃ story told closed, Journal a bugs s story told closed := by
  refine reached.invariant (P := fun s => ∃ story told closed, Journal a bugs s story told closed)
    ?_ ?_
  · intro outbox
    exact ⟨.blank, [], [], ⟨[], rfl, rfl⟩, rfl, rfl, rfl, rfl, by simp, False.elim, False.elim⟩
  · rintro s t reached ⟨story, told, closed, journal⟩ step
    exact step.keeps_journal reached journal

/-! ## What a result shows -/

/-- Who has come to `x` has the whole first part. -/
theorem prefix_of_mem {α : Type} {told first more : List α} {x : α} (begun : told <+: first ++ more)
    (member : x ∈ told) (later : x ∉ first) : first <+: told := by
  rcases List.prefix_or_prefix_of_prefix begun (List.prefix_append first more) with inside | whole
  · exact absurd (inside.subset member) later
  · exact whole

theorem prefix_of_key {told first more : List Note} {key : String} (begun : told <+: first ++ more)
    (member : key ∈ keysOf told) (later : key ∉ keysOf first) : first <+: told := by
  obtain ⟨value, told⟩ := Note.mem_keysOf.1 member
  exact prefix_of_mem begun told fun early => later (Note.mem_keysOf.2 ⟨value, early⟩)

/-- Whoever is searched for, there is an entry point. -/
theorem Reached.entered (reached : Reached a bugs s) (searches : s.searches ≠ []) :
    hasEntered s.stage := by
  have fits := reached.fits
  have fresh : unsubmitted bugs s.stage ≠ bugs.entries :=
    fun fresh => searches (reached.no_searches fresh)
  generalize s.stage = stage at fits fresh
  cases stage with
  | building => exact fresh rfl
  | noting notes next =>
      cases next with
      | search => exact fresh rfl
      | finish error =>
          cases error with
          | none => trivial
          | some e => exact fresh rfl
      | _ => trivial
  | ended error =>
      cases error with
      | none => trivial
      | some e =>
          cases e with
          | build | noEntryPoints => exact fresh rfl
          | timeout | interrupted => exact fits
          | _ => trivial
  | _ => trivial

namespace Journal

variable {story : Story} {told closed : List Note}

/-- The keys of the statistics are those of the notes. -/
theorem has_key (journal : Journal a bugs s story told closed) {key : String} :
    (s.stats.get? key).isSome = true ↔ key ∈ keysOf told ∨ key ∈ keysOf closed := by
  rw [journal.stats, Option.isSome_iff_ne_none, ne_eq, Dict.get?_ofList_eq_none]
  simp [keysOf, or_and_right, exists_or]

/-- The pipeline has gone on to the search as soon as it writes about anything but the graph. -/
theorem entered (journal : Journal a bugs s story told closed) {key : String}
    (member : key ∈ keysOf told) (later : key ∉ keysOf (story.graphNotes a)) :
    hasEntered s.stage := by
  by_contra outside
  obtain ⟨part, rfl, written⟩ := journal.pipeline
  refine later (Note.keysOf_subset
    (List.IsPrefix.trans ?_ (story.prefix_graphNotes a bugs outside)) member)
  rw [← written, ← List.append_assoc]
  exact List.prefix_append _ _

/-- Once the pipeline has gone on to the search, everything is known about the graph. -/
theorem graphNotes_prefix (journal : Journal a bugs s story told closed)
    (entered : hasEntered s.stage) : story.graphNotes a <+: told := by
  obtain ⟨part, rfl, -⟩ := journal.pipeline
  exact (story.graphNotes_prefix_complete a bugs entered).trans (List.prefix_append _ _)

/-- The front keeps off the keys of the pipeline. -/
theorem get?_stats (journal : Journal a bugs s story told closed) {key : String}
    (notTimeout : key ≠ "timeout") (notElapsed : key ≠ "elapsed_ms") :
    s.stats.get? key = (Dict.ofList (statsOf told)).get? key := by
  rw [journal.stats]
  refine Dict.get?_ofList_append_of_ne (Note.ne_of_not_mem_keysOf fun member => ?_)
  obtain ⟨error, begun⟩ := journal.closed_prefix
  have closing := Note.keysOf_subset begun member
  rw [keysOf_closingNotes] at closing
  split at closing <;> simp [notTimeout, notElapsed] at closing

/-- The number of entry points, once it is certain that there are some. -/
theorem get?_entry_points (journal : Journal a bugs s story told closed)
    (entered : hasEntered s.stage) :
    s.stats.get? "entry_points" =
      some (Nat.repr (Prepared.ofBuilt a story.built).entries.length) := by
  obtain ⟨more, rfl⟩ := journal.graphNotes_prefix entered
  have begun : more <+: Story.bugNotes bugs ++
      (story.pathNotes a bugs ++ story.findingNotes a) := by
    have begun := journal.told_prefix
    simpa only [Story.whole, List.append_assoc, List.prefix_append_right_inj] using begun
  have other : "entry_points" ∉ keysOf more := by
    refine fun member => absurd (Note.keysOf_subset begun member) ?_
    have summary : "entry_points" ∉ story.summary.stats.map (·.1) :=
      Story.not_mem_summary (by decide) _
    simp [Note.keysOf_append, Story.keysOf_bugNotes, Story.keysOf_pathNotes,
      Story.keysOf_findingNotes, summary]
  rw [journal.get?_stats (by decide) (by decide), Note.statsOf_append,
    Dict.get?_ofList_append_of_ne (Note.ne_of_not_mem_keysOf other), Story.graphNotes,
      stats_buildNotes,
    Dict.get?_ofList]
  rfl

end Journal

end RunState

/-- The result has a statistic under this key. -/
def RunResult.Has (r : RunResult) (key : String) : Prop := (r.stats.get? key).isSome = true

/-- The parts of a result come in the order of the phases. -/
structure RunResult.Ordered (r : RunResult) : Prop where
  /-- A success is a result without an error. -/
  success : r.isSuccess = true ↔ r.error = none
  /-- A success has come through all phases. -/
  complete : r.isSuccess = true →
    r.graph.isSome = true ∧ r.findings.isSome = true ∧ r.Has "phase1_ms" ∧ r.Has "phase2_ms" ∧
      r.Has "phase3_ms"
  scanned : r.Has "phase3_ms" → r.Has "phase2_ms" ∧ r.findings.isSome = true
  found : r.findings.isSome = true → r.Has "phase2_ms"
  /-- Who has searched has a graph and its numbers, and an entry point in it. -/
  searched : r.Has "phase2_ms" ∨ r.paths.entries ≠ [] →
    r.graph.isSome = true ∧ r.Has "cg_nodes" ∧ r.Has "cg_edges" ∧ r.Has "phase1_ms" ∧
      ∃ n, 1 ≤ n ∧ r.stats.get? "entry_points" = some (Nat.repr n)
  timeout : r.Has "timeout" ↔ r.error = some .timeout

namespace RunState

variable {a : Analysis} {bugs : Dict ConstructSet} {s : RunState}

namespace Journal

variable {story : Story} {told closed : List Note}

theorem has_of_told (journal : Journal a bugs s story told closed) {first : List Note}
    (begun : first <+: told)
    {error : Option RunError} {key : String} (member : key ∈ keysOf first) :
    (s.snapshot error).Has key :=
  journal.has_key.2 (.inl (Note.keysOf_subset begun member))

theorem told_of_has (journal : Journal a bugs s story told closed) {error : Option RunError}
    {key : String} (has : (s.snapshot error).Has key) (notTimeout : key ≠ "timeout")
    (notElapsed : key ≠ "elapsed_ms") : key ∈ keysOf told := by
  rw [RunResult.Has, snapshot, journal.get?_stats notTimeout notElapsed,
    Option.isSome_iff_ne_none, ne_eq, Dict.get?_ofList_eq_none] at has
  simpa [keysOf] using has

/-- What stands in the statistics and the graph of a run that has gone on to the search. -/
theorem graph_known (journal : Journal a bugs s story told closed) (entered : hasEntered s.stage)
    (error : Option RunError) :
    s.graph.isSome = true ∧ (s.snapshot error).Has "cg_nodes" ∧ (s.snapshot error).Has "cg_edges" ∧
      (s.snapshot error).Has "phase1_ms" := by
  have begun := journal.graphNotes_prefix entered
  have written : .graph (Prepared.ofBuilt a story.built).graph ∈ story.graphNotes a := by
    simp [Story.graphNotes, buildNotes]
  have has {key : String} (member : key ∈ keysOf (story.graphNotes a)) :
      (s.snapshot error).Has key :=
    journal.has_of_told begun member
  refine ⟨?_, has ?_, has ?_, has ?_⟩
  · rw [journal.graph]
    exact Note.graphOf_isSome (begun.subset written)
  all_goals
    rw [Story.keysOf_graphNotes]
    decide

end Journal

namespace Story

variable (story : Story) (a : Analysis) (bugs : Dict ConstructSet)

/-- The first three chapters. -/
def upToPaths : List Note := story.graphNotes a ++ bugNotes bugs ++ story.pathNotes a bugs

/-- Nothing is said about findings in the first three chapters. -/
theorem findings_upToPaths : (story.upToPaths a bugs).filterMap Note.findings? = [] := by
  simp [upToPaths, graphNotes, buildNotes, bugNotes, pathNotes, searchNotes, List.filterMap_append,
    List.filterMap_cons, List.filterMap_map, Function.comp_def, Note.findings?]

theorem not_mem_keysOf_upToPaths : "phase3_ms" ∉ keysOf (story.upToPaths a bugs) := by
  have other : "phase3_ms" ∉ story.summary.stats.map (·.1) := not_mem_summary (by decide) _
  simp [upToPaths, Note.keysOf_append, keysOf_graphNotes, keysOf_bugNotes, keysOf_pathNotes, other]

theorem phase2_mem_upToPaths : "phase2_ms" ∈ keysOf (story.upToPaths a bugs) := by
  simp [upToPaths, Note.keysOf_append, keysOf_pathNotes]

end Story

namespace Journal

variable {story : Story} {told closed : List Note}

/-- The findings are written after everything about the search. -/
theorem upToPaths_of_findings (journal : Journal a bugs s story told closed)
    (found : s.findings.isSome = true) : story.upToPaths a bugs <+: told := by
  rw [journal.findings] at found
  obtain ⟨f, member⟩ := Note.findingsOf_isSome.1 found
  refine prefix_of_mem journal.told_prefix member fun early => ?_
  have none : f ∈ (story.upToPaths a bugs).filterMap Note.findings? :=
    List.mem_filterMap.2 ⟨_, early, rfl⟩
  rw [story.findings_upToPaths] at none
  cases none

/-- The time of the scan is written after the findings. -/
theorem findings_of_phase3 (journal : Journal a bugs s story told closed)
    (member : "phase3_ms" ∈ keysOf told) : s.findings.isSome = true := by
  have begun : told <+: (story.upToPaths a bugs ++ [.findings story.findings]) ++
      (story.findingNotes a).tail := by
    rw [List.append_assoc]
    exact journal.told_prefix
  have first := prefix_of_key begun member (by
    rw [Note.keysOf_append]
    simpa using ⟨story.not_mem_keysOf_upToPaths a bugs, List.not_mem_nil⟩)
  rw [journal.findings, Note.findingsOf_isSome]
  exact ⟨story.findings, first.subset (List.mem_append_right _ List.mem_cons_self)⟩

/-- Whoever has searched, or only stored the paths of a bug, has an entry point. -/
theorem entered_of_searched (journal : Journal a bugs s story told closed)
    (reached : Reached a bugs s) {error : Option RunError}
    (begun : (s.snapshot error).Has "phase2_ms" ∨ s.paths.entries ≠ []) : hasEntered s.stage := by
  rcases begun with has | stored
  · refine journal.entered (journal.told_of_has has (by decide) (by decide)) ?_
    rw [Story.keysOf_graphNotes]
    decide
  · obtain ⟨e, member⟩ := List.exists_mem_of_ne_nil _ stored
    have present : s.paths.get? e.1 ≠ none :=
      Option.ne_none_iff_exists'.2 ⟨e.2, Dict.get?_eq_some_iff.2 member⟩
    obtain ⟨j, searched, -⟩ := reached.stored_job present
    exact reached.entered (List.ne_nil_of_mem searched)

/-- Only the front writes about a timeout. -/
theorem timeout_not_told (journal : Journal a bugs s story told closed) :
    "timeout" ∉ keysOf told := by
  intro member
  have closing : "timeout" ∈ keysOf (closingNotes a (some .timeout)) := by
    simp [keysOf_closingNotes]
  exact not_mem_keysOf_closingNotes (Note.keysOf_subset journal.told_prefix member) closing

/-- The pipeline has told everything when it ends without an error. -/
theorem told_of_ended (journal : Journal a bugs s story told closed)
    (ended : s.stage = .ended none) : told = story.whole a bugs := by
  obtain ⟨part, rfl, written⟩ := journal.pipeline
  rw [ended] at written ⊢
  obtain rfl : part = [] := (List.append_eq_nil_iff.1 written).1
  exact List.append_nil _

end Journal

/-- **The parts of a result come in the order of the phases.** Whenever the front takes its
snapshot, be it at the end, at a timeout or when the caller has lost interest: what belongs to a
phase is in the result only with what belongs to the phases before, and nothing is in the result of
a success that is not complete. -/
theorem ordered_of_run (a : Analysis) (bugs : Dict ConstructSet) (outbox : Outbox)
    (moves : List Move) (r : RunResult)
    (returned : (({ outbox } : RunState).steps a bugs moves).result? = some r) : r.Ordered := by
  obtain ⟨m, error, toReturn, -, closing, rfl⟩ :=
    exists_return (leads_steps moves { outbox }) (by simp) (result?_eq_some returned)
  have reached : Reached a bugs m := ⟨outbox, toReturn⟩
  obtain ⟨story, told, closed, journal⟩ := reached.journal
  have written : closed = closingNotes a error := by
    have front := journal.front
    rwa [closing, wroteClosing, List.append_nil] at front
  have phase2 (begun : story.upToPaths a bugs <+: told) : (m.snapshot error).Has "phase2_ms" :=
    journal.has_of_told begun (story.phase2_mem_upToPaths a bugs)
  exact
    { success := by simp [RunResult.isSuccess, snapshot]
      complete := by
        intro success
        obtain rfl : error = none := by simpa [RunResult.isSuccess, snapshot] using success
        have ended := reached.closing_success ⟨[], closing⟩
        obtain rfl := journal.told_of_ended ended
        have phase3 : "phase3_ms" ∈ keysOf (story.whole a bugs) :=
          (Story.mem_keysOf_whole (by decide)).2 (by decide)
        obtain ⟨graph, -, -, phase1⟩ := journal.graph_known (by rw [ended]; trivial) none
        exact ⟨graph, journal.findings_of_phase3 phase3, phase1, phase2 (List.prefix_append _ _),
          journal.has_of_told List.prefix_rfl phase3⟩
      scanned := by
        intro has
        have found := journal.findings_of_phase3 (journal.told_of_has has (by decide) (by decide))
        exact ⟨phase2 (journal.upToPaths_of_findings found), found⟩
      found := fun found => phase2 (journal.upToPaths_of_findings found)
      searched := by
        intro begun
        have entered := journal.entered_of_searched reached begun
        obtain ⟨graph, nodes, edges, phase1⟩ := journal.graph_known entered error
        refine ⟨graph, nodes, edges, phase1, _, ?_, journal.get?_entry_points entered⟩
        exact List.length_pos_iff.2 (journal.entry entered)
      timeout := by
        rw [RunResult.Has, snapshot, journal.has_key, written, keysOf_closingNotes]
        by_cases late : error = some .timeout <;> simp [late, journal.timeout_not_told] }

/-- Cancelled between two bugs, a run has the paths of the first, and so it has the graph. -/
theorem ordered_of_run_cancelled_between : ∃ moves r,
    (({} : RunState).steps oneCall twoBugs moves).result? = some r ∧
      r.error = some (.interrupted .cancelled) ∧
      r.paths.get? "X" ≠ none ∧ r.Ordered ∧ r.isSuccess = false ∧ r.graph.isSome = true ∧
        ¬ r.Has "timeout" := by
  obtain ⟨b, built, entries, size, search, -⟩ := oneCall_builds
  obtain ⟨moves, r, _, returned, error, -, stored, -⟩ := exists_cancelled_after_first oneCall
    twoBugs {} (by decide) built (by simp [entries]) rfl (by decide) search
    (Prepared.storable_of_unlimited (by decide) "X" (by simp [size]))
  have ordered := ordered_of_run oneCall twoBugs {} moves r returned
  have some : r.paths.entries ≠ [] := List.ne_nil_of_mem (Dict.get?_eq_some_iff.1 stored)
  refine ⟨moves, r, returned, error, by
    simp [stored], ordered, ?_, (ordered.searched (.inr some)).1, ?_⟩
  · simp [RunResult.isSuccess, error]
  · simp [ordered.timeout, error]

end RunState

end Exposure
