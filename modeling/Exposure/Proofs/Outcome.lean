/-
# Proofs.Outcome — an undisturbed run has one result

`Analysis.answer` says what a run comes to, without parties, steps or order: build
the graph, search every bug, scan every range, and write the numbers down.  It
has no times in it, since those are all that may differ.

A run that nobody disturbs returns when its pipeline has ended, and by then
nothing has interrupted it (`RunState.exists_end_of_undisturbed`).  What is
stored, found and written down at that point is known from the invariants of all
runs, and `RunState.answer_of_undisturbed` puts them together: the result is the
answer, whatever the order of the steps was and whatever became of the uploads.
-/
import Exposure.Proofs.Fairness
import Exposure.Proofs.Statistics

namespace Exposure

set_option autoImplicit false

/-! ## Times -/

/-- The statistics that are measured times. -/
def timeKeys : List String :=
  ["cg_construction_ms", "phase1_ms", "phase2_ms", "phase3_ms", "elapsed_ms"]

/-- The entries that are no times. -/
def lasting (es : List (String × String)) : List (String × String) := es.filter (·.1 ∉ timeKeys)

theorem lasting_append (es more : List (String × String)) :
    lasting (es ++ more) = lasting es ++ lasting more :=
  List.filter_append _ _

theorem lookup_lasting (key : String) :
    ∀ es : List (String × String), Dict.lookup key (lasting es) =
      if key ∈ timeKeys then none else Dict.lookup key es
  | [] => by simp [lasting, Dict.lookup]
  | (k, v) :: es => by
      have rest := lookup_lasting key es
      simp only [lasting] at rest
      rw [lasting, List.filter_cons, Dict.lookup]
      by_cases same : k = key
      · subst same
        by_cases time : k ∈ timeKeys
        · simpa [time] using rest
        · simp [time, Dict.lookup]
      · split
        · simpa [Dict.lookup, same] using rest
        · simpa [same] using rest

/-- Statistics without the times. -/
def Dict.withoutTimes (d : Dict String) : Dict String := ⟨lasting d.entries, d.sorted.filter _⟩

theorem Dict.get?_withoutTimes (d : Dict String) (key : String) :
    d.withoutTimes.get? key = if key ∈ timeKeys then none else d.get? key :=
  lookup_lasting key d.entries

theorem Dict.withoutTimes_ofList (es : List (String × String)) :
    (Dict.ofList es).withoutTimes = .ofList (lasting es) := by
  apply Dict.ext_get?
  intro key
  rw [get?_withoutTimes, get?_ofList, get?_ofList, ← lookup_lasting, lasting, lasting,
    List.filter_reverse]

/-- A result without the times. -/
def RunResult.withoutTimes (r : RunResult) : RunResult := { r with stats := r.stats.withoutTimes }

/-! ## The answer -/

namespace Prepared

/-- The numbers of a graph. -/
def stats (p : Prepared) : List (String × String) :=
  [("cg_nodes", Nat.repr p.graph.size), ("cg_edges", Nat.repr p.graph.edgeCount),
    ("cg_unresolved", Nat.repr p.graph.unresolved.size),
      ("entry_points", Nat.repr p.entries.length)]

/-- The paths of all bugs. -/
def paths (p : Prepared) (a : Analysis) (bugs : Dict ConstructSet) : Dict (List PathRecord) :=
  .ofList (bugs.keys.filterMap fun bug => (p.pathsFor? a bugs bug).map (bug, ·))

/-- The findings of all ranges. -/
def findings (p : Prepared) (a : Analysis) : Findings :=
  ((partitions p.graph.size (RunState.poolSize a)).map fun r =>
    (p.scan a r .silent).getD .none).foldl
    Findings.merge .none

theorem get?_paths (p : Prepared) (a : Analysis) (bugs : Dict ConstructSet) (bug : String) :
    (p.paths a bugs).get? bug = p.pathsFor? a bugs bug := by
  cases found : (p.paths a bugs).get? bug with
  | some records =>
      rw [paths, Dict.get?_ofList] at found
      obtain ⟨other, -, same⟩ :=
        List.mem_filterMap.1 (List.mem_reverse.1 (Dict.mem_of_lookup found))
      obtain ⟨_, stored, eq⟩ := Option.map_eq_some_iff.1 same
      obtain ⟨rfl, rfl⟩ := Prod.mk.inj eq
      exact stored.symm
  | none =>
      cases expected : p.pathsFor? a bugs bug with
      | none => rfl
      | some records =>
          obtain ⟨targets, -, known, -⟩ := Prepared.pathsFor?_eq_some.1 expected
          have listed : bug ∈ bugs.keys := Dict.mem_keys.2 (by simp [known])
          exact absurd rfl (Dict.get?_ofList_eq_none.1 found (bug, records)
            (List.mem_filterMap.2 ⟨bug, listed, by simp [expected]⟩))

/-- The numbers of an analysis that has come to its end. -/
def allStats (p : Prepared) (a : Analysis) (bugs : Dict ConstructSet) : List (String × String) :=
  p.stats ++ [("bugs_total", Nat.repr (bugs.entries.filter RunState.hasTargets).length)]
    ++ (SearchSummary.ofTallies (tabulate (p.paths a bugs) bugs p.graph)).stats
    ++ [("reachable_constructs", Nat.repr (p.findings a).reachableCount),
      ("touch_points", Nat.repr (p.findings a).touchPointCount),
      ("unattributed", Text.intText (p.findings a).unattributed)]

end Prepared

/-- What an analysis comes to after a build, apart from times; nothing if the builder does not come
back. -/
def Analysis.answer (a : Analysis) (bugs : Dict ConstructSet) : BuildOutcome → Option RunResult
  | .stalled => none
  | .failed e => some ⟨some (.build e), .empty, .empty, none, none⟩
  | .built b =>
    let p := Prepared.ofBuilt a b
    if p.entries = [] then some ⟨some .noEntryPoints, .ofList p.stats, .empty, none, some p.graph⟩
    else some ⟨none, .ofList (p.allStats a bugs), p.paths a bugs, some (p.findings a), some p.graph⟩

open Note (statsOf graphOf findingsOf)

namespace RunState

variable {a : Analysis} {bugs : Dict ConstructSet} {s : RunState} {start : Outbox} {story : Story}
  {told closed : List Note}

/-! ## What has been told -/

/-- Everything is told when the pipeline has ended. -/
theorem Journal.told_eq (journal : Journal a bugs s story told closed) {error : Option RunError}
    (ended : s.stage = .ended error) : told = story.complete a bugs (.ended error) := by
  obtain ⟨part, rfl, written⟩ := journal.pipeline
  rw [ended] at written ⊢
  obtain rfl : part = [] := by simpa [pending, Story.current] using written
  exact List.append_nil _

/-- The statistics apart from times are those that the pipeline has told. -/
theorem Journal.stats_withoutTimes (journal : Journal a bugs s story told closed)
    {error : Option RunError}
    (front : s.front = .closing [] error) (inTime : error ≠ some .timeout) :
    s.stats.withoutTimes = .ofList (lasting (statsOf told)) := by
  have all : closed = closingNotes a error := by
    have wrote := journal.front
    rwa [front, wroteClosing, List.append_nil] at wrote
  have times : lasting (statsOf (closingNotes a error)) = [] := by
    rw [stats_closingNotes, if_neg inTime]
    simp [lasting, timeKeys]
  rw [journal.stats, Dict.withoutTimes_ofList, lasting_append, all, times, List.append_nil]

namespace Story

theorem lasting_graphNotes (story : Story) (a : Analysis) :
    lasting (statsOf (story.graphNotes a)) = (Prepared.ofBuilt a story.built).stats := by
  rw [graphNotes, stats_buildNotes]
  simp [lasting, timeKeys, Prepared.stats, Prepared.ofBuilt]

theorem lasting_summary (summary : SearchSummary) : lasting summary.stats = summary.stats := by
  refine List.filter_eq_self.2 fun e member => ?_
  have key := key_of_mem_summary member
  revert key
  generalize e.1 = k
  revert k
  decide

theorem lasting_whole (story : Story) (a : Analysis) (bugs : Dict ConstructSet) :
    lasting (statsOf (story.whole a bugs)) =
      (Prepared.ofBuilt a story.built).stats ++ [("bugs_total", Nat.repr (targeted bugs))] ++
        story.summary.stats
        ++ [("reachable_constructs", Nat.repr story.findings.reachableCount),
          ("touch_points", Nat.repr story.findings.touchPointCount),
          ("unattributed", Text.intText story.findings.unattributed)] := by
  have bugNotes : lasting (statsOf (bugNotes bugs)) =
      [("bugs_total", Nat.repr (targeted bugs))] := by
    simp [lasting, timeKeys, Story.bugNotes, Note.statsOf, Note.stat?]
  have pathNotes : lasting (statsOf (story.pathNotes a bugs)) = story.summary.stats := by
    rw [Story.pathNotes, stats_searchNotes, lasting_append, lasting_summary]
    simp [lasting, timeKeys]
  have findingNotes : lasting (statsOf (story.findingNotes a)) =
      [("reachable_constructs", Nat.repr story.findings.reachableCount),
        ("touch_points", Nat.repr story.findings.touchPointCount),
        ("unattributed", Text.intText story.findings.unattributed)] := by
    rw [Story.findingNotes, stats_scanNotes]
    simp [lasting, timeKeys]
  rw [whole, Note.statsOf_append, Note.statsOf_append, Note.statsOf_append, lasting_append,
    lasting_append, lasting_append, lasting_graphNotes, bugNotes, pathNotes, findingNotes]

theorem graphOf_graphNotes (story : Story) (a : Analysis) :
    graphOf (story.graphNotes a) = some (Prepared.ofBuilt a story.built).graph := by
  simp [Note.graphOf, graphNotes, buildNotes, List.filterMap_append, List.filterMap_cons,
    List.filterMap_map, Function.comp_def, Note.graph?]

theorem findingsOf_graphNotes (story : Story) (a : Analysis) :
    findingsOf (story.graphNotes a) = none := by
  simp [Note.findingsOf, graphNotes, buildNotes, List.filterMap_append, List.filterMap_cons,
    List.filterMap_map, Function.comp_def, Note.findings?]

theorem findingsOf_whole (story : Story) (a : Analysis) (bugs : Dict ConstructSet) :
    findingsOf (story.whole a bugs) = some story.findings := by
  simp [Note.findingsOf, whole, graphNotes, buildNotes, bugNotes, pathNotes, searchNotes,
    findingNotes, scanNotes,
    List.filterMap_append, List.filterMap_cons, List.filterMap_map, Function.comp_def,
      Note.findings?]

end Story

/-! ## What there is at the end -/

/-- Nothing is stored by a run without a search. -/
theorem Reached.paths_eq_empty (reached : Reached a bugs s) (none : s.searches = []) :
    s.paths = .empty := by
  apply Dict.ext_get?
  intro bug
  by_contra some
  obtain ⟨j, member, -⟩ : ∃ j ∈ s.searches, j.bug = bug := reached.stored_job some
  simp [none] at member

theorem Reached.paths_eq {p : Prepared} (reached : Reached a bugs s)
    (prepared : s.prepared = some p) (past : searchIsOver s.stage) (quiet : s.interrupted = none) :
    s.paths = p.paths a bugs := by
  apply Dict.ext_get?
  intro bug
  rw [reached.stored_eq prepared past quiet bug, p.get?_paths]

theorem Reached.findings_eq {p : Prepared} (reached : Reached a bugs s)
    (prepared : s.prepared = some p)
    (ended : s.stage = .ended none) (quiet : s.interrupted = none) :
    s.findings = some (p.findings a) := by
  obtain ⟨parts, scans, found⟩ := reached.ended_scanned prepared ended quiet
  have all := congrArg (List.map fun f : Option Findings => f.getD .none) scans
  simp only [List.map_map, Function.comp_def, Option.getD_some, List.map_id'] at all
  rw [found, Prepared.findings, all]

/-- **An undisturbed run returns the answer**, whatever the order of its steps. -/
theorem answer_of_undisturbed {r : RunResult} (leads : Leads a bugs { outbox := start } s)
    (calm : Calm { outbox := start } s) (returned : s.front = .returned r) :
    a.answer bugs (a.builder.build a.options.strict .silent) = some r.withoutTimes := by
  obtain ⟨m, error, toReturn, -, closing, ended, quiet, rfl⟩ :=
    exists_end_of_undisturbed leads calm returned
  have reached : Reached a bugs m := ⟨start, toReturn⟩
  obtain ⟨story, told, closed, journal⟩ := reached.journal
  obtain rfl := journal.told_eq ended
  have stats := journal.stats_withoutTimes closing
  have fits := reached.fits
  rw [ended] at fits
  have result : (m.snapshot error).withoutTimes =
      ⟨error, m.stats.withoutTimes, m.paths, m.findings, m.graph⟩ := rfl
  rw [result, journal.graph]
  cases error with
  | some e =>
      cases e with
      | build e =>
          obtain ⟨w, had, fails⟩ := fits
          have none := reached.paths_eq_empty (reached.no_searches (by rw [ended]; rfl))
          rw [had quiet] at fails
          rw [fails, none, stats (by simp), journal.findings]
          rfl
      | noEntryPoints =>
          obtain ⟨p, prepared, bare⟩ := fits
          obtain ⟨b, built, rfl⟩ := reached.built_of_quiet quiet prepared
          have same := journal.built _ prepared
          have none := reached.paths_eq_empty (reached.no_searches (by rw [ended]; rfl))
          rw [built, none, stats (by simp), journal.findings, Story.complete,
            Story.lasting_graphNotes, Story.graphOf_graphNotes, Story.findingsOf_graphNotes, ← same]
          exact if_pos bare
      | search | scan => exact absurd (quiet.symm.trans fits) (by simp)
      | timeout | interrupted => exact fits.elim
  | none =>
      obtain ⟨p, prepared, entry⟩ := fits
      obtain ⟨b, built, rfl⟩ := reached.built_of_quiet quiet prepared
      have same := journal.built _ prepared
      have past : searchIsOver m.stage := by rw [ended]; trivial
      have paths := reached.paths_eq prepared past quiet
      have findings := reached.findings_eq prepared ended quiet
      have summary : story.summary =
          .ofTallies (tabulate (Prepared.paths (.ofBuilt a b) a bugs) bugs
            (Prepared.ofBuilt a b).graph) := by
        rw [journal.summary past, reached.summary_eq fun p' built => by
          rw [Option.some.inj (built.symm.trans prepared)], ← paths]
        exact SearchSummary.ofTallies_perm (reached.tallies_perm past)
      have written : story.findings = Prepared.findings (.ofBuilt a b) a := by
        have told := journal.findings
        rw [Story.complete, Story.findingsOf_whole, findings] at told
        exact (Option.some.inj told).symm
      rw [built, paths, findings, stats (by simp), Story.complete, Story.lasting_whole,
        Story.graph_whole, ← same, summary, written]
      exact if_neg entry

end RunState

end Exposure
