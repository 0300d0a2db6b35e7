/-
# Proofs.Interruption — an interruption leaves lists out and shortens none

A walk that is told to stop says so, and nothing it has met by then is used.  A
walk that is not told to stop has gone the same way as under a watch that never
goes off (`Enumerator.progress_silent`).  So whatever a search finds under any watch is
what it finds without an interruption, and with `Handed` this carries over to
every list that a run stores, returns or uploads (`whole_lists_of_run`).

An enumerator of the caller's own may do as it likes with its watch.  The
statements here are about the enumerators that come with an analysis, and about
shortest paths, which look at no watch at all.
-/
import Exposure.Program.Build
import Exposure.Proofs.BugSearch
import Exposure.Proofs.Completeness
import Exposure.Proofs.PartialListings
import Exposure.Proofs.Uploads

namespace Exposure

set_option autoImplicit false

/-! ## Searches under a watch -/

section Search

variable {g : Callgraph}

/-- An enumeration that comes to its end lists what it lists without an interruption. -/
theorem Enumerator.search_silent (e : Enumerator) {source target : Nat} {watch after : Watch}
    {paths : List Path} (found : e.search g source target watch = (.found paths, after)) :
    e.search g source target .silent = (.found paths, .silent) := by
  simp only [search, paths_eq_listing, Prod.mk.injEq] at found ⊢
  have unbroken : (e.progress g.adjacency source target watch).stopped = none := by
    by_contra stopped
    obtain ⟨cause, stops⟩ := Option.ne_none_iff_exists'.1 stopped
    simp [Progress.listing, Listing.enumerated, stops] at found
  rw [progress_silent unbroken]
  exact ⟨found.1, rfl⟩

theorem searchPairs_silent (e : Enumerator) {all : List Path} :
    ∀ (pairs : List (Nat × Nat)) {watch : Watch} {found : List Path},
      searchPairs e.search g pairs watch found = .found all →
      searchPairs e.search g pairs .silent found = .found all
  | [], _, _, outcome => outcome
  | (source, target) :: pairs, watch, found, outcome => by
      cases here : e.search g source target watch with
      | mk listed after =>
          cases listed with
          | found paths =>
              rw [searchPairs, here] at outcome
              rw [searchPairs, e.search_silent here]
              exact searchPairs_silent e pairs outcome
          | failed | panicked | stalled => simp [searchPairs, here] at outcome

end Search

/-- The paths are shortest ones, or they are enumerated by an enumerator of the analysis itself. -/
def Analysis.SearchesItself (a : Analysis) : Prop :=
  a.options.shortestOnly = true ∨ ∃ e : Enumerator, a.search = e.search

/-- **A search finds under any watch what it finds without an interruption, or nothing.** -/
theorem Prepared.search_silent {p : Prepared} {a : Analysis} (itself : a.SearchesItself)
    {targets : ConstructSet} {watch : Watch} {found : List Path}
    (outcome : p.search a targets watch = .found found) :
    p.search a targets .silent = .found found := by
  unfold search searchBug at *
  cases shortest : a.options.shortestOnly with
  | true => simpa [shortest] using outcome
  | false =>
      obtain ⟨e, own⟩ := itself.resolve_left (by simp [shortest])
      simp only [shortest, own, Bool.false_eq_true, if_false] at outcome ⊢
      exact searchPairs_silent e _ outcome

/-! ## Paths of the graph -/

theorem Prepared.entries_lt (a : Analysis) (b : Built) :
    ∀ i ∈ (ofBuilt a b).entries, i < (ofBuilt a b).graph.size := by
  intro i member
  obtain ⟨entry, kept, node⟩ := List.mem_filterMap.1 member
  obtain ⟨name, -, rfl⟩ := List.mem_map.1 kept
  exact Callgraph.index?_lt node

/-- What the analysis itself finds are paths of the graph, and so there are records of them. -/
theorem Prepared.recordable_of_search {a : Analysis} {b : Built} (itself : a.SearchesItself)
    {targets : ConstructSet} {found : List Path}
    (outcome : (ofBuilt a b).search a targets .silent = .found found) :
    ∀ path ∈ found, path ≠ [] ∧ ∀ n ∈ path, n < (ofBuilt a b).graph.size := by
  have valid : (ofBuilt a b).graph.adjacency.Valid := (Callgraph.Imported.ofRaw _ _).valid
  have below := entries_lt a b
  obtain ⟨e, own⟩ : ∃ e : Enumerator, (ofBuilt a b).search a targets .silent =
      searchBug a.options.shortestOnly e.search (ofBuilt a b).graph
        (ofBuilt a b).entries targets .silent := by
    rcases itself with shortest | ⟨e, own⟩
    · exact ⟨a.options.enumerator, by simp [search, searchBug, shortest]⟩
    · exact ⟨e, by rw [search, own]⟩
  obtain ⟨all, spec, answers⟩ := searchBug_spec e a.options.shortestOnly valid below targetNodes_lt
  obtain rfl := BugSearch.found.inj (outcome.symm.trans (own.trans spec))
  exact fun path member => answers.recordable valid below member

/-! ## Builds under a watch -/

/-- An interruption may keep the builder from building, but what is built is the same. -/
def Builder.Steady (builder : Builder) : Prop :=
  ∀ strict watch b, builder.build strict watch = .built b → builder.build strict .silent = .built b

theorem Document.addEdges_silent {lang : Lang} {g' : Digraph} :
    ∀ (es : List String) {i : Nat} {watch : Watch} {g : Digraph},
      addEdges lang i watch g es = .ok g' → addEdges lang i .silent g es = .ok g'
  | [], _, _, _, added => added
  | e :: es, i, watch, g, added => by
      have silent : Watch.silent.look = (false, .silent) := rfl
      simp only [addEdges, silent, ite_self, Bool.false_eq_true, if_false] at added ⊢
      generalize (if i % lookInterval = 0 then watch.look else (false, watch)) = look at added
      cases rings : look.1 with
      | true => simp [rings] at added
      | false =>
          simp only [rings, Bool.false_eq_true, if_false] at added
          cases read : Edge.read e with
          | error err => simp [read] at added
          | ok call =>
              rw [read] at added
              exact addEdges_silent es added

/-- Documents are built completely or not at all. -/
theorem Document.steady_builder (d : Document) : d.builder.Steady := by
  intro strict watch b built
  have same : ∀ {g}, d.graph watch = .ok g → d.graph .silent = .ok g := addEdges_silent d.edges
  unfold builder build at *
  cases graph : d.graph watch with
  | error e => simp [graph] at built
  | ok g => simpa [graph, same graph] using built

/-- Programs are built completely or not at all. -/
theorem Program.steady_builder (request : Program.Request)
    (packages : Option (List Program.Package)) : (Program.builder request packages).Steady := by
  intro strict watch b built
  unfold builder build at *
  cases loaded : packages.elim (.error .noLoader) (load request.patterns request.tests) with
  | error e => simp [loaded] at built
  | ok l =>
      have silent : Watch.silent.look = (false, .silent) := rfl
      simp only [loaded, buildLoaded, silent] at built ⊢
      cases look : watch.look with
      | mk rings after =>
          rw [look] at built
          cases rings with
          | true => simp at built
          | false => exact built

namespace RunState

variable {a : Analysis} {bugs : Dict ConstructSet} {s t : RunState} {p : Prepared} {start : Outbox}

/-- With a steady builder, a run works on the graph of every uninterrupted one. -/
theorem Reached.prepared_of_steady {other : Dict ConstructSet} (reached : Reached a bugs s)
    (prepared : s.prepared = some p) (steady : a.builder.Steady) (there : Reached a other t)
    (quiet : t.interrupted = none) (past : searchIsOver t.stage) : t.prepared = some p := by
  obtain ⟨p', prepared'⟩ := there.prepared_of_over past
  obtain ⟨b, w, -, here, rfl⟩ := reached.built prepared
  obtain ⟨b', w', had, same, rfl⟩ := there.built prepared'
  rw [had quiet, steady _ _ _ here] at same
  cases same
  exact prepared'

/-! ## Lists of interrupted runs -/

/-- What is stored at any moment of any run is what an uninterrupted search finds. -/
theorem Reached.stored_whole (reached : Reached a bugs s) (itself : a.SearchesItself)
    (prepared : s.prepared = some p) {bug : String} {records : List PathRecord}
    (stored : s.paths.get? bug = some records) : p.pathsFor? a bugs bug = some records := by
  obtain ⟨p', targets, found, w, prepared', known, targeted, -, outcome, recorded⟩ :=
    reached.stored_found stored
  obtain rfl : p' = p := Option.some.inj (prepared'.symm.trans prepared)
  exact Prepared.pathsFor?_eq_some.2
    ⟨targets, found, known, targeted, Prepared.search_silent itself outcome, recorded⟩

theorem Reached.prepared_of_stored (reached : Reached a bugs s) {bug : String}
    {records : List PathRecord} (stored : s.paths.get? bug = some records) :
    ∃ p, s.prepared = some p := by
  obtain ⟨p, _, _, _, prepared, -⟩ := reached.stored_found stored
  exact ⟨p, prepared⟩

/-- **No list of paths is shortened.** Whenever and however a run is interrupted: the lists that it
returns, and those that are kept of the lists that it uploads, are the lists of an uninterrupted
search, which are the lists of every uninterrupted run on the same graph.  A builder that is steady
gives both runs the same graph. -/
theorem whole_lists_of_run (a : Analysis) (bugs : Dict ConstructSet) (outbox : Outbox)
    (moves : List Move) (itself : a.SearchesItself) :
    let s := ({ outbox } : RunState).steps a bugs moves
    (∀ r bug records, s.result? = some r → r.paths.get? bug = some records →
      ∃ p, s.prepared = some p ∧ p.pathsFor? a bugs bug = some records) ∧
    (∀ bug, s.outbox.listsFor bug = outbox.listsFor bug ∨
      ∃ p records kept dropped, s.prepared = some p ∧ p.pathsFor? a bugs bug = some records ∧
        capPaths bug a.options.maxPaths records = some (kept, dropped) ∧
        s.outbox.listsFor bug = outbox.listsFor bug ++ [some kept]) ∧
    ∀ p outbox' moves', s.prepared = some p →
      let t := ({ outbox := outbox' } : RunState).steps a bugs moves'
      t.interrupted = none → searchIsOver t.stage → (t.prepared = some p ∨ a.builder.Steady) →
        Searched a bugs p outbox' t.paths t.outbox := by
  intro s
  have leads : Leads a bugs { outbox } s := leads_steps moves _
  have reached : Reached a bugs s := ⟨outbox, leads⟩
  refine ⟨fun r bug records returned stored => ?_, fun bug => ?_,
    fun p outbox' moves' prepared => ?_⟩
  · -- the result is the snapshot of a state on the way, which has the same graph
    obtain ⟨m, error, toReturn, fromReturn, -, rfl⟩ :=
      exists_return leads nofun (result?_eq_some returned)
    have there : Reached a bugs m := ⟨outbox, toReturn⟩
    obtain ⟨p, prepared⟩ := there.prepared_of_stored stored
    exact ⟨p, there.keeps_prepared fromReturn prepared, there.stored_whole itself prepared stored⟩
  · rcases handed_of_leads leads bug with ⟨same, -⟩ |
      ⟨records, kept, dropped, stored, capped, lists, -⟩
    · exact .inl same
    · obtain ⟨p, prepared⟩ := reached.prepared_of_stored stored
      exact .inr ⟨p, records, kept, dropped, prepared, reached.stored_whole itself prepared stored,
        capped, lists⟩
  · intro t quiet past graph
    have there : Leads a bugs { outbox := outbox' } t := leads_steps moves' _
    have same : t.prepared = some p := by
      rcases graph with same | steady
      · exact same
      · exact reached.prepared_of_steady prepared steady ⟨outbox', there⟩ quiet past
    exact searched_of_over there same past quiet

/-! ### A run that is cancelled between two bugs -/

section FirstBug

variable {b : Built} {bug : String} {targets : ConstructSet} {rest : List (String × ConstructSet)}
  {found : List Path}

/-- A run comes to where the worker of the first bug is finished and no other bug has one. -/
theorem exists_first_finished (outbox : Outbox) (pool : poolSize a ≠ 0)
    (built : a.builder.build a.options.strict .silent = .built b)
    (entry : (Prepared.ofBuilt a b).entries ≠ []) (first : bugs.entries = (bug, targets) :: rest)
    (targeted : targets.size ≠ 0)
    (finds : (Prepared.ofBuilt a b).search a targets .silent = .found found)
    (storable : (Prepared.ofBuilt a b).Storable a bug found) :
    ∃ m, Proceeds a bugs { outbox } m ∧ m.prepared = some (.ofBuilt a b) ∧
      m.searches = [{ bug, targets, task := .finished }] := by
  obtain ⟨records, moved⟩ : ∃ records, ({ outbox } : RunState).step a bugs (.pipeline false none) =
      _ :=
    step_build rfl rfl rfl built entry
  have begun : Proceeds a bugs ({ outbox } : RunState) _ :=
    ⟨⟨[.pipeline false none], moved⟩, rfl, rfl, rfl, rfl, rfl⟩
  obtain ⟨s₁, noted, same, stage⟩ := proceeds_goOn a bugs begun.crashed rfl
  have alive := noted.crashed.trans begun.crashed
  have idle : s₁.searches = [] := same.searches
  have submitted : s₁.step a bugs (.pipeline false none) =
      { s₁ with searches := [{ bug, targets }], stage := .submittingBugs rest 1 } := by
    have room : hasRoom (poolSize a) s₁.runningSearches = true :=
      hasRoom_of_idle pool (by simp [idle])
    simp [step_pipeline alive, advance, stage, stageOf, first, targeted, room, idle]
  have given : Proceeds a bugs s₁ _ :=
    ⟨⟨[.pipeline false none], submitted⟩, rfl, rfl, rfl, rfl, rfl⟩
  obtain ⟨m, works⟩ : ∃ t, Works a bugs 0 .finished
      { s₁ with searches := [{ bug, targets }], stage := .submittingBugs rest 1 } t :=
    works_search alive (noted.interrupted.trans begun.interrupted) same.prepared
      rfl rfl (by simp [finds])
      (fun paths outcome => by cases finds.symm.trans outcome; exact storable)
  exact ⟨m, ((begun.trans noted).trans given).trans works.toProceeds,
    works.prepared.trans same.prepared, works.searches⟩

/-- Whenever the caller still waits, it can cancel the run and gets what has been stored by then. -/
theorem exists_cancelled (a : Analysis) (bugs : Dict ConstructSet) (alive : s.crashed = false)
    (watching : s.front = .watching) (uncancelled : s.caller = none)
    (quiet : s.interrupted = none) :
    ∃ moves r, (s.steps a bugs moves).result? = some r ∧
      r.error = some (.interrupted .cancelled) ∧ r.paths = s.paths := by
  have heeded : s.steps a bugs [.cancel .cancelled, .conclude .caller] =
      { s with
        caller := some .cancelled
        interrupted := some .cancelled
        front := .closing (closingNotes a (some (.interrupted .cancelled)))
          (some (.interrupted .cancelled)) } := by
    simp [steps, step, conclude, alive, uncancelled, quiet, watching]
  obtain ⟨closes, r, returned, error, paths, -⟩ := exists_close a bugs
    (closingNotes a (some (.interrupted .cancelled)))
    (s := s.steps a bugs [.cancel .cancelled, .conclude .caller])
    (by rw [heeded]; exact alive) (by rw [heeded])
  refine ⟨[.cancel .cancelled, .conclude .caller] ++ closes, r, ?_, error,
    paths.trans (by rw [heeded])⟩
  rw [steps_append]
  exact returned

/-- A run can be cancelled when the worker of the first bug is finished and no other bug has
one.  It returns the list of that bug and no other. -/
theorem exists_cancelled_after_first (a : Analysis) (bugs : Dict ConstructSet) (outbox : Outbox)
    (pool : poolSize a ≠ 0) (built : a.builder.build a.options.strict .silent = .built b)
    (entry : (Prepared.ofBuilt a b).entries ≠ []) (first : bugs.entries = (bug, targets) :: rest)
    (targeted : targets.size ≠ 0)
    (finds : (Prepared.ofBuilt a b).search a targets .silent = .found found)
    (storable : (Prepared.ofBuilt a b).Storable a bug found) :
    ∃ moves r records, (({ outbox } : RunState).steps a bugs moves).result? = some r ∧
      r.error = some (.interrupted .cancelled) ∧
      pathRecords (Prepared.ofBuilt a b).graph bug found = some records ∧
        r.paths.get? bug = some records ∧
      ∀ other, other ≠ bug → r.paths.get? other = none := by
  obtain ⟨m, proceeds, prepared, jobs⟩ :=
    exists_first_finished outbox pool built entry first targeted finds storable
  obtain ⟨before, there⟩ := proceeds.moves
  have reached : Reached a bugs m := there ▸ reached_steps before outbox
  obtain ⟨closes, r, returned, error, same⟩ :=
    exists_cancelled a bugs proceeds.crashed proceeds.front proceeds.caller proceeds.interrupted
  have taken : { bug, targets, task := .finished } ∈ m.searches := by simp [jobs]
  rcases reached.finished_searched prepared proceeds.interrupted taken rfl with
    ⟨_, records, outcome, recorded, stored⟩ | ⟨⟨_, failed⟩, -⟩
  · cases finds.symm.trans outcome
    refine ⟨before ++ closes, r, records, ?_, error, recorded, same ▸ stored, fun other apart => ?_⟩
    · rw [steps_append, there]
      exact returned
    · refine Classical.byContradiction fun here => ?_
      obtain ⟨j, member, rfl⟩ : ∃ j ∈ m.searches, j.bug = other := reached.stored_job (same ▸ here)
      rw [jobs] at member
      exact apart (by rw [List.mem_singleton.1 member])
  · cases finds.symm.trans failed

end FirstBug

/-- Two vertices, one of which calls the other. -/
def oneCall : Analysis where
  builder := { nodes := ["A"], edges := ["A -> B"], entryPoints := ["A"] : Document }.builder

/-- A bug in each vertex. -/
def twoBugs : Dict ConstructSet :=
  (Dict.empty.insert "X" (.ofNames .java ["A"])).insert "Y" (.ofNames .java ["B"])

theorem oneCall_builds : ∃ b, oneCall.builder.build oneCall.options.strict .silent = .built b ∧
    (Prepared.ofBuilt oneCall b).entries = [0] ∧ (Prepared.ofBuilt oneCall b).graph.size = 2 ∧
    (Prepared.ofBuilt oneCall b).search oneCall (.ofNames .java ["A"]) .silent = .found [[0]] ∧
    (Prepared.ofBuilt oneCall b).search oneCall (.ofNames .java ["B"]) .silent =
      .found [[0, 1]] := by
  refine ⟨_, rfl, ?_, ?_, ?_, ?_⟩ <;> decide +kernel

theorem whole_lists_of_run_cancelled_between : ∃ moves r p records,
    (({} : RunState).steps oneCall twoBugs moves).result? = some r ∧
      r.error = some (.interrupted .cancelled) ∧ r.paths.get? "X" = some records ∧
        r.paths.get? "Y" = none ∧
      (({} : RunState).steps oneCall twoBugs moves).prepared = some p ∧
      p.pathsFor? oneCall twoBugs "X" = some records ∧
      ∀ moves', (({} : RunState).steps oneCall twoBugs moves').interrupted = none →
        searchIsOver (({} : RunState).steps oneCall twoBugs moves').stage →
        (({} : RunState).steps oneCall twoBugs moves').paths.get? "X" = some records := by
  obtain ⟨b, built, entries, size, search, -⟩ := oneCall_builds
  obtain ⟨moves, r, records, returned, error, -, stored, absent⟩ :=
    exists_cancelled_after_first oneCall twoBugs {} (by decide) built (by simp [entries])
      rfl (by decide) search (Prepared.storable_of_unlimited (by decide) "X" (by simp [size]))
  obtain ⟨returns, -, uninterrupted⟩ :=
    whole_lists_of_run oneCall twoBugs {} moves (.inr ⟨⟨.pruned, 0⟩, rfl⟩)
  obtain ⟨p, prepared, expected⟩ := returns r "X" _ returned stored
  refine ⟨moves, r, p, _, returned, error, stored, absent "Y" (by decide), prepared, expected, ?_⟩
  intro moves' quiet past
  have steady : oneCall.builder.Steady := Document.steady_builder _
  exact ((uninterrupted p {} moves' prepared quiet past (.inr steady)).stored "X").trans expected

end RunState

end Exposure
