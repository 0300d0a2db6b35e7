/-
# Proofs.Isolation — no bug changes what becomes of another

`Searched` says of an undisturbed run what its search leaves behind, bug by bug,
and what it says of a bug mentions no other bug and no order.  So a bug gets the
list that it gets in a run of its own, a search that fails or panics takes
nothing from its neighbours, and in a fair run all of this comes about.

One thing is shared.  If what the search of one bug finds cannot be stored, its
worker brings the whole run down, and no bug at all gets as far as the scan.
That is so if a path is empty or leaves the graph, and if `capPaths` has no answer
since the product of the limit and the number of targets does not fit
(`isolation_of_fair_run` has this as the exact condition,
`overflow_keeps_others_from_scan` an instance).
-/
import Exposure.Proofs.Fairness
import Exposure.Proofs.Interruption

namespace Exposure

set_option autoImplicit false

/-- What a bug gets depends on its own targets only. -/
theorem Prepared.pathsFor?_insert (p : Prepared) (a : Analysis) {bugs : Dict ConstructSet}
    {bug : String} {targets : ConstructSet} (known : bugs.get? bug = some targets)
    (others : Dict ConstructSet) :
    p.pathsFor? a (others.insert bug targets) bug = p.pathsFor? a bugs bug := by
  simp [pathsFor?, known]

/-- The search of a bug, by the names of its targets. -/
theorem Prepared.search_of_names {p : Prepared} {a : Analysis} {targets : ConstructSet}
    {names : List String} (same : targets.names = names) (watch : Watch) :
    p.search a targets watch =
      if a.options.shortestOnly then
        .found ((names.filterMap p.graph.index?).flatMap (shortestFromEntries p.graph p.entries))
      else searchPairs a.search p.graph
        (searchedPairs p.entries (names.filterMap p.graph.index?)) watch [] := by
  rw [search, searchBug, targetNodes, same]

namespace RunState

variable {a : Analysis} {bugs : Dict ConstructSet} {s : RunState} {start : Outbox} {b : Built}

/-- An undisturbed run that has left the search behind has the paths that it had at a moment when it
was not interrupted either: now, or when its pipeline ended. -/
theorem exists_quiet_over (leads : Leads a bugs { outbox := start } s)
    (built : a.builder.build a.options.strict .silent = .built b)
    (entry : (Prepared.ofBuilt a b).entries ≠ []) (calm : Calm { outbox := start } s)
    (past : searchIsOver s.stage) :
    ∃ m, Leads a bugs { outbox := start } m ∧ searchIsOver m.stage ∧ m.interrupted = none ∧
      m.prepared = some (.ofBuilt a b) ∧ s.paths = m.paths := by
  have prepared {m : RunState} (reached : Reached a bugs m) (past : searchIsOver m.stage)
      (quiet : m.interrupted = none) : m.prepared = some (.ofBuilt a b) := by
    obtain ⟨p, prepared⟩ := reached.prepared_of_over past
    rw [prepared, reached.prepared_of_quiet quiet built prepared]
  rcases quiet_or_returned leads calm with quiet | ⟨r, returned⟩
  · exact ⟨s, leads, past, quiet, prepared ⟨start, leads⟩ past quiet, rfl⟩
  · obtain ⟨m, toEnd, fromEnd, ended, quiet, -⟩ :=
      exists_end_of_returned leads built entry calm returned
    have reached : Reached a bugs m := ⟨start, toEnd⟩
    have ends : searchIsOver m.stage := by simp [ended, searchIsOver]
    obtain ⟨-, paths, -⟩ := reached.ended_settled ended fromEnd
    exact ⟨m, toEnd, ends, quiet, prepared reached ends quiet, paths⟩

/-- **What the search of an undisturbed run leaves behind**, until its return and after that. -/
theorem searched_of_undisturbed (leads : Leads a bugs { outbox := start } s)
    (built : a.builder.build a.options.strict .silent = .built b)
    (entry : (Prepared.ofBuilt a b).entries ≠ []) (calm : Calm { outbox := start } s)
    (past : searchIsOver s.stage) : Searched a bugs (.ofBuilt a b) start s.paths s.outbox := by
  obtain ⟨m, toOver, ended, quiet, prepared, paths⟩ := exists_quiet_over leads built entry calm past
  refine searched_of_stored leads past fun bug => ?_
  rw [paths]
  exact Reached.stored_eq ⟨start, toOver⟩ prepared ended quiet bug

/-- An undisturbed run that has left the search behind could store all that was found. -/
theorem allStorable_of_undisturbed (leads : Leads a bugs { outbox := start } s)
    (built : a.builder.build a.options.strict .silent = .built b)
    (entry : (Prepared.ofBuilt a b).entries ≠ []) (calm : Calm { outbox := start } s)
    (past : searchIsOver s.stage) : AllStorable a bugs (.ofBuilt a b) := by
  obtain ⟨m, toOver, ended, quiet, prepared, -⟩ := exists_quiet_over leads built entry calm past
  exact allStorable_of_over toOver prepared ended quiet

/-- A run that has returned undisturbed has left the search behind. -/
theorem over_of_returned {r : RunResult} (leads : Leads a bugs { outbox := start } s)
    (built : a.builder.build a.options.strict .silent = .built b)
    (entry : (Prepared.ofBuilt a b).entries ≠ []) (calm : Calm { outbox := start } s)
    (returned : s.front = .returned r) :
    searchIsOver s.stage ∧ r.error = none ∧ r.paths = s.paths := by
  obtain ⟨m, toEnd, fromEnd, ended, -, rfl⟩ :=
    exists_end_of_returned leads built entry calm returned
  obtain ⟨stage, paths, -⟩ := Reached.ended_settled ⟨start, toEnd⟩ ended fromEnd
  exact ⟨by simp [stage, searchIsOver], rfl, paths.symm⟩

/-- **Bugs do not get in each other's way.** In whatever order the pipeline and the workers move, as
long as nothing disturbs them and none is forgotten: the run goes on to the scan exactly if all
paths that are found for bugs are paths with nodes of the graph, and the list of every bug can be
capped.  By then, and in its result, exactly the bugs with targets whose search does not fail have
their paths, each list has been handed to the uploader once as far as the limit keeps it, and
nothing else has.  The caller finds this in the result as well, unless the uploader has written into
what it was handed.  The list of a bug is the one it gets in any undisturbed run of its own. -/
theorem isolation_of_fair_run (a : Analysis) (bugs : Dict ConstructSet) (b : Built)
    (outbox : Outbox) (schedule : Nat → Move)
    (built : a.builder.build a.options.strict .silent = .built b)
    (entry : (Prepared.ofBuilt a b).entries ≠ []) (pool : 1 ≤ poolSize a)
    (comesBack : ∀ g source target watch, (a.search g source target watch).1 ≠ .stalled)
    (fair : Fair bugs.size schedule) :
    let p := Prepared.ofBuilt a b
    let run := after a bugs schedule { outbox }
    ((∃ n, searchIsOver (run n).stage) ↔ AllStorable a bugs p) ∧
    (∀ n, searchIsOver (run n).stage → Searched a bugs p outbox (run n).paths (run n).outbox) ∧
    (∀ n r, (run n).result? = some r → r.error = none ∧
      Searched a bugs p outbox r.paths (run n).outbox ∧
      (a.uploader.LeavesLists → outbox.rewritten = .empty → (run n).received? = some r)) ∧
    ∀ bug targets outbox' schedule' n, bugs.get? bug = some targets →
      (∀ n, (schedule' n).isDisturbance = false) →
      let alone := after a (Dict.empty.insert bug targets) schedule' { outbox := outbox' } n
      searchIsOver alone.stage → alone.paths.get? bug = p.pathsFor? a bugs bug := by
  intro p run
  have leads (n : Nat) : Leads a bugs { outbox } (run n) := leads_after a bugs schedule _ n
  have calm (n : Nat) : Calm { outbox } (run n) := calm_after fair.undisturbed _ n
  have searched (n : Nat) (past : searchIsOver (run n).stage) :
      Searched a bugs p outbox (run n).paths (run n).outbox :=
    searched_of_undisturbed (leads n) built entry (calm n) past
  refine ⟨⟨fun ⟨n, past⟩ => ?_, fun storable => ?_⟩, searched, fun n r returned => ?_,
    fun bug targets outbox' schedule' n known undisturbed past => ?_⟩
  · exact allStorable_of_undisturbed (leads n) built entry (calm n) past
  · exact exists_over_of_fair outbox built entry pool comesBack storable fair
  · obtain ⟨past, success, same⟩ :=
      over_of_returned (leads n) built entry (calm n) (result?_eq_some returned)
    exact ⟨success, same ▸ searched n past, fun leaves untouched =>
      (received?_eq (leads n) leaves untouched).trans returned⟩
  · have own := searched_of_undisturbed (leads_after a _ schedule' _ n) built entry
      (calm_after undisturbed _ n) past
    exact (own.stored bug).trans (Prepared.pathsFor?_insert p a known _)

/-! ### A search that panics -/

/-- The pipeline and two workers in turn. -/
def inTurn (n : Nat) : Move :=
  if n % 3 = 0 then .pipeline false none else .search (n % 3 - 1) none

theorem fair_inTurn : Fair 2 inTurn where
  undisturbed n := by
    unfold inTurn
    split <;> rfl
  pipeline n := ⟨3 * n, by omega, false, none, by simp [inTurn]⟩
  worker i below n := by
    refine ⟨3 * n + (i + 1), by omega, none, ?_⟩
    have turn : (3 * n + (i + 1)) % 3 = i + 1 := by omega
    simp [inTurn, turn]

/-- Every enumeration to the second vertex panics. -/
def panicking : Analysis :=
  { oneCall with
    search := fun _ source target watch =>
      if target = 1 then (.panicked "boom", watch) else (.found [[source]], watch) }

theorem panicking_builds :
    ∃ b, panicking.builder.build panicking.options.strict .silent = .built b ∧
    (Prepared.ofBuilt panicking b).entries = [0] ∧ (Prepared.ofBuilt panicking b).graph.size = 2 ∧
    (Prepared.ofBuilt panicking b).search panicking (.ofNames .java ["A"]) .silent = .found [[0]] ∧
    (Prepared.ofBuilt panicking b).search panicking (.ofNames .java ["B"]) .silent =
      .failed "panic: boom" := by
  refine ⟨_, rfl, ?_, ?_, ?_, ?_⟩ <;> decide +kernel

theorem isolation_of_fair_run_panicking : ∃ n records,
    searchIsOver (after panicking twoBugs inTurn {} n).stage ∧
      (after panicking twoBugs inTurn {} n).paths.get? "X" = some records ∧ records.length = 1 ∧
      (after panicking twoBugs inTurn {} n).paths.get? "Y" = none ∧
      (after panicking twoBugs inTurn {} n).outbox.listsFor "X" = [some records] ∧
      (after panicking twoBugs inTurn {} n).outbox.listsFor "Y" = [] := by
  obtain ⟨b, built, entries, size, first, second⟩ := panicking_builds
  have getX : twoBugs.get? "X" = some (.ofNames .java ["A"]) := rfl
  have getY : twoBugs.get? "Y" = some (.ofNames .java ["B"]) := rfl
  have storable (bug : String) : (Prepared.ofBuilt panicking b).Storable panicking bug [[0]] :=
    Prepared.storable_of_unlimited (by decide) bug (by simp [size])
  obtain ⟨records, recorded, -⟩ := Prepared.storable_iff.1 (storable "X")
  have pathsX : (Prepared.ofBuilt panicking b).pathsFor? panicking twoBugs "X" = some records :=
    Prepared.pathsFor?_eq_some.2 ⟨_, _, getX, by decide, first, recorded⟩
  have pathsY : (Prepared.ofBuilt panicking b).pathsFor? panicking twoBugs "Y" = none := by
    simp [Prepared.pathsFor?, getY, second]
  have comesBack : ∀ g source target watch, (panicking.search g source target watch).1 ≠
      .stalled := by
    intro g source target watch
    simp only [panicking]
    split <;> simp
  have allStorable : AllStorable panicking twoBugs (.ofBuilt panicking b) := by
    intro bug targets found known _ outcome
    simp only [twoBugs, Dict.get?_insert, Dict.get?_empty] at known
    split at known
    · obtain rfl := Option.some.inj known
      simp [second] at outcome
    · split at known <;> cases known
      obtain rfl := BugSearch.found.inj (first.symm.trans outcome)
      exact storable bug
  obtain ⟨ends, leaves, -⟩ :=
    isolation_of_fair_run panicking twoBugs b {} inTurn built (by simp [entries])
      (by decide) comesBack fair_inTurn
  obtain ⟨n, past⟩ := ends.2 allStorable
  have searched := leaves n past
  obtain ⟨kept, dropped, capped, lists⟩ := searched.uploaded "X" _ pathsX
  obtain ⟨rfl, -⟩ : records = kept ∧ _ := by simpa [capPaths, panicking, oneCall] using capped
  have one : records.length = 1 := by
    simpa using congrArg List.length (calls_of_pathRecords recorded)
  exact ⟨n, _, past, (searched.stored "X").trans pathsX, one, (searched.stored "Y").trans pathsY,
    lists, searched.silent "Y" pathsY⟩

/-! ### A list that cannot be capped -/

/-- A limit of which twice the amount is no signed number of sixty-four bits. -/
def overflowing : Analysis := { oneCall with options := { maxPaths := 2 ^ 62 } }

/-- A bug in both vertices, and a bug in the second one. -/
def wideBug : Dict ConstructSet :=
  (Dict.empty.insert "X" (.ofNames .java ["A", "B"])).insert "Y" (.ofNames .java ["B"])

theorem names_wide : (ConstructSet.ofNames .java ["A", "B"]).names = ["A", "B"] :=
  ConstructSet.names_of_ordered (by decide +kernel)

theorem overflowing_builds :
    ∃ b, overflowing.builder.build overflowing.options.strict .silent = .built b ∧
    (Prepared.ofBuilt overflowing b).entries = [0] ∧
    (Prepared.ofBuilt overflowing b).search overflowing (.ofNames .java ["A", "B"]) .silent =
      .found [[0], [0, 1]] ∧
    (Prepared.ofBuilt overflowing b).search overflowing (.ofNames .java ["B"]) .silent =
      .found [[0, 1]] ∧
    ((pathRecords (Prepared.ofBuilt overflowing b).graph "X" [[0], [0, 1]]).map fun records =>
      (capPaths "X" overflowing.options.maxPaths records).isNone) = some true ∧
    ((pathRecords (Prepared.ofBuilt overflowing b).graph "Y" [[0, 1]]).map fun records =>
      (capPaths "Y" overflowing.options.maxPaths records).isSome) = some true := by
  refine ⟨_, rfl, ?_, ?_, ?_, ?_, ?_⟩
  · decide +kernel
  · refine (Prepared.search_of_names names_wide .silent).trans ?_
    decide +kernel
  all_goals decide +kernel

/-- **One bug can bring all others down.** The list of a bug with two targets cannot be capped at
such a limit.  No fair run with it goes on to the scan or returns, although all paths found are
paths of the graph, the search of the other bug finds one and its list could be capped. -/
theorem overflow_keeps_others_from_scan : ∃ b,
    overflowing.builder.build overflowing.options.strict .silent = .built b ∧
      (Prepared.ofBuilt overflowing b).entries ≠ [] ∧ 1 ≤ poolSize overflowing ∧
      (∀ g source target watch, (overflowing.search g source target watch).1 ≠ .stalled) ∧
      (∀ targets found, (Prepared.ofBuilt overflowing b).search overflowing targets .silent =
        .found found →
        ∀ path ∈ found, path ≠ [] ∧ ∀ n ∈ path, n < (Prepared.ofBuilt overflowing b).graph.size) ∧
      (∃ records, (Prepared.ofBuilt overflowing b).pathsFor? overflowing wideBug "Y" =
        some records ∧ capPaths "Y" overflowing.options.maxPaths records ≠ none) ∧
      ∀ outbox schedule, Fair wideBug.size schedule → ∀ n,
        ¬ searchIsOver (after overflowing wideBug schedule { outbox } n).stage ∧
          (after overflowing wideBug schedule { outbox } n).result? = none := by
  obtain ⟨b, built, entries, wide, narrow, uncapped, capped⟩ := overflowing_builds
  have entry : (Prepared.ofBuilt overflowing b).entries ≠ [] := by simp [entries]
  have getX : wideBug.get? "X" = some (.ofNames .java ["A", "B"]) := rfl
  have getY : wideBug.get? "Y" = some (.ofNames .java ["B"]) := rfl
  obtain ⟨recordsX, recordedX, uncapped⟩ := Option.map_eq_some_iff.1 uncapped
  obtain ⟨recordsY, recordedY, capped⟩ := Option.map_eq_some_iff.1 capped
  have pathsY : (Prepared.ofBuilt overflowing b).pathsFor? overflowing wideBug "Y" =
      some recordsY :=
    Prepared.pathsFor?_eq_some.2 ⟨_, _, getY, by decide, narrow, recordedY⟩
  refine ⟨b, built, entry, by decide, Enumerator.search_ne_stalled _,
    fun _ _ => Prepared.recordable_of_search (.inr ⟨oneCall.options.enumerator, rfl⟩),
    ⟨recordsY, pathsY, Option.isSome_iff_ne_none.1 capped⟩, ?_⟩
  intro outbox schedule fair n
  have leads : Leads overflowing wideBug { outbox }
      (after overflowing wideBug schedule { outbox } n) :=
    leads_after _ _ schedule _ n
  have calm : Calm { outbox } (after overflowing wideBug schedule { outbox } n) :=
    calm_after fair.undisturbed _ n
  have pending : ¬ searchIsOver (after overflowing wideBug schedule { outbox } n).stage := by
    intro past
    have storable := allStorable_of_undisturbed leads built entry calm past "X" _ _ getX
      (by decide) wide
    exact storable.cappable recordsX recordedX (Option.isNone_iff_eq_none.1 uncapped)
  refine ⟨pending, Option.eq_none_iff_forall_ne_some.2 fun r returned => pending ?_⟩
  exact (over_of_returned leads built entry calm (result?_eq_some returned)).1

end RunState

end Exposure
