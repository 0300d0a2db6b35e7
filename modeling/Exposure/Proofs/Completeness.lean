/-
# Proofs.Completeness — when a success is complete

A run succeeds when its pipeline ends without an error.  By then every bug with
targets has been searched and every range scanned, and nothing that has been
stored changes any more (`Reached.ended_settled`).  Complete is what was stored
then only if nobody had cancelled the run: a worker that finds the run
interrupted leaves without a trace, and a pipeline that waits for such workers
may see them finished before it sees the interruption.
-/
import Exposure.Analysis.Schedule
import Exposure.Proofs.Progress
import Exposure.Proofs.Scanning
import Exposure.Proofs.Workers

namespace Exposure

set_option autoImplicit false

/-! ## Scans of ranges -/

/-- With a silent watch every range of the graph is scanned to its end. -/
theorem Prepared.scan_isSome (p : Prepared) (a : Analysis) {r : NodeRange}
    (member : r ∈ partitions p.graph.size (RunState.poolSize a)) :
    (p.scan a r .silent).isSome = true := by
  obtain ⟨low, order, high⟩ := mem_partitions member
  have inside : ¬ (r.low < 0 ∨ r.high > p.graph.scanGraph.size ∨ r.low > r.high) := by
    have size : p.graph.scanGraph.size = p.graph.size := rfl
    omega
  have complete := (RunState.scanner a p).failure_scanFrom p.graph.scanGraph r
    r.length.toNat r.low.toNat
    ⟨.none, none, [], .silent⟩ rfl rfl
  simp [scan, Scanner.run, inside, complete]

/-! ## Complete results -/

/-- A result with the paths of every bug whose search does not fail, and with the findings of all
ranges of the graph. -/
structure RunResult.Complete (r : RunResult) (a : Analysis) (bugs : Dict ConstructSet)
    (p : Prepared) : Prop where
  searched : ∀ bug targets, bugs.get? bug = some targets → targets.size ≠ 0 →
    (∀ m, p.search a targets .silent ≠ .failed m) →
    ∃ found records, p.search a targets .silent = .found found ∧
      pathRecords p.graph bug found = some records ∧ r.paths.get? bug = some records
  scanned : ∃ parts : List Findings,
    (partitions p.graph.size (RunState.poolSize a)).map (p.scan a · .silent) = parts.map some ∧
      r.findings = some (parts.foldl Findings.merge .none)

namespace RunState

variable {a : Analysis} {bugs : Dict ConstructSet} {s t : RunState}

theorem mergedFindings_eq (jobs : List ScanJob) :
    mergedFindings jobs = (jobs.map fun j => j.findings.getD .none).foldl Findings.merge .none := by
  rw [mergedFindings, List.foldl_map]

/-- What has been found when the pipeline has ended without an interruption. -/
theorem Reached.ended_scanned {p : Prepared} (reached : Reached a bugs s)
    (prepared : s.prepared = some p) (ended : s.stage = .ended none)
    (quiet : s.interrupted = none) :
    ∃ parts : List Findings,
      (partitions p.graph.size (poolSize a)).map (p.scan a · .silent) = parts.map some ∧
        s.findings = some (parts.foldl Findings.merge .none) := by
  have submitted := reached.ranges_submitted
  rw [ended] at submitted
  have all : s.scans.map (·.range) = partitions p.graph.size (poolSize a) := by
    simpa [unscanned, ranges, prepared] using submitted
  have scanned : ∀ j ∈ s.scans, p.scan a j.range .silent = some (j.findings.getD .none) := by
    intro j member
    have finished := reached.scans_finished (by simp [ended, scanIsOver]) j member
    obtain ⟨p', w, prepared', had, outcome⟩ := reached.scanned member finished
    obtain rfl : p' = p := Option.some.inj (prepared'.symm.trans prepared)
    rw [had quiet] at outcome
    have inside : j.range ∈ partitions p'.graph.size (poolSize a) :=
      all ▸ List.mem_map.2 ⟨j, member, rfl⟩
    obtain ⟨f, found⟩ := Option.isSome_iff_exists.1 (p'.scan_isSome a inside)
    simp [outcome, found]
  refine ⟨s.scans.map fun j => j.findings.getD .none, ?_, ?_⟩
  · rw [← all, List.map_map, List.map_map]
    exact List.map_congr_left scanned
  · have finds := reached.finds
    rw [ended] at finds
    rw [← mergedFindings_eq]
    exact finds

/-- The pipeline that ends without an interruption leaves a complete result behind. -/
theorem Reached.ended_complete (reached : Reached a bugs s) (ended : s.stage = .ended none)
    (quiet : s.interrupted = none) :
    ∃ b, a.builder.build a.options.strict .silent = .built b ∧ s.prepared = some (.ofBuilt a b) ∧
      (s.snapshot none).Complete a bugs (.ofBuilt a b) := by
  have fits := reached.fits
  rw [ended] at fits
  obtain ⟨p, prepared, _⟩ := fits
  obtain ⟨b, w, had, built, rfl⟩ := reached.built prepared
  refine ⟨b, had quiet ▸ built, prepared, ⟨fun bug targets known targeted sound => ?_, ?_⟩⟩
  · rcases reached.over_searched prepared (by simp [ended, searchIsOver]) quiet known targeted with
      stored | ⟨⟨m, failed⟩, _⟩
    · exact stored
    · exact absurd failed (sound m)
  · exact reached.ended_scanned prepared ended quiet

/-- Nothing that was stored changes once the pipeline has ended without an error. -/
theorem Reached.ended_settled (reached : Reached a bugs s) (ended : s.stage = .ended none)
    (leads : Leads a bugs s t) :
    t.stage = .ended none ∧ t.paths = s.paths ∧ t.findings = s.findings := by
  induction leads with
  | refl => exact ⟨ended, rfl, rfl⟩
  | @tail m t first last ih =>
      obtain ⟨past, paths, findings⟩ := ih
      have there := reached.leads first
      refine ⟨last.stays_ended past, ?_⟩
      rw [← paths, ← findings]
      cases last
      case stores found task _ =>
          have finished := there.searches_finished (by simp [past, searchIsOver]) _
            (List.mem_of_getElem? found)
          simp [task] at finished
      case writes stage => simp [past] at stage
      case closes n notes error front =>
          exact ⟨rfl, onFindings_of_not_about (there.leaveFindings front n List.mem_cons_self) _⟩
      all_goals exact ⟨rfl, rfl⟩

/-- A run that has returned is interrupted. -/
theorem Reached.interrupted_of_returned (reached : Reached a bugs s) {r : RunResult}
    (returned : s.front = .returned r) : s.interrupted ≠ none := by
  revert returned
  refine reached.invariant (P := fun s => s.front = .returned r → s.interrupted ≠ none) (by simp) ?_
  intro s t _ before step returned quiet
  rcases step.front_of_returned returned with earlier | ⟨error, closing, _⟩
  · exact before earlier (step.stays_interrupted quiet)
  · cases step
    case returns => simp at quiet
    all_goals simp_all [setTask, finishScan, addRecords, addMeasures]

theorem result?_eq_some {r : RunResult} (returned : s.result? = some r) :
    s.front = .returned r := by
  cases front : s.front <;> simp_all [result?]

theorem stage_of_hasEnded (ended : s.hasEnded = true) : ∃ error, s.stage = .ended error := by
  cases stage : s.stage <;> simp_all [hasEnded]

/-- The front returns a success for a pipeline that has ended with one. -/
theorem Reached.closing_success (reached : Reached a bugs s)
    (closing : ∃ notes, s.front = .closing notes none) : s.stage = .ended none := by
  rcases reached.closing_cases closing with ended | ⟨timeout, _⟩ | ⟨_, cancelled, _⟩
  · exact ended
  · cases timeout
  · cases cancelled

/-- An uninterrupted run works on what the builder gives it without an interruption. -/
theorem Reached.built_of_quiet {p : Prepared} (reached : Reached a bugs s)
    (quiet : s.interrupted = none) (prepared : s.prepared = some p) :
    ∃ b, a.builder.build a.options.strict .silent = .built b ∧ p = .ofBuilt a b := by
  obtain ⟨b, w, had, built, rfl⟩ := reached.built prepared
  exact ⟨b, had quiet ▸ built, rfl⟩

theorem Reached.prepared_of_quiet {b : Built} {p : Prepared} (reached : Reached a bugs s)
    (quiet : s.interrupted = none) (built : a.builder.build a.options.strict .silent = .built b)
    (prepared : s.prepared = some p) : p = .ofBuilt a b := by
  obtain ⟨b', built', rfl⟩ := reached.built_of_quiet quiet prepared
  rw [BuildOutcome.built.inj (built'.symm.trans built)]

/-- The pipeline of an uninterrupted run ends without an error. -/
theorem Reached.ended_none {b : Built} {error : Option RunError} (reached : Reached a bugs s)
    (ended : s.stage = .ended error) (quiet : s.interrupted = none)
    (built : a.builder.build a.options.strict .silent = .built b)
    (entry : (Prepared.ofBuilt a b).entries ≠ []) : error = none := by
  have fits := reached.fits
  rw [ended] at fits
  match error, fits with
  | none, _ => rfl
  | some (.build e), ⟨w, had, failed⟩ => simp [had quiet, built] at failed
  | some .noEntryPoints, ⟨p, prepared, bare⟩ =>
      exact absurd (reached.prepared_of_quiet quiet built prepared ▸ bare) entry
  | some (.search _), interrupted | some (.scan _), interrupted =>
      exact absurd (quiet.symm.trans interrupted) nofun

/-- A run that returns, although nobody has cancelled it and it has not timed out, does so because
its pipeline has come to its end. -/
theorem Reached.success_of_undisturbed {b : Built} {error : Option RunError}
    (reached : Reached a bugs s) (closing : ∃ notes, s.front = .closing notes error)
    (uncancelled : s.caller = none) (inTime : error ≠ some .timeout)
    (built : a.builder.build a.options.strict .silent = .built b)
    (entry : (Prepared.ofBuilt a b).entries ≠ []) :
    error = none ∧ s.stage = .ended none ∧ s.interrupted = none := by
  obtain ⟨notes, front⟩ := closing
  have quiet : s.interrupted = none := by
    refine Classical.byContradiction fun interrupted => ?_
    rcases reached.interrupted_cases interrupted with cancelled | ⟨_, timeout⟩ | ⟨_, returned⟩
    · exact cancelled uncancelled
    · simp_all
    · simp_all
  have ended : s.stage = .ended error := by
    rcases reached.closing_cases ⟨notes, front⟩ with ended | ⟨timeout, _⟩ | ⟨_, _, cancelled⟩
    · exact ended
    · exact absurd timeout inTime
    · simp [uncancelled] at cancelled
  obtain rfl := reached.ended_none ended quiet built entry
  exact ⟨rfl, ended, quiet⟩

/-- **Success means complete, unless the run was cancelled.** Whatever the order of the steps: if a
run returns a success, and nothing had interrupted it by the time its pipeline ended, then its
result has the paths of every bug whose search does not fail, and the findings of all ranges. -/
theorem complete_of_success (a : Analysis) (bugs : Dict ConstructSet) (outbox : Outbox)
    (before after : List Move) (r : RunResult)
    (ended : (({ outbox } : RunState).steps a bugs before).hasEnded = true)
    (quiet : (({ outbox } : RunState).steps a bugs before).interrupted = none)
    (returned : (({ outbox } : RunState).steps a bugs (before ++ after)).result? = some r)
    (success : r.isSuccess = true) :
    ∃ b, a.builder.build a.options.strict .silent = .built b ∧
      r.Complete a bugs (.ofBuilt a b) := by
  rw [steps_append] at returned
  have reached : Reached a bugs (({ outbox } : RunState).steps a bugs before) :=
    reached_steps before outbox
  generalize ({ outbox } : RunState).steps a bugs before = s at *
  -- the snapshot is taken after the pipeline has ended, and there is nothing left to change
  obtain ⟨m, error, toReturn, -, closing, rfl⟩ := exists_return (leads_steps after s)
    (fun _ earlier => reached.interrupted_of_returned earlier quiet) (result?_eq_some returned)
  obtain rfl : error = none := by simpa [snapshot, RunResult.isSuccess] using success
  obtain ⟨error, stage⟩ := stage_of_hasEnded ended
  have past : s.stage = .ended none := by
    have atReturn := (reached.leads toReturn).closing_success ⟨[], closing⟩
    rw [toReturn.stays_ended stage] at atReturn
    exact stage.trans atReturn
  obtain ⟨-, paths, findings⟩ := reached.ended_settled past toReturn
  obtain ⟨b, built, -, complete⟩ := reached.ended_complete past quiet
  refine ⟨b, built, ⟨?_, ?_⟩⟩
  · simpa [snapshot, paths] using complete.searched
  · simpa [snapshot, findings] using complete.scanned

/-! ## A success that is not complete -/

/-- The run is interrupted, and no worker has begun that has not left. -/
structure Abandoned (s : RunState) : Prop where
  interrupted : s.interrupted ≠ none
  tasks : ∀ j ∈ s.searches, j.task = .waiting ∨ j.task = .finished

theorem Abandoned.setTask (abandoned : Abandoned s) (i : Nat) :
    ∀ j ∈ (s.setTask i .finished).searches, j.task = .waiting ∨ j.task = .finished := by
  intro j member
  obtain ⟨n, here⟩ := List.mem_iff_getElem?.1 member
  by_cases same : i = n
  · subst same
    cases found : s.searches[i]? with
    | none => simp [RunState.setTask, found] at here
    | some job =>
        obtain rfl : _ = j := by simpa [RunState.setTask, found] using here
        exact .inr rfl
  · have old : s.searches[n]? = some j := by
      simpa [RunState.setTask, List.getElem?_modify, same] using here
    exact abandoned.tasks j (List.mem_of_getElem? old)

/-- Nothing is stored any more in an abandoned run. -/
theorem Abandoned.step (abandoned : Abandoned s) (step : Transition a bugs s t) :
    Abandoned t ∧ t.paths = s.paths := by
  have stopped : t.interrupted ≠ none :=
    fun quiet => abandoned.interrupted (step.stays_interrupted quiet)
  have idle {i : Nat} {job : SearchJob} {now : SearchTask} (found : s.searches[i]? = some job)
      (task : job.task = now) (busy : now ≠ .waiting ∧ now ≠ .finished) : False := by
    rcases abandoned.tasks job (List.mem_of_getElem? found) with waiting | finished
    · exact busy.1 (task.symm.trans waiting)
    · exact busy.2 (task.symm.trans finished)
  cases step
  case starts quiet => exact absurd quiet abandoned.interrupted
  case skips i _ _ _ _ => exact ⟨⟨stopped, abandoned.setTask i⟩, rfl⟩
  case fails found task _ _ _ | finds found task _ | counts found task | stores found task _
      | uploads found task _ _ => exact (idle found task ⟨nofun, nofun⟩).elim
  case submits =>
      refine ⟨⟨stopped, fun j member => ?_⟩, rfl⟩
      rcases List.mem_append.1 member with old | new
      · exact abandoned.tasks j old
      · rw [List.mem_singleton.1 new]
        exact .inl rfl
  all_goals exact ⟨⟨stopped, abandoned.tasks⟩, rfl⟩

theorem Abandoned.leads (abandoned : Abandoned s) (leads : Leads a bugs s t) :
    t.paths = s.paths := by
  have both : Abandoned t ∧ t.paths = s.paths := by
    induction leads with
    | refl => exact ⟨abandoned, rfl⟩
    | tail _ last ih =>
        obtain ⟨still, same⟩ := ih.1.step last
        exact ⟨still, same.trans ih.2⟩
  exact both.2

/-- A run that is cancelled once its graph is built can still return a success, without a path of
any bug: its workers leave, and both the pipeline and the front see that they are finished before
they see that the run is cancelled. -/
theorem exists_success_without_paths {b : Built} (bugs : Dict ConstructSet) (outbox : Outbox)
    (cause : Interrupt) (pool : poolSize a ≠ 0)
    (built : a.builder.build a.options.strict .silent = .built b)
    (entry : (Prepared.ofBuilt a b).entries ≠ []) :
    ∃ moves r, (({ outbox } : RunState).steps a bugs moves).result? = some r ∧ r.isSuccess = true ∧
      r.paths = .empty := by
  obtain ⟨records, moved⟩ : ∃ records, ({ outbox } : RunState).step a bugs (.pipeline false none) =
      _ :=
    step_build rfl rfl rfl built entry
  have cancelled : ({ outbox } : RunState).steps a bugs [.pipeline false none, .cancel cause] =
      { ({ outbox } : RunState).addRecords records with
        prepared := some (.ofBuilt a b)
        stage := .noting (buildNotes a b (Prepared.ofBuilt a b).graph) .search
        caller := some cause
        interrupted := some cause } := by
    rw [steps, List.foldl_cons, moved]
    rfl
  generalize state : ({ outbox } : RunState).steps a bugs [.pipeline false none, .cancel cause] =
    s at cancelled
  have abandoned : Abandoned s := by
    subst cancelled
    refine ⟨by simp, ?_⟩
    intro j member
    simp [addRecords] at member
  obtain ⟨t, proceeds, ended⟩ : ∃ t, Proceeds a bugs s t ∧ t.stage = .ended none := by
    subst cancelled
    exact proceeds_to_end a bugs pool rfl rfl rfl rfl rfl workable_of_interrupted
  obtain ⟨before, after, r, -, returned, success, -⟩ := exists_returned proceeds ended
    (by rw [cancelled]; rfl) (by rw [cancelled]; rfl)
  generalize before ++ after = moves at returned
  refine ⟨[.pipeline false none, .cancel cause] ++ moves, r, ?_,
    by simp [RunResult.isSuccess, success], ?_⟩
  · rw [steps_append, state]
    exact returned
  obtain ⟨m, error, toReturn, -, -, rfl⟩ := exists_return (leads_steps moves s)
    (by simp [cancelled, addRecords]) (result?_eq_some returned)
  have same := abandoned.leads toReturn
  rw [cancelled] at same
  exact same

/-! ### The smallest such run -/

/-- The analysis of a document with one vertex, which is the entry point. -/
def oneVertex : Analysis :=
  { builder := { nodes := ["A"], entryPoints := ["A"] : Document }.builder }

/-- A bug in that vertex. -/
def oneBug : Dict ConstructSet := Dict.empty.insert "B" (.ofNames .java ["A"])

theorem oneVertex_builds :
    ∃ b, oneVertex.builder.build oneVertex.options.strict .silent = .built b ∧
    (Prepared.ofBuilt oneVertex b).entries = [0] ∧ (Prepared.ofBuilt oneVertex b).graph.size = 1 ∧
    (Prepared.ofBuilt oneVertex b).search oneVertex (.ofNames .java ["A"]) .silent =
      .found [[0]] := by
  refine ⟨_, rfl, ?_, ?_, ?_⟩ <;> decide +kernel

theorem complete_of_success_one_vertex : ∃ before after r b,
    (({} : RunState).steps oneVertex oneBug before).hasEnded = true ∧
      (({} : RunState).steps oneVertex oneBug before).interrupted = none ∧
      (({} : RunState).steps oneVertex oneBug (before ++ after)).result? = some r ∧
        r.isSuccess = true ∧
      oneVertex.builder.build oneVertex.options.strict .silent = .built b ∧
      r.Complete oneVertex oneBug (.ofBuilt oneVertex b) := by
  obtain ⟨b, built, entries, size, search⟩ := oneVertex_builds
  have bugs : oneBug.entries = [("B", .ofNames .java ["A"])] := rfl
  have storable : (Prepared.ofBuilt oneVertex b).Storable oneVertex "B" [[0]] :=
    Prepared.storable_of_unlimited (by decide) "B" (by simp [size])
  obtain ⟨before, after, r, stage, quiet, returned, success, -⟩ :=
    exists_success oneBug {} (by decide) built (by simp [entries]) (by simp [bugs, search])
      (by simpa [bugs, search] using storable)
  have ended : (({} : RunState).steps oneVertex oneBug before).hasEnded = true := by
    simp [hasEnded, stage]
  have isSuccess : r.isSuccess = true := by simp [RunResult.isSuccess, success]
  obtain ⟨b, built, complete⟩ :=
    complete_of_success oneVertex oneBug {} before after r ended quiet returned isSuccess
  exact ⟨before, after, r, b, ended, quiet, returned, isSuccess, built, complete⟩

/-- **A success that lacks a bug.** Cancelled in the wrong moment, the analysis of one vertex
returns a success without the paths of the bug in it, although its search finds one. -/
theorem cancelled_success_incomplete : ∃ moves r b,
    (({} : RunState).steps oneVertex oneBug moves).result? = some r ∧ r.isSuccess = true ∧
      oneVertex.builder.build oneVertex.options.strict .silent = .built b ∧
      ¬ r.Complete oneVertex oneBug (.ofBuilt oneVertex b) := by
  obtain ⟨b, built, entries, -, search⟩ := oneVertex_builds
  obtain ⟨moves, r, returned, success, none⟩ :=
    exists_success_without_paths oneBug {} .cancelled (by decide) built (by simp [entries])
  refine ⟨moves, r, b, returned, success, built, fun complete => ?_⟩
  obtain ⟨_, _, -, -, stored⟩ :=
    complete.searched "B" (.ofNames .java ["A"]) rfl (by decide) (by simp [search])
  simp [none] at stored

end RunState

end Exposure
