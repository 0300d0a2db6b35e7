/-
# Proofs.Progress — a run can come to its end

Moves of the pipeline and of the workers, well chosen, bring a run from a graph
with entry points to the end of its pipeline, and moves of the front from there
to its return.  What it takes is a pool with room for a worker and, for every bug, a
worker that can be brought to its end (`Works`): in an interrupted run it leaves
at once, in any other run its search has to come back with paths that can be
stored (`Prepared.Storable`).

`Proceeds` collects moves that leave the caller, the timer and the front alone.
-/
import Exposure.Proofs.Records
import Exposure.Proofs.Transition

namespace Exposure

set_option autoImplicit false

/-- The paths found for a bug can be stored and uploaded: every path has nodes, all of them are in
the graph, and there is an answer to how much of the list is kept. -/
structure Prepared.Storable (p : Prepared) (a : Analysis) (bug : String) (found : List Path) :
    Prop where
  recordable : ∀ path ∈ found, path ≠ [] ∧ ∀ n ∈ path, n < p.graph.size
  cappable : ∀ records, pathRecords p.graph bug found = some records →
    capPaths bug a.options.maxPaths records ≠ none

theorem Prepared.storable_iff {p : Prepared} {a : Analysis} {bug : String} {found : List Path} :
    p.Storable a bug found ↔ ∃ records, pathRecords p.graph bug found = some records ∧
      capPaths bug a.options.maxPaths records ≠ none := by
  constructor
  · rintro ⟨recordable, cappable⟩
    obtain ⟨records, recorded⟩ :=
      Option.ne_none_iff_exists'.1 (pathRecords_ne_none_iff.2 recordable)
    exact ⟨records, recorded, cappable records recorded⟩
  · rintro ⟨records, recorded, capped⟩
    have some : pathRecords p.graph bug found ≠ none := by simp [recorded]
    refine ⟨pathRecords_ne_none_iff.1 some, fun other also => ?_⟩
    obtain rfl := Option.some.inj (recorded.symm.trans also)
    exact capped

/-- Without a limit all that can be recorded can be stored. -/
theorem Prepared.storable_of_unlimited {p : Prepared} {a : Analysis}
    (unlimited : a.options.maxPaths < 1) (bug : String) {found : List Path}
    (recordable : ∀ path ∈ found, path ≠ [] ∧ ∀ n ∈ path, n < p.graph.size) :
    p.Storable a bug found :=
  ⟨recordable, fun _ _ => by simp [capPaths, unlimited]⟩

namespace RunState

variable {a : Analysis} {bugs : Dict ConstructSet} {s t u : RunState}

/-! ## Undisturbed moves -/

/-- Some moves lead from `s` to `t`, and nobody but the pipeline and the workers has moved. -/
structure Proceeds (a : Analysis) (bugs : Dict ConstructSet) (s t : RunState) : Prop where
  moves : ∃ moves, s.steps a bugs moves = t
  interrupted : t.interrupted = s.interrupted
  caller : t.caller = s.caller
  rang : t.rang = s.rang
  crashed : t.crashed = s.crashed
  front : t.front = s.front

theorem Proceeds.refl (s : RunState) : Proceeds a bugs s s := ⟨⟨[], rfl⟩, rfl, rfl, rfl, rfl, rfl⟩

theorem Proceeds.trans (first : Proceeds a bugs s t) (second : Proceeds a bugs t u) :
    Proceeds a bugs s u := by
  obtain ⟨before, rfl⟩ := first.moves
  obtain ⟨after, rfl⟩ := second.moves
  exact
    { moves := ⟨before ++ after, steps_append before after s⟩
      interrupted := second.interrupted.trans first.interrupted
      caller := second.caller.trans first.caller
      rang := second.rang.trans first.rang
      crashed := second.crashed.trans first.crashed
      front := second.front.trans first.front }

/-- The same graph and the same jobs. -/
structure SameJobs (s t : RunState) : Prop where
  prepared : t.prepared = s.prepared
  searches : t.searches = s.searches
  scans : t.scans = s.scans

theorem SameJobs.trans (first : SameJobs s t) (second : SameJobs t u) : SameJobs s u :=
  ⟨second.prepared.trans first.prepared, second.searches.trans first.searches,
    second.scans.trans first.scans⟩

theorem step_pipeline (alive : s.crashed = false) :
    s.step a bugs (.pipeline false none) = s.advance a bugs false none := by
  simp [step, alive]

/-- The notes are written one after the other. -/
theorem proceeds_notes {next : Next} :
    ∀ (notes : List Note) {s : RunState}, s.crashed = false → s.stage = .noting notes next →
      ∃ t, Proceeds a bugs s t ∧ SameJobs s t ∧ t.stage = .noting [] next
  | [], s, _, stage => ⟨s, .refl s, ⟨rfl, rfl, rfl⟩, stage⟩
  | n :: notes, s, alive, stage => by
      have written : s.step a bugs (.pipeline false none) =
          { s.note a n with stage := .noting notes next } := by
        rw [step_pipeline alive, advance, stage]
      rw [note_eq] at written
      obtain ⟨t, proceeds, same, done⟩ := proceeds_notes notes (s := { s with
        stats := n.onStats s.stats
        graph := n.onGraph s.graph
        findings := n.onFindings s.findings
        outbox := (s.note a n).outbox
        measures := (s.note a n).measures
        stage := .noting notes next }) alive rfl
      have first : Proceeds a bugs s _ :=
        ⟨⟨[.pipeline false none], written⟩, rfl, rfl, rfl, rfl, rfl⟩
      exact ⟨t, first.trans proceeds, ⟨same.prepared, same.searches, same.scans⟩, done⟩

/-- The stage that follows on notes. -/
def stageOf (a : Analysis) (bugs : Dict ConstructSet) (s : RunState) : Next → Stage
  | .search => .submittingBugs bugs.entries 0
  | .await => .awaitingSearch
  | .scan => .submittingRanges (ranges a s)
  | .finish error => .ended error

theorem goOn_eq (a : Analysis) (bugs : Dict ConstructSet) (s : RunState) (next : Next) :
    ∃ records, s.goOn a bugs next =
      { s.addRecords records with stage := stageOf a bugs s next } := by
  cases next with
  | search => exact ⟨[], by simp [goOn, stageOf]⟩
  | await => exact ⟨[], by simp [goOn, stageOf]⟩
  | finish error => exact ⟨[], by simp [goOn, stageOf]⟩
  | scan =>
      unfold goOn
      cases s.prepared with
      | none => exact ⟨[], by simp [stageOf]⟩
      | some p => exact ⟨_, rfl⟩

/-- The notes are written, and the pipeline goes on. -/
theorem proceeds_goOn (a : Analysis) (bugs : Dict ConstructSet) {notes : List Note} {next : Next}
    (alive : s.crashed = false) (stage : s.stage = .noting notes next) :
    ∃ t, Proceeds a bugs s t ∧ SameJobs s t ∧ t.stage = stageOf a bugs s next := by
  obtain ⟨m, proceeds, same, written⟩ : ∃ m, Proceeds a bugs s m ∧ SameJobs s m ∧
      m.stage = .noting [] next :=
    proceeds_notes notes alive stage
  obtain ⟨records, went⟩ := goOn_eq a bugs m next
  have moved : m.step a bugs (.pipeline false none) =
      { m.addRecords records with stage := stageOf a bugs m next } := by
    rw [step_pipeline (proceeds.crashed.trans alive), advance, written]
    exact went
  have last : Proceeds a bugs m { m.addRecords records with stage := stageOf a bugs m next } :=
    ⟨⟨[.pipeline false none], moved⟩, rfl, rfl, rfl, rfl, rfl⟩
  refine ⟨_, proceeds.trans last, ⟨same.prepared, same.searches, same.scans⟩, ?_⟩
  cases next <;> simp [stageOf, ranges, same.prepared]

/-! ## Workers -/

/-- The worker of job `i` goes on to a step, and nothing else is touched but what it leaves
behind. -/
structure Works (a : Analysis) (bugs : Dict ConstructSet) (i : Nat) (task : SearchTask)
    (s t : RunState) :
    Prop extends Proceeds a bugs s t where
  stage : t.stage = s.stage
  prepared : t.prepared = s.prepared
  scans : t.scans = s.scans
  searches : t.searches = (s.setTask i task).searches

theorem Works.job {i : Nat} {task : SearchTask} {job : SearchJob} (works : Works a bugs i task s t)
    (found : s.searches[i]? = some job) : t.searches[i]? = some { job with task } := by
  simp [works.searches, setTask, found]

theorem Works.trans {i : Nat} {task next : SearchTask} (first : Works a bugs i task s t)
    (second : Works a bugs i next t u) : Works a bugs i next s u where
  toProceeds := first.toProceeds.trans second.toProceeds
  stage := second.stage.trans first.stage
  prepared := second.prepared.trans first.prepared
  scans := second.scans.trans first.scans
  searches := by
    rw [second.searches, setTask, first.searches]
    simp [setTask, List.modify_modify_eq, Function.comp_def]

theorem step_search {p : Prepared} {i : Nat} {job : SearchJob} (alive : s.crashed = false)
    (prepared : s.prepared = some p) (found : s.searches[i]? = some job) :
    s.step a bugs (.search i none) = s.searchStep a p i job none := by
  simp [step, alive, prepared, found]

theorem works_of_searchStep {p : Prepared} {i : Nat} {job : SearchJob} {task : SearchTask}
    {summary : SearchSummary} {paths : Dict (List PathRecord)} {outbox : Outbox}
    {measures : List Measure}
    (alive : s.crashed = false) (prepared : s.prepared = some p) (found : s.searches[i]? = some job)
    (moved : s.searchStep a p i job none =
      { s with summary, paths, outbox, measures }.setTask i task) :
    ∃ t, Works a bugs i task s t := by
  have stepped : s.step a bugs (.search i none) = _ :=
    (step_search alive prepared found).trans moved
  exact ⟨_, ⟨⟨[.search i none], stepped⟩, rfl, rfl, rfl, rfl, rfl⟩, rfl, rfl, rfl, rfl⟩

/-- In an interrupted run a worker that has not begun leaves at once. -/
theorem works_skip {p : Prepared} {i : Nat} {job : SearchJob} (alive : s.crashed = false)
    (prepared : s.prepared = some p) (found : s.searches[i]? = some job)
    (task : job.task = .waiting) (interrupted : s.interrupted.isSome = true) :
    ∃ t, Works a bugs i .finished s t := by
  exact works_of_searchStep alive prepared found
    (by simp only [searchStep, task, interrupted, if_true]; rfl)

theorem works_upload {p : Prepared} {i : Nat} {job : SearchJob} {records : List PathRecord}
    (alive : s.crashed = false) (prepared : s.prepared = some p) (found : s.searches[i]? = some job)
    (task : job.task = .uploading records)
    (fewEnough : capPaths job.bug a.options.maxPaths records ≠ none) :
    ∃ t, Works a bugs i .finished s t := by
  obtain ⟨⟨kept, dropped⟩, capped⟩ := Option.ne_none_iff_exists'.1 fewEnough
  exact works_of_searchStep alive prepared found
    (by simp only [searchStep, task, capped]; rw [upload_eq]; rfl)

theorem works_count {p : Prepared} {i : Nat} {job : SearchJob} {paths : List Path}
    (alive : s.crashed = false) (prepared : s.prepared = some p) (found : s.searches[i]? = some job)
    (task : job.task = .counting paths) (storable : p.Storable a job.bug paths) :
    ∃ t, Works a bugs i .finished s t := by
  obtain ⟨records, recorded, fewEnough⟩ := Prepared.storable_iff.1 storable
  obtain ⟨s₁, counted⟩ : ∃ t, Works a bugs i (.storing paths) s t :=
    works_of_searchStep alive prepared found (by simp only [searchStep, task]; rfl)
  have found₁ := counted.job found
  have prepared₁ := counted.prepared.trans prepared
  have alive₁ := counted.crashed.trans alive
  obtain ⟨s₂, stored⟩ : ∃ t, Works a bugs i (.uploading records) s₁ t :=
    works_of_searchStep alive₁ prepared₁ found₁ (by simp only [searchStep, recorded]; rfl)
  obtain ⟨t, uploaded⟩ :=
    works_upload (stored.crashed.trans alive₁) (stored.prepared.trans prepared₁)
      (stored.job found₁) rfl fewEnough
  exact ⟨t, (counted.trans stored).trans uploaded⟩

/-- A worker whose search comes back and whose paths can be stored can be brought to its end. -/
theorem works_search {p : Prepared} {i : Nat} {job : SearchJob} (alive : s.crashed = false)
    (quiet : s.interrupted = none) (prepared : s.prepared = some p)
    (found : s.searches[i]? = some job)
    (task : job.task = .waiting) (comesBack : p.search a job.targets .silent ≠ .stalled)
    (storable : ∀ paths, p.search a job.targets .silent = .found paths →
      p.Storable a job.bug paths) :
    ∃ t, Works a bugs i .finished s t := by
  have begins : (if s.interrupted.isSome = true then SearchTask.finished else .searching) =
      .searching := by
    simp [quiet]
  obtain ⟨s₁, begun⟩ : ∃ t, Works a bugs i .searching s t :=
    works_of_searchStep alive prepared found (by simp only [searchStep, task, begins]; rfl)
  have found₁ := begun.job found
  have prepared₁ := begun.prepared.trans prepared
  have alive₁ := begun.crashed.trans alive
  have watch : s₁.watch none = .silent := watch_of_quiet (begun.interrupted.trans quiet) none
  cases outcome : p.search a job.targets .silent with
  | stalled => exact absurd outcome comesBack
  | failed m =>
      rw [Prepared.search, ← watch] at outcome
      obtain ⟨t, failed⟩ : ∃ t, Works a bugs i .finished s₁ t :=
        works_of_searchStep alive₁ prepared₁ found₁ (by simp only [searchStep, outcome]; rfl)
      exact ⟨t, begun.trans failed⟩
  | found paths =>
      have fits := storable paths outcome
      rw [Prepared.search, ← watch] at outcome
      obtain ⟨s₂, searched⟩ : ∃ t, Works a bugs i (.counting paths) s₁ t :=
        works_of_searchStep alive₁ prepared₁ found₁ (by simp only [searchStep, outcome]; rfl)
      obtain ⟨t, finished⟩ := works_count (searched.crashed.trans alive₁)
        (searched.prepared.trans prepared₁) (searched.job found₁) rfl fits
      exact ⟨t, (begun.trans searched).trans finished⟩

/-! ## The search -/

/-- In a run with this graph and this interruption every worker that has not begun can be brought to
its end. -/
def Workable (a : Analysis) (bugs : Dict ConstructSet) (p : Prepared)
    (interrupted : Option Interrupt) : Prop :=
  ∀ (s : RunState) (i : Nat) (job : SearchJob), s.crashed = false → s.interrupted = interrupted →
    s.prepared = some p → s.searches[i]? = some job → job.task = .waiting →
    (job.bug, job.targets) ∈ bugs.entries → ∃ t, Works a bugs i .finished s t

theorem workable_of_interrupted {p : Prepared} {cause : Interrupt} :
    Workable a bugs p (some cause) :=
  fun _ _ _ alive interrupted prepared found task _ =>
    works_skip alive prepared found task (by simp [interrupted])

theorem workable_of_searches {p : Prepared}
    (comesBack : ∀ e ∈ bugs.entries, p.search a e.2 .silent ≠ .stalled)
    (storable : ∀ e ∈ bugs.entries, ∀ paths, p.search a e.2 .silent = .found paths →
      p.Storable a e.1 paths) : Workable a bugs p none :=
  fun _ _ _ alive quiet prepared found task member =>
    works_search alive quiet prepared found task (comesBack _ member) (storable _ member)

theorem hasRoom_of_idle (pool : poolSize a ≠ 0) (idle : ∀ j ∈ s.searches, j.isFinished = true) :
    hasRoom (poolSize a) s.runningSearches = true := by
  have none : s.runningSearches = 0 := by simpa [runningSearches] using idle
  simp only [hasRoom, none, Bool.or_eq_true, decide_eq_true_eq]
  omega

theorem modify_length {α : Type} (f : α → α) (l : List α) (x : α) :
    (l ++ [x]).modify l.length f = l ++ [f x] := by
  induction l <;> simp_all

/-- The bugs are submitted one after the other, each once the one before is finished. -/
theorem proceeds_submit {p : Prepared} {cause : Option Interrupt} (pool : poolSize a ≠ 0)
    (workable : Workable a bugs p cause) :
    ∀ (rest : List (String × ConstructSet)) {s : RunState} {submitted : Nat},
      (∀ e ∈ rest, e ∈ bugs.entries) → s.crashed = false → s.interrupted = cause →
        s.prepared = some p →
      s.stage = .submittingBugs rest submitted → (∀ j ∈ s.searches, j.isFinished = true) →
      ∃ t submitted, Proceeds a bugs s t ∧ t.prepared = s.prepared ∧ t.scans = s.scans ∧
        t.stage = .submittingBugs [] submitted ∧ ∀ j ∈ t.searches, j.isFinished = true
  | [], s, submitted, _, _, _, _, stage, idle => ⟨s, submitted, .refl s, rfl, rfl, stage, idle⟩
  | (bug, targets) :: rest, s, submitted, known, alive, interrupted, prepared, stage, idle => by
      have knownRest : ∀ e ∈ rest, e ∈ bugs.entries := fun e member =>
        known e (List.mem_cons_of_mem _ member)
      by_cases empty : targets.size = 0
      · -- the bug is passed over
        have moved : s.step a bugs (.pipeline false none) =
            { s.addRecords [Log.debug "skipping bug without targets" [("bug", .text bug)]] with
              stage := .submittingBugs rest submitted } := by
          simp [step_pipeline alive, advance, stage, empty]
        have first : Proceeds a bugs s _ :=
          ⟨⟨[.pipeline false none], moved⟩, rfl, rfl, rfl, rfl, rfl⟩
        obtain ⟨t, count, proceeds, same, scans, done, finished⟩ :=
          proceeds_submit pool workable rest
            (s := { s.addRecords
                [Log.debug "skipping bug without targets" [("bug", .text bug)]] with
              stage := .submittingBugs rest submitted })
            knownRest alive interrupted prepared rfl idle
        exact ⟨t, count, first.trans proceeds, same, scans, done, finished⟩
      · -- its worker is brought to its end before the next bug is submitted
        have moved : s.step a bugs (.pipeline false none) =
            { s with
              searches := s.searches ++ [{ bug, targets }]
              stage := .submittingBugs rest (submitted + 1) } := by
          simp [step_pipeline alive, advance, stage, empty, hasRoom_of_idle pool idle]
        have first : Proceeds a bugs s _ :=
          ⟨⟨[.pipeline false none], moved⟩, rfl, rfl, rfl, rfl, rfl⟩
        obtain ⟨m, works⟩ := workable { s with
          searches := s.searches ++ [{ bug, targets }]
          stage := .submittingBugs rest (submitted + 1) } s.searches.length { bug, targets } alive
          interrupted prepared (by simp) rfl (known _ List.mem_cons_self)
        have jobs : m.searches = s.searches ++ [{ bug, targets, task := .finished }] :=
          works.searches.trans (modify_length _ s.searches _)
        have idleNow : ∀ j ∈ m.searches, j.isFinished = true := by
          intro j member
          rw [jobs] at member
          rcases List.mem_append.1 member with old | new
          · exact idle j old
          · rw [List.mem_singleton.1 new]
            rfl
        obtain ⟨t, count, proceeds, same, scans, done, finished⟩ :=
          proceeds_submit pool workable rest knownRest (works.crashed.trans alive)
            (works.interrupted.trans interrupted) (works.prepared.trans prepared)
            works.stage idleNow
        exact ⟨t, count, (first.trans works.toProceeds).trans proceeds, same.trans works.prepared,
          scans.trans works.scans, done, finished⟩

/-! ## The scan -/

theorem step_scan {p : Prepared} {i : Nat} {job : ScanJob} (alive : s.crashed = false)
    (prepared : s.prepared = some p) (found : s.scans[i]? = some job) :
    s.step a bugs (.scan i none) = s.scanStep a p i job none := by
  simp [step, alive, prepared, found]

/-- The workers of the first `n` ranges are brought to their ends, one after the other. -/
theorem proceeds_scans {p : Prepared} (alive : s.crashed = false) (prepared : s.prepared = some p)
    (n : Nat) :
    ∃ t, Proceeds a bugs s t ∧ t.stage = s.stage ∧ t.prepared = s.prepared ∧
      t.searches = s.searches ∧
      t.scans.length = s.scans.length ∧ ∀ i < n, ∀ j, t.scans[i]? = some j → j.finished = true := by
  induction n with
  | zero => exact ⟨s, .refl s, rfl, rfl, rfl, rfl, by simp⟩
  | succ n ih =>
      obtain ⟨m, proceeds, stage, same, searches, length, finished⟩ := ih
      by_cases open_ : ∃ job, m.scans[n]? = some job ∧ job.finished = false
      · obtain ⟨job, found, unfinished⟩ := open_
        obtain ⟨records, measures, eq⟩ := scanStep_eq (a := a) (p := p) unfinished m n none
        have moved : m.step a bugs (.scan n none) = _ :=
          (step_scan (proceeds.crashed.trans alive) (same.trans prepared) found).trans eq
        have last : Proceeds a bugs m _ := ⟨⟨[.scan n none], moved⟩, rfl, rfl, rfl, rfl, rfl⟩
        refine ⟨_, proceeds.trans last, stage, same, searches, ?_, fun i below j here => ?_⟩
        · simpa [finishScan, addRecords, addMeasures] using length
        · by_cases now : i = n
          · subst now
            obtain rfl : _ = j := by simpa [finishScan, addRecords, addMeasures, found] using here
            rfl
          · have before : m.scans[i]? = some j := by
              simpa [finishScan, addRecords, addMeasures, List.getElem?_modify, Ne.symm now]
                using here
            exact finished i (by omega) j before
      · refine ⟨m, proceeds, stage, same, searches, length, fun i below j here => ?_⟩
        by_cases now : i = n
        · subst now
          exact (Bool.not_eq_false _).mp fun unfinished => open_ ⟨j, here, unfinished⟩
        · exact finished i (by omega) j here

/-- An idle pool takes at least one range. -/
theorem proceeds_lot {r : NodeRange} {rest : List NodeRange} (pool : poolSize a ≠ 0)
    (alive : s.crashed = false) (stage : s.stage = .submittingRanges (r :: rest))
    (idle : ∀ j ∈ s.scans, j.finished = true) :
    ∃ t left, Proceeds a bugs s t ∧ t.prepared = s.prepared ∧ t.searches = s.searches ∧
      t.stage = .submittingRanges left ∧ left.length ≤ rest.length := by
  have free : s.runningScans = 0 := by simpa [runningScans] using idle
  have moved : s.step a bugs (.pipeline false none) = _ := step_pipeline alive
  rw [advance, stage] at moved
  refine ⟨_, _, ⟨⟨[.pipeline false none], moved⟩, rfl, rfl, rfl, rfl, rfl⟩, rfl, rfl, rfl, ?_⟩
  have taken : 0 < if poolSize a < 0 then (r :: rest).length
      else (poolSize a - s.runningScans).toNat := by
    rw [free]
    split
    · simp
    · omega
  simp only [List.length_drop, List.length_cons] at taken ⊢
  omega

/-- The ranges are submitted as the pool has room for them, each lot once the one before is
finished. -/
theorem proceeds_ranges {p : Prepared} (pool : poolSize a ≠ 0) :
    ∀ (most : Nat) {rest : List NodeRange} {s : RunState}, rest.length ≤ most → s.crashed = false →
      s.prepared = some p → s.stage = .submittingRanges rest → (∀ j ∈ s.scans, j.finished = true) →
      ∃ t, Proceeds a bugs s t ∧ t.prepared = s.prepared ∧ t.searches = s.searches ∧
        t.stage = .submittingRanges [] ∧ ∀ j ∈ t.scans, j.finished = true
  | _, [], s, _, _, _, stage, idle => ⟨s, .refl s, rfl, rfl, stage, idle⟩
  | 0, _ :: _, _, few, _, _, _, _ => absurd few (by simp)
  | most + 1, r :: rest, s, few, alive, prepared, stage, idle => by
      obtain ⟨m, left, taken, preparedM, searchesM, stageM, fewer⟩ : ∃ m left, Proceeds a bugs s m ∧
          m.prepared = s.prepared ∧ m.searches = s.searches ∧ m.stage = .submittingRanges left ∧
          left.length ≤ rest.length :=
        proceeds_lot pool alive stage idle
      obtain ⟨n, scanned, stageN, preparedN, searchesN, length, finished⟩ := proceeds_scans (a := a)
        (taken.crashed.trans alive) (preparedM.trans prepared) m.scans.length
      have idleN : ∀ j ∈ n.scans, j.finished = true := by
        intro j member
        obtain ⟨i, below, here⟩ := List.getElem_of_mem member
        exact finished i (by omega) j (List.getElem?_eq_some_iff.2 ⟨below, here⟩)
      obtain ⟨t, proceeds, preparedT, searchesT, done, idleT⟩ := proceeds_ranges pool most
        (by simp at few; omega) (scanned.crashed.trans (taken.crashed.trans alive))
        (preparedN.trans (preparedM.trans prepared)) (stageN.trans stageM) idleN
      exact ⟨t, (taken.trans scanned).trans proceeds, preparedT.trans (preparedN.trans preparedM),
        searchesT.trans (searchesN.trans searchesM), done, idleT⟩

/-! ## From the entry points to the return -/

theorem proceeds_stage {stage : Stage} (alive : s.crashed = false)
    (moved : s.advance a bugs false none = { s with stage }) : Proceeds a bugs s { s with stage } :=
  ⟨⟨[.pipeline false none], (step_pipeline alive).trans moved⟩, rfl, rfl, rfl, rfl, rfl⟩

/-- Once all bugs are submitted and finished, the pipeline goes on to the scan. -/
theorem proceeds_await (a : Analysis) (bugs : Dict ConstructSet) {submitted : Nat}
    (alive : s.crashed = false) (stage : s.stage = .submittingBugs [] submitted)
    (idle : ∀ j ∈ s.searches, j.isFinished = true) :
    ∃ t, Proceeds a bugs s t ∧ SameJobs s t ∧ t.stage = .submittingRanges (ranges a s) := by
  have counted : Proceeds a bugs s
      { s with stage := .noting [.stat "bugs_total" (Nat.repr submitted)] .await } :=
    proceeds_stage alive (by rw [advance, stage])
  obtain ⟨m, waited, sameM, stageM⟩ := proceeds_goOn a bugs (counted.crashed.trans alive) rfl
  have ready : m.runningSearches = 0 := by
    simpa [runningSearches, sameM.searches] using idle
  have left : Proceeds a bugs m
      { m with stage := .noting (searchNotes a m.searches.length m.summary) .scan } := by
    refine proceeds_stage (waited.crashed.trans alive) ?_
    rw [advance, stageM]
    cases m.interrupted <;> simp [stageOf, ready]
  obtain ⟨t, went, sameT, stageT⟩ :=
    proceeds_goOn a bugs (left.crashed.trans (waited.crashed.trans alive)) rfl
  refine ⟨t, ((counted.trans waited).trans left).trans went, ?_, ?_⟩
  · exact ⟨sameT.prepared.trans sameM.prepared, sameT.searches.trans sameM.searches,
      sameT.scans.trans sameM.scans⟩
  · simp [stageT, stageOf, ranges, sameM.prepared]

/-- Once all ranges are submitted and finished, the pipeline goes on to its end. -/
theorem proceeds_finish (a : Analysis) (bugs : Dict ConstructSet) (alive : s.crashed = false)
    (stage : s.stage = .submittingRanges []) (idle : ∀ j ∈ s.scans, j.finished = true) :
    ∃ t, Proceeds a bugs s t ∧ t.stage = .ended none := by
  have waits : Proceeds a bugs s { s with stage := .awaitingScan } :=
    proceeds_stage alive (by rw [advance, stage])
  have leaves {u : RunState} (alive : u.crashed = false) (stage : u.stage = .awaitingScan)
      (ready : u.runningScans = 0) :
      Proceeds a bugs u { u with
        stage :=
          .noting (scanNotes a u.scans.length (mergedFindings u.scans)) (.finish none) } := by
    refine proceeds_stage alive ?_
    rw [advance, stage]
    cases u.interrupted <;> simp [ready]
  have left := leaves (waits.crashed.trans alive) rfl (by simpa [runningScans] using idle)
  obtain ⟨t, went, -, done⟩ := proceeds_goOn a bugs (left.crashed.trans alive) rfl
  exact ⟨t, (waits.trans left).trans went, done⟩

/-- **The pipeline can be brought to its end.** -/
theorem proceeds_to_end (a : Analysis) (bugs : Dict ConstructSet) {p : Prepared} {notes : List Note}
    (pool : poolSize a ≠ 0) (alive : s.crashed = false) (prepared : s.prepared = some p)
    (stage : s.stage = .noting notes .search) (noSearch : s.searches = []) (noScan : s.scans = [])
    (workable : Workable a bugs p s.interrupted) :
    ∃ t, Proceeds a bugs s t ∧ t.stage = .ended none := by
  obtain ⟨s₁, began, same₁, stage₁⟩ := proceeds_goOn a bugs alive stage
  obtain ⟨s₂, count, searched, prepared₂, scans₂, stage₂, idle₂⟩ :=
    proceeds_submit pool workable bugs.entries (fun _ member => member) (began.crashed.trans alive)
      began.interrupted (same₁.prepared.trans prepared) stage₁ (by simp [same₁.searches, noSearch])
  have alive₂ := searched.crashed.trans (began.crashed.trans alive)
  obtain ⟨s₃, awaited, same₃, stage₃⟩ := proceeds_await a bugs alive₂ stage₂ idle₂
  have alive₃ := awaited.crashed.trans alive₂
  obtain ⟨s₄, scanned, -, -, stage₄, idle₄⟩ := proceeds_ranges pool _ (Nat.le_refl _) alive₃
    (same₃.prepared.trans (prepared₂.trans (same₁.prepared.trans prepared))) stage₃
    (by simp [same₃.scans, scans₂, same₁.scans, noScan])
  obtain ⟨t, finished, done⟩ := proceeds_finish a bugs (scanned.crashed.trans alive₃) stage₄ idle₄
  exact ⟨t, (((began.trans searched).trans awaited).trans scanned).trans finished, done⟩

/-- The front writes its notes one after the other, and returns. -/
theorem exists_close (a : Analysis) (bugs : Dict ConstructSet) :
    ∀ (notes : List Note) {s : RunState} {error : Option RunError}, s.crashed = false →
      s.front = .closing notes error →
      ∃ moves r, (s.steps a bugs moves).result? = some r ∧ r.error = error ∧ r.paths = s.paths ∧
        (s.steps a bugs moves).caller = s.caller ∧ (s.steps a bugs moves).rang = s.rang
  | [], s, error, alive, front => by
      refine ⟨[.close], s.snapshot error, ?_⟩
      simp [steps, step, alive, closeStep, front, result?, snapshot]
  | n :: notes, s, error, alive, front => by
      have written : s.step a bugs .close = { s.note a n with front := .closing notes error } := by
        simp [step, alive, closeStep, front]
      rw [note_eq] at written
      have alive' : (s.step a bugs .close).crashed = false := by
        rw [written]
        exact alive
      have front' : (s.step a bugs .close).front = .closing notes error := by rw [written]
      obtain ⟨moves, r, returned, same, paths, caller, rang⟩ :=
        exists_close a bugs notes alive' front'
      refine ⟨.close :: moves, r, returned, same, paths.trans ?_, caller.trans ?_, rang.trans ?_⟩
      · rw [written]
      · rw [written]
      · rw [written]

/-- A run whose pipeline can be brought to its end can be brought to its return. -/
theorem exists_returned (proceeds : Proceeds a bugs s t) (ended : t.stage = .ended none)
    (alive : s.crashed = false) (watching : s.front = .watching) :
    ∃ before after r, s.steps a bugs before = t ∧
      (s.steps a bugs (before ++ after)).result? = some r ∧
      r.error = none ∧ (s.steps a bugs (before ++ after)).caller = s.caller ∧
      (s.steps a bugs (before ++ after)).rang = s.rang := by
  have aliveT := proceeds.crashed.trans alive
  have concluded : t.step a bugs (.conclude .done) =
      { t with front := .closing (closingNotes a none) none } := by
    simp [step, aliveT, conclude, proceeds.front.trans watching, ended]
  obtain ⟨moves, r, returned, same, -, caller, rang⟩ := exists_close a bugs (closingNotes a none)
    (s := { t with front := .closing (closingNotes a none) none }) aliveT rfl
  obtain ⟨before, rfl⟩ := proceeds.moves
  have joined : s.steps a bugs (before ++ .conclude .done :: moves) =
      RunState.steps a bugs moves
        { s.steps a bugs before with front := .closing (closingNotes a none) none } := by
    rw [← concluded, steps_append]
    rfl
  refine ⟨before, .conclude .done :: moves, r, rfl, ?_⟩
  rw [joined]
  exact ⟨returned, same, caller.trans proceeds.caller, rang.trans proceeds.rang⟩

theorem step_build {b : Built} (alive : s.crashed = false) (quiet : s.interrupted = none)
    (stage : s.stage = .building) (built : a.builder.build a.options.strict .silent = .built b)
    (entry : (Prepared.ofBuilt a b).entries ≠ []) :
    ∃ records, s.step a bugs (.pipeline false none) =
      { s.addRecords records with
        prepared := some (.ofBuilt a b)
        stage := .noting (buildNotes a b (Prepared.ofBuilt a b).graph) .search } := by
  have next : (if (Prepared.ofBuilt a b).entries.isEmpty then Next.finish (some .noEntryPoints)
      else .search) =
      .search := by
    simp [entry]
  refine ⟨[Log.info "building call graph" [("strict", .flag a.options.strict)]], ?_⟩
  rw [← next, step_pipeline alive]
  simp only [advance, stage, watch_of_quiet quiet none, built]
  rfl

/-- **A run can come to its return.** If the graph is built and has entry points, the pool has room
for a worker, every search comes back and all paths can be stored, then some moves of the pipeline,
the workers and the front bring the run to a success. -/
theorem exists_success {b : Built} (bugs : Dict ConstructSet) (outbox : Outbox)
    (pool : poolSize a ≠ 0)
    (built : a.builder.build a.options.strict .silent = .built b)
    (entry : (Prepared.ofBuilt a b).entries ≠ [])
    (comesBack : ∀ e ∈ bugs.entries, (Prepared.ofBuilt a b).search a e.2 .silent ≠ .stalled)
    (storable : ∀ e ∈ bugs.entries, ∀ paths, (Prepared.ofBuilt a b).search a e.2 .silent =
      .found paths → (Prepared.ofBuilt a b).Storable a e.1 paths) :
    ∃ before after r, (({ outbox } : RunState).steps a bugs before).stage = .ended none ∧
      (({ outbox } : RunState).steps a bugs before).interrupted = none ∧
      (({ outbox } : RunState).steps a bugs (before ++ after)).result? = some r ∧ r.error = none ∧
      (({ outbox } : RunState).steps a bugs (before ++ after)).caller = none ∧
      (({ outbox } : RunState).steps a bugs (before ++ after)).rang = false := by
  obtain ⟨records, moved⟩ : ∃ records, ({ outbox } : RunState).step a bugs (.pipeline false none) =
      _ :=
    step_build rfl rfl rfl built entry
  have first : Proceeds a bugs ({ outbox } : RunState) _ :=
    ⟨⟨[.pipeline false none], moved⟩, rfl, rfl, rfl, rfl, rfl⟩
  obtain ⟨t, proceeds, ended⟩ := proceeds_to_end a bugs pool first.crashed rfl rfl rfl rfl
    (workable_of_searches comesBack storable)
  have whole := first.trans proceeds
  obtain ⟨before, after, r, rfl, returned⟩ := exists_returned whole ended rfl rfl
  exact ⟨before, after, r, ended, whole.interrupted, returned⟩

end RunState

end Exposure
