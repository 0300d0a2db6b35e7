/-
# Proofs.Fairness — a fair run comes to the end of its search

An endless schedule is fair if nothing disturbs the run and the pipeline and the
workers of the bugs move again and again, in whatever order.  `RunState.left`
counts what is left to do until the search is over.  No step adds to it, and a
step that takes nothing from it leaves the pipeline and the workers where they
are (`Transition.descends`).  As long as something is left there is a party that
can go on, and in a fair run it does.

So a fair run leaves the search behind (`exists_over`), provided that every search
comes back and what it finds can be stored; paths that cannot bring everything
down.
-/
import Exposure.Proofs.Completeness
import Exposure.Proofs.Uploads

namespace Exposure

set_option autoImplicit false

/-! ## Searches that come back -/

theorem Enumerator.search_ne_stalled (e : Enumerator) (g : Callgraph) (source target : Nat)
    (watch : Watch) : (e.search g source target watch).1 ≠ .stalled := by
  simp only [search, Listing.enumerated]
  split <;> simp

theorem searchPairs_ne_stalled {search : PathSearch} {g : Callgraph}
    (comesBack : ∀ g source target watch, (search g source target watch).1 ≠ .stalled) :
    ∀ (pairs : List (Nat × Nat)) (watch : Watch) (found : List Path),
      searchPairs search g pairs watch found ≠ .stalled
  | [], _, _ => by simp [searchPairs]
  | (source, target) :: pairs, watch, found => by
      have back := comesBack g source target watch
      rw [searchPairs]
      split
      · exact searchPairs_ne_stalled comesBack pairs _ _
      · simp
      · simp
      · rename_i stalled
        simp [stalled] at back

theorem Prepared.search_ne_stalled {a : Analysis}
    (comesBack : ∀ g source target watch, (a.search g source target watch).1 ≠ .stalled)
    (p : Prepared) (targets : ConstructSet) (watch : Watch) :
    p.search a targets watch ≠ .stalled := by
  unfold search searchBug
  simp only
  split
  · simp
  · exact searchPairs_ne_stalled comesBack _ _ _

/-! ## Schedules -/

/-- The caller loses interest, or the timer goes off. -/
def Move.isDisturbance : Move → Bool
  | .cancel _ => true
  | .ring => true
  | _ => false

/-- Nothing disturbs the run, and the pipeline and so many workers of bugs move again and again. -/
structure Fair (workers : Nat) (schedule : Nat → Move) : Prop where
  undisturbed : ∀ n, (schedule n).isDisturbance = false
  pipeline : ∀ n, ∃ m, n ≤ m ∧ ∃ early looks, schedule m = .pipeline early looks
  worker : ∀ i < workers, ∀ n, ∃ m, n ≤ m ∧ ∃ looks, schedule m = .search i looks

namespace RunState

/-- The run after the first `n` moves of an endless schedule. -/
def after (a : Analysis) (bugs : Dict ConstructSet) (schedule : Nat → Move) (s : RunState) :
    Nat → RunState
  | 0 => s
  | n + 1 => (after a bugs schedule s n).step a bugs (schedule n)

variable {a : Analysis} {bugs : Dict ConstructSet} {s t : RunState} {p : Prepared} {start : Outbox}
  {schedule : Nat → Move}

theorem leads_after (a : Analysis) (bugs : Dict ConstructSet) (schedule : Nat → Move)
    (s : RunState) :
    ∀ n, Leads a bugs s (after a bugs schedule s n)
  | 0 => .refl
  | n + 1 => (leads_after a bugs schedule s n).tail (transition_step _ _)

/-! ## Undisturbed runs -/

/-- Neither the caller nor the timer has done anything. -/
structure Calm (s t : RunState) : Prop where
  caller : t.caller = s.caller
  rang : t.rang = s.rang

/-- The ranges are as they were, too. -/
structure Aside (s t : RunState) : Prop extends Calm s t where
  scans : t.scans = s.scans

theorem calm_advance (s : RunState) (early : Bool) (looks : Option Nat) :
    Calm s (s.advance a bugs early looks) := by
  unfold advance
  split
  case h_1 =>
      simp only
      split <;> exact ⟨rfl, rfl⟩
  case h_2 =>
      rw [note_eq]
      exact ⟨rfl, rfl⟩
  case h_3 next _ =>
      obtain ⟨records, went⟩ := goOn_eq a bugs s next
      rw [went]
      exact ⟨rfl, rfl⟩
  case h_5 =>
      split
      · exact ⟨rfl, rfl⟩
      · split <;> exact ⟨rfl, rfl⟩
  case h_6 | h_9 =>
      simp only
      split <;> split <;> exact ⟨rfl, rfl⟩
  all_goals exact ⟨rfl, rfl⟩

theorem aside_searchStep (s : RunState) (p : Prepared) (i : Nat) (job : SearchJob)
    (looks : Option Nat) : Aside s (s.searchStep a p i job looks) := by
  unfold searchStep
  split
  case h_2 | h_4 => split <;> exact ⟨⟨rfl, rfl⟩, rfl⟩
  case h_5 =>
      simp only
      split
      · exact ⟨⟨rfl, rfl⟩, rfl⟩
      · rw [upload_eq]
        exact ⟨⟨rfl, rfl⟩, rfl⟩
  all_goals exact ⟨⟨rfl, rfl⟩, rfl⟩

theorem calm_scanStep (s : RunState) (p : Prepared) (i : Nat) (job : ScanJob) (looks : Option Nat) :
    Calm s (s.scanStep a p i job looks) := by
  cases unfinished : job.finished with
  | true =>
      simp only [scanStep, unfinished, if_true]
      exact ⟨rfl, rfl⟩
  | false =>
      obtain ⟨records, measures, eq⟩ := scanStep_eq (a := a) (p := p) unfinished s i looks
      rw [eq]
      exact ⟨rfl, rfl⟩

theorem aside_conclude (s : RunState) (ending : Ending) : Aside s (s.conclude a ending) := by
  unfold conclude
  cases s.front with
  | closing | returned => exact ⟨⟨rfl, rfl⟩, rfl⟩
  | watching => cases ending <;> simp only <;> split <;> exact ⟨⟨rfl, rfl⟩, rfl⟩

theorem aside_closeStep (s : RunState) : Aside s (s.closeStep a) := by
  unfold closeStep
  split
  · rw [note_eq]
    exact ⟨⟨rfl, rfl⟩, rfl⟩
  · exact ⟨⟨rfl, rfl⟩, rfl⟩
  · exact ⟨⟨rfl, rfl⟩, rfl⟩

theorem calm_step {m : Move} (undisturbed : m.isDisturbance = false) (s : RunState) :
    Calm s (s.step a bugs m) := by
  unfold step
  split
  · exact ⟨rfl, rfl⟩
  cases m with
  | pipeline early looks => exact calm_advance s early looks
  | search i looks =>
      simp only
      split
      · exact (aside_searchStep s _ i _ looks).toCalm
      · exact ⟨rfl, rfl⟩
  | scan i looks =>
      simp only
      split
      · exact calm_scanStep s _ i _ looks
      · exact ⟨rfl, rfl⟩
  | cancel | ring => simp [Move.isDisturbance] at undisturbed
  | conclude ending => exact (aside_conclude s ending).toCalm
  | close => exact (aside_closeStep s).toCalm

theorem calm_after (undisturbed : ∀ n, (schedule n).isDisturbance = false) (s : RunState) :
    ∀ n, Calm s (after a bugs schedule s n)
  | 0 => ⟨rfl, rfl⟩
  | n + 1 => by
      have before := calm_after undisturbed s n
      have step : Calm (after a bugs schedule s n) (after a bugs schedule s (n + 1)) :=
        calm_step (undisturbed n) _
      exact ⟨step.caller.trans before.caller, step.rang.trans before.rang⟩

/-- Nothing has rung in a run that has not rung later. -/
theorem Leads.stays_unrung (leads : Leads a bugs s t) (unrung : t.rang = false) :
    s.rang = false := by
  induction leads with
  | refl => exact unrung
  | tail _ last ih =>
      apply ih
      cases last
      case rings => simp at unrung
      all_goals exact unrung

/-- An undisturbed run is interrupted by its own return only. -/
theorem quiet_or_returned (leads : Leads a bugs { outbox := start } s)
    (calm : Calm { outbox := start } s) : s.interrupted = none ∨ ∃ r, s.front = .returned r := by
  refine Classical.or_iff_not_imp_left.2 fun interrupted => ?_
  have reached : Reached a bugs s := ⟨start, leads⟩
  rcases reached.interrupted_cases interrupted with cancelled | ⟨_, timeout⟩ | returned
  · exact absurd calm.caller cancelled
  · rcases reached.closing_cases ⟨_, timeout⟩ with ended | ⟨-, rang⟩ | ⟨_, cancelled, -⟩
    · have fits := reached.fits
      rw [ended] at fits
      exact fits.elim
    · simp [calm.rang] at rang
    · cases cancelled
  · exact returned

/-- A run that returns undisturbed does so for a pipeline that has ended, when nothing has
interrupted it yet. -/
theorem exists_end_of_undisturbed {r : RunResult} (leads : Leads a bugs { outbox := start } s)
    (calm : Calm { outbox := start } s) (returned : s.front = .returned r) :
    ∃ m error, Leads a bugs { outbox := start } m ∧ Leads a bugs m s ∧ m.front = .closing [] error ∧
      m.stage = .ended error ∧ m.interrupted = none ∧ r = m.snapshot error := by
  obtain ⟨m, error, toReturn, fromReturn, closing, same⟩ := exists_return leads (by simp) returned
  have reached : Reached a bugs m := ⟨start, toReturn⟩
  have uncancelled := fromReturn.stays_cancelled calm.caller
  have ended : m.stage = .ended error := by
    rcases reached.closing_cases ⟨[], closing⟩ with ended | ⟨-, rang⟩ | ⟨_, -, cancelled⟩
    · exact ended
    · simp [fromReturn.stays_unrung calm.rang] at rang
    · simp [uncancelled] at cancelled
  have calmThere : Calm { outbox := start } m := ⟨uncancelled, fromReturn.stays_unrung calm.rang⟩
  have quiet : m.interrupted = none := by
    rcases quiet_or_returned toReturn calmThere with quiet | ⟨_, returned⟩
    · exact quiet
    · simp [closing] at returned
  exact ⟨m, error, toReturn, fromReturn, closing, ended, quiet, same⟩

/-- A run with entry points that returns undisturbed has ended without an error. -/
theorem exists_end_of_returned {b : Built} {r : RunResult}
    (leads : Leads a bugs { outbox := start } s)
    (built : a.builder.build a.options.strict .silent = .built b)
    (entry : (Prepared.ofBuilt a b).entries ≠ []) (calm : Calm { outbox := start } s)
    (returned : s.front = .returned r) :
    ∃ m, Leads a bugs { outbox := start } m ∧ Leads a bugs m s ∧ m.stage = .ended none ∧
      m.interrupted = none ∧ r = m.snapshot none := by
  obtain ⟨m, error, toReturn, fromReturn, -, ended, quiet, same⟩ :=
    exists_end_of_undisturbed leads calm returned
  obtain rfl := Reached.ended_none ⟨start, toReturn⟩ ended quiet built entry
  exact ⟨m, toReturn, fromReturn, ended, quiet, same⟩

/-! ## What is left to do -/

/-- The steps that are left to the worker of a bug. -/
def stepsLeft : SearchTask → Nat
  | .waiting => 5
  | .searching => 4
  | .counting _ => 3
  | .storing _ => 2
  | .uploading _ => 1
  | .finished => 0

/-- More than what a stage still has to do before the search is over, the work on bugs that are not
submitted yet included.  `notes` is the number of notes on the build. -/
def stageLeft (notes : Nat) (bugs : Dict ConstructSet) : Stage → Nat
  | .building => notes + 7 * bugs.size + 10
  | .noting rest .search => rest.length + 7 * bugs.size + 9
  | .submittingBugs rest _ => 7 * rest.length + 8
  | .noting rest .await => rest.length + 4
  | .awaitingSearch => 3
  | _ => 0

def jobsLeft (jobs : List SearchJob) : Nat := (jobs.map fun j => stepsLeft j.task).sum

/-- What is left to do until the search is over. -/
def left (notes : Nat) (bugs : Dict ConstructSet) (s : RunState) : Nat :=
  stageLeft notes bugs s.stage + jobsLeft s.searches

theorem jobsLeft_modify (task : SearchTask) :
    ∀ (jobs : List SearchJob) (i : Nat) {job : SearchJob}, jobs[i]? = some job →
      jobsLeft (jobs.modify i fun j => { j with task }) + stepsLeft job.task = jobsLeft jobs +
        stepsLeft task
  | [], _, _, found => by simp at found
  | j :: jobs, 0, job, found => by
      obtain rfl : j = job := by simpa using found
      simp only [jobsLeft, List.modify_zero_cons, List.map_cons, List.sum_cons]
      omega
  | j :: jobs, i + 1, job, found => by
      have next : jobs[i]? = some job := by simpa using found
      have rest := jobsLeft_modify task jobs i next
      simp only [jobsLeft, List.modify_succ_cons, List.map_cons, List.sum_cons] at rest ⊢
      omega

/-- The pipeline and the workers are where they were. -/
structure Rests (s t : RunState) : Prop where
  stage : t.stage = s.stage
  prepared : t.prepared = s.prepared
  searches : t.searches = s.searches

theorem Rests.trans {u : RunState} (first : Rests s t) (second : Rests t u) : Rests s u :=
  ⟨second.stage.trans first.stage, second.prepared.trans first.prepared,
    second.searches.trans first.searches⟩

theorem Rests.left_eq (rests : Rests s t) (notes : Nat) :
    t.left notes bugs = s.left notes bugs := by
  simp [left, rests.stage, rests.searches]

/-- The pipeline has still to come to the end of the search. -/
def searchIsAhead : Stage → Prop
  | .building => True
  | .noting _ .search => True
  | .submittingBugs _ _ => True
  | .noting _ .await => True
  | .awaitingSearch => True
  | _ => False

section Course

variable {b : Built}

theorem Reached.ahead_of_pending (reached : Reached a bugs s) (quiet : s.interrupted = none)
    (built : a.builder.build a.options.strict .silent = .built b)
    (entry : (Prepared.ofBuilt a b).entries ≠ []) (pending : ¬ searchIsOver s.stage) :
    searchIsAhead s.stage := by
  have fits := reached.fits
  cases stage : s.stage with
  | building | submittingBugs | awaitingSearch => trivial
  | submittingRanges | awaitingScan => exact (pending (by simp [stage, searchIsOver])).elim
  | noting notes next =>
      cases next with
      | search | await => trivial
      | scan => exact (pending (by simp [stage, searchIsOver])).elim
      | finish error =>
          cases error with
          | none => exact (pending (by simp [stage, searchIsOver])).elim
          | some =>
              rw [stage] at fits
              obtain ⟨-, p, prepared, bare⟩ := fits
              exact absurd (reached.prepared_of_quiet quiet built prepared ▸ bare) entry
  | ended error =>
      obtain rfl := reached.ended_none stage quiet built entry
      exact (pending (by simp [stage, searchIsOver])).elim

/-- Whatever the search of a bug with targets finds can be stored and uploaded. -/
def AllStorable (a : Analysis) (bugs : Dict ConstructSet) (p : Prepared) : Prop :=
  ∀ bug targets found, bugs.get? bug = some targets → targets.size ≠ 0 →
    p.search a targets .silent = .found found → p.Storable a bug found

/-- What an uninterrupted search has found was stored and uploaded, so it could be. -/
theorem allStorable_of_over (leads : Leads a bugs { outbox := start } s)
    (prepared : s.prepared = some p) (past : searchIsOver s.stage) (quiet : s.interrupted = none) :
    AllStorable a bugs p := by
  intro bug targets found known targeted outcome
  have reached : Reached a bugs s := ⟨start, leads⟩
  rcases reached.over_searched prepared past quiet known targeted with
    ⟨_, records, same, recorded, -⟩ | ⟨⟨m, failed⟩, -⟩
  · obtain rfl := BugSearch.found.inj (outcome.symm.trans same)
    obtain ⟨kept, dropped, capped, -⟩ :=
      (searched_of_over leads prepared past quiet).uploaded bug records
        (Prepared.pathsFor?_eq_some.2 ⟨targets, found, known, targeted, outcome, recorded⟩)
    exact Prepared.storable_iff.2 ⟨records, recorded, by simp [capped]⟩
  · simp [outcome] at failed

/-- What the worker of a bug has found in an uninterrupted run can be stored. -/
theorem Reached.storable_of_found (reached : Reached a bugs s) (quiet : s.interrupted = none)
    (storable : AllStorable a bugs p) {i : Nat} {job : SearchJob} {paths : List Path}
    (here : s.searches[i]? = some job) (found : Found a p s job paths) :
    p.Storable a job.bug paths := by
  obtain ⟨known, targeted⟩ := reached.job_of_bug (List.mem_of_getElem? here)
  obtain ⟨w, had, outcome⟩ := found
  exact storable _ _ _ (Dict.get?_eq_some_iff.2 known) targeted (had quiet ▸ outcome)

/-- No worker of an uninterrupted run brings everything down if all that is found can be stored. -/
theorem Reached.pathRecords_of_storing (reached : Reached a bugs s) (quiet : s.interrupted = none)
    (prepared : s.prepared = some p) (storable : AllStorable a bugs p) {i : Nat} {job : SearchJob}
    {paths : List Path} (found : s.searches[i]? = some job) (task : job.task = .storing paths) :
    pathRecords p.graph job.bug paths ≠ none := by
  have holds := reached.holds prepared found
  rw [task] at holds
  exact pathRecords_ne_none_iff.2
    (reached.storable_of_found quiet storable found holds.2).recordable

theorem Reached.capPaths_of_uploading (reached : Reached a bugs s) (quiet : s.interrupted = none)
    (prepared : s.prepared = some p) (storable : AllStorable a bugs p) {i : Nat} {job : SearchJob}
    {records : List PathRecord} (found : s.searches[i]? = some job)
    (task : job.task = .uploading records) :
    capPaths job.bug a.options.maxPaths records ≠ none := by
  have holds := reached.holds prepared found
  rw [task] at holds
  obtain ⟨-, paths, search, recorded⟩ := holds
  exact (reached.storable_of_found quiet storable found search).cappable records recorded

theorem Transition.stays_alive (step : Transition a bugs s t) (reached : Reached a bugs s)
    (quiet : s.interrupted = none)
    (storable : ∀ p, s.prepared = some p → AllStorable a bugs p ∨
      ∀ j ∈ s.searches, j.task = .finished) :
    t.crashed = s.crashed := by
  cases step
  case breaksDown prepared found task unrecorded =>
      rcases storable _ prepared with storable | finished
      · exact absurd unrecorded (reached.pathRecords_of_storing quiet prepared storable found task)
      · simp [finished _ (List.mem_of_getElem? found)] at task
  case crashes found task tooMany _ =>
      obtain ⟨p, prepared⟩ := reached.prepared_of_job (List.mem_of_getElem? found)
      rcases storable p prepared with storable | finished
      · exact absurd tooMany (reached.capPaths_of_uploading quiet prepared storable found task)
      · simp [finished _ (List.mem_of_getElem? found)] at task
  all_goals rfl

/-- The worker of a job goes on, and less is left to it. -/
theorem left_setTask (notes : Nat) {i : Nat} {job : SearchJob} {next : SearchTask}
    (found : s.searches[i]? = some job) (stage : t.stage = s.stage)
    (searches : t.searches = (s.setTask i next).searches)
    (fewer : stepsLeft next < stepsLeft job.task) : t.left notes bugs < s.left notes bugs := by
  have total := jobsLeft_modify next s.searches i found
  simp only [left, stage, searches, setTask]
  omega

/-- **A step rests or leaves less to do.** -/
theorem Transition.descends (step : Transition a bugs s t)
    (quiet : t.interrupted = none) (built : a.builder.build a.options.strict .silent = .built b)
    (entry : (Prepared.ofBuilt a b).entries ≠ []) (alive : t.crashed = false)
    (ahead : searchIsAhead s.stage) :
    Rests s t ∨ t.left (buildNotes a b (Prepared.ofBuilt a b).graph).length bugs <
      s.left (buildNotes a b (Prepared.ofBuilt a b).graph).length bugs := by
  have calm := step.stays_interrupted quiet
  cases step
  case buildFails looks _ _ fails _ => simp [watch_of_quiet calm looks, built] at fails
  case builds looks b' stage built' _ =>
      rw [watch_of_quiet calm looks, built] at built'
      cases built'
      refine .inr ?_
      simp [left, stageLeft, stage, entry, addRecords]
  case writes n notes next stage =>
      rw [stage] at ahead
      cases next with
      | search | await => exact .inr (by simp [left, stageLeft, stage])
      | scan | finish => exact ahead.elim
  case goesOnToSearch stage => exact .inr (by simp [left, stageLeft, stage, Dict.size])
  case goesOnToAwait stage => exact .inr (by simp [left, stageLeft, stage])
  case passesOver stage _ _ => exact .inr (by simp [left, stageLeft, stage, addRecords])
  case submits stage _ _ =>
      refine .inr ?_
      simp [left, stageLeft, stage, jobsLeft, stepsLeft]
      omega
  case submitsNoMore stage => exact .inr (by simp [left, stageLeft, stage])
  case leavesSearch stage _ => exact .inr (by simp [left, stageLeft, stage])
  case goesOnToScan stage _ | goesOnToEnd stage | submitsRanges stage _ | submitsNoMoreRanges stage
      | givesUpScan stage _ | leavesScan stage _ =>
      rw [stage] at ahead
      exact ahead.elim
  case givesUpSearch interrupted => simp [calm] at interrupted
  case starts found task _ => exact .inr (left_setTask _ found rfl rfl (by simp [task, stepsLeft]))
  case skips interrupted => simp [calm] at interrupted
  case fails found task _ _ _ =>
      exact .inr (left_setTask _ found rfl rfl (by simp [task, stepsLeft]))
  case finds found task _ => exact .inr (left_setTask _ found rfl rfl (by simp [task, stepsLeft]))
  case counts found task => exact .inr (left_setTask _ found rfl rfl (by simp [task, stepsLeft]))
  case stores found task _ => exact .inr (left_setTask _ found rfl rfl (by simp [task, stepsLeft]))
  case uploads found task _ _ =>
      exact .inr (left_setTask _ found rfl rfl (by simp [task, stepsLeft]))
  case breaksDown | crashes => simp at alive
  case cancels | timesOut | returns => simp at quiet
  all_goals exact .inl ⟨rfl, rfl, rfl⟩

/-! ## Somebody can go on -/

/-- The pipeline does not have to wait for a worker. -/
def IsReady (a : Analysis) (s : RunState) : Stage → Prop
  | .submittingBugs ((_, targets) :: _) _ =>
      targets.size = 0 ∨ hasRoom (poolSize a) s.runningSearches = true
  | .awaitingSearch => s.runningSearches = 0
  | _ => True

theorem not_rests_pipeline (early : Bool) (looks : Option Nat) (alive : s.crashed = false)
    (quiet : s.interrupted = none) (built : a.builder.build a.options.strict .silent = .built b)
    (ahead : searchIsAhead s.stage) (ready : IsReady a s s.stage) :
    ¬ Rests s (s.step a bugs (.pipeline early looks)) := by
  rintro ⟨same, -, -⟩
  have moved : s.step a bugs (.pipeline early looks) = s.advance a bugs early looks := by
    simp [step, alive]
  rw [moved] at same
  cases stage : s.stage with
  | building => simp [advance, stage, watch_of_quiet quiet, built, onBuilt] at same
  | noting notes next =>
      cases notes with
      | cons n notes =>
          have shorter := congrArg (stageLeft 0 bugs) same
          rw [stage] at ahead
          cases next with
          | search | await => simp [advance, stage, stageLeft] at shorter
          | scan | finish => exact ahead.elim
      | nil =>
          rw [stage] at ahead
          cases next with
          | search | await => simp [advance, stage, goOn] at same
          | scan | finish => exact ahead.elim
  | submittingBugs rest submitted =>
      cases rest with
      | nil => simp [advance, stage] at same
      | cons first rest =>
          rw [stage] at ready
          by_cases empty : first.2.size = 0
          · simp [advance, stage, empty] at same
          · have room := ready.resolve_left empty
            simp [advance, stage, empty, room] at same
  | awaitingSearch =>
      rw [stage] at ready
      have idle : s.runningSearches = 0 := ready
      simp [advance, stage, quiet, idle] at same
  | submittingRanges | awaitingScan | ended =>
      rw [stage] at ahead
      exact ahead.elim

theorem searches_setTask_ne {i : Nat} {job : SearchJob} {next : SearchTask}
    (found : s.searches[i]? = some job) (other : next ≠ job.task) :
    (s.setTask i next).searches ≠ s.searches := by
  intro same
  have here := congrArg (·[i]?) same
  simp only [setTask, List.getElem?_modify_eq, found, Option.map_eq_map, Option.map_some,
    Option.some.injEq] at here
  exact other (congrArg SearchJob.task here)

theorem not_rests_worker {i : Nat} {job : SearchJob} (looks : Option Nat)
    (alive : s.crashed = false)
    (quiet : s.interrupted = none) (prepared : s.prepared = some p)
    (found : s.searches[i]? = some job)
    (busy : job.task ≠ .finished) (comesBack : p.search a job.targets .silent ≠ .stalled)
    (recordable : ∀ paths, job.task = .storing paths → pathRecords p.graph job.bug paths ≠ none)
    (few : ∀ records, job.task = .uploading records →
      capPaths job.bug a.options.maxPaths records ≠ none) :
    ¬ Rests s (s.step a bugs (.search i looks)) := by
  rintro ⟨-, -, same⟩
  have moved : s.step a bugs (.search i looks) = s.searchStep a p i job looks := by
    simp [step, alive, prepared, found]
  rw [moved] at same
  have stuck (next : SearchTask) (went : (s.searchStep a p i job looks).searches =
      (s.setTask i next).searches)
      (other : next ≠ job.task) : False :=
    searches_setTask_ne found other (went.symm.trans same)
  have watch := watch_of_quiet quiet looks
  cases task : job.task with
  | waiting => exact stuck .searching (by simp [searchStep, task, quiet]) (by simp [task])
  | searching =>
      cases outcome : p.search a job.targets .silent with
      | stalled => exact comesBack outcome
      | failed m =>
          rw [Prepared.search, ← watch] at outcome
          exact stuck .finished (by simp only [searchStep, task, outcome]; rfl) (by simp [task])
      | found paths =>
          rw [Prepared.search, ← watch] at outcome
          exact stuck (.counting paths) (by simp only [searchStep, task, outcome]) (by simp [task])
  | counting paths =>
      exact stuck (.storing paths) (by simp only [searchStep, task]; rfl) (by simp [task])
  | storing paths =>
      obtain ⟨records, recorded⟩ := Option.ne_none_iff_exists'.1 (recordable paths task)
      exact stuck (.uploading records) (by simp only [searchStep, task, recorded]; rfl)
        (by simp [task])
  | uploading records =>
      obtain ⟨⟨kept, dropped⟩, capped⟩ := Option.ne_none_iff_exists'.1 (few records task)
      exact stuck .finished (by simp only [searchStep, task, capped]; rw [upload_eq]; rfl)
        (by simp [task])
  | finished => exact busy task

/-- A pipeline that has to wait waits for a worker that is busy. -/
theorem exists_busy (pool : poolSize a ≠ 0) (waits : ¬ IsReady a s s.stage) :
    ∃ (i : Nat) (job : SearchJob), s.searches[i]? = some job ∧ job.task ≠ .finished := by
  have running : s.runningSearches ≠ 0 := by
    intro idle
    have room : hasRoom (poolSize a) s.runningSearches = true := by
      simp only [hasRoom, idle, Bool.or_eq_true, decide_eq_true_eq]
      omega
    refine waits ?_
    unfold IsReady
    split
    · exact .inr room
    · exact idle
    · trivial
  rw [Ne, runningSearches_eq_zero] at running
  simp only [not_forall] at running
  obtain ⟨job, member, busy⟩ := running
  obtain ⟨i, here⟩ := List.mem_iff_getElem?.1 member
  exact ⟨i, job, here, busy⟩

theorem Reached.job_lt (reached : Reached a bugs s) {i : Nat} {job : SearchJob}
    (found : s.searches[i]? = some job) : i < bugs.size := by
  have all := congrArg List.length reached.submitted
  have some := (List.getElem?_eq_some_iff.1 found).1
  have fewer : (bugs.entries.filter hasTargets).length ≤ bugs.size := List.length_filter_le _ _
  simp only [List.length_append, List.length_map] at all
  omega

/-! ## Fair runs -/

/-- Resting takes nothing from what is left. -/
structure Countdown {σ α : Type} (rests : σ → σ → Prop) (left : σ → α) : Prop where
  refl : ∀ s, rests s s
  trans : ∀ {s t u}, rests s t → rests t u → rests s u
  same : ∀ {s t}, rests s t → left t = left s

namespace Countdown

variable {σ α : Type} [LT α] {rests : σ → σ → Prop} {left : σ → α} {run : Nat → σ}

/-- Until there is less to do, everybody rests. -/
theorem rests_or_less (countdown : Countdown rests left)
    (descends : ∀ n, rests (run n) (run (n + 1)) ∨ left (run (n + 1)) < left (run n))
    (n : Nat) : ∀ k, rests (run n) (run (n + k)) ∨ ∃ m, left (run m) < left (run n)
  | 0 => .inl (countdown.refl _)
  | k + 1 => by
      rcases rests_or_less countdown descends n k with rests | less
      · rcases descends (n + k) with next | next
        · exact .inl (countdown.trans rests next)
        · exact .inr ⟨n + (k + 1), countdown.same rests ▸ next⟩
      · exact .inr less

/-- If again and again somebody moves who does not rest, there is less and less to do, without
end. -/
theorem false_of_descends [WellFoundedLT α] (countdown : Countdown rests left)
    (descends : ∀ n, rests (run n) (run (n + 1)) ∨ left (run (n + 1)) < left (run n))
    (moves : ∀ n, ∃ k, rests (run n) (run (n + k)) → ¬ rests (run (n + k)) (run (n + k + 1))) :
    False := by
  have endless : ∀ l n, left (run n) = l → False := by
    intro l
    induction l using WellFoundedLT.induction with
    | ind l ih =>
        rintro n rfl
        obtain ⟨k, moves⟩ := moves n
        rcases rests_or_less countdown descends n k with rests | ⟨m, less⟩
        · rcases descends (n + k) with still | less
          · exact moves rests still
          · exact ih _ (countdown.same rests ▸ less) _ rfl
        · exact ih _ less _ rfl
  exact endless _ 0 rfl

end Countdown

/-- What is left to do until the search is over counts down. -/
theorem countdown_left (notes : Nat) (bugs : Dict ConstructSet) :
    Countdown Rests (left notes bugs) where
  refl _ := ⟨rfl, rfl, rfl⟩
  trans := Rests.trans
  same rests := rests.left_eq notes

/-- Every search of a bug with targets comes back. -/
def ComesBack (a : Analysis) (bugs : Dict ConstructSet) (p : Prepared) : Prop :=
  ∀ bug targets, bugs.get? bug = some targets → targets.size ≠ 0 →
    p.search a targets .silent ≠ .stalled

/-- **A fair run leaves the search behind**, whatever the order of its steps. -/
theorem exists_over (outbox : Outbox) (built : a.builder.build a.options.strict .silent = .built b)
    (entry : (Prepared.ofBuilt a b).entries ≠ []) (pool : poolSize a ≠ 0)
    (comesBack : ComesBack a bugs (.ofBuilt a b)) (storable : AllStorable a bugs (.ofBuilt a b))
    (fair : Fair bugs.size schedule) :
    ∃ n, searchIsOver (after a bugs schedule { outbox } n).stage := by
  refine Classical.byContradiction fun never => ?_
  generalize trace : after a bugs schedule { outbox } = run at never
  have leads (n : Nat) : Leads a bugs { outbox } (run n) := trace ▸ leads_after a bugs schedule _ n
  have reached (n : Nat) : Reached a bugs (run n) := ⟨outbox, leads n⟩
  have step (n : Nat) : run (n + 1) = (run n).step a bugs (schedule n) := by rw [← trace]; rfl
  have moved (n : Nat) : Transition a bugs (run n) (run (n + 1)) := step n ▸ transition_step _ _
  have calm (n : Nat) : Calm { outbox } (run n) := trace ▸ calm_after fair.undisturbed _ n
  have quiet (n : Nat) : (run n).interrupted = none := by
    rcases quiet_or_returned (leads n) (calm n) with quiet | ⟨r, returned⟩
    · exact quiet
    · obtain ⟨m, -, fromEnd, ended, -⟩ :=
        exists_end_of_returned (leads n) built entry (calm n) returned
      exact absurd ⟨n, by simp [fromEnd.stays_ended ended, searchIsOver]⟩ never
  have alive (n : Nat) : (run n).crashed = false := by
    induction n with
    | zero => rw [← trace]; rfl
    | succ n ih =>
        rw [(moved n).stays_alive (reached n) (quiet n) fun p prepared => .inl ?_]
        · exact ih
        · rw [(reached n).prepared_of_quiet (quiet n) built prepared]
          exact storable
  have ahead (n : Nat) : searchIsAhead (run n).stage :=
    (reached n).ahead_of_pending (quiet n) built entry fun past => never ⟨n, past⟩
  refine (countdown_left _ bugs).false_of_descends
    (fun n => (moved n).descends (quiet (n + 1)) built entry (alive (n + 1)) (ahead n)) fun n => ?_
  by_cases ready : IsReady a (run n) (run n).stage
  · -- the pipeline can go on, and will
    obtain ⟨m, late, early, looks, move⟩ := fair.pipeline n
    obtain ⟨k, rfl⟩ := Nat.exists_eq_add_of_le late
    refine ⟨k, fun rests => ?_⟩
    have still : IsReady a (run (n + k)) (run (n + k)).stage := by
      unfold IsReady runningSearches at *
      rwa [rests.stage, rests.searches]
    rw [step, move]
    exact not_rests_pipeline early looks (alive _) (quiet _) built (ahead _) still
  · -- the pipeline waits for a worker, which can go on, and will
    obtain ⟨i, job, found, busy⟩ := exists_busy pool ready
    obtain ⟨m, late, looks, move⟩ := fair.worker i ((reached n).job_lt found) n
    obtain ⟨k, rfl⟩ := Nat.exists_eq_add_of_le late
    refine ⟨k, fun rests => ?_⟩
    have still : (run (n + k)).searches[i]? = some job := rests.searches ▸ found
    have member := List.mem_of_getElem? still
    obtain ⟨p, prepared⟩ := (reached (n + k)).prepared_of_job member
    obtain rfl := (reached (n + k)).prepared_of_quiet (quiet _) built prepared
    obtain ⟨known, targeted⟩ := (reached (n + k)).job_of_bug member
    rw [step, move]
    exact not_rests_worker looks (alive _) (quiet _) prepared still busy
      (comesBack job.bug job.targets (Dict.get?_eq_some_iff.2 known) targeted)
      (fun _ => (reached (n + k)).pathRecords_of_storing (quiet _) prepared storable still)
      (fun _ => (reached (n + k)).capPaths_of_uploading (quiet _) prepared storable still)

/-- A fair run leaves the search behind if no enumeration stalls. -/
theorem exists_over_of_fair (outbox : Outbox)
    (built : a.builder.build a.options.strict .silent = .built b)
    (entry : (Prepared.ofBuilt a b).entries ≠ []) (pool : 1 ≤ poolSize a)
    (comesBack : ∀ g source target watch, (a.search g source target watch).1 ≠ .stalled)
    (storable : AllStorable a bugs (.ofBuilt a b)) (fair : Fair bugs.size schedule) :
    ∃ n, searchIsOver (after a bugs schedule { outbox } n).stage :=
  exists_over outbox built entry (by omega)
    (fun _ _ _ _ => Prepared.search_ne_stalled comesBack _ _ _)
    storable fair

end Course

end RunState

end Exposure
