/-
# Proofs.Return — when a fair run returns

A schedule is fair to all if nothing disturbs the run and every party moves again
and again, the front included.  Whether such a run returns does not depend on the
order of its steps: it does exactly if the analysis completes
(`RunState.exists_returned_iff`), that is, if its builder comes back and, should
there be entry points, there are workers, every search comes back and every list
of paths can be capped.

A fair run leaves the build behind, and the search as well if it comes to one
(`RunState.exists_late`).  From then on it is late: what is left of the scan, of
the notes and of the front counts down, first by the stage and then by the steps
within it (`RunState.Transition.descends_late`).
-/
import Exposure.Proofs.Outcome
import Mathlib.Data.Prod.Lex

namespace Exposure

set_option autoImplicit false

/-- Nothing disturbs the run, and every party moves again and again. -/
structure FairToAll (schedule : Nat → Move) : Prop where
  undisturbed : ∀ n, (schedule n).isDisturbance = false
  pipeline : ∀ n, ∃ m, n ≤ m ∧ ∃ early looks, schedule m = .pipeline early looks
  search : ∀ i n, ∃ m, n ≤ m ∧ ∃ looks, schedule m = .search i looks
  scan : ∀ i n, ∃ m, n ≤ m ∧ ∃ looks, schedule m = .scan i looks
  conclude : ∀ n, ∃ m, n ≤ m ∧ schedule m = .conclude .done
  close : ∀ n, ∃ m, n ≤ m ∧ schedule m = .close

theorem FairToAll.fair {schedule : Nat → Move} (fair : FairToAll schedule) (workers : Nat) :
    Fair workers schedule :=
  ⟨fair.undisturbed, fair.pipeline, fun i _ => fair.search i⟩

/-- What happens after `n + k` happens after `k`, counted from `n`. -/
theorem exists_later {P : Nat → Prop} {n k : Nat} (happens : ∃ m, n + k ≤ m ∧ P m) :
    ∃ m, k ≤ m ∧ P (n + m) := by
  obtain ⟨m, late, here⟩ := happens
  exact ⟨m - n, by omega, by rwa [Nat.add_sub_of_le (by omega)]⟩

theorem FairToAll.later {schedule : Nat → Move} (fair : FairToAll schedule) (n : Nat) :
    FairToAll fun k => schedule (n + k) where
  undisturbed k := fair.undisturbed (n + k)
  pipeline k := exists_later (fair.pipeline (n + k))
  search i k := exists_later (fair.search i (n + k))
  scan i k := exists_later (fair.scan i (n + k))
  conclude k := exists_later (fair.conclude (n + k))
  close k := exists_later (fair.close (n + k))

/-- The builder comes back, and what it gives can be searched and scanned, unless there is nothing
to begin with. -/
def Analysis.Completes (a : Analysis) (bugs : Dict ConstructSet) : BuildOutcome → Prop
  | .stalled => False
  | .failed _ => True
  | .built b =>
    (Prepared.ofBuilt a b).entries = [] ∨
      RunState.poolSize a ≠ 0 ∧ RunState.ComesBack a bugs (.ofBuilt a b) ∧
        RunState.AllStorable a bugs (.ofBuilt a b)

namespace RunState

variable {a : Analysis} {bugs : Dict ConstructSet} {s t : RunState} {start : Outbox}
    {schedule : Nat → Move}

/-! ## Late stages -/

/-- The pipeline has left the search behind, or has come to its end without one. -/
def isLate : Stage → Prop
  | .noting _ .scan => True
  | .submittingRanges _ => True
  | .awaitingScan => True
  | .noting _ (.finish _) => True
  | .ended _ => True
  | _ => False

theorem isLate_of_over {stage : Stage} (past : searchIsOver stage) : isLate stage := by
  cases stage with
  | noting notes next =>
      cases next with
      | scan | finish => trivial
      | search | await => exact past.elim
  | submittingRanges | awaitingScan | ended => trivial
  | building | submittingBugs | awaitingSearch => exact past.elim

/-- Without entry points the pipeline goes from the build to its end. -/
theorem Reached.late_of_built (reached : Reached a bugs s) (left : s.stage ≠ .building)
    (bare : ∀ p, s.prepared = some p → p.entries = []) : isLate s.stage := by
  have fits := reached.fits
  have none : ¬ s.HasEntry := fun ⟨p, prepared, entry⟩ => entry (bare p prepared)
  cases stage : s.stage with
  | building => exact left stage
  | noting notes next =>
      cases next with
      | scan | finish => trivial
      | search | await =>
          rw [stage] at fits
          exact none fits
  | submittingBugs | awaitingSearch =>
      rw [stage] at fits
      exact none fits
  | submittingRanges | awaitingScan | ended => trivial

theorem Transition.stays_late (step : Transition a bugs s t) (late : isLate s.stage) :
    isLate t.stage := by
  cases step
  case buildFails stage _ _ | builds stage _ _ | goesOnToSearch stage | goesOnToAwait stage |
      passesOver stage _ _
      | submits stage _ _ | submitsNoMore stage | givesUpSearch stage _ | leavesSearch stage _ =>
      rw [stage] at late
      exact late.elim
  case writes next stage =>
      rw [stage] at late
      cases next with
      | scan | finish => trivial
      | search | await => exact late.elim
  case goesOnToScan | goesOnToEnd | submitsRanges | submitsNoMoreRanges | givesUpScan |
      leavesScan => trivial
  all_goals exact late

/-- No worker of a bug is busy at a late stage. -/
theorem Reached.late_finished (reached : Reached a bugs s) (quiet : s.interrupted = none)
    (late : isLate s.stage) :
    ∀ j ∈ s.searches, j.task = .finished := by
  have fits := reached.fits
  have none (fresh : unsubmitted bugs s.stage = bugs.entries) : ∀ j ∈ s.searches, j.task =
      .finished := by
    simp [reached.no_searches fresh]
  by_cases past : searchIsOver s.stage
  · exact reached.searches_finished past
  cases stage : s.stage with
  | building | submittingBugs | awaitingSearch =>
      rw [stage] at late
      exact late.elim
  | submittingRanges | awaitingScan => exact absurd (by rw [stage]; trivial) past
  | noting notes next =>
      cases next with
      | search | await =>
          rw [stage] at late
          exact late.elim
      | scan => exact absurd (by rw [stage]; trivial) past
      | finish error =>
          cases error with
          | none => exact absurd (by rw [stage]; trivial) past
          | some e => exact none (by rw [stage]; rfl)
  | ended error =>
      cases error with
      | none => exact absurd (by rw [stage]; trivial) past
      | some e =>
          rw [stage] at fits
          cases e with
          | build | noEntryPoints => exact none (by rw [stage]; rfl)
          | search | scan => exact absurd (quiet.symm.trans fits) (by simp)
          | timeout | interrupted => exact fits.elim

/-! ## What is left to do late -/

/-- The number of stages that are left. -/
def stagesLeft : Stage → Nat
  | .noting _ .scan => 4
  | .submittingRanges _ => 3
  | .awaitingScan => 2
  | .noting _ (.finish _) => 1
  | _ => 0

/-- What is left of a stage, the work on ranges that are not submitted yet included. -/
def withinStage : Stage → Nat
  | .noting notes _ => notes.length
  | .submittingRanges rest => 2 * rest.length
  | _ => 0

/-- More than what is left to the front. -/
def frontLeft : Front → Nat
  | .watching => 6
  | .closing notes _ => notes.length + 1
  | .returned _ => 0

/-- What is left to do after the search: stages, and steps within a stage. -/
def leftLate (s : RunState) : Nat ×ₗ Nat :=
  toLex (stagesLeft s.stage, withinStage s.stage + s.runningScans + frontLeft s.front)

/-- The pipeline, the workers of ranges and the front are where they were. -/
structure RestsLate (s t : RunState) : Prop where
  stage : t.stage = s.stage
  scans : t.scans = s.scans
  front : t.front = s.front

theorem countdown_late : Countdown RestsLate leftLate where
  refl _ := ⟨rfl, rfl, rfl⟩
  trans first second :=
    ⟨second.stage.trans first.stage, second.scans.trans first.scans, second.front.trans first.front⟩
  same rests := by simp [leftLate, runningScans, rests.stage, rests.scans, rests.front]

theorem leftLate_lt_of_stage (fewer : stagesLeft t.stage < stagesLeft s.stage) :
    t.leftLate < s.leftLate :=
  Prod.Lex.toLex_lt_toLex.2 (.inl fewer)

theorem leftLate_lt_of_steps (stages : stagesLeft t.stage = stagesLeft s.stage)
    (fewer : withinStage t.stage + t.runningScans + frontLeft t.front <
      withinStage s.stage + s.runningScans + frontLeft s.front) : t.leftLate < s.leftLate :=
  Prod.Lex.toLex_lt_toLex.2 (.inr ⟨stages, fewer⟩)

theorem length_closingNotes (a : Analysis) (error : Option RunError) :
    (closingNotes a error).length ≤ 4 := by
  cases error with
  | none => exact Nat.le_of_ble_eq_true rfl
  | some e => cases e <;> exact Nat.le_of_ble_eq_true rfl

/-- A scan that is finished runs no more. -/
theorem length_running_modify (findings : Option Findings) :
    ∀ (jobs : List ScanJob) (i : Nat) {job : ScanJob}, jobs[i]? = some job → job.finished = false →
      ((jobs.modify i fun j => { j with finished := true, findings }).filter (!·.finished)).length +
        1 =
        (jobs.filter (!·.finished)).length
  | [], _, _, found, _ => by simp at found
  | j :: jobs, 0, job, found, busy => by
      obtain rfl : j = job := by simpa using found
      simp [busy]
  | j :: jobs, i + 1, job, found, busy => by
      have rest := length_running_modify findings jobs i (by simpa using found) busy
      rw [List.modify_succ_cons, List.filter_cons, List.filter_cons]
      split
      · simpa using rest
      · exact rest

/-- A scan that is submitted runs. -/
theorem length_running_fresh (ranges : List NodeRange) :
    ((ranges.map fun range => ({ range } : ScanJob)).filter (!·.finished)).length =
      ranges.length := by
  simp [List.filter_map, Function.comp_def]

/-- **A late step rests or leaves less to do.** -/
theorem Transition.descends_late (step : Transition a bugs s t) (reached : Reached a bugs s)
    (quiet : t.interrupted = none) (late : isLate s.stage) :
    RestsLate s t ∨ t.leftLate < s.leftLate := by
  have calm := step.stays_interrupted quiet
  have idle {i : Nat} {job : SearchJob} {now : SearchTask} (found : s.searches[i]? = some job)
      (task : job.task = now) (busy : now ≠ .finished) : False :=
    busy (task.symm.trans (reached.late_finished calm late job (List.mem_of_getElem? found)))
  have closing (error : Option RunError) (front : s.front = .watching) :
      leftLate { s with front := .closing (closingNotes a error) error } < s.leftLate := by
    refine leftLate_lt_of_steps rfl ?_
    have short := length_closingNotes a error
    simp only [front, frontLeft, runningScans]
    omega
  cases step
  case buildFails stage _ _ | builds stage _ _ | goesOnToSearch stage | goesOnToAwait stage |
      passesOver stage _ _
      | submits stage _ _ | submitsNoMore stage | leavesSearch stage _ =>
      rw [stage] at late
      exact late.elim
  case givesUpSearch interrupted | givesUpScan interrupted => simp [calm] at interrupted
  case writes next stage =>
      refine .inr (leftLate_lt_of_steps ?_ ?_)
      · rw [stage]
        cases next <;> rfl
      · simp [stage, withinStage, runningScans]
  case goesOnToScan stage _ | goesOnToEnd stage | submitsNoMoreRanges stage | leavesScan stage _ =>
      exact .inr (leftLate_lt_of_stage (by simp [stage, stagesLeft]))
  case submitsRanges rest stage taken =>
      by_cases some : rest.take taken = []
      · have same : rest.drop taken = rest := by
          have whole := List.take_append_drop taken rest
          rwa [some, List.nil_append] at whole
        exact .inl ⟨by rw [same, stage], by simp [some], rfl⟩
      · refine .inr (leftLate_lt_of_steps (by rw [stage]; rfl) ?_)
        have positive := List.length_pos_iff.2 some
        have whole := congrArg List.length (List.take_append_drop taken rest)
        simp only [List.length_append] at whole
        simp only [stage, withinStage, runningScans, List.filter_append, List.length_append,
          length_running_fresh]
        omega
  case starts found task _ | skips found task _ | fails found task _ _ _ | finds found task _ |
      counts found task
      | stores found task _ | breaksDown found task _ | crashes found task _ _ |
          uploads found task _ _ =>
      exact (idle found task SearchTask.noConfusion).elim
  case scans p i job looks prepared found unfinished records measures =>
      refine .inr (leftLate_lt_of_steps rfl ?_)
      have fewer := length_running_modify (p.scan a job.range (s.watch looks)) s.scans i
        found unfinished
      simp only [finishScan, addRecords, addMeasures, runningScans] at fewer ⊢
      omega
  case concludes front _ | heedsCaller front _ => exact .inr (closing _ front)
  case cancels | timesOut | returns => simp at quiet
  case closes front =>
      refine .inr (leftLate_lt_of_steps rfl ?_)
      simp [front, frontLeft, runningScans]
  all_goals exact .inl ⟨rfl, rfl, rfl⟩

/-! ## Somebody can go on -/

/-- The pipeline does not have to wait for the worker of a range. -/
def scanIsReady (a : Analysis) (s : RunState) : Stage → Prop
  | .submittingRanges (_ :: _) => hasRoom (poolSize a) s.runningScans = true
  | .awaitingScan => s.runningScans = 0
  | _ => True

theorem RestsLate.isReady_iff (rests : RestsLate s t) :
    scanIsReady a t t.stage ↔ scanIsReady a s s.stage := by
  unfold scanIsReady runningScans
  rw [rests.stage, rests.scans]

/-- Ranges are waited for in a graph with entry points. -/
theorem Reached.entry_of_waiting (reached : Reached a bugs s) (waits : ¬ scanIsReady a s s.stage) :
    s.HasEntry := by
  have fits := reached.fits
  unfold scanIsReady at waits
  split at waits
  case h_1 stage | h_2 stage =>
      rw [stage] at fits
      exact fits
  case h_3 => exact absurd trivial waits

theorem not_restsLate_pipeline (early : Bool) (looks : Option Nat) (alive : s.crashed = false)
    (quiet : s.interrupted = none) (late : isLate s.stage)
    (unended : ∀ error, s.stage ≠ .ended error) (ready : scanIsReady a s s.stage) :
    ¬ RestsLate s (s.step a bugs (.pipeline early looks)) := by
  rintro ⟨same, -, -⟩
  have moved : s.step a bugs (.pipeline early looks) = s.advance a bugs early looks := by
    simp [step, alive]
  rw [moved] at same
  cases stage : s.stage with
  | building | submittingBugs | awaitingSearch =>
      rw [stage] at late
      exact late.elim
  | noting notes next =>
      cases notes with
      | cons n notes =>
          have shorter := congrArg withinStage same
          simp [advance, stage, withinStage] at shorter
      | nil =>
          rw [stage] at late
          cases next with
          | search | await => exact late.elim
          | scan | finish => simp [advance, stage, goOn] at same
  | submittingRanges rest =>
      cases rest with
      | nil => simp [advance, stage] at same
      | cons range rest =>
          rw [stage] at ready
          have room : poolSize a < 0 ∨ (s.runningScans : Int) < poolSize a := by
            simpa [scanIsReady, hasRoom] using ready
          have shorter := congrArg withinStage same
          simp only [advance, stage, withinStage, List.length_drop, List.length_cons] at shorter
          split at shorter <;> omega
  | awaitingScan =>
      rw [stage] at ready
      have idle : s.runningScans = 0 := ready
      simp [advance, stage, quiet, idle] at same
  | ended error => exact unended error stage

theorem not_restsLate_scan {p : Prepared} {i : Nat} {job : ScanJob} (looks : Option Nat)
    (alive : s.crashed = false) (prepared : s.prepared = some p) (found : s.scans[i]? = some job)
    (busy : job.finished = false) : ¬ RestsLate s (s.step a bugs (.scan i looks)) := by
  rintro ⟨-, same, -⟩
  obtain ⟨records, measures, scanned⟩ := scanStep_eq (a := a) (p := p) busy s i looks
  have moved : s.step a bugs (.scan i looks) = s.scanStep a p i job looks := by
    simp [step, alive, prepared, found]
  have fewer := length_running_modify (p.scan a job.range (s.watch looks)) s.scans i found busy
  have here := congrArg (fun jobs : List ScanJob => (jobs.filter (!·.finished)).length) same
  simp only [moved, scanned, finishScan, addRecords, addMeasures] at here
  omega

theorem not_restsLate_conclude {error : Option RunError} (alive : s.crashed = false)
    (ended : s.stage = .ended error) (watching : s.front = .watching) :
    ¬ RestsLate s (s.step a bugs (.conclude .done)) := by
  rintro ⟨-, -, same⟩
  simp [step, alive, conclude, watching, ended] at same

theorem not_restsLate_close {notes : List Note} {error : Option RunError}
    (alive : s.crashed = false) (closing : s.front = .closing notes error) :
    ¬ RestsLate s (s.step a bugs .close) := by
  rintro ⟨-, -, same⟩
  cases notes with
  | nil => simp [step, alive, closeStep, closing] at same
  | cons n notes =>
      have shorter := congrArg frontLeft same
      simp [step, alive, closeStep, closing, frontLeft] at shorter

/-- A pipeline that has to wait for a range waits for a worker that is busy. -/
theorem exists_busy_scan (pool : poolSize a ≠ 0) (waits : ¬ scanIsReady a s s.stage) :
    ∃ (i : Nat) (job : ScanJob), s.scans[i]? = some job ∧ job.finished = false := by
  have running : s.runningScans ≠ 0 := by
    intro idle
    have room : hasRoom (poolSize a) s.runningScans = true := by
      simp only [hasRoom, idle, Bool.or_eq_true, decide_eq_true_eq]
      omega
    refine waits ?_
    unfold scanIsReady
    split
    · exact room
    · exact idle
    · trivial
  rw [Ne, runningScans_eq_zero] at running
  simp only [not_forall] at running
  obtain ⟨job, member, busy⟩ := running
  obtain ⟨i, here⟩ := List.mem_iff_getElem?.1 member
  exact ⟨i, job, here, Bool.eq_false_iff.2 busy⟩

/-! ## Completing -/

section Completing

variable (completes : a.Completes bugs (a.builder.build a.options.strict .silent))
include completes

theorem Reached.pool_ne_zero (reached : Reached a bugs s) (quiet : s.interrupted = none)
    (entry : s.HasEntry) : poolSize a ≠ 0 := by
  obtain ⟨p, prepared, entry⟩ := entry
  obtain ⟨b, built, rfl⟩ := reached.built_of_quiet quiet prepared
  rw [built] at completes
  rcases completes with bare | ⟨pool, -, -⟩
  · exact absurd bare entry
  · exact pool

/-- No worker brings everything down. -/
theorem Transition.stays_alive_of_completes (step : Transition a bugs s t)
    (reached : Reached a bugs s) (quiet : s.interrupted = none) : t.crashed = s.crashed := by
  refine step.stays_alive reached quiet fun p prepared => ?_
  obtain ⟨b, built, rfl⟩ := reached.built_of_quiet quiet prepared
  rw [built] at completes
  rcases completes with bare | ⟨-, -, storable⟩
  · -- without entry points no bug has a worker
    refine .inr fun job member => ?_
    have left : s.stage ≠ .building := fun stage => by
      simp [reached.no_searches (by rw [stage]; rfl)] at member
    have late := reached.late_of_built left fun p' prepared' => by
      rw [reached.prepared_of_quiet quiet built prepared']
      exact bare
    exact reached.late_finished quiet late job member
  · exact .inl storable

/-- A pipeline that builds leaves the build with its next step. -/
theorem leaves_building (early : Bool) (looks : Option Nat) (alive : s.crashed = false)
    (quiet : s.interrupted = none) (building : s.stage = .building) :
    (s.step a bugs (.pipeline early looks)).stage ≠ .building := by
  have moved : s.step a bugs (.pipeline early looks) = s.advance a bugs early looks := by
    simp [step, alive]
  rw [moved]
  cases outcome : a.builder.build a.options.strict .silent with
  | stalled =>
      rw [outcome] at completes
      exact completes.elim
  | failed e => simp [advance, building, watch_of_quiet quiet, outcome]
  | built b => simp [advance, building, watch_of_quiet quiet, outcome, onBuilt]

/-- **A fair run does not go on forever once it is late.** -/
theorem false_of_late {run : Nat → RunState} (fair : FairToAll schedule)
    (step : ∀ n, run (n + 1) = (run n).step a bugs (schedule n))
    (reached : ∀ n, Reached a bugs (run n)) (quiet : ∀ n, (run n).interrupted = none)
    (alive : ∀ n, (run n).crashed = false) (pending : ∀ n r, (run n).front ≠ .returned r)
    (late : isLate (run 0).stage) : False := by
  have moved (n : Nat) : Transition a bugs (run n) (run (n + 1)) := step n ▸ transition_step _ _
  have late (n : Nat) : isLate (run n).stage := by
    induction n with
    | zero => exact late
    | succ n ih => exact (moved n).stays_late ih
  refine countdown_late.false_of_descends
    (fun n => (moved n).descends_late (reached n) (quiet (n + 1)) (late n)) fun n => ?_
  by_cases ended : ∃ error, (run n).stage = .ended error
  · -- the pipeline has ended, and the front goes on
    obtain ⟨error, ended⟩ := ended
    cases front : (run n).front with
    | watching =>
        obtain ⟨m, after, move⟩ := fair.conclude n
        obtain ⟨k, rfl⟩ := Nat.exists_eq_add_of_le after
        refine ⟨k, fun rests => ?_⟩
        rw [step, move]
        exact not_restsLate_conclude (alive _) (rests.stage.trans ended) (rests.front.trans front)
    | closing notes error =>
        obtain ⟨m, after, move⟩ := fair.close n
        obtain ⟨k, rfl⟩ := Nat.exists_eq_add_of_le after
        refine ⟨k, fun rests => ?_⟩
        rw [step, move]
        exact not_restsLate_close (alive _) (rests.front.trans front)
    | returned r => exact absurd front (pending n r)
  have unended : ∀ error, (run n).stage ≠ .ended error := fun error stage => ended ⟨error, stage⟩
  by_cases ready : scanIsReady a (run n) (run n).stage
  · -- the pipeline can go on, and will
    obtain ⟨m, after, early, looks, move⟩ := fair.pipeline n
    obtain ⟨k, rfl⟩ := Nat.exists_eq_add_of_le after
    refine ⟨k, fun rests => ?_⟩
    rw [step, move]
    exact not_restsLate_pipeline early looks (alive _) (quiet _) (late _) (rests.stage ▸ unended)
      (rests.isReady_iff.2 ready)
  · -- the pipeline waits for the worker of a range, which can go on, and will
    have pool := (reached n).pool_ne_zero completes (quiet n) ((reached n).entry_of_waiting ready)
    obtain ⟨i, job, found, busy⟩ := exists_busy_scan pool ready
    obtain ⟨m, after, looks, move⟩ := fair.scan i n
    obtain ⟨k, rfl⟩ := Nat.exists_eq_add_of_le after
    refine ⟨k, fun rests => ?_⟩
    obtain ⟨p, prepared, -⟩ := (reached (n + k)).entry_of_waiting (rests.isReady_iff.not.2 ready)
    rw [step, move]
    exact not_restsLate_scan looks (alive _) prepared (rests.scans ▸ found) busy

/-- A run that leaves the build behind becomes late, by way of the search if there are entry
points. -/
theorem exists_late {outbox : Outbox} (fair : FairToAll schedule)
    (quiet : ∀ n, (after a bugs schedule { outbox } n).interrupted = none)
    (alive : ∀ n, (after a bugs schedule { outbox } n).crashed = false) :
    ∃ n, isLate (after a bugs schedule { outbox } n).stage := by
  have reached (n : Nat) : Reached a bugs (after a bugs schedule { outbox } n) :=
    ⟨outbox, leads_after a bugs schedule _ n⟩
  obtain ⟨n, left⟩ : ∃ n, (after a bugs schedule { outbox } n).stage ≠ .building := by
    obtain ⟨m, -, early, looks, move⟩ := fair.pipeline 0
    by_cases building : (after a bugs schedule { outbox } m).stage = .building
    · refine ⟨m + 1, ?_⟩
      rw [after, move]
      exact leaves_building completes early looks (alive m) (quiet m) building
    · exact ⟨m, building⟩
  cases outcome : a.builder.build a.options.strict .silent with
  | stalled =>
      rw [outcome] at completes
      exact completes.elim
  | failed e =>
      refine ⟨n, (reached n).late_of_built left fun p prepared => ?_⟩
      obtain ⟨b, built, -⟩ := (reached n).built_of_quiet (quiet n) prepared
      simp [built] at outcome
  | built b =>
      rw [outcome] at completes
      by_cases bare : (Prepared.ofBuilt a b).entries = []
      · refine ⟨n, (reached n).late_of_built left fun p prepared => ?_⟩
        rw [(reached n).prepared_of_quiet (quiet n) outcome prepared]
        exact bare
      · obtain ⟨pool, comesBack, cappable⟩ := completes.resolve_left bare
        obtain ⟨m, past⟩ := exists_over outbox outcome bare pool comesBack cappable (fair.fair _)
        exact ⟨m, isLate_of_over past⟩

/-- **A fair run of an analysis that completes returns.** -/
theorem exists_returned_of_completes (outbox : Outbox) (fair : FairToAll schedule) :
    ∃ n r, (after a bugs schedule { outbox } n).front = .returned r := by
  refine Classical.byContradiction fun never => ?_
  have pending (n : Nat) (r : RunResult) : (after a bugs schedule { outbox } n).front ≠
      .returned r :=
    fun returned => never ⟨n, r, returned⟩
  have reached (n : Nat) : Reached a bugs (after a bugs schedule { outbox } n) :=
    ⟨outbox, leads_after a bugs schedule _ n⟩
  have quiet (n : Nat) : (after a bugs schedule { outbox } n).interrupted = none :=
    (quiet_or_returned (leads_after a bugs schedule _ n)
      (calm_after fair.undisturbed _ n)).resolve_right
      fun ⟨r, returned⟩ => pending n r returned
  have alive (n : Nat) : (after a bugs schedule { outbox } n).crashed = false := by
    induction n with
    | zero => rfl
    | succ n ih => exact ((transition_step _ _).stays_alive_of_completes completes (reached n)
        (quiet n)).trans ih
  obtain ⟨n, late⟩ := exists_late completes fair quiet alive
  exact false_of_late completes (fair.later n) (fun _ => rfl) (fun k => reached (n + k))
    (fun k => quiet (n + k))
    (fun k => alive (n + k)) (fun k => pending (n + k)) late

end Completing

/-! ## Returning -/

/-- A pool of no workers takes no range. -/
theorem scans_advance (idle : poolSize a = 0) (none : s.scans = []) (early : Bool)
    (looks : Option Nat) : (s.advance a bugs early looks).scans = [] := by
  unfold advance
  split
  case h_1 =>
      simp only
      split <;> exact none
  case h_2 =>
      rw [note_eq]
      exact none
  case h_3 next _ =>
      obtain ⟨records, went⟩ := goOn_eq a bugs s next
      rw [went]
      exact none
  case h_5 =>
      split
      · exact none
      · split <;> exact none
  case h_6 | h_9 =>
      simp only
      split <;> split <;> exact none
  case h_8 => simp [idle, none]
  all_goals exact none

theorem scans_step (idle : poolSize a = 0) (none : s.scans = []) (m : Move) :
    (s.step a bugs m).scans = [] := by
  unfold step
  split
  · exact none
  cases m with
  | pipeline early looks => exact scans_advance idle none early looks
  | search i looks =>
      simp only
      split
      · exact (aside_searchStep s _ i _ looks).scans.trans none
      · exact none
  | scan i looks => simp [none]
  | cancel | ring => exact none
  | conclude ending => exact (aside_conclude s ending).scans.trans none
  | close => exact (aside_closeStep s).scans.trans none

theorem scans_after (idle : poolSize a = 0) (outbox : Outbox) (schedule : Nat → Move) :
    ∀ n, (after a bugs schedule { outbox } n).scans = []
  | 0 => rfl
  | n + 1 => scans_step idle (scans_after idle outbox schedule n) _

/-- **An analysis with a run that returns undisturbed completes.** -/
theorem completes_of_returned {outbox : Outbox} {n : Nat} {r : RunResult}
    (undisturbed : ∀ n, (schedule n).isDisturbance = false)
    (returned : (after a bugs schedule { outbox } n).front = .returned r) :
    a.Completes bugs (a.builder.build a.options.strict .silent) := by
  obtain ⟨m, error, toEnd, fromEnd, -, ended, quiet, -⟩ :=
    exists_end_of_undisturbed (leads_after a bugs schedule _ n)
      (calm_after undisturbed _ n) returned
  have reached : Reached a bugs m := ⟨outbox, toEnd⟩
  have fits := reached.fits
  rw [ended] at fits
  cases error with
  | some e =>
      cases e with
      | build e =>
          obtain ⟨w, had, fails⟩ := fits
          rw [← had quiet, fails]
          trivial
      | noEntryPoints =>
          obtain ⟨p, prepared, bare⟩ := fits
          obtain ⟨b, built, rfl⟩ := reached.built_of_quiet quiet prepared
          rw [built]
          exact .inl bare
      | search | scan => exact absurd (quiet.symm.trans fits) (by simp)
      | timeout | interrupted => exact fits.elim
  | none =>
      obtain ⟨p, prepared, entry⟩ := fits
      obtain ⟨b, built, rfl⟩ := reached.built_of_quiet quiet prepared
      have past : searchIsOver m.stage := by rw [ended]; trivial
      rw [built]
      refine .inr ⟨fun idle => ?_, fun bug targets known targeted => ?_, ?_⟩
      · -- the ranges of the graph have been given to workers, and there are none
        have submitted := Reached.ranges_submitted ⟨outbox, leads_after a bugs schedule _ n⟩
        rw [fromEnd.stays_ended ended, scans_after idle] at submitted
        have ranges := congrArg List.length submitted
        simp only [unscanned, RunState.ranges, partitions, List.map_nil, List.nil_append,
          List.length_nil, List.length_map, List.length_range] at ranges
        omega
      · rcases reached.over_searched prepared past quiet known targeted with ⟨_, _, found, -⟩ |
          ⟨⟨_, failed⟩, -⟩
        · simp [found]
        · simp [failed]
      · exact allStorable_of_over toEnd prepared past quiet

/-- **A fair run returns if and only if the analysis completes.** -/
theorem exists_returned_iff (outbox : Outbox) (fair : FairToAll schedule) :
    (∃ n r, (after a bugs schedule { outbox } n).front = .returned r) ↔
      a.Completes bugs (a.builder.build a.options.strict .silent) :=
  ⟨fun ⟨_, _, returned⟩ => completes_of_returned fair.undisturbed returned,
    fun completes => exists_returned_of_completes completes outbox fair⟩

end RunState

end Exposure
