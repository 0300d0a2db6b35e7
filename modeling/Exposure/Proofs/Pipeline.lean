/-
# Proofs.Pipeline — how far a run has come

The stage of the pipeline says what has been done: which bugs were submitted and
which of them are finished, which ranges were submitted and scanned, and what
has been found.  Each section below states one such fact, shows that every
transition keeps it, and ends with what holds in all runs.

Computations look at a watch, and the only thing known of it is `HadWatch`: as
long as nothing has interrupted the run, it was the silent one.  So one set of
invariants serves runs with and without an interruption.
-/
import Exposure.Proofs.Transition

namespace Exposure

set_option autoImplicit false

namespace RunState

variable {a : Analysis} {bugs : Dict ConstructSet} {s t : RunState}

/-! ## Interruptions -/

/-- A watch that a computation of the run can have had so far. -/
def HadWatch (s : RunState) (w : Watch) : Prop := s.interrupted = none → w = .silent

theorem hadWatch_watch (s : RunState) (looks : Option Nat) : s.HadWatch (s.watch looks) :=
  fun quiet => watch_of_quiet quiet looks

theorem Transition.hadWatch (step : Transition a bugs s t) {w : Watch} (had : s.HadWatch w) :
    t.HadWatch w :=
  fun quiet => had (step.stays_interrupted quiet)

theorem Transition.keeps_interrupt (step : Transition a bugs s t) {cause : Interrupt}
    (interrupted : s.interrupted = some cause) : t.interrupted = some cause := by
  cases step
  case cancels | timesOut | returns => simp [interrupted]
  all_goals exact interrupted

/-- Only the caller, a timeout and the return interrupt a run. -/
theorem Reached.interrupted_cases (reached : Reached a bugs s)
    (interrupted : s.interrupted ≠ none) :
    s.caller ≠ none ∨ (∃ notes, s.front = .closing notes (some .timeout)) ∨
      ∃ r, s.front = .returned r := by
  revert interrupted
  refine reached.invariant (P := fun s => s.interrupted ≠ none → s.caller ≠ none ∨
    (∃ notes, s.front = .closing notes (some .timeout)) ∨ ∃ r, s.front = .returned r) (by simp) ?_
  intro s t _ before step interrupted
  cases step
  case cancels => simp
  case timesOut => exact .inr (.inl ⟨_, rfl⟩)
  case returns => exact .inr (.inr ⟨_, rfl⟩)
  case concludes front _ | heedsCaller front _ =>
      exact .inl (by simpa [front] using before interrupted)
  case closes notes error front =>
      rcases before interrupted with caller | ⟨_, closing⟩ | ⟨_, returned⟩
      · exact .inl caller
      · obtain ⟨-, rfl⟩ : _ ∧ error = _ := by simpa [front] using closing
        exact .inr (.inl ⟨notes, rfl⟩)
      · simp [front] at returned
  all_goals exact before interrupted

/-! ## The end of the pipeline and the front -/

theorem Transition.stays_ended (step : Transition a bugs s t) {error : Option RunError}
    (ended : s.stage = .ended error) : t.stage = .ended error := by
  cases step <;> first
    | exact ended
    | simp_all

theorem Leads.stays_ended (leads : Leads a bugs s t) {error : Option RunError}
    (ended : s.stage = .ended error) : t.stage = .ended error := by
  induction leads with
  | refl => exact ended
  | tail _ last ih => exact last.stays_ended ih

/-- What the front returns for has happened. -/
theorem Reached.closing_cases (reached : Reached a bugs s) {error : Option RunError}
    (closing : ∃ notes, s.front = .closing notes error) :
    s.stage = .ended error ∨ (error = some .timeout ∧ s.rang = true) ∨
      ∃ cause, error = some (.interrupted cause) ∧ s.caller = some cause := by
  revert closing
  refine reached.invariant (P := fun s => (∃ notes, s.front = .closing notes error) →
    s.stage = .ended error ∨ (error = some .timeout ∧ s.rang = true) ∨
      ∃ cause, error = some (.interrupted cause) ∧ s.caller = some cause) (by simp) ?_
  intro s t _ before step closing
  have later (closing : ∃ notes, s.front = .closing notes error) (rang : s.rang = true →
      t.rang = true)
      (caller : ∀ cause, s.caller = some cause → t.caller = some cause) :
      t.stage = .ended error ∨ (error = some .timeout ∧ t.rang = true) ∨
        ∃ cause, error = some (.interrupted cause) ∧ t.caller = some cause := by
    rcases before closing with ended | ⟨same, rung⟩ | ⟨cause, same, lost⟩
    · exact .inl (step.stays_ended ended)
    · exact .inr (.inl ⟨same, rang rung⟩)
    · exact .inr (.inr ⟨cause, same, caller cause lost⟩)
  cases step
  case concludes stage =>
      obtain ⟨_, same⟩ := closing
      obtain ⟨-, rfl⟩ : _ ∧ _ = error := by simpa using same
      exact .inl stage
  case timesOut rang =>
      obtain ⟨_, same⟩ := closing
      obtain ⟨-, rfl⟩ : _ ∧ _ = error := by simpa using same
      exact .inr (.inl ⟨rfl, rang⟩)
  case heedsCaller cause _ caller =>
      obtain ⟨_, same⟩ := closing
      obtain ⟨-, rfl⟩ : _ ∧ _ = error := by simpa using same
      exact .inr (.inr ⟨cause, rfl, caller⟩)
  case closes n notes _ front =>
      obtain ⟨_, same⟩ := closing
      obtain ⟨-, rfl⟩ : _ ∧ _ = error := by simpa using same
      exact later ⟨n :: notes, front⟩ id fun _ lost => lost
  case returns => simp at closing
  case rings => exact later closing (fun _ => rfl) fun _ lost => lost
  case cancels => exact later closing id fun _ lost => by simp [lost]
  all_goals exact later closing id fun _ lost => lost

/-! ## The build -/

/-- What the search and the scan work on comes from a build of the run. -/
theorem Reached.built (reached : Reached a bugs s) {p : Prepared} (prepared : s.prepared = some p) :
    ∃ b w, s.HadWatch w ∧ a.builder.build a.options.strict w = .built b ∧ p = .ofBuilt a b := by
  revert prepared
  refine reached.invariant (P := fun s => s.prepared = some p →
    ∃ b w, s.HadWatch w ∧ a.builder.build a.options.strict w = .built b ∧
      p = .ofBuilt a b) (by simp) ?_
  intro s t _ before step prepared
  have later (prepared : s.prepared = some p) :
      ∃ b w, t.HadWatch w ∧ a.builder.build a.options.strict w = .built b ∧ p = .ofBuilt a b := by
    obtain ⟨b, w, had, builds, same⟩ := before prepared
    exact ⟨b, w, step.hadWatch had, builds, same⟩
  cases step
  case builds looks b stage built records =>
      exact ⟨b, _, fun quiet => watch_of_quiet quiet looks, built, (Option.some.inj prepared).symm⟩
  all_goals exact later prepared

/-- The graph is built and no entry point is left. -/
def HasNoEntry (s : RunState) : Prop := ∃ p, s.prepared = some p ∧ p.entries = []

/-- The graph is built and has entry points. -/
def HasEntry (s : RunState) : Prop := ∃ p, s.prepared = some p ∧ p.entries ≠ []

/-- What it takes for the pipeline to end with an error. -/
def EndsWith (a : Analysis) (s : RunState) : RunError → Prop
  | .build e => ∃ w, s.HadWatch w ∧ a.builder.build a.options.strict w = .failed e
  | .noEntryPoints => s.HasNoEntry
  | .search cause => s.interrupted = some cause
  | .scan cause => s.interrupted = some cause
  | .timeout => False
  | .interrupted _ => False

/-- What a stage says about the build and about how the pipeline ended. -/
def Fits (a : Analysis) (s : RunState) : Stage → Prop
  | .building => s.prepared = none
  | .noting _ (.finish (some e)) => e = .noEntryPoints ∧ s.HasNoEntry
  | .ended (some e) => s.EndsWith a e
  | _ => s.HasEntry

theorem Transition.keeps_endsWith (step : Transition a bugs s t)
    (prepared : t.prepared = s.prepared) :
    ∀ {e : RunError}, s.EndsWith a e → t.EndsWith a e
  | .build _, ⟨w, had, failed⟩ => ⟨w, step.hadWatch had, failed⟩
  | .noEntryPoints, ⟨p, built, bare⟩ => ⟨p, prepared.trans built, bare⟩
  | .search _, interrupted => step.keeps_interrupt interrupted
  | .scan _, interrupted => step.keeps_interrupt interrupted

theorem Transition.keeps_fits (step : Transition a bugs s t) (prepared : t.prepared = s.prepared) :
    ∀ {stage : Stage}, s.Fits a stage → t.Fits a stage
  | .building, unbuilt => prepared.trans unbuilt
  | .noting _ (.finish (some _)), ⟨same, p, built, bare⟩ => ⟨same, p, prepared.trans built, bare⟩
  | .ended (some _), ends => step.keeps_endsWith prepared ends
  | .noting _ .search, ⟨p, built, entry⟩ | .noting _ .await, ⟨p, built, entry⟩
  | .noting _ .scan, ⟨p, built, entry⟩ | .noting _ (.finish none), ⟨p, built, entry⟩
  | .submittingBugs _ _, ⟨p, built, entry⟩ | .awaitingSearch, ⟨p, built, entry⟩
  | .submittingRanges _, ⟨p, built, entry⟩ | .awaitingScan, ⟨p, built, entry⟩
  | .ended none, ⟨p, built, entry⟩ => ⟨p, prepared.trans built, entry⟩

theorem Reached.fits (reached : Reached a bugs s) : s.Fits a s.stage := by
  refine reached.invariant (P := fun s => s.Fits a s.stage) (fun _ => rfl) ?_
  intro s t _ before step
  have kept (prepared : t.prepared = s.prepared) := step.keeps_fits prepared before
  cases step
  case buildFails looks e stage fails records =>
      exact ⟨_, fun quiet => watch_of_quiet quiet looks, fails⟩
  case builds looks b stage built records =>
      by_cases bare : (Prepared.ofBuilt a b).entries = []
      · simp [Fits, HasNoEntry, bare]
      · simp [Fits, HasEntry, bare]
  case writes n notes next stage =>
      rw [stage] at before
      cases next with
      | finish error => cases error <;> exact before
      | _ => exact before
  case goesOnToEnd error stage =>
      rw [stage] at before
      match error, before with
      | none, before => exact before
      | some _, ⟨rfl, bare⟩ => exact bare
  case givesUpSearch interrupted => exact interrupted
  case givesUpScan interrupted => exact interrupted
  case goesOnToSearch stage | goesOnToAwait stage | goesOnToScan stage _ | passesOver stage _ _
      | submits stage _ _ | submitsNoMore stage | leavesSearch stage _ | submitsRanges stage _
      | submitsNoMoreRanges stage | leavesScan stage _ =>
      rw [stage] at before
      exact before
  all_goals exact kept rfl

/-! ## The bugs -/

/-- Whether a bug is given to a worker at all. -/
def hasTargets (e : String × ConstructSet) : Bool := e.2.size != 0

/-- The bugs that are still to be given to a worker. -/
def unsubmitted (bugs : Dict ConstructSet) : Stage → List (String × ConstructSet)
  | .building => bugs.entries
  | .noting _ .search => bugs.entries
  | .noting _ (.finish (some _)) => bugs.entries
  | .submittingBugs rest _ => rest
  | .ended (some (.build _)) => bugs.entries
  | .ended (some .noEntryPoints) => bugs.entries
  | _ => []

theorem map_modify {α β : Type} {f : α → α} {g : α → β} (keeps : ∀ x, g (f x) = g x) (l : List α)
    (i : Nat) : (l.modify i f).map g = l.map g := by
  apply List.ext_getElem?
  intro n
  by_cases here : i = n <;> cases found : l[n]? <;> simp [here, found, keeps]

@[simp] theorem bugs_setTask (s : RunState) (i : Nat) (task : SearchTask) :
    (s.setTask i task).searches.map (fun j => (j.bug, j.targets)) =
      s.searches.map fun j => (j.bug, j.targets) := by
  apply map_modify
  intro j
  rfl

/-- The bugs given to workers and those still to be given are the bugs with targets. -/
theorem Reached.submitted (reached : Reached a bugs s) :
    s.searches.map (fun j => (j.bug, j.targets)) ++ (unsubmitted bugs s.stage).filter hasTargets =
      bugs.entries.filter hasTargets := by
  refine reached.invariant (P := fun s => s.searches.map (fun j => (j.bug, j.targets)) ++
    (unsubmitted bugs s.stage).filter hasTargets = bugs.entries.filter hasTargets) (fun _ => rfl) ?_
  intro s t reached before step
  cases step
  case buildFails stage _ _ | goesOnToSearch stage | goesOnToAwait stage | goesOnToScan stage _
      | submitsNoMore stage | leavesSearch stage _ | submitsNoMoreRanges stage | leavesScan stage _
      | givesUpSearch stage _ | givesUpScan stage _ | submitsRanges stage _ =>
      rw [stage] at before
      exact before
  case builds looks b stage built records =>
      rw [stage] at before
      by_cases bare : (Prepared.ofBuilt a b).entries = [] <;>
        simpa [bare, unsubmitted, addRecords] using before
  case writes n notes next stage =>
      rw [stage] at before
      cases next with
      | finish error => cases error <;> exact before
      | _ => exact before
  case goesOnToEnd error stage =>
      have fits := reached.fits
      rw [stage] at before fits
      cases error with
      | none => exact before
      | some _ =>
          obtain ⟨rfl, -⟩ := fits
          exact before
  case passesOver bug targets rest _ stage empty _ =>
      rw [stage] at before
      have idle : hasTargets (bug, targets) = false := by simp [hasTargets, empty]
      simpa [unsubmitted, idle, addRecords] using before
  case submits bug targets rest _ stage targeted _ =>
      rw [stage] at before
      have busy : hasTargets (bug, targets) = true := by simp [hasTargets, targeted]
      simpa [unsubmitted, busy] using before
  case starts | skips | fails | finds | counts | stores | uploads =>
      rw [bugs_setTask]
      exact before
  all_goals exact before

theorem runningSearches_eq_zero : s.runningSearches = 0 ↔ ∀ j ∈ s.searches, j.task = .finished := by
  have isFinished (j : SearchJob) : j.isFinished = true ↔ j.task = .finished := by
    cases task : j.task <;> simp [SearchJob.isFinished, task]
  simp [runningSearches, isFinished]

/-- The pipeline has left the search behind. -/
def searchIsOver : Stage → Prop
  | .noting _ .scan => True
  | .submittingRanges _ => True
  | .awaitingScan => True
  | .noting _ (.finish none) => True
  | .ended none => True
  | _ => False

/-- The pipeline leaves the search behind when every worker is finished. -/
theorem Reached.searches_finished (reached : Reached a bugs s) (past : searchIsOver s.stage) :
    ∀ j ∈ s.searches, j.task = .finished := by
  revert past
  refine reached.invariant (P := fun s => searchIsOver s.stage →
    ∀ j ∈ s.searches, j.task = .finished)
    (fun _ => False.elim) ?_
  intro s t reached before step past
  have moved {i : Nat} {job : SearchJob} {now : SearchTask} (found : s.searches[i]? = some job)
      (task : job.task = now) (past : searchIsOver s.stage)
      (unfinished : now ≠ .finished) : False :=
    unfinished (task.symm.trans (before past job (List.mem_of_getElem? found)))
  cases step
  case leavesSearch ready => exact runningSearches_eq_zero.1 ready
  case goesOnToScan stage _ | submitsRanges stage _ | submitsNoMoreRanges stage |
      leavesScan stage _ =>
      exact before (by simp [stage, searchIsOver])
  case writes n notes next stage =>
      refine before ?_
      rw [stage]
      match next, past with
      | .scan, past | .finish none, past => exact past
  case goesOnToEnd error stage =>
      refine before ?_
      rw [stage]
      match error, past with
      | none, past => exact past
  case builds b _ _ _ =>
      by_cases bare : (Prepared.ofBuilt a b).entries = [] <;> simp [bare, searchIsOver] at past
  case buildFails | goesOnToSearch | goesOnToAwait | passesOver | submits | submitsNoMore
      | givesUpSearch | givesUpScan => exact past.elim
  case starts found task _ | skips found task _ | fails found task _ _ _ | finds found task _
      | counts found task | stores found task _ | uploads found task _ _ =>
      exact (moved found task past nofun).elim
  all_goals exact before past

/-! ## The ranges -/

/-- The ranges that are still to be given to a worker. -/
def unscanned (a : Analysis) (s : RunState) : Stage → List NodeRange
  | .submittingRanges rest => rest
  | .awaitingScan => []
  | .noting _ (.finish none) => []
  | .ended none => []
  | .ended (some (.scan _)) => []
  | _ => ranges a s

@[simp] theorem ranges_finishScan (s : RunState) (i : Nat) (f : Option Findings) :
    (s.finishScan i f).scans.map (·.range) = s.scans.map (·.range) := by
  apply map_modify
  intro j
  rfl

/-- The ranges given to workers and those still to be given are the ranges of the graph. -/
theorem Reached.ranges_submitted (reached : Reached a bugs s) :
    s.scans.map (·.range) ++ unscanned a s s.stage = ranges a s := by
  refine reached.invariant
    (P := fun s => s.scans.map (·.range) ++ unscanned a s s.stage = ranges a s)
    (fun _ => rfl) ?_
  intro s t reached before step
  cases step
  case builds b stage _ _ =>
      rw [stage] at before
      -- no range is taken before the graph is built
      have none : s.scans = [] := by simpa [unscanned] using before
      by_cases bare : (Prepared.ofBuilt a b).entries = [] <;>
        simp [none, bare, unscanned, addRecords, ranges]
  case buildFails stage _ _ | goesOnToSearch stage | goesOnToAwait stage | goesOnToScan stage _
      | submitsNoMore stage | leavesSearch stage _ | submitsNoMoreRanges stage | leavesScan stage _
      | givesUpSearch stage _ | givesUpScan stage _ | passesOver stage _ _ | submits stage _ _ =>
      rw [stage] at before
      exact before
  case submitsRanges rest stage taken =>
      rw [stage] at before
      have whole : rest.take taken ++ rest.drop taken = rest := List.take_append_drop taken rest
      simpa [unscanned, ranges, whole, Function.comp_def] using before
  case writes n notes next stage =>
      rw [stage] at before
      cases next with
      | finish error => cases error <;> exact before
      | _ => exact before
  case goesOnToEnd error stage =>
      have fits := reached.fits
      rw [stage] at before fits
      cases error with
      | none => exact before
      | some _ =>
          obtain ⟨rfl, -⟩ := fits
          exact before
  case scans =>
      rw [ranges_finishScan]
      exact before
  all_goals exact before

theorem runningScans_eq_zero : s.runningScans = 0 ↔ ∀ j ∈ s.scans, j.finished = true := by
  simp [runningScans]

/-- A range whose scan is finished has the findings of that scan. -/
theorem Reached.scanned (reached : Reached a bugs s) {j : ScanJob} (member : j ∈ s.scans)
    (finished : j.finished = true) :
    ∃ p w, s.prepared = some p ∧ s.HadWatch w ∧ j.findings = p.scan a j.range w := by
  revert j
  refine reached.invariant (P := fun s => ∀ {j : ScanJob}, j ∈ s.scans → j.finished = true →
    ∃ p w, s.prepared = some p ∧ s.HadWatch w ∧ j.findings = p.scan a j.range w) (by simp) ?_
  intro s t reached before step j member finished
  have later (member : j ∈ s.scans) (prepared : t.prepared = s.prepared) :
      ∃ p w, t.prepared = some p ∧ t.HadWatch w ∧ j.findings = p.scan a j.range w := by
    obtain ⟨p, w, built, had, same⟩ := before member finished
    exact ⟨p, w, prepared.trans built, step.hadWatch had, same⟩
  cases step
  case builds stage _ _ =>
      obtain ⟨p, _, built, _⟩ := before member finished
      have fits := reached.fits
      rw [stage] at fits
      exact absurd (fits.symm.trans built) nofun
  case submitsRanges rest stage taken =>
      rcases List.mem_append.1 member with old | new
      · exact later old rfl
      · obtain ⟨range, _, rfl⟩ := List.mem_map.1 new
        simp at finished
  case scans p i job looks prepared found unfinished records measures =>
      obtain ⟨n, here⟩ := List.mem_iff_getElem?.1 member
      by_cases same : i = n
      · subst same
        obtain rfl : _ = j := by simpa [finishScan, addRecords, addMeasures, found] using here
        exact ⟨p, _, prepared, fun quiet => watch_of_quiet quiet looks, rfl⟩
      · have old : s.scans[n]? = some j := by
          simpa [finishScan, addRecords, addMeasures, List.getElem?_modify, same] using here
        exact later (List.mem_of_getElem? old) rfl
  all_goals exact later member rfl

/-! ## The findings -/

/-- The pipeline has left the scan behind. -/
def scanIsOver : Stage → Prop
  | .noting _ (.finish none) => True
  | .ended none => True
  | _ => False

/-- The pipeline leaves the scan behind when every worker is finished. -/
theorem Reached.scans_finished (reached : Reached a bugs s) (past : scanIsOver s.stage) :
    ∀ j ∈ s.scans, j.finished = true := by
  revert past
  refine reached.invariant (P := fun s => scanIsOver s.stage → ∀ j ∈ s.scans, j.finished = true)
    (fun _ => False.elim) ?_
  intro s t reached before step past
  cases step
  case leavesScan ready => exact runningScans_eq_zero.1 ready
  case writes n notes next stage =>
      refine before ?_
      rw [stage]
      match next, past with
      | .finish none, past => exact past
  case goesOnToEnd error stage =>
      refine before ?_
      rw [stage]
      match error, past with
      | none, past => exact past
  case builds b _ _ _ =>
      by_cases bare : (Prepared.ofBuilt a b).entries = [] <;> simp [bare, scanIsOver] at past
  case buildFails | goesOnToSearch | goesOnToAwait | goesOnToScan | passesOver |
      submits | submitsNoMore
      | givesUpSearch | leavesSearch | submitsRanges | submitsNoMoreRanges | givesUpScan =>
          exact past.elim
  case scans found unfinished _ _ =>
      simp [before past _ (List.mem_of_getElem? found)] at unfinished
  all_goals exact before past

/-- Whether a note is about the findings. -/
def aboutFindings : Note → Bool
  | .findings _ => true
  | _ => false

theorem onFindings_of_not_about {n : Note} (other : aboutFindings n = false) (f : Option Findings) :
    n.onFindings f = f := by
  cases n with
  | findings => simp [aboutFindings] at other
  | _ => rfl

/-- None of these notes is about the findings. -/
def LeaveFindings (notes : List Note) : Prop := ∀ n ∈ notes, aboutFindings n = false

theorem leaveFindings_closingNotes (a : Analysis) (error : Option RunError) :
    LeaveFindings (closingNotes a error) := by
  have other : (closingNotes a error).any aboutFindings = false := by
    match error with
    | none | some .timeout | some (.build _) | some .noEntryPoints | some (.search _) |
        some (.scan _)
    | some (.interrupted _) => rfl
  simpa [LeaveFindings] using other

/-- The findings are the first thing that is written down after the scan. -/
theorem scanNotes_eq (a : Analysis) (ranges : Nat) (f : Findings) :
    ∃ notes, scanNotes a ranges f = .findings f :: notes ∧ LeaveFindings notes := by
  refine ⟨(scanNotes a ranges f).tail, rfl, ?_⟩
  intro n member
  simp only [scanNotes, List.cons_append, List.nil_append, List.tail_cons, List.mem_cons,
    List.mem_append, List.mem_map, List.not_mem_nil, or_false] at member
  rcases member with rfl | rfl | rfl | ⟨u, _, rfl⟩ | rfl | rfl | rfl <;> rfl

/-- What every closing note is, those still to be written are. -/
theorem Reached.closing_notes {Q : Note → Prop} (all : ∀ error, ∀ n ∈ closingNotes a error, Q n)
    (reached : Reached a bugs s) {notes : List Note} {error : Option RunError}
    (closing : s.front = .closing notes error) : ∀ n ∈ notes, Q n := by
  revert notes error
  refine reached.invariant (P := fun s => ∀ {notes : List Note} {error : Option RunError},
    s.front = .closing notes error → ∀ n ∈ notes, Q n) (by simp) ?_
  intro s t _ before step notes error closing
  cases step
  case concludes | timesOut | heedsCaller =>
      obtain ⟨rfl, -⟩ : _ = notes ∧ _ := by simpa using closing
      exact all _
  case closes n rest _ front =>
      obtain ⟨rfl, -⟩ : rest = notes ∧ _ := by simpa using closing
      exact fun n' member => before front n' (List.mem_cons_of_mem n member)
  case returns => simp at closing
  all_goals exact before closing

theorem Reached.leaveFindings (reached : Reached a bugs s) {notes : List Note}
    {error : Option RunError} (closing : s.front = .closing notes error) : LeaveFindings notes :=
  reached.closing_notes (leaveFindings_closingNotes a) closing

/-- What the findings are at a stage: once the scan is over and the first note about it is
written, those of all ranges together. -/
def Finds (a : Analysis) (s : RunState) : Stage → Prop
  | .noting notes (.finish none) =>
      notes = scanNotes a s.scans.length (mergedFindings s.scans) ∨
        (s.findings = some (mergedFindings s.scans) ∧ LeaveFindings notes)
  | .ended none => s.findings = some (mergedFindings s.scans)
  | _ => True

theorem finds_of_not_over {stage : Stage} (before : ¬ scanIsOver stage) : s.Finds a stage := by
  unfold Finds
  split
  case h_1 => exact absurd trivial before
  case h_2 => exact absurd trivial before
  case h_3 => trivial

theorem Finds.congr {stage : Stage} (finds : s.Finds a stage) (same : t.scans = s.scans)
    (kept : t.findings = s.findings) : t.Finds a stage := by
  unfold Finds at *
  rwa [same, kept]

theorem Reached.finds (reached : Reached a bugs s) : s.Finds a s.stage := by
  refine reached.invariant (P := fun s => s.Finds a s.stage) (fun _ => trivial) ?_
  intro s t reached before step
  cases step
  case leavesScan => exact .inl rfl
  case builds b _ _ _ =>
      apply finds_of_not_over
      by_cases bare : (Prepared.ofBuilt a b).entries = [] <;> simp [bare, scanIsOver]
  case writes n notes next stage =>
      rw [stage] at before
      match next, before with
      | .finish none, .inl fresh =>
          obtain ⟨rest, eq, leave⟩ := scanNotes_eq a s.scans.length (mergedFindings s.scans)
          obtain ⟨rfl, rfl⟩ := List.cons.inj (fresh.trans eq)
          exact .inr ⟨rfl, leave⟩
      | .finish none, .inr ⟨found, leave⟩ =>
          refine .inr ⟨(onFindings_of_not_about (leave n List.mem_cons_self) _).trans found, ?_⟩
          exact fun n' member => leave n' (List.mem_cons_of_mem n member)
      | .search, _ | .await, _ | .scan, _ | .finish (some _), _ => trivial
  case goesOnToEnd error stage =>
      rw [stage] at before
      match error, before with
      | none, .inl fresh => simp [scanNotes] at fresh
      | none, .inr ⟨found, _⟩ => exact found
      | some _, _ => exact trivial
  case buildFails | goesOnToSearch | goesOnToAwait | goesOnToScan | passesOver |
      submits | submitsNoMore
      | givesUpSearch | leavesSearch | submitsRanges | submitsNoMoreRanges | givesUpScan => trivial
  case scans found unfinished _ _ =>
      refine finds_of_not_over fun past => ?_
      simp [reached.scans_finished past _ (List.mem_of_getElem? found)] at unfinished
  case closes n notes error front =>
      refine before.congr ?_ ?_
      · rfl
      · exact onFindings_of_not_about (reached.leaveFindings front n List.mem_cons_self) _
  all_goals exact before.congr rfl rfl

end RunState

end Exposure
