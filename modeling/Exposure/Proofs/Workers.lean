/-
# Proofs.Workers — what the workers of the bugs leave behind

A worker searches its bug, counts, stores and uploads.  `Holds` says for every
step of a worker what has been found and what is stored for its bug by then; in
particular a finished worker has stored what it found, or it found nothing to
store because its search failed or because the run was interrupted before it
began.  Workers share the map of paths, but no two of them have the same bug, so
none touches what another one has stored.
-/
import Exposure.Proofs.Dicts
import Exposure.Proofs.Pipeline

namespace Exposure

set_option autoImplicit false

namespace RunState

variable {a : Analysis} {bugs : Dict ConstructSet} {s t : RunState} {p : Prepared}

/-! ## Bugs of jobs -/

/-- A job is for a bug that has targets. -/
theorem Reached.job_of_bug (reached : Reached a bugs s) {j : SearchJob} (member : j ∈ s.searches) :
    (j.bug, j.targets) ∈ bugs.entries ∧ j.targets.size ≠ 0 := by
  have taken : (j.bug, j.targets) ∈ bugs.entries.filter hasTargets := by
    rw [← reached.submitted]
    exact List.mem_append_left _ (List.mem_map.2 ⟨j, member, rfl⟩)
  simpa [hasTargets] using taken

/-- No two jobs, taken or still to be taken, have the same bug. -/
theorem Reached.bugs_distinct (reached : Reached a bugs s) :
    (s.searches.map (·.bug) ++ ((unsubmitted bugs s.stage).filter hasTargets).map (·.1)).Nodup := by
  have all : ((bugs.entries.filter hasTargets).map (·.1)).Nodup :=
    bugs.nodup_keys.sublist (List.filter_sublist.map _)
  rw [← reached.submitted, List.map_append, List.map_map] at all
  exact all

theorem Reached.job_unique (reached : Reached a bugs s) {m n : Nat} {i j : SearchJob}
    (first : s.searches[m]? = some i) (second : s.searches[n]? = some j) (same : i.bug = j.bug) :
    m = n := by
  have below : m < (s.searches.map (·.bug)).length := by
    simpa using (List.getElem?_eq_some_iff.1 first).1
  refine (List.getElem?_inj below (List.nodup_append.1 reached.bugs_distinct).1).1 ?_
  simp [first, second, same]

/-! ## Steps of a worker -/

/-- What the search of a job can have found by now. -/
def Found (a : Analysis) (p : Prepared) (s : RunState) (j : SearchJob) (found : List Path) : Prop :=
  ∃ w, s.HadWatch w ∧ p.search a j.targets w = .found found

/-- Why a finished job has left nothing behind. -/
def LeftOut (a : Analysis) (p : Prepared) (s : RunState) (j : SearchJob) : Prop :=
  s.interrupted ≠ none ∨ ∃ m w, s.HadWatch w ∧ p.search a j.targets w = .failed m

/-- What a job has found and stored by a step of its worker. -/
def Holds (a : Analysis) (p : Prepared) (s : RunState) (j : SearchJob) : SearchTask → Prop
  | .waiting => s.paths.get? j.bug = none
  | .searching => s.paths.get? j.bug = none
  | .counting found => s.paths.get? j.bug = none ∧ Found a p s j found
  | .storing found => s.paths.get? j.bug = none ∧ Found a p s j found
  | .uploading records =>
      s.paths.get? j.bug = some records ∧
        ∃ found, Found a p s j found ∧ pathRecords p.graph j.bug found = some records
  | .finished =>
      (∃ found records, Found a p s j found ∧ pathRecords p.graph j.bug found = some records ∧
          s.paths.get? j.bug = some records) ∨
        (s.paths.get? j.bug = none ∧ LeftOut a p s j)

theorem Transition.keeps_found (step : Transition a bugs s t) {j : SearchJob} {found : List Path} :
    Found a p s j found → Found a p t j found
  | ⟨w, had, outcome⟩ => ⟨w, step.hadWatch had, outcome⟩

theorem Transition.keeps_leftOut (step : Transition a bugs s t) {j : SearchJob} :
    LeftOut a p s j → LeftOut a p t j
  | .inl interrupted => .inl fun quiet => interrupted (step.stays_interrupted quiet)
  | .inr ⟨m, w, had, outcome⟩ => .inr ⟨m, w, step.hadWatch had, outcome⟩

theorem Transition.keeps_holds (step : Transition a bugs s t) {j : SearchJob}
    (kept : t.paths.get? j.bug = s.paths.get? j.bug) :
    ∀ {task : SearchTask}, Holds a p s j task → Holds a p t j task
  | .waiting, nothing => kept.trans nothing
  | .searching, nothing => kept.trans nothing
  | .counting _, ⟨nothing, found⟩ => ⟨kept.trans nothing, step.keeps_found found⟩
  | .storing _, ⟨nothing, found⟩ => ⟨kept.trans nothing, step.keeps_found found⟩
  | .uploading _, ⟨stored, paths, found, recorded⟩ =>
      ⟨kept.trans stored, paths, step.keeps_found found, recorded⟩
  | .finished, .inl ⟨paths, records, found, recorded, stored⟩ =>
      .inl ⟨paths, records, step.keeps_found found, recorded, kept.trans stored⟩
  | .finished, .inr ⟨nothing, why⟩ => .inr ⟨kept.trans nothing, step.keeps_leftOut why⟩

/-- The jobs after one of them went on. -/
theorem getElem?_setTask {i n : Nat} {task : SearchTask} {job j : SearchJob}
    (found : s.searches[i]? = some job) (here : (s.setTask i task).searches[n]? = some j) :
    (n = i ∧ j = { job with task }) ∨ (n ≠ i ∧ s.searches[n]? = some j) := by
  by_cases same : i = n
  · subst same
    exact .inl ⟨rfl, by simpa [setTask, found] using here.symm⟩
  · exact .inr ⟨Ne.symm same, by simpa [setTask, List.getElem?_modify, same] using here⟩

/-- Nothing is stored for a bug that no worker has. -/
theorem Reached.stored_job (reached : Reached a bugs s) {bug : String}
    (stored : s.paths.get? bug ≠ none) : ∃ j ∈ s.searches, j.bug = bug := by
  revert stored
  refine reached.invariant (P := fun s => s.paths.get? bug ≠ none → ∃ j ∈ s.searches, j.bug = bug)
    (by simp) ?_
  intro s t _ before step stored
  have moved {i : Nat} {task : SearchTask} (known : ∃ j ∈ s.searches, j.bug = bug) :
      ∃ j ∈ (s.setTask i task).searches, j.bug = bug := by
    obtain ⟨j, member, same⟩ := known
    have old : (j.bug, j.targets) ∈ s.searches.map fun j => (j.bug, j.targets) :=
      List.mem_map.2 ⟨j, member, rfl⟩
    rw [← bugs_setTask s i task] at old
    obtain ⟨j', member', eq⟩ := List.mem_map.1 old
    exact ⟨j', member', (Prod.mk.inj eq).1.trans same⟩
  cases step
  case submits =>
      obtain ⟨j, member, same⟩ := before stored
      exact ⟨j, List.mem_append_left _ member, same⟩
  case stores i job paths records prepared found task _ =>
      by_cases this : job.bug = bug
      · exact moved ⟨job, List.mem_of_getElem? found, this⟩
      · refine moved (before ?_)
        simpa [setTask, Dict.get?_insert_of_ne _ this] using stored
  case starts | skips | fails | finds | counts | uploads => exact moved (before stored)
  all_goals exact before stored

/-- Nothing is stored for a bug that is still to be given to a worker. -/
theorem Reached.not_stored (reached : Reached a bugs s) {bug : String} {targets : ConstructSet}
    {rest : List (String × ConstructSet)} {submitted : Nat}
    (stage : s.stage = .submittingBugs ((bug, targets) :: rest) submitted)
    (targeted : targets.size ≠ 0) : s.paths.get? bug = none := by
  refine Classical.byContradiction fun stored => ?_
  obtain ⟨j, member, same⟩ := reached.stored_job stored
  have distinct := reached.bugs_distinct
  rw [stage] at distinct
  have next : bug ∈ ((unsubmitted bugs (.submittingBugs ((bug, targets) :: rest) submitted)).filter
      hasTargets).map (·.1) := by
    simp [unsubmitted, hasTargets, targeted]
  exact (List.nodup_append.1 distinct).2.2 _ (List.mem_map.2 ⟨j, member, same⟩) _ next rfl

/-- **What every job holds.** By each step of its worker a job has found and stored what the step
says, whatever the other workers have done in between. -/
theorem Reached.holds (reached : Reached a bugs s) (prepared : s.prepared = some p) {n : Nat}
    {j : SearchJob} (here : s.searches[n]? = some j) : Holds a p s j j.task := by
  revert n j prepared
  refine reached.invariant (P := fun s => s.prepared = some p → ∀ {n : Nat} {j : SearchJob},
    s.searches[n]? = some j → Holds a p s j j.task) (by simp) ?_
  intro s t reached before step prepared n j here
  have kept (prepared : s.prepared = some p) (here : s.searches[n]? = some j)
      (paths : t.paths.get? j.bug = s.paths.get? j.bug) : Holds a p t j j.task :=
    step.keeps_holds paths (before prepared here)
  -- the worker of one job goes on, all other jobs hold what they did
  have goesOn {i : Nat} {job : SearchJob} {now next : SearchTask} (prepared : s.prepared = some p)
      (found : s.searches[i]? = some job) (task : job.task = now)
      (here : (s.setTask i next).searches[n]? = some j)
      (others : n ≠ i → s.searches[n]? = some j → t.paths.get? j.bug = s.paths.get? j.bug)
      (own : Holds a p s job now → Holds a p t { job with task := next } next) :
      Holds a p t j j.task := by
    rcases getElem?_setTask found here with ⟨-, rfl⟩ | ⟨apart, old⟩
    · exact own (task ▸ before prepared found)
    · exact kept prepared old (others apart old)
  cases step
  case builds stage _ _ =>
      -- there are no jobs yet
      have submitted := reached.submitted
      rw [stage] at submitted
      have none : s.searches = [] := by simpa [unsubmitted] using submitted
      simp [none, addRecords] at here
  case submits bug targets rest submitted stage targeted room =>
      rcases Nat.lt_or_ge n s.searches.length with old | new
      · rw [List.getElem?_append_left old] at here
        exact kept prepared here rfl
      · rw [List.getElem?_append_right new] at here
        obtain rfl : _ = j := List.mem_singleton.1 (List.mem_of_getElem? here) |>.symm
        exact reached.not_stored stage targeted
  case starts found task quiet =>
      exact goesOn prepared found task here (fun _ _ => rfl) fun nothing => nothing
  case skips found task interrupted =>
      exact goesOn prepared found task here (fun _ _ => rfl) fun nothing =>
        .inr ⟨nothing, .inl (Option.isSome_iff_ne_none.1 interrupted)⟩
  case fails p' i job looks m prepared' found task outcome records measures =>
      obtain rfl : p' = p := Option.some.inj (prepared'.symm.trans prepared)
      exact goesOn prepared found task here (fun _ _ => rfl) fun nothing =>
        .inr ⟨nothing, .inr ⟨m, _, hadWatch_watch s looks, outcome⟩⟩
  case finds p' i job looks paths prepared' found task outcome =>
      obtain rfl : p' = p := Option.some.inj (prepared'.symm.trans prepared)
      exact goesOn prepared found task here (fun _ _ => rfl) fun nothing =>
        ⟨nothing, _, hadWatch_watch s looks, outcome⟩
  case counts prepared' found task =>
      exact goesOn prepared found task here (fun _ _ => rfl) fun holds => holds
  case stores p' i job paths records prepared' found task recorded =>
      obtain rfl : p' = p := Option.some.inj (prepared'.symm.trans prepared)
      refine goesOn prepared found task here (fun apart old => Dict.get?_insert_of_ne _ ?_ _)
        fun holds => ⟨Dict.get?_insert_self _ _ _, paths, holds.2, recorded⟩
      exact fun same => apart (reached.job_unique old found same.symm)
  case uploads found task capped measures =>
      refine goesOn prepared found task here (fun _ _ => rfl) fun holds => ?_
      obtain ⟨stored, paths, search, recorded⟩ := holds
      exact .inl ⟨paths, _, search, recorded, stored⟩
  all_goals exact kept prepared here rfl

/-! ## When the search is over -/

/-- Somebody has built the graph before a worker is given a bug. -/
theorem Reached.prepared_of_job (reached : Reached a bugs s) {j : SearchJob}
    (member : j ∈ s.searches) : ∃ p, s.prepared = some p := by
  refine Option.ne_none_iff_exists'.1 ?_
  refine reached.invariant (P := fun s => s.searches ≠ [] → s.prepared ≠ none) (by simp) ?_
    (List.ne_nil_of_mem member)
  intro s t reached before step job
  cases step
  case builds => simp
  case submits stage _ _ =>
      have fits := reached.fits
      rw [stage] at fits
      obtain ⟨p, prepared, -⟩ := fits
      simp [prepared]
  case starts | skips | fails | finds | counts | stores | uploads =>
      refine before fun none => job ?_
      simp [setTask, addRecords, addMeasures, none]
  all_goals exact before job

/-- Nothing changes what the search works on. -/
theorem Reached.keeps_prepared (reached : Reached a bugs s) (leads : Leads a bugs s t)
    (prepared : s.prepared = some p) : t.prepared = some p := by
  induction leads with
  | refl => exact prepared
  | @tail m t first last ih =>
      cases last
      case builds stage _ _ =>
          have fits := (reached.leads first).fits
          rw [stage] at fits
          exact absurd (fits.symm.trans ih) nofun
      all_goals exact ih

/-- What is stored was found by the search of a bug. -/
theorem Reached.stored_found (reached : Reached a bugs s) {bug : String} {records : List PathRecord}
    (stored : s.paths.get? bug = some records) :
    ∃ p targets found w, s.prepared = some p ∧ bugs.get? bug = some targets ∧ targets.size ≠ 0 ∧
      s.HadWatch w ∧ p.search a targets w = .found found ∧
      pathRecords p.graph bug found = some records := by
  obtain ⟨j, member, rfl⟩ : ∃ j ∈ s.searches, j.bug = bug := reached.stored_job (by simp [stored])
  obtain ⟨p, prepared⟩ := reached.prepared_of_job member
  obtain ⟨n, here⟩ := List.mem_iff_getElem?.1 member
  obtain ⟨known, targeted⟩ := reached.job_of_bug member
  have holds := reached.holds prepared here
  have found : ∃ found, Found a p s j found ∧ pathRecords p.graph j.bug found = some records := by
    cases task : j.task with
    | waiting | searching | counting | storing => simp [task, Holds, stored] at holds
    | uploading =>
        rw [task] at holds
        obtain ⟨same, found, search, recorded⟩ := holds
        exact ⟨found, search, recorded.trans (same.symm.trans stored)⟩
    | finished =>
        rw [task] at holds
        rcases holds with ⟨found, _, search, recorded, same⟩ | ⟨nothing, -⟩
        · exact ⟨found, search, recorded.trans (same.symm.trans stored)⟩
        · simp [stored] at nothing
  obtain ⟨found, ⟨w, had, outcome⟩, recorded⟩ := found
  exact ⟨p, j.targets, found, w, prepared, Dict.get?_eq_some_iff.2 known, targeted, had,
    outcome, recorded⟩

theorem Reached.prepared_of_over (reached : Reached a bugs s) (past : searchIsOver s.stage) :
    ∃ p, s.prepared = some p := by
  have fits := reached.fits
  match stage : s.stage, past with
  | .noting _ .scan, _ | .submittingRanges _, _ | .awaitingScan, _ | .noting _ (.finish none), _
  | .ended none, _ =>
      rw [stage] at fits
      obtain ⟨p, prepared, -⟩ := fits
      exact ⟨p, prepared⟩

theorem unsubmitted_of_over {stage : Stage} (past : searchIsOver stage) :
    unsubmitted bugs stage = [] := by
  match stage, past with
  | .noting _ .scan, _ | .submittingRanges _, _ | .awaitingScan, _ | .noting _ (.finish none), _
  | .ended none, _ => rfl

/-- When the search is over, every bug with targets has had a worker. -/
theorem Reached.over_job (reached : Reached a bugs s) (past : searchIsOver s.stage) {bug : String}
    {targets : ConstructSet} (known : bugs.get? bug = some targets) (targeted : targets.size ≠ 0) :
    ∃ j ∈ s.searches, j.bug = bug ∧ j.targets = targets ∧ j.task = .finished := by
  have all : s.searches.map (fun j => (j.bug, j.targets)) = bugs.entries.filter hasTargets := by
    simpa [unsubmitted_of_over past] using reached.submitted
  have member : (bug, targets) ∈ s.searches.map fun j => (j.bug, j.targets) := by
    rw [all, List.mem_filter]
    exact ⟨Dict.get?_eq_some_iff.1 known, by simpa [hasTargets] using targeted⟩
  obtain ⟨j, taken, same⟩ := List.mem_map.1 member
  obtain ⟨rfl, rfl⟩ := Prod.mk.inj same
  exact ⟨j, taken, rfl, rfl, reached.searches_finished past j taken⟩

/-- What is stored for the bug of a worker that is finished, if nothing has interrupted the run. -/
theorem Reached.finished_searched (reached : Reached a bugs s) (prepared : s.prepared = some p)
    (quiet : s.interrupted = none) {j : SearchJob} (taken : j ∈ s.searches)
    (task : j.task = .finished) :
    (∃ found records, p.search a j.targets .silent = .found found ∧
        pathRecords p.graph j.bug found = some records ∧ s.paths.get? j.bug = some records) ∨
      ((∃ m, p.search a j.targets .silent = .failed m) ∧ s.paths.get? j.bug = none) := by
  obtain ⟨n, here⟩ := List.mem_iff_getElem?.1 taken
  have holds := reached.holds prepared here
  rw [task] at holds
  rcases holds with ⟨found, records, ⟨w, had, outcome⟩, recorded, stored⟩ |
    ⟨nothing, interrupted | ⟨m, w, had, outcome⟩⟩
  · exact .inl ⟨found, records, had quiet ▸ outcome, recorded, stored⟩
  · exact absurd quiet interrupted
  · exact .inr ⟨⟨m, had quiet ▸ outcome⟩, nothing⟩

/-- What is stored for a bug when the search is over and nothing has interrupted it. -/
theorem Reached.over_searched (reached : Reached a bugs s) (prepared : s.prepared = some p)
    (past : searchIsOver s.stage) (quiet : s.interrupted = none) {bug : String}
    {targets : ConstructSet} (known : bugs.get? bug = some targets) (targeted : targets.size ≠ 0) :
    (∃ found records, p.search a targets .silent = .found found ∧
        pathRecords p.graph bug found = some records ∧ s.paths.get? bug = some records) ∨
      ((∃ m, p.search a targets .silent = .failed m) ∧ s.paths.get? bug = none) := by
  obtain ⟨j, taken, rfl, rfl, task⟩ := reached.over_job past known targeted
  exact reached.finished_searched prepared quiet taken task

end RunState

end Exposure
