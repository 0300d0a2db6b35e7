/-
# Proofs.Transition — what one step of a run can do

`step` is a function of the state and the move.  Every argument about runs asks
the other way round: what may a step have changed, and under which conditions?
`Transition a bugs s t` answers once, with one case for everything that a party
can do, and `transition_step` says that a step does nothing else.  The new state
of a case is written as a record update of the old one, so whatever a case does
not mention is the same by `rfl`.

`Leads` is any number of transitions, `Reached` collects the states of all runs;
`Reached.invariant` carries a statement about steps over to runs, and
`exists_return` finds the state whose snapshot a run returned.
-/
import Exposure.Analysis.Run
import Mathlib.Logic.Relation

namespace Exposure

set_option autoImplicit false

/-! ## Notes -/

namespace Note

/-- The statistics after a note. -/
def onStats (n : Note) (stats : Dict String) : Dict String :=
  match n with
  | .stat key value => stats.insert key value
  | _ => stats

/-- The graph after a note. -/
def onGraph (n : Note) (graph : Option Callgraph) : Option Callgraph :=
  match n with
  | .graph g => some g
  | _ => graph

/-- The findings after a note. -/
def onFindings (n : Note) (findings : Option Findings) : Option Findings :=
  match n with
  | .findings f => some f
  | _ => findings

end Note

/-! ## What the search and the scan are given -/

/-- What is left of a build for the search and the scan. -/
def Prepared.ofBuilt (a : Analysis) (b : Built) : Prepared :=
  let graph := Callgraph.ofRaw b.graph ((a.resolver.orElse fun _ => b.resolver).getD .nothing)
  { graph
    entries := (RunState.keptEntries a graph b.entries).filterMap (·.2)
    apps := (a.options.apps.orElse fun _ => b.apps).getD (.ofList []) }

/-- The search of the bug of a job. -/
def Prepared.search (p : Prepared) (a : Analysis) (targets : ConstructSet) (watch : Watch) :
    BugSearch :=
  searchBug a.options.shortestOnly a.search p.graph p.entries targets watch

/-- The findings of a range, if its scan comes to its end. -/
def Prepared.scan (p : Prepared) (a : Analysis) (range : NodeRange) (watch : Watch) :
    Option Findings :=
  match (RunState.scanner a p).run p.graph.scanGraph range watch with
  | .error _ => none
  | .ok outcome => if outcome.failure.isSome then none else some outcome.findings

namespace RunState

variable {a : Analysis} {bugs : Dict ConstructSet}

@[simp] theorem addRecords_nil (s : RunState) : s.addRecords [] = s := by
  simp [addRecords]

@[simp] theorem addMeasures_nil (s : RunState) : s.addMeasures [] = s := by
  simp [addMeasures]

@[simp] theorem addRecords_addRecords (s : RunState) (first more : List Log.Record) :
    (s.addRecords first).addRecords more = s.addRecords (first ++ more) := by
  simp [addRecords]

/-- An upload shows in the outbox and the measures only. -/
theorem upload_eq (a : Analysis) (u : Upload) (s : RunState) :
    s.upload a u =
      { s with outbox := (s.upload a u).outbox, measures := (s.upload a u).measures } := by
  unfold upload
  split <;> rfl

theorem note_eq (a : Analysis) (n : Note) (s : RunState) :
    s.note a n =
      { s with
        stats := n.onStats s.stats
        graph := n.onGraph s.graph
        findings := n.onFindings s.findings
        outbox := (s.note a n).outbox
        measures := (s.note a n).measures } := by
  cases n with
  | upload u => exact upload_eq a u s
  | _ => rfl

theorem watch_of_quiet {s : RunState} (quiet : s.interrupted = none) (looks : Option Nat) :
    s.watch looks = .silent := by
  simp [watch, quiet]

/-! ## Transitions -/

/-- What one step does to a run. -/
inductive Transition (a : Analysis) (bugs : Dict ConstructSet) (s : RunState) :
    RunState → Prop where
  | stays : Transition a bugs s s
  -- the pipeline
  | buildFails {looks : Option Nat} {e : BuildError} (stage : s.stage = .building)
      (fails : a.builder.build a.options.strict (s.watch looks) = .failed e)
      (records : List Log.Record) :
      Transition a bugs s { s.addRecords records with stage := .ended (some (.build e)) }
  | builds {looks : Option Nat} {b : Built} (stage : s.stage = .building)
      (builds : a.builder.build a.options.strict (s.watch looks) = .built b)
      (records : List Log.Record) :
      Transition a bugs s
        { s.addRecords records with
          prepared := some (.ofBuilt a b)
          stage := .noting (buildNotes a b (Prepared.ofBuilt a b).graph)
            (if (Prepared.ofBuilt a b).entries.isEmpty then .finish (some .noEntryPoints)
              else .search) }
  | writes {n : Note} {notes : List Note} {next : Next}
      (stage : s.stage = .noting (n :: notes) next) :
      Transition a bugs s
        { s with
          stats := n.onStats s.stats
          graph := n.onGraph s.graph
          findings := n.onFindings s.findings
          outbox := (s.note a n).outbox
          measures := (s.note a n).measures
          stage := .noting notes next }
  | goesOnToSearch (stage : s.stage = .noting [] .search) :
      Transition a bugs s { s with stage := .submittingBugs bugs.entries 0 }
  | goesOnToAwait (stage : s.stage = .noting [] .await) :
      Transition a bugs s { s with stage := .awaitingSearch }
  | goesOnToScan (stage : s.stage = .noting [] .scan) (records : List Log.Record) :
      Transition a bugs s { s.addRecords records with stage := .submittingRanges (ranges a s) }
  | goesOnToEnd {error : Option RunError} (stage : s.stage = .noting [] (.finish error)) :
      Transition a bugs s { s with stage := .ended error }
  | passesOver {bug : String} {targets : ConstructSet} {rest : List (String × ConstructSet)}
      {submitted : Nat} (stage : s.stage = .submittingBugs ((bug, targets) :: rest) submitted)
      (empty : targets.size = 0) (records : List Log.Record) :
      Transition a bugs s { s.addRecords records with stage := .submittingBugs rest submitted }
  | submits {bug : String} {targets : ConstructSet} {rest : List (String × ConstructSet)}
      {submitted : Nat} (stage : s.stage = .submittingBugs ((bug, targets) :: rest) submitted)
      (targeted : targets.size ≠ 0) (room : hasRoom (poolSize a) s.runningSearches = true) :
      Transition a bugs s
        { s with
          searches := s.searches ++ [{ bug, targets }]
          stage := .submittingBugs rest (submitted + 1) }
  | submitsNoMore {submitted : Nat} (stage : s.stage = .submittingBugs [] submitted) :
      Transition a bugs s
        { s with stage := .noting [.stat "bugs_total" (Nat.repr submitted)] .await }
  | givesUpSearch {cause : Interrupt} (stage : s.stage = .awaitingSearch)
      (interrupted : s.interrupted = some cause) :
      Transition a bugs s { s with stage := .ended (some (.search cause)) }
  | leavesSearch (stage : s.stage = .awaitingSearch) (ready : s.runningSearches = 0) :
      Transition a bugs s
        { s with stage := .noting (searchNotes a s.searches.length s.summary) .scan }
  | submitsRanges {rest : List NodeRange} (stage : s.stage = .submittingRanges rest) (taken : Nat) :
      Transition a bugs s
        { s with
          scans := s.scans ++ (rest.take taken).map ({ range := · })
          stage := .submittingRanges (rest.drop taken) }
  | submitsNoMoreRanges (stage : s.stage = .submittingRanges []) :
      Transition a bugs s { s with stage := .awaitingScan }
  | givesUpScan {cause : Interrupt} (stage : s.stage = .awaitingScan)
      (interrupted : s.interrupted = some cause) :
      Transition a bugs s { s with stage := .ended (some (.scan cause)) }
  | leavesScan (stage : s.stage = .awaitingScan) (ready : s.runningScans = 0) :
      Transition a bugs s
        { s with
          stage := .noting (scanNotes a s.scans.length (mergedFindings s.scans)) (.finish none) }
  -- the workers
  | starts {i : Nat} {job : SearchJob} (found : s.searches[i]? = some job)
      (task : job.task = .waiting)
      (quiet : s.interrupted = none) : Transition a bugs s (s.setTask i .searching)
  | skips {i : Nat} {job : SearchJob} (found : s.searches[i]? = some job)
      (task : job.task = .waiting)
      (interrupted : s.interrupted.isSome = true) : Transition a bugs s (s.setTask i .finished)
  | fails {p : Prepared} {i : Nat} {job : SearchJob} {looks : Option Nat} {m : String}
      (prepared : s.prepared = some p) (found : s.searches[i]? = some job)
      (task : job.task = .searching)
      (outcome : p.search a job.targets (s.watch looks) = .failed m)
      (records : List Log.Record) (measures : List Measure) :
      Transition a bugs s (((s.addRecords records).addMeasures measures).setTask i .finished)
  | finds {p : Prepared} {i : Nat} {job : SearchJob} {looks : Option Nat} {paths : List Path}
      (prepared : s.prepared = some p) (found : s.searches[i]? = some job)
      (task : job.task = .searching)
      (outcome : p.search a job.targets (s.watch looks) = .found paths) :
      Transition a bugs s (s.setTask i (.counting paths))
  | counts {p : Prepared} {i : Nat} {job : SearchJob} {paths : List Path}
      (prepared : s.prepared = some p) (found : s.searches[i]? = some job)
      (task : job.task = .counting paths) :
      Transition a bugs s
        ({ s with
            summary := s.summary.add paths (targetNodes p.graph job.targets).length }.setTask
          i (.storing paths))
  | stores {p : Prepared} {i : Nat} {job : SearchJob} {paths : List Path}
      {records : List PathRecord}
      (prepared : s.prepared = some p) (found : s.searches[i]? = some job)
      (task : job.task = .storing paths)
      (recorded : pathRecords p.graph job.bug paths = some records) :
      Transition a bugs s
        ({ s with paths := s.paths.insert job.bug records }.setTask i (.uploading records))
  | breaksDown {p : Prepared} {i : Nat} {job : SearchJob} {paths : List Path}
      (prepared : s.prepared = some p) (found : s.searches[i]? = some job)
      (task : job.task = .storing paths) (unrecorded : pathRecords p.graph job.bug paths = none) :
      Transition a bugs s { s with crashed := true }
  | crashes {i : Nat} {job : SearchJob} {records : List PathRecord}
      (found : s.searches[i]? = some job)
      (task : job.task = .uploading records)
      (tooMany : capPaths job.bug a.options.maxPaths records = none) (measures : List Measure) :
      Transition a bugs s { s.addMeasures measures with crashed := true }
  | uploads {i : Nat} {job : SearchJob} {records kept : List PathRecord} {dropped : List Log.Record}
      (found : s.searches[i]? = some job) (task : job.task = .uploading records)
      (capped : capPaths job.bug a.options.maxPaths records = some (kept, dropped))
      (measures : List Measure) :
      Transition a bugs s
        ({ s with
          outbox := (((s.addMeasures measures).addRecords dropped).upload a
            (.paths job.bug (some kept))).outbox
          measures :=
            (((s.addMeasures measures).addRecords dropped).upload a
              (.paths job.bug (some kept))).measures }.setTask
          i .finished)
  | scans {p : Prepared} {i : Nat} {job : ScanJob} {looks : Option Nat}
      (prepared : s.prepared = some p)
      (found : s.scans[i]? = some job) (unfinished : job.finished = false)
      (records : List Log.Record) (measures : List Measure) :
      Transition a bugs s
        (((s.addRecords records).addMeasures measures).finishScan i
          (p.scan a job.range (s.watch looks)))
  -- the caller, the timer and the front
  | cancels (cause : Interrupt) :
      Transition a bugs s
        { s with
          caller := s.caller.orElse fun _ => some cause
          interrupted := s.interrupted.orElse fun _ => some cause }
  | rings (timed : 0 < a.options.timeout) : Transition a bugs s { s with rang := true }
  | concludes {error : Option RunError} (front : s.front = .watching)
      (stage : s.stage = .ended error) :
      Transition a bugs s { s with front := .closing (closingNotes a error) error }
  | timesOut (front : s.front = .watching) (rang : s.rang = true) :
      Transition a bugs s
        { s with
          interrupted := s.interrupted.orElse fun _ => some .cancelled
          front := .closing (closingNotes a (some .timeout)) (some .timeout) }
  | heedsCaller {cause : Interrupt} (front : s.front = .watching) (caller : s.caller = some cause) :
      Transition a bugs s
        { s with
          front := .closing (closingNotes a (some (.interrupted cause)))
            (some (.interrupted cause)) }
  | closes {n : Note} {notes : List Note} {error : Option RunError}
      (front : s.front = .closing (n :: notes) error) :
      Transition a bugs s
        { s with
          stats := n.onStats s.stats
          graph := n.onGraph s.graph
          findings := n.onFindings s.findings
          outbox := (s.note a n).outbox
          measures := (s.note a n).measures
          front := .closing notes error }
  | returns {error : Option RunError} (front : s.front = .closing [] error) :
      Transition a bugs s
        { s with
          front := .returned (s.snapshot error)
          interrupted := s.interrupted.orElse fun _ => some .cancelled }

/-! ## Every step is a transition -/

theorem transition_goOn {s : RunState} {next : Next} (stage : s.stage = .noting [] next) :
    Transition a bugs s (s.goOn a bugs next) := by
  cases next with
  | search => exact .goesOnToSearch stage
  | await => exact .goesOnToAwait stage
  | finish error => exact .goesOnToEnd stage
  | scan =>
      unfold goOn
      cases s.prepared with
      | none => simpa using Transition.goesOnToScan (a := a) stage []
      | some p => exact .goesOnToScan stage _

theorem transition_advance (s : RunState) (early : Bool) (looks : Option Nat) :
    Transition a bugs s (s.advance a bugs early looks) := by
  unfold advance
  split
  case h_1 stage =>
      simp only
      split
      case h_1 => exact .stays
      case h_2 fails => exact .buildFails stage fails _
      case h_3 built => exact .builds stage built _
  case h_2 stage =>
      rw [note_eq]
      exact .writes stage
  case h_3 stage => exact transition_goOn stage
  case h_4 stage => exact .submitsNoMore stage
  case h_5 stage =>
      split
      case isTrue empty => exact .passesOver stage empty _
      case isFalse targeted =>
          split
          case isTrue room => exact .submits stage targeted room
          case isFalse => exact .stays
  case h_6 stage =>
      simp only
      split
      case h_1 cause interrupted =>
          split
          case isTrue => exact .givesUpSearch stage interrupted
          case isFalse late =>
              refine .leavesSearch stage ?_
              simpa using (by simpa using late : early = false ∧ _).2
      case h_2 =>
          split
          case isTrue ready => exact .leavesSearch stage (by simpa using ready)
          case isFalse => exact .stays
  case h_7 stage => exact .submitsNoMoreRanges stage
  case h_8 stage => exact .submitsRanges stage _
  case h_9 stage =>
      simp only
      split
      case h_1 cause interrupted =>
          split
          case isTrue => exact .givesUpScan stage interrupted
          case isFalse late =>
              refine .leavesScan stage ?_
              simpa using (by simpa using late : early = false ∧ _).2
      case h_2 =>
          split
          case isTrue ready => exact .leavesScan stage (by simpa using ready)
          case isFalse => exact .stays
  case h_10 => exact .stays

theorem transition_searchStep {s : RunState} {p : Prepared} {i : Nat} {job : SearchJob}
    (prepared : s.prepared = some p) (found : s.searches[i]? = some job) (looks : Option Nat) :
    Transition a bugs s (s.searchStep a p i job looks) := by
  unfold searchStep
  cases task : job.task with
  | waiting =>
      simp only
      split
      case isTrue interrupted => exact .skips found task interrupted
      case isFalse quiet => exact .starts found task (Option.not_isSome_iff_eq_none.1 quiet)
  | searching =>
      simp only
      split
      case h_1 => exact .stays
      case h_2 outcome => exact .fails prepared found task outcome _ _
      case h_3 outcome => exact .finds prepared found task outcome
  | counting paths => exact .counts prepared found task
  | storing paths =>
      simp only
      split
      case h_1 unrecorded => exact .breaksDown prepared found task unrecorded
      case h_2 recorded => exact .stores prepared found task recorded
  | uploading records =>
      simp only
      split
      case h_1 tooMany => exact .crashes found task tooMany _
      case h_2 capped =>
          rw [upload_eq]
          exact .uploads found task capped _
  | finished => exact .stays

/-- A range that is not finished is finished by the step of its worker. -/
theorem scanStep_eq {p : Prepared} {job : ScanJob} (unfinished : job.finished = false)
    (s : RunState) (i : Nat) (looks : Option Nat) :
    ∃ records measures, s.scanStep a p i job looks =
      ((s.addRecords records).addMeasures measures).finishScan i
        (p.scan a job.range (s.watch looks)) := by
  unfold scanStep
  rw [if_neg (by simp [unfinished])]
  simp only
  split
  case h_1 e failed =>
      refine ⟨[Log.warn "skipping partition" [("range", .text job.range.text),
        ("error", .text e.message)]], [], ?_⟩
      simp [Prepared.scan, failed]
  case h_2 outcome ran =>
      split
      case h_1 e failure =>
          refine ⟨outcome.records ++
            [Log.warn "skipping partition" [("range", .text job.range.text),
            ("error", .text e.message)]], [], ?_⟩
          simp [Prepared.scan, ran, failure]
      case h_2 complete =>
          refine ⟨outcome.records, [.scanned job.range.length], ?_⟩
          simp [Prepared.scan, ran, complete]

theorem transition_scanStep {s : RunState} {p : Prepared} {i : Nat} {job : ScanJob}
    (prepared : s.prepared = some p) (found : s.scans[i]? = some job) (looks : Option Nat) :
    Transition a bugs s (s.scanStep a p i job looks) := by
  cases unfinished : job.finished with
  | true =>
      simp only [scanStep, unfinished, if_true]
      exact .stays
  | false =>
      obtain ⟨records, measures, eq⟩ := scanStep_eq (a := a) (p := p) unfinished s i looks
      rw [eq]
      exact .scans prepared found unfinished records measures

theorem transition_conclude (s : RunState) (ending : Ending) :
    Transition a bugs s (s.conclude a ending) := by
  unfold conclude
  cases front : s.front with
  | closing notes error => exact .stays
  | returned r => exact .stays
  | watching =>
      cases ending with
      | done =>
          simp only
          split
          case h_1 stage => exact .concludes front stage
          case h_2 => exact .stays
      | timeout =>
          simp only
          split
          case isTrue rang => exact .timesOut front rang
          case isFalse => exact .stays
      | caller =>
          simp only
          split
          case h_1 caller => exact .heedsCaller front caller
          case h_2 => exact .stays

theorem transition_closeStep (s : RunState) : Transition a bugs s (s.closeStep a) := by
  unfold closeStep
  split
  case h_1 front =>
      rw [note_eq]
      exact .closes front
  case h_2 front => exact .returns front
  case h_3 => exact .stays

/-- A step is one of the transitions. -/
theorem transition_step (s : RunState) (m : Move) : Transition a bugs s (s.step a bugs m) := by
  unfold step
  split
  case isTrue => exact .stays
  case isFalse =>
      cases m with
      | pipeline early looks => exact transition_advance s early looks
      | search i looks =>
          simp only
          split
          case h_1 prepared found => exact transition_searchStep prepared found looks
          case h_2 => exact .stays
      | scan i looks =>
          simp only
          split
          case h_1 prepared found => exact transition_scanStep prepared found looks
          case h_2 => exact .stays
      | cancel cause => exact .cancels cause
      | ring =>
          by_cases timed : 0 < a.options.timeout
          · have rung : Transition a bugs s { s with rang := true } := .rings timed
            simpa [timed] using rung
          · simpa [timed] using Transition.stays
      | conclude ending => exact transition_conclude s ending
      | close => exact transition_closeStep s

/-! ## Runs -/

/-- Any number of transitions. -/
def Leads (a : Analysis) (bugs : Dict ConstructSet) : RunState → RunState → Prop :=
  Relation.ReflTransGen (Transition a bugs)

/-- The states of all runs. -/
def Reached (a : Analysis) (bugs : Dict ConstructSet) (s : RunState) : Prop :=
  ∃ outbox : Outbox, Leads a bugs { outbox } s

theorem steps_append (first more : List Move) (s : RunState) :
    s.steps a bugs (first ++ more) = (s.steps a bugs first).steps a bugs more :=
  List.foldl_append

theorem leads_steps (moves : List Move) (s : RunState) : Leads a bugs s (s.steps a bugs moves) := by
  induction moves generalizing s with
  | nil => exact .refl
  | cons m moves ih => exact .head (transition_step s m) (ih (s.step a bugs m))

theorem reached_steps (moves : List Move) (outbox : Outbox) :
    Reached a bugs (({ outbox } : RunState).steps a bugs moves) :=
  ⟨outbox, leads_steps moves _⟩

theorem Reached.leads {s t : RunState} (reached : Reached a bugs s) (leads : Leads a bugs s t) :
    Reached a bugs t :=
  reached.imp fun _ first => first.trans leads

/-- What holds at the start and is kept by every transition holds in all runs. -/
theorem Reached.invariant {P : RunState → Prop} (start : ∀ outbox : Outbox, P { outbox })
    (keeps : ∀ s t, Reached a bugs s → P s → Transition a bugs s t → P t) {s : RunState}
    (reached : Reached a bugs s) : P s := by
  obtain ⟨outbox, leads⟩ := reached
  induction leads with
  | refl => exact start outbox
  | tail first last ih => exact keeps _ _ ⟨outbox, first⟩ ih last

/-! ## What is never taken back -/

theorem Transition.stays_interrupted {s t : RunState} (step : Transition a bugs s t)
    (quiet : t.interrupted = none) : s.interrupted = none := by
  cases step
  case cancels | timesOut | returns => simp at quiet
  all_goals exact quiet

theorem Transition.stays_cancelled {s t : RunState} (step : Transition a bugs s t)
    (uncancelled : t.caller = none) : s.caller = none := by
  cases step
  case cancels => simp at uncancelled
  all_goals exact uncancelled

theorem Leads.stays_cancelled {s t : RunState} (leads : Leads a bugs s t)
    (uncancelled : t.caller = none) : s.caller = none := by
  induction leads with
  | refl => exact uncancelled
  | tail _ last ih => exact ih (last.stays_cancelled uncancelled)

/-- A transition to a return starts from one or takes the snapshot. -/
theorem Transition.front_of_returned {s t : RunState} {r : RunResult} (step : Transition a bugs s t)
    (returned : t.front = .returned r) :
    s.front = .returned r ∨ ∃ error, s.front = .closing [] error ∧ r = s.snapshot error := by
  cases step
  case returns error front => exact .inr ⟨error, front, by simpa using returned.symm⟩
  case concludes | timesOut | heedsCaller | closes => simp at returned
  all_goals exact .inl returned

/-- A run that has returned did so with the snapshot of a state on its way. -/
theorem exists_return {s t : RunState} {r : RunResult} (leads : Leads a bugs s t)
    (pending : ∀ r, s.front ≠ .returned r) (returned : t.front = .returned r) :
    ∃ m error, Leads a bugs s m ∧ Leads a bugs m t ∧ m.front = .closing [] error ∧
      r = m.snapshot error := by
  induction leads with
  | refl => exact absurd returned (pending r)
  | @tail m t first last ih =>
      rcases last.front_of_returned returned with before | ⟨error, closing, same⟩
      · obtain ⟨m', error, toReturn, fromReturn, closing, same⟩ := ih before
        exact ⟨m', error, toReturn, fromReturn.tail last, closing, same⟩
      · exact ⟨m, error, first, .single last, closing, same⟩

end RunState

end Exposure
