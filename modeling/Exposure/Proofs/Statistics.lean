/-
# Proofs.Statistics — the numbers of a result are those of its parts

The workers add what they have found to one summary, each at its own time, and
store it in the map of paths later on.  Neither the order of the workers nor the
time between adding and storing shows in the end: adding commutes
(`Spread.add_right_comm`), and at any time the summary is that of the jobs which
have been counted, stored or not (`Reached.summary_eq`).  When the search is over
these are the bugs of the map.  `statistics_of_success` compares every number
with the part of the result that it is about.
-/
import Exposure.Proofs.Journal
import Exposure.Proofs.Means

namespace Exposure

set_option autoImplicit false

/-! ## Spreads -/

namespace Spread

/-- Which of two numbers is added first makes no difference. -/
theorem add_right_comm (s : Spread) (v w : Nat) : (s.add v).add w = (s.add w).add v := by
  simp only [add, mk.injEq, Nat.add_eq_zero_iff, Nat.one_ne_zero, and_false, decide_false,
    Bool.false_or]
  refine ⟨trivial, Nat.add_right_comm _ _ _, ?_, ?_⟩
  all_goals
    by_cases first : s.count = 0
    · simp only [first, decide_true, Bool.true_or, if_true, decide_eq_true_eq]
      split <;> split <;> omega
    · simp only [first, decide_false, Bool.false_or, decide_eq_true_eq]
      grind

instance : RightCommutative Spread.add := ⟨add_right_comm⟩

/-- The spread of a list of numbers. -/
def ofList (vs : List Nat) : Spread := vs.foldl add {}

theorem ofList_append (vs more : List Nat) : ofList (vs ++ more) = more.foldl add (ofList vs) :=
  List.foldl_append

theorem ofList_perm {vs ws : List Nat} (perm : vs.Perm ws) : ofList vs = ofList ws := by
  rw [ofList, ofList, perm.foldl_eq]

/-- A spread has the number, the sum, the least and the largest of its numbers. -/
theorem ofList_eq (vs : List Nat) :
    ofList vs = ⟨vs.length, vs.sum, vs.min?.getD 0, vs.max?.getD 0⟩ := by
  -- the order makes no difference, so the number added last may be the head of the list
  induction vs with
  | nil => rfl
  | cons v vs ih =>
      rw [ofList_perm (List.perm_append_singleton v vs).symm, ofList_append, ih]
      simp only [List.foldl_cons, List.foldl_nil, add, mk.injEq, List.length_cons, List.sum_cons,
        List.min?_cons, List.max?_cons, Option.getD_some]
      refine ⟨trivial, Nat.add_comm _ _, ?_, ?_⟩
      all_goals
        cases vs with
        | nil => rfl
        | cons w vs =>
            simp only [List.length_cons, List.min?_cons, List.max?_cons, Option.getD_some,
              Option.elim_some,
              Nat.add_eq_zero_iff, Nat.one_ne_zero, and_false, decide_false, Bool.false_or,
                decide_eq_true_eq]
            split <;> omega

end Spread

/-! ## Summaries -/

namespace SearchSummary

/-- The summary of searches, each with the lengths of its paths and the number of its targets. -/
def ofTallies (ts : List (List Nat × Nat)) : SearchSummary where
  reachable := ts.countP (!·.1.isEmpty)
  lengths := .ofList (ts.flatMap (·.1))
  targets := .ofList (ts.map (·.2))

theorem add_ofTallies (ts : List (List Nat × Nat)) (paths : List Path) (present : Nat) :
    (ofTallies ts).add paths present = ofTallies (ts ++ [(paths.map Path.calls, present)]) := by
  simp only [ofTallies, add, List.flatMap_append, List.map_append, Spread.ofList_append,
    List.countP_append]
  cases paths with
  | nil => rfl
  | cons p paths => simp [List.foldl_map]

theorem ofTallies_perm {ts us : List (List Nat × Nat)} (perm : ts.Perm us) :
    ofTallies ts = ofTallies us := by
  rw [ofTallies, ofTallies, perm.countP_eq, Spread.ofList_perm (perm.flatMap_right _),
    Spread.ofList_perm (perm.map _)]

end SearchSummary

/-! ## What has been counted -/

namespace RunState

variable {a : Analysis} {bugs : Dict ConstructSet} {s t : RunState} {g : Callgraph}

/-- What a job has been counted with: between counting and storing its worker knows, afterwards it
stands in the map. -/
def tally (g : Callgraph) (paths : Dict (List PathRecord)) (j : SearchJob) :
    Option (List Nat × Nat) :=
  match j.task with
  | .storing found => some (found.map Path.calls, (targetNodes g j.targets).length)
  | _ => (paths.get? j.bug).map fun records => (records.map PathRecord.calls,
      (targetNodes g j.targets).length)

def tallies (g : Callgraph) (s : RunState) :
    List (List Nat × Nat) := s.searches.filterMap (tally g s.paths)

theorem tally_of_not_storing {paths : Dict (List PathRecord)} {j : SearchJob}
    (other : ∀ found, j.task ≠ .storing found) :
    tally g paths j =
      (paths.get? j.bug).map fun records =>
        (records.map PathRecord.calls, (targetNodes g j.targets).length) := by
  cases task : j.task with
  | storing found => exact absurd task (other found)
  | _ => simp [tally, task]

/-- One job goes on and nothing is counted. -/
theorem tallies_setTask {i : Nat} {job : SearchJob} {next : SearchTask}
    (found : s.searches[i]? = some job) (searches : t.searches = (s.setTask i next).searches)
    (own : tally g t.paths { job with task := next } = tally g s.paths job)
    (others : ∀ n j, n ≠ i → s.searches[n]? = some j → tally g t.paths j = tally g s.paths j) :
    t.tallies g = s.tallies g := by
  have same : t.searches.map (tally g t.paths) = s.searches.map (tally g s.paths) := by
    rw [searches]
    apply List.ext_getElem?
    intro n
    by_cases here : i = n
    · subst here
      simp [setTask, found, own]
    · cases there : s.searches[n]? with
      | none => simp [setTask, here, there]
      | some j => simp [setTask, here, there, others n j (Ne.symm here) there]
  have joined := congrArg (List.filterMap id) same
  simpa [List.filterMap_map, tallies] using joined

/-- An element that changes from nothing to `y` adds `y`. -/
theorem filterMap_modify_perm {α β : Type} {f : α → Option β} {m : α → α} {x : α} {y : β}
    (before : f x = none) (after : f (m x) = some y) :
    ∀ {l : List α} {i : Nat}, l[i]? = some x →
      ((l.modify i m).filterMap f).Perm (l.filterMap f ++ [y])
  | [], i, found => by simp at found
  | z :: l, 0, found => by
      obtain rfl : z = x := by simpa using found
      simpa [List.modify_zero_cons, List.filterMap_cons, before, after] using
        (List.perm_append_singleton y (l.filterMap f)).symm
  | z :: l, i + 1, found => by
      have rest := filterMap_modify_perm before after (l := l) (i := i) (by simpa using found)
      cases here : f z with
      | none => simpa [List.filterMap_cons, here] using rest
      | some w => simpa [List.filterMap_cons, here] using rest

/-- **The summary is that of the jobs that have been counted**, whatever the order in which their
workers came to count. -/
theorem Reached.summary_eq (reached : Reached a bugs s)
    (known : ∀ p, s.prepared = some p → p.graph = g) : s.summary = .ofTallies (s.tallies g) := by
  revert known
  refine reached.invariant (P := fun s => (∀ p, s.prepared = some p → p.graph = g) →
    s.summary = .ofTallies (s.tallies g)) (fun _ _ => rfl) ?_
  intro s t reached before step known
  -- a worker goes on without counting or storing anything
  have goesOn {i : Nat} {job : SearchJob} {now next : SearchTask}
      (found : s.searches[i]? = some job)
      (task : job.task = now) (leaves : ∀ found, now ≠ .storing found)
      (enters : ∀ found, next ≠ .storing found)
      (searches : t.searches = (s.setTask i next).searches) (paths : t.paths = s.paths)
      (summary : t.summary = s.summary) (prepared : t.prepared = s.prepared) :
      t.summary = .ofTallies (t.tallies g) := by
    rw [summary, before (fun p built => known p (prepared.trans built))]
    refine congrArg _ (tallies_setTask found searches ?_ fun n j _ _ => by rw [paths]).symm
    rw [tally_of_not_storing enters, tally_of_not_storing (task ▸ leaves), paths]
  cases step
  case builds stage _ _ =>
      have unbuilt := reached.fits
      rw [stage] at unbuilt
      have none : s.searches = [] := reached.no_searches (by rw [stage]; rfl)
      have start := before fun p built => absurd (unbuilt.symm.trans built) (by simp)
      simpa [tallies, none, addRecords] using start
  case submits bug targets rest submitted stage targeted room =>
      have fresh : tally g s.paths { bug, targets } = none := by
        simp [tally, reached.not_stored stage targeted]
      rw [before known]
      simp [tallies, fresh]
  case starts found task _ | skips found task _ | fails found task _ _ _ | finds found task _
      | uploads found task _ _ =>
      exact goesOn found task (fun _ => SearchTask.noConfusion) (fun _ => SearchTask.noConfusion)
        rfl rfl rfl rfl
  case counts p i job paths prepared found task =>
      obtain rfl := known p prepared
      have holds := reached.holds prepared found
      rw [task] at holds
      have uncounted : tally p.graph s.paths job = none := by simp [tally, task, holds.1]
      have added : ((s.setTask i (.storing paths)).tallies p.graph).Perm
          (s.tallies p.graph ++
            [(paths.map Path.calls, (targetNodes p.graph job.targets).length)]) :=
        filterMap_modify_perm uncounted rfl found
      refine Eq.trans ?_ (SearchSummary.ofTallies_perm added).symm
      rw [← SearchSummary.add_ofTallies, ← before known]
      rfl
  case stores p i job paths records prepared found task recorded =>
      obtain rfl := known p prepared
      refine (before known).trans (congrArg _ (Eq.symm ?_))
      refine tallies_setTask found rfl ?_ ?_
      · simp [tally, task, setTask, calls_of_pathRecords recorded]
      · intro n j apart there
        have other : job.bug ≠ j.bug := fun same => apart (reached.job_unique there found same.symm)
        simp [tally, setTask, Dict.get?_insert_of_ne _ other]
  all_goals exact before known

/-! ## When the search is over -/

/-- What is stored by the jobs, one after the other. -/
def storedEntries (s : RunState) : List (String × List PathRecord) :=
  s.searches.filterMap fun j => (s.paths.get? j.bug).map (j.bug, ·)

/-- The jobs have stored all that there is. -/
theorem Reached.storedEntries_perm (reached : Reached a bugs s) :
    s.storedEntries.Perm s.paths.entries := by
  have distinct : s.searches.Pairwise fun j j' => j.bug ≠ j'.bug :=
    List.pairwise_map.1 (List.nodup_append.1 reached.bugs_distinct).1
  have nodup : s.storedEntries.Nodup := by
    refine distinct.filterMap _ fun j j' apart e stored e' stored' same => apart ?_
    obtain ⟨_, -, rfl⟩ := Option.map_eq_some_iff.1 stored
    obtain ⟨_, -, rfl⟩ := Option.map_eq_some_iff.1 stored'
    exact congrArg Prod.fst same
  refine (List.perm_ext_iff_of_nodup nodup (.of_map _ s.paths.nodup_keys)).2 fun e => ?_
  rw [← Dict.get?_eq_some_iff, storedEntries, List.mem_filterMap]
  constructor
  · rintro ⟨j, -, stored⟩
    obtain ⟨records, there, rfl⟩ := Option.map_eq_some_iff.1 stored
    exact there
  · intro there
    obtain ⟨j, member, same⟩ : ∃ j ∈ s.searches, j.bug = e.1 := reached.stored_job (by simp [there])
    exact ⟨j, member, by simp [same, there]⟩

end RunState

/-- The number of names of a set that are in a graph. -/
def ConstructSet.presentIn (targets : ConstructSet) (g : Callgraph) : Nat :=
  targets.names.countP fun name => (g.index? name).isSome

theorem length_targetNodes (g : Callgraph) (targets : ConstructSet) :
    (targetNodes g targets).length = targets.presentIn g :=
  List.length_filterMap_eq_countP

/-- The number of targets of a bug that are in a graph. -/
def presentTargets (bugs : Dict ConstructSet) (g : Callgraph) (bug : String) : Nat :=
  (bugs.get? bug).elim 0 (·.presentIn g)

/-- For every bug of a map the lengths of its paths and the number of its targets. -/
def tabulate (paths : Dict (List PathRecord)) (bugs : Dict ConstructSet) (g : Callgraph) :
    List (List Nat × Nat) :=
  paths.entries.map fun e => (e.2.map PathRecord.calls, presentTargets bugs g e.1)

section

variable (paths : Dict (List PathRecord)) (bugs : Dict ConstructSet) (g : Callgraph)

theorem countP_tabulate : (tabulate paths bugs g).countP (!·.1.isEmpty) =
    (paths.entries.filter fun e => !e.2.isEmpty).length := by
  simp [tabulate, List.countP_map, ← List.countP_eq_length_filter, Function.comp_def]

theorem flatMap_tabulate :
    (tabulate paths bugs g).flatMap (·.1) = paths.values.flatten.map PathRecord.calls := by
  simp [tabulate, Dict.values, List.map_flatten, List.flatMap_def, Function.comp_def]

theorem map_tabulate :
    (tabulate paths bugs g).map (·.2) = paths.keys.map (presentTargets bugs g) := by
  simp [tabulate, Dict.keys, Function.comp_def]

end

namespace RunState

variable {a : Analysis} {bugs : Dict ConstructSet} {s t : RunState} {g : Callgraph}

/-- When the search is over, what has been counted is what is stored. -/
theorem Reached.tallies_perm (reached : Reached a bugs s) (past : searchIsOver s.stage) :
    (s.tallies g).Perm (tabulate s.paths bugs g) := by
  refine List.Perm.trans (.of_eq ?_) (reached.storedEntries_perm.map _)
  rw [tallies, storedEntries, List.map_filterMap]
  refine List.filterMap_congr fun j member => ?_
  have known : bugs.get? j.bug = some j.targets :=
    Dict.get?_eq_some_iff.2 (reached.job_of_bug member).1
  have finished := reached.searches_finished past j member
  rw [tally_of_not_storing (by simp [finished]), Option.map_map]
  simp [Function.comp_def, presentTargets, known, length_targetNodes]

end RunState

/-! ## The statistics of a result -/

/-- The statistics under a name are the least, the mean and the largest of these numbers, and there
are none if there are no numbers. -/
structure Summarizes (stats : Dict String) (name : String) (values : List Nat) : Prop where
  least : stats.get? (name ++ "_min") = values.min?.map Nat.repr
  mean : stats.get? (name ++ "_avg") =
    if values = [] then none
    else some (Number.Binary64.ofRatio false values.sum values.length).twoPlaces
  largest : stats.get? (name ++ "_max") = values.max?.map Nat.repr

theorem Summarizes.congr {stats stats' : Dict String} {name : String} {values : List Nat}
    (summarizes : Summarizes stats name values)
    (same : ∀ suffix ∈ ["_min", "_avg", "_max"], stats.get? (name ++ suffix) =
      stats'.get? (name ++ suffix)) :
    Summarizes stats' name values where
  least := (same "_min" (by decide)) ▸ summarizes.least
  mean := (same "_avg" (by decide)) ▸ summarizes.mean
  largest := (same "_max" (by decide)) ▸ summarizes.largest

/-- The mean is written with two places, less than one hundredth away from what it is. -/
theorem Summarizes.mean_near {stats : Dict String} {name : String} {values : List Nat}
    (summarizes : Summarizes stats name values) (filled : values ≠ [])
    (small : values.sum < 2 ^ 43 * values.length) :
    ∃ k, stats.get? (name ++ "_avg") = some (Number.Binary64.hundredths k) ∧
      100 * values.sum < values.length * k + values.length ∧
      values.length * k < 100 * values.sum + values.length := by
  obtain ⟨k, text, near⟩ :=
    Number.Binary64.exists_hundredths_ofRatio values.sum (List.length_pos_iff.2 filled) small
  exact ⟨k, by rw [summarizes.mean, if_neg filled, text], near⟩

namespace SearchSummary

/-- What is written down of a summary. -/
theorem stats_ofTallies (ts : List (List Nat × Nat)) :
    (Dict.ofList (ofTallies ts).stats).get? "bugs_reachable" =
      some (Nat.repr (ts.countP (!·.1.isEmpty))) ∧
      Summarizes (.ofList (ofTallies ts).stats) "path_len" (ts.flatMap (·.1)) ∧
      Summarizes (.ofList (ofTallies ts).stats) "target_count" (ts.map (·.2)) := by
  simp only [ofTallies, stats, Spread.stats, Spread.mean, Spread.ofList_eq]
  generalize ts.countP _ = reachable
  generalize ts.flatMap _ = lengths
  generalize ts.map _ = targets
  refine ⟨?_, ⟨?_, ?_, ?_⟩, ⟨?_, ?_, ?_⟩⟩
  all_goals cases lengths <;> cases targets <;> simp [Dict.get?_ofList, Dict.lookup, List.min?_cons,
    List.max?_cons]

end SearchSummary

/-- The numbers of a result are those of its paths, of the bugs and of the graph. -/
structure RunResult.Numbers (r : RunResult) (bugs : Dict ConstructSet) (g : Callgraph) : Prop where
  /-- Every bug with targets counts, also one whose search has failed. -/
  total : r.stats.get? "bugs_total" = some (Nat.repr (bugs.entries.countP fun e => e.2.size != 0))
  reachable : r.stats.get? "bugs_reachable" = some (Nat.repr r.reachable.length)
  known : ∀ bug ∈ r.paths.keys, ∃ targets, bugs.get? bug = some targets ∧ targets.size ≠ 0
  lengths : Summarizes r.stats "path_len" (r.paths.values.flatten.map PathRecord.calls)
  targets : Summarizes r.stats "target_count" (r.paths.keys.map (presentTargets bugs g))

open Note (statsOf keysOf graphOf)

namespace RunState

variable {a : Analysis} {bugs : Dict ConstructSet} {s : RunState} {story : Story}
    {closed : List Note}

/-- One graph is written down. -/
theorem Story.graph_whole (story : Story) (a : Analysis) (bugs : Dict ConstructSet) :
    graphOf (story.whole a bugs) = some (Prepared.ofBuilt a story.built).graph := by
  simp [Note.graphOf, whole, graphNotes, buildNotes, bugNotes, pathNotes, searchNotes,
    findingNotes, scanNotes,
    List.filterMap_append, List.filterMap_cons, List.filterMap_map, Function.comp_def, Note.graph?]

/-- The statistics of a summary are written under keys of their own. -/
theorem Journal.get?_summary (journal : Journal a bugs s story (story.whole a bugs) closed)
    {key : String} (own : key ∈ Story.summaryKeys) :
    s.stats.get? key = (Dict.ofList story.summary.stats).get? key := by
  have others : key ≠ "timeout" ∧ key ≠ "elapsed_ms" ∧
      key ∉ ["cg_construction_ms", "cg_nodes", "cg_edges", "cg_unresolved", "entry_points",
        "phase1_ms"] ∧
      key ∉ ["bugs_total"] ∧ key ≠ "phase2_ms" ∧
      key ∉ ["reachable_constructs", "touch_points", "unattributed", "phase3_ms"] := by
    revert key
    decide
  obtain ⟨timeout, elapsed, graph, total, phase2, scan⟩ := others
  rw [← Story.keysOf_graphNotes] at graph
  rw [← Story.keysOf_bugNotes] at total
  rw [← Story.keysOf_findingNotes] at scan
  rw [journal.get?_stats timeout elapsed, Story.whole, Note.statsOf_append,
    Dict.get?_ofList_append_of_ne (Note.ne_of_not_mem_keysOf scan), Note.statsOf_append,
      Story.pathNotes,
    stats_searchNotes, ← List.append_assoc, Dict.get?_ofList_append_of_ne
      (by simpa using phase2.symm),
    Dict.get?_ofList_append, Note.statsOf_append, Dict.get?_ofList_append_of_ne
      (Note.ne_of_not_mem_keysOf total),
    Dict.get?_ofList_eq_none.2 (Note.ne_of_not_mem_keysOf graph), Option.or_none]

theorem Journal.get?_bugs_total (journal : Journal a bugs s story (story.whole a bugs) closed) :
    s.stats.get? "bugs_total" = some (Nat.repr (Story.targeted bugs)) := by
  have later : "bugs_total" ∉ keysOf (story.pathNotes a bugs ++ story.findingNotes a) := by
    have summary : "bugs_total" ∉ story.summary.stats.map (·.1) :=
      Story.not_mem_summary (by decide) _
    simp [Note.keysOf_append, Story.keysOf_pathNotes, Story.keysOf_findingNotes, summary]
  rw [journal.get?_stats (by decide) (by decide), Story.whole, List.append_assoc,
    Note.statsOf_append,
    Dict.get?_ofList_append_of_ne (Note.ne_of_not_mem_keysOf later), Note.statsOf_append]
  exact (congrArg (Dict.get? · "bugs_total") (Dict.ofList_concat _ _ _)).trans
    (Dict.get?_insert_self _ _ _)

/-- **Statistics agree with the results.** Whatever the order of the steps, the numbers that a
success reports are those of the bugs, the paths and the graph that it returns. -/
theorem statistics_of_success (a : Analysis) (bugs : Dict ConstructSet) (outbox : Outbox)
    (moves : List Move) (r : RunResult)
    (returned : (({ outbox } : RunState).steps a bugs moves).result? = some r)
    (success : r.isSuccess = true) : ∃ g, r.graph = some g ∧ r.Numbers bugs g := by
  obtain ⟨m, error, toReturn, -, closing, rfl⟩ :=
    exists_return (leads_steps moves { outbox }) (by simp) (result?_eq_some returned)
  obtain rfl : error = none := by simpa [RunResult.isSuccess, snapshot] using success
  have reached : Reached a bugs m := ⟨outbox, toReturn⟩
  have ended : m.stage = .ended none := reached.closing_success ⟨[], closing⟩
  have past : searchIsOver m.stage := by rw [ended]; trivial
  obtain ⟨story, told, closed, journal⟩ := reached.journal
  obtain rfl := journal.told_of_ended ended
  let g := (Prepared.ofBuilt a story.built).graph
  -- what was written down is what is stored now
  have summary : story.summary = .ofTallies (tabulate m.paths bugs g) := by
    rw [journal.summary past, reached.summary_eq fun p built => congrArg _ (journal.built p built)]
    exact SearchSummary.ofTallies_perm (reached.tallies_perm past)
  have written {key : String} (own : key ∈ Story.summaryKeys) :
      (Dict.ofList (SearchSummary.ofTallies (tabulate m.paths bugs g)).stats).get? key =
        m.stats.get? key :=
    summary ▸ (journal.get?_summary own).symm
  obtain ⟨reachable, lengths, targets⟩ := SearchSummary.stats_ofTallies (tabulate m.paths bugs g)
  rw [written (by decide), countP_tabulate] at reachable
  rw [flatMap_tabulate] at lengths
  rw [map_tabulate] at targets
  refine ⟨g, journal.graph.trans (story.graph_whole a bugs), ?_⟩
  exact
    { total := by
        rw [List.countP_eq_length_filter]
        exact journal.get?_bugs_total
      reachable := by
        rw [RunResult.reachable, List.length_map]
        exact reachable
      known := by
        intro bug member
        obtain ⟨e, stored, rfl⟩ := List.mem_map.1 member
        obtain ⟨-, targets, -, -, -, known, targeted, -⟩ :=
          reached.stored_found (Dict.get?_eq_some_iff.2 stored)
        exact ⟨targets, known, targeted⟩
      lengths := lengths.congr fun suffix member => written (by revert suffix; decide)
      targets := targets.congr fun suffix member => written (by revert suffix; decide) }

theorem statistics_of_success_one_call : ∃ moves r g,
    (({} : RunState).steps oneCall twoBugs moves).result? = some r ∧ r.isSuccess = true ∧
      r.graph = some g ∧ r.Numbers twoBugs g := by
  obtain ⟨b, built, entries, size, first, second⟩ := oneCall_builds
  have bugs : twoBugs.entries = [("X", .ofNames .java ["A"]), ("Y", .ofNames .java ["B"])] := rfl
  have storable (bug : String) {found : List Path} (few : found = [[0]] ∨ found = [[0, 1]]) :
      (Prepared.ofBuilt oneCall b).Storable oneCall bug found :=
    Prepared.storable_of_unlimited (by decide) bug (by rcases few with rfl | rfl <;> simp [size])
  obtain ⟨before, after, r, -, -, returned, error, -⟩ := exists_success twoBugs {} (by decide) built
    (by simp [entries]) (by simp [bugs, first, second]) (by simp [bugs, first, second, storable])
  have success : r.isSuccess = true := by simp [RunResult.isSuccess, error]
  obtain ⟨g, graph, numbers⟩ :=
    statistics_of_success oneCall twoBugs {} (before ++ after) r returned success
  exact ⟨_, r, g, returned, success, graph, numbers⟩

end RunState

end Exposure
