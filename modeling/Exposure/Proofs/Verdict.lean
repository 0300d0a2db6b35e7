/-
# Proofs.Verdict — what a run says about the bugs of a document

A document says for itself which bugs it exposes (`Exposes`): those with a target
that denotes a vertex to which declared calls lead from an entry point that is
kept.  `RunResult.Verdict` is the result that a run owes to this: it lists exactly
these bugs as reachable, and all its records are chains of declared calls.

* `Document.search_spec` — the search of one bug, with every enumerator and with
  shortest paths.
* `verdict_of_run` — the verdict of whole runs.  One that is neither cancelled nor
  timed out ends with a success, so nothing is missing from its result.
-/
import Exposure.Proofs.Completeness
import Exposure.Proofs.DocumentGraph
import Exposure.Proofs.PathLimits

namespace Exposure

set_option autoImplicit false

/-! ## What a document exposes -/

namespace Document

/-- An entry point of the document is a vertex, and the filter keeps it. -/
structure Keeps (d : Document) (o : Options) (entry : String) : Prop where
  listed : entry ∈ d.entryNames
  vertex : entry ∈ d.mentions
  kept : ∀ f, o.entryFilter = some f → f.keeps entry = true

/-- Declared calls lead from an entry point to a vertex that one of the targets denotes. -/
def Exposes (d : Document) (o : Options) (targets : ConstructSet) : Prop :=
  ∃ entry, d.Keeps o entry ∧ ∃ t ∈ targets.names, ∃ v, d.Denotes t v ∧
    Relation.ReflTransGen d.Declares entry v

/-- The record of a chain of declared calls from an entry point to a target of the bug. -/
def Records (d : Document) (o : Options) (bug : String) (targets : ConstructSet) (r : PathRecord) :
    Prop :=
  ∃ entry v chain, d.Keeps o entry ∧ (∃ t ∈ targets.names, d.Denotes t v) ∧ d.Chain entry v chain ∧
    r.bug = bug ∧ r.constructs = chain.map (fun w => (d.construct w).effective) ∧
    r.constructs.head? = some r.source ∧ r.constructs.getLast? = some r.target

end Document

/-- The result of a run that neither misses a bug of the document nor makes one up. -/
structure RunResult.Verdict (r : RunResult) (d : Document) (o : Options)
    (bugs : Dict ConstructSet) : Prop where
  success : r.isSuccess = true
  reachable : ∀ bug, bug ∈ r.reachable ↔ ∃ targets, bugs.get? bug = some targets ∧
    d.Exposes o targets
  recorded : ∀ bug records, r.paths.get? bug = some records →
    ∃ targets, bugs.get? bug = some targets ∧ ∀ record ∈ records, d.Records o bug targets record

/-! ## Entries and targets as nodes -/

namespace Document

variable {d : Document} {g : Callgraph}

theorem denotes_of_mem {name v : String} (known : name ∈ d.mentions) :
    d.Denotes name v ↔ v = name := by
  simp [Denotes, known]

theorem eq_of_denotes {name u v : String} (first : d.Denotes name u) (second : d.Denotes name v) :
    u = v := by
  unfold Denotes at first second
  split at first <;> simp_all

theorem mem_mentions_of_denotes {name v : String} (denotes : d.Denotes name v) :
    v ∈ d.mentions := by
  unfold Denotes at denotes
  split at denotes
  · rename_i known
    rwa [denotes]
  · have found := List.mem_of_find?_eq_some denotes
    obtain ⟨u, known, here⟩ := List.mem_flatMap.1 found
    rcases List.mem_cons.1 here with rfl | callee
    · exact known
    · obtain ⟨call, among, rfl⟩ := List.mem_map.1 callee
      exact (mem_mentions_of_declares (mem_calls.1 (List.mem_filter.1 among).1)).2

theorem mem_keptEntries {a : Analysis} {strict : Bool} {watch : Watch} {b : BuiltDocument}
    (built : d.build strict watch = .ok b) (mirrors : d.Mirrors g) {i : Nat} :
    i ∈ (RunState.keptEntries a g b.entries).filterMap (·.2) ↔
      ∃ entry, d.Keeps a.options entry ∧ g.reportedIndex? entry = some i := by
  obtain ⟨grown, entries, -⟩ := build_eq_ok built
  have names (n : String) : n ∈ b.entries.names ↔ n ∈ d.entryNames ∧ n ∈ d.mentions := by
    rw [ConstructSet.mem_names, entries, ConstructSet.ofNames, ConstructSet.hasName_ofList]
    simp [Construct.ofName, grown.hasName]
  have index (n : String) (keeps : d.Keeps a.options n) : g.index? n = g.reportedIndex? n := by
    refine Option.ext fun j => ?_
    simp [mirrors.denotes, denotes_of_mem keeps.vertex]
  unfold RunState.keptEntries
  simp only [List.filterMap_map, List.mem_filterMap, Function.comp_apply]
  constructor
  · rintro ⟨n, member, here⟩
    have keeps : d.Keeps a.options n := by
      cases filter : a.options.entryFilter with
      | none =>
          obtain ⟨listed, vertex⟩ := (names n).1 (by simpa [filter] using member)
          exact ⟨listed, vertex, by simp [filter]⟩
      | some f =>
          obtain ⟨among, kept⟩ : n ∈ b.entries.names ∧ f.keeps n = true := by
            simpa [filter] using member
          obtain ⟨listed, vertex⟩ := (names n).1 among
          exact ⟨listed, vertex, by simp [filter, kept]⟩
    exact ⟨n, keeps, index n keeps ▸ here⟩
  · rintro ⟨n, keeps, here⟩
    have among := (names n).2 ⟨keeps.listed, keeps.vertex⟩
    refine ⟨n, ?_, (index n keeps).trans here⟩
    cases filter : a.options.entryFilter with
    | none => exact among
    | some f => exact List.mem_filter.2 ⟨among, keeps.kept f filter⟩

theorem mem_targetNodes (mirrors : d.Mirrors g) {targets : ConstructSet} {i : Nat} :
    i ∈ targetNodes g targets ↔
      ∃ t ∈ targets.names, ∃ v, d.Denotes t v ∧ g.reportedIndex? v = some i := by
  simp only [targetNodes, List.mem_filterMap, mirrors.denotes]

/-! ## The search of one bug -/

/-- A path between nodes is recorded as a chain of declared calls. -/
theorem records_of_isPath (mirrors : d.Mirrors g) {o : Options} {targets : ConstructSet}
    (bug : String) {entry t v : String} {i j : Nat} {p : Path} (keeps : d.Keeps o entry)
    (source : g.reportedIndex? entry = some i) (target : t ∈ targets.names)
    (denotes : d.Denotes t v) (sink : g.reportedIndex? v = some j) (path : g.adjacency.IsPath i j p)
    {r : PathRecord} (recorded : pathRecord g bug p = some r) : d.Records o bug targets r := by
  obtain ⟨chain, isChain, same⟩ := mirrors.exists_chain source sink path
  obtain ⟨identities, along, ends⟩ := pathRecord_eq_some_iff.1 recorded
  obtain rfl : chain.map (fun w => (d.construct w).effective) = identities :=
    List.map_injective_iff.2 (Option.some_injective _) (same.symm.trans along)
  obtain ⟨ofBug, path, first, last⟩ := PathRecord.ofChain_eq_some_iff.1 ends
  exact ⟨entry, v, chain, keeps, ⟨t, target, denotes⟩, isChain, ofBug, path,
    path ▸ first, path ▸ last⟩

/-- **The search of a bug tells whether the document exposes it**, and finds nothing but chains of
declared calls. -/
theorem search_spec (mirrors : d.Mirrors g) (e : Enumerator) (shortestOnly : Bool) {o : Options}
    {entries : List Nat}
    (isEntry : ∀ i, i ∈ entries ↔ ∃ entry, d.Keeps o entry ∧ g.reportedIndex? entry = some i)
    (bug : String) (targets : ConstructSet) :
    ∃ found, searchBug shortestOnly e.search g entries targets .silent = .found found ∧
      (found ≠ [] ↔ d.Exposes o targets) ∧
      ∃ records, pathRecords g bug found = some records ∧
        ∀ r ∈ records, d.Records o bug targets r := by
  have entriesBelow : ∀ i ∈ entries, i < g.size := by
    intro i member
    obtain ⟨entry, -, here⟩ := (isEntry i).1 member
    exact Callgraph.reportedIndex?_lt here
  have targetsBelow : ∀ j ∈ targetNodes g targets, j < g.size := by
    intro j member
    obtain ⟨t, -, v, -, here⟩ := (mem_targetNodes mirrors).1 member
    exact Callgraph.reportedIndex?_lt here
  obtain ⟨found, outcome, answers⟩ :=
    searchBug_spec e shortestOnly mirrors.valid entriesBelow targetsBelow
  have recordable : ∀ p ∈ found, p ≠ [] ∧ ∀ n ∈ p, n < g.size := fun p member =>
    answers.recordable mirrors.valid entriesBelow member
  obtain ⟨records, recorded⟩ := Option.ne_none_iff_exists'.1 (pathRecords_ne_none_iff.2 recordable)
  refine ⟨found, outcome, ?_, records, recorded, fun r member => ?_⟩
  · rw [answers.ne_nil_iff]
    constructor
    · rintro ⟨i, isSource, j, isTarget, reach⟩
      obtain ⟨entry, keeps, source⟩ := (isEntry i).1 isSource
      obtain ⟨t, target, v, denotes, sink⟩ := (mem_targetNodes mirrors).1 isTarget
      exact ⟨entry, keeps, t, target, v, denotes, (mirrors.reaches_iff source sink).1 reach⟩
    · rintro ⟨entry, keeps, t, target, v, denotes, reach⟩
      obtain ⟨i, source⟩ := Option.isSome_iff_exists.1 ((mirrors.vertex entry).2 keeps.vertex)
      obtain ⟨j, sink⟩ :=
        Option.isSome_iff_exists.1 ((mirrors.vertex v).2 (mem_mentions_of_denotes denotes))
      exact ⟨i, (isEntry i).2 ⟨entry, keeps, source⟩, j,
        (mem_targetNodes mirrors).2 ⟨t, target, v, denotes, sink⟩,
          (mirrors.reaches_iff source sink).2 reach⟩
  · obtain ⟨p, among, record⟩ := mem_of_pathRecords recorded member
    obtain ⟨i, isSource, j, isTarget, path⟩ := answers.sound p among
    obtain ⟨entry, keeps, source⟩ := (isEntry i).1 isSource
    obtain ⟨t, target, v, denotes, sink⟩ := (mem_targetNodes mirrors).1 isTarget
    exact records_of_isPath mirrors bug keeps source target denotes sink path record

/-- The records of a bug have no more targets than the bug. -/
theorem length_targetNames_le {o : Options} {bug : String} {targets : ConstructSet}
    {rs : List PathRecord} (recorded : ∀ r ∈ rs, d.Records o bug targets r) :
    (targetNames rs).length ≤ targets.size := by
  have denoted : ∀ t, ∃ v, ∀ w, d.Denotes t w → w = v := by
    intro t
    by_cases known : ∃ v, d.Denotes t v
    · obtain ⟨v, denotes⟩ := known
      exact ⟨v, fun w also => eq_of_denotes also denotes⟩
    · exact ⟨t, fun w denotes => absurd ⟨w, denotes⟩ known⟩
  choose vertexOf unique using denoted
  have within : targetNames rs ⊆ targets.names.map fun t =>
      (d.construct (vertexOf t)).effective.name := by
    intro name member
    obtain ⟨r, among, rfl⟩ := (mem_targetNames rs).1 member
    obtain ⟨_, v, chain, -, ⟨t, target, denotes⟩, isChain, -, same, -, last⟩ := recorded r among
    rw [same, List.getLast?_map, isChain.last, unique t v denotes] at last
    exact List.mem_map.2 ⟨t, target, by simp [← Option.some.inj last]⟩
  calc (targetNames rs).length
      ≤ (targets.names.map fun t => (d.construct (vertexOf t)).effective.name).length :=
        (List.subperm_of_subset (nodup_targetNames rs) within).length_le
    _ = targets.size := by simp [ConstructSet.names, ConstructSet.sorted, ConstructSet.size]

end Document

/-! ## Undisturbed runs -/

theorem RunResult.mem_reachable {r : RunResult} {bug : String} :
    bug ∈ r.reachable ↔ ∃ records, r.paths.get? bug = some records ∧ records ≠ [] := by
  simp only [reachable, List.mem_map, List.mem_filter, Dict.get?_eq_some_iff]
  constructor
  · rintro ⟨⟨_, records⟩, ⟨member, found⟩, rfl⟩
    exact ⟨records, member, by simpa using found⟩
  · rintro ⟨records, member, found⟩
    exact ⟨_, ⟨member, by simpa using found⟩, rfl⟩

/-! ## Runs on a document -/

section OnDocument

variable {d : Document} {a : Analysis} {e : Enumerator} {b : BuiltDocument}

theorem Document.builds (reads : a.builder = d.builder)
    (built : d.build a.options.strict .silent = .ok b) :
    a.builder.build a.options.strict .silent = .built (d.built b) := by
  simp [reads, Document.builder, built]

theorem Document.mirrors_prepared (built : d.build a.options.strict .silent = .ok b) :
    d.Mirrors (Prepared.ofBuilt a (d.built b)).graph :=
  mirrors_ofRaw (build_eq_ok built).1 _

/-- Every search of a run on a document comes back, with what `search_spec` says. -/
theorem Document.prepared_search (searches : a.search = e.search)
    (built : d.build a.options.strict .silent = .ok b) (bug : String) (targets : ConstructSet) :
    ∃ found, (Prepared.ofBuilt a (d.built b)).search a targets .silent = .found found ∧
      (found ≠ [] ↔ d.Exposes a.options targets) ∧
      ∃ records, pathRecords (Prepared.ofBuilt a (d.built b)).graph bug found = some records ∧
        ∀ r ∈ records, d.Records a.options bug targets r := by
  have mirrors := mirrors_prepared built
  rw [Prepared.search, searches]
  exact search_spec mirrors e _ (fun i => mem_keptEntries built mirrors) bug targets

theorem Document.entries_ne_nil (built : d.build a.options.strict .silent = .ok b)
    (kept : ∃ entry, d.Keeps a.options entry) : (Prepared.ofBuilt a (d.built b)).entries ≠ [] := by
  obtain ⟨entry, keeps⟩ := kept
  have mirrors := mirrors_prepared built
  obtain ⟨i, here⟩ := Option.isSome_iff_exists.1 ((mirrors.vertex entry).2 keeps.vertex)
  exact List.ne_nil_of_mem ((mem_keptEntries built mirrors).2 ⟨entry, keeps, here⟩)

theorem Document.Exposes.size_ne_zero {o : Options} {targets : ConstructSet}
    (exposes : d.Exposes o targets) : targets.size ≠ 0 := by
  obtain ⟨_, -, t, target, -⟩ := exposes
  have some := List.length_pos_of_mem target
  have same : targets.names.length = targets.size := by
    simp [ConstructSet.names, ConstructSet.sorted, ConstructSet.size]
  omega

namespace RunState

variable {bugs : Dict ConstructSet} {s : RunState}

/-- What is stored when the pipeline has ended undisturbed is the verdict on the document. -/
theorem Reached.ended_verdict (reached : Reached a bugs s) (reads : a.builder = d.builder)
    (searches : a.search = e.search) (built : d.build a.options.strict .silent = .ok b)
    (ended : s.stage = .ended none) (quiet : s.interrupted = none) :
    (s.snapshot none).Verdict d a.options bugs := by
  obtain ⟨b', built', prepared, -⟩ := reached.ended_complete ended quiet
  obtain rfl : d.built b = b' :=
    BuildOutcome.built.inj ((Document.builds reads built).symm.trans built')
  have stored {bug : String} {targets : ConstructSet} (known : bugs.get? bug = some targets)
      (targeted : targets.size ≠ 0) : ∃ records, s.paths.get? bug = some records ∧
        (records ≠ [] ↔ d.Exposes a.options targets) ∧
          ∀ r ∈ records, d.Records a.options bug targets r := by
    obtain ⟨found, outcome, exposes, records, recorded, declared⟩ :=
      Document.prepared_search searches built bug targets
    rcases reached.over_searched prepared (by simp [ended, searchIsOver]) quiet known targeted with
      ⟨found', records', same, recorded', here⟩ | ⟨⟨m, failed⟩, -⟩
    · obtain rfl : found = found' := BugSearch.found.inj (outcome.symm.trans same)
      obtain rfl : records = records' := Option.some.inj (recorded.symm.trans recorded')
      exact ⟨records, here, (ne_nil_iff_of_pathRecords recorded).trans exposes, declared⟩
    · simp [outcome] at failed
  have bugOf {bug : String} {records : List PathRecord} (here : s.paths.get? bug = some records) :
      ∃ targets, bugs.get? bug = some targets ∧ targets.size ≠ 0 := by
    obtain ⟨j, member, rfl⟩ := reached.stored_job (by simp [here] : s.paths.get? bug ≠ none)
    obtain ⟨known, targeted⟩ := reached.job_of_bug member
    exact ⟨j.targets, Dict.get?_eq_some_iff.2 known, targeted⟩
  refine ⟨rfl, fun bug => ?_, fun bug records here => ?_⟩
  · rw [RunResult.mem_reachable]
    constructor
    · rintro ⟨records, here, some⟩
      obtain ⟨targets, known, targeted⟩ := bugOf here
      obtain ⟨_, same, exposes, -⟩ := stored known targeted
      obtain rfl := Option.some.inj (here.symm.trans same)
      exact ⟨targets, known, exposes.1 some⟩
    · rintro ⟨targets, known, exposed⟩
      obtain ⟨records, here, exposes, -⟩ := stored known exposed.size_ne_zero
      exact ⟨records, here, exposes.2 exposed⟩
  · obtain ⟨targets, known, targeted⟩ := bugOf here
    obtain ⟨_, same, -, recorded⟩ := stored known targeted
    obtain rfl := Option.some.inj (here.symm.trans same)
    exact ⟨targets, known, recorded⟩

/-- **A run on a document says which bugs the document exposes.** With every enumerator and every
limit, or with shortest paths, and in whatever order the steps are made: a run that has returned,
was not cancelled and has not timed out gives the verdict on the document.  And it can return, if
the pool has room for a worker and the limit on uploaded paths is not out of all proportion. -/
theorem verdict_of_run (d : Document) (a : Analysis) (e : Enumerator) (bugs : Dict ConstructSet)
    (outbox : Outbox) (b : BuiltDocument) (reads : a.builder = d.builder)
    (searches : a.search = e.search) (built : d.build a.options.strict .silent = .ok b)
    (kept : ∃ entry, d.Keeps a.options entry) :
    (∀ moves r, (({ outbox } : RunState).steps a bugs moves).result? = some r →
      (({ outbox } : RunState).steps a bugs moves).caller = none → r.error ≠ some .timeout →
      r.Verdict d a.options bugs) ∧
    (poolSize a ≠ 0 →
      (∀ bug targets, bugs.get? bug = some targets → a.options.maxPaths * targets.size < 2 ^ 63) →
      ∃ moves r, (({ outbox } : RunState).steps a bugs moves).result? = some r ∧
        (({ outbox } : RunState).steps a bugs moves).caller = none ∧ r.error ≠ some .timeout) := by
  have builds := Document.builds reads built
  have entry := Document.entries_ne_nil built kept
  refine ⟨fun moves r returned uncancelled inTime => ?_, fun pool room => ?_⟩
  · obtain ⟨m, error, toReturn, fromReturn, closing, rfl⟩ := exists_return
      (leads_steps moves { outbox }) nofun (result?_eq_some returned)
    have reached : Reached a bugs m := ⟨outbox, toReturn⟩
    obtain ⟨rfl, ended, quiet⟩ := reached.success_of_undisturbed ⟨[], closing⟩
      (fromReturn.stays_cancelled uncancelled) inTime builds entry
    exact reached.ended_verdict reads searches built ended quiet
  · have search := Document.prepared_search searches built
    have comesBack : ∀ bug ∈ bugs.entries,
        (Prepared.ofBuilt a (d.built b)).search a bug.2 .silent ≠ .stalled := by
      intro bug _
      obtain ⟨found, outcome, -⟩ := search bug.1 bug.2
      simp [outcome]
    have storable : ∀ bug ∈ bugs.entries, ∀ paths,
        (Prepared.ofBuilt a (d.built b)).search a bug.2 .silent = .found paths →
        (Prepared.ofBuilt a (d.built b)).Storable a bug.1 paths := by
      intro bug member paths found
      obtain ⟨_, outcome, -, records, recorded, declared⟩ := search bug.1 bug.2
      obtain rfl := BugSearch.found.inj (found.symm.trans outcome)
      refine Prepared.storable_iff.2 ⟨records, recorded, ?_⟩
      exact capPaths_ne_none (Document.length_targetNames_le declared)
        (room bug.1 bug.2 (Dict.get?_eq_some_iff.2 member))
    obtain ⟨before, after, r, -, -, returned, success, uncancelled, -⟩ :=
      exists_success bugs outbox pool builds entry comesBack storable
    exact ⟨before ++ after, r, returned, uncancelled, by simp [success]⟩

/-! ### A bug under another name -/

/-- Two vertices that call each other, one of them with a synthetic parameter, and an entry point
that is none. -/
def alternating : Document where
  nodes := ["p.A.idle()"]
  edges := ["p.A.run() -> p.B$C(p.B)", "p.B$C(p.B) -> p.A.run()"]
  entryPoints := ["p.A.run()", "p.A.gone()"]

def alternatingAnalysis : Analysis := { builder := alternating.builder }

/-- A bug in the vertex with the synthetic parameter, named without it. -/
def alternatingBugs : Dict ConstructSet := Dict.empty.insert "B" (.ofNames .java ["p.B$C()"])

theorem alternating_mentions :
    alternating.mentions =
      ["p.A.idle()", "p.A.run()", "p.B$C(p.B)", "p.B$C(p.B)", "p.A.run()"] := by
  decide +kernel

theorem alternating_keeps : alternating.Keeps {} "p.A.run()" := by
  have names : alternating.entryNames = ["p.A.run()", "p.A.gone()"] := by decide +kernel
  exact ⟨by simp [names], by simp [alternating_mentions], fun f filter => by simp at filter⟩

theorem alternating_denotes : alternating.Denotes "p.B$C()" "p.B$C(p.B)" := by
  unfold Document.Denotes
  rw [alternating_mentions, if_neg (by simp)]
  decide +kernel

theorem alternating_exposes : alternating.Exposes {} (.ofNames .java ["p.B$C()"]) := by
  have calls : alternating.calls = [("p.A.run()", "p.B$C(p.B)"), ("p.B$C(p.B)", "p.A.run()")] := by
    decide +kernel
  have call : alternating.Declares "p.A.run()" "p.B$C(p.B)" := by simp [← Document.mem_calls, calls]
  have names : (ConstructSet.ofNames .java ["p.B$C()"]).names = ["p.B$C()"] := by decide +kernel
  exact ⟨_, alternating_keeps, _, by simp [names], _, alternating_denotes, .single call⟩

theorem verdict_of_run_alternating : ∃ moves r,
    (({} : RunState).steps alternatingAnalysis alternatingBugs moves).result? = some r ∧
      (({} : RunState).steps alternatingAnalysis alternatingBugs moves).caller = none ∧
        r.error ≠ some .timeout ∧
      r.Verdict alternating {} alternatingBugs ∧ "B" ∈ r.reachable := by
  obtain ⟨b, built⟩ : ∃ b, alternating.build false .silent = .ok b := ⟨_, rfl⟩
  obtain ⟨verdict, returns⟩ :=
    verdict_of_run alternating alternatingAnalysis ⟨.pruned, 0⟩ alternatingBugs {} b rfl rfl built
      ⟨_, alternating_keeps⟩
  obtain ⟨moves, r, returned, uncancelled, inTime⟩ :=
    returns (by decide) fun _ _ _ => by simp [alternatingAnalysis]
  have holds := verdict moves r returned uncancelled inTime
  exact ⟨moves, r, returned, uncancelled, inTime, holds,
    (holds.reachable "B").2 ⟨_, rfl, alternating_exposes⟩⟩

end RunState

end OnDocument

end Exposure
