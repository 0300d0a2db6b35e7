/-
# Proofs.Reporting — a report agrees with the run that it is about

A report is put together from a result in one go: its bugs from the map of paths,
its archives from the two maps of the findings.  The statistics next to it were
written by the run, each by a count of its own.

They agree because the findings of a run are those of scans put together
(`Reached.scanned_findings`).  Such findings list nothing in vain, so that every
archive of a report has something to show, and what they list under a digest are
nodes with that digest, so that its locator is that of a node
(`Report.located`).  A digest of one map only adds nothing to the count of the
other (`Dict.sum_get?`), and `report_agrees` follows.
-/
import Exposure.Proofs.Noninterference
import Exposure.Proofs.TouchPointOrder
import Exposure.Proofs.Verdict
import Exposure.Report

namespace Exposure

set_option autoImplicit false

universe u

/-! ## Counting by keys -/

namespace Dict

variable {α : Type u}

/-- A sum over the values may be taken over any list with all the keys. -/
theorem sum_get? (d : Dict α) (weight : α → Nat) {keys : List String} (nodup : keys.Nodup)
    (all : d.keys ⊆ keys) :
    (keys.map fun key => ((d.get? key).map weight).getD 0).sum = (d.values.map weight).sum := by
  have split : keys.Perm (d.keys ++ keys.filter (· ∉ d.keys)) := by
    refine (List.perm_ext_iff_of_nodup nodup ?_).2 fun key => ?_
    · refine List.nodup_append.2 ⟨d.nodup_keys, nodup.filter _, fun key member key' rest same => ?_⟩
      subst same
      simpa [member] using List.of_mem_filter rest
    · rw [List.mem_append, List.mem_filter]
      by_cases member : key ∈ d.keys
      · simp [member, all member]
      · simp [member]
  have own : (d.keys.map fun key => ((d.get? key).map weight).getD 0) = d.values.map weight := by
    rw [Dict.keys, Dict.values, List.map_map, List.map_map]
    refine List.map_congr_left fun e member => ?_
    have found : d.get? e.1 = some e.2 := get?_eq_some_iff.2 member
    simp [found]
  have rest : ((keys.filter (· ∉ d.keys)).map fun key => ((d.get? key).map weight).getD 0).sum =
      0 := by
    refine List.sum_eq_zero fun n member => ?_
    obtain ⟨key, other, rfl⟩ := List.mem_map.1 member
    have absent : d.get? key = none := by simpa [mem_keys] using List.of_mem_filter other
    simp [absent]
  rw [(split.map _).sum_eq, List.map_append, List.sum_append, own, rest, Nat.add_zero]

end Dict

namespace Findings

/-! ## The digests of findings -/

theorem sorted_digests (f : Findings) : f.digests.Pairwise (· < ·) := Dict.sorted_keys _

theorem nodup_digests (f : Findings) : f.digests.Nodup := Dict.nodup_keys _

theorem reachableCount_eq (f : Findings) :
    f.reachableCount = (f.reachable.values.map Dict.size).sum := by
  rw [reachableCount, List.sum_eq_foldl, List.foldl_map]

theorem touchPointCount_eq (f : Findings) :
    f.touchPointCount = (f.touchPoints.values.map List.length).sum := by
  rw [touchPointCount, List.sum_eq_foldl, List.foldl_map]

theorem length_reachableOf (f : Findings) (digest : String) :
    (f.reachableOf digest).length = ((f.reachable.get? digest).map Dict.size).getD 0 := by
  cases found : f.reachable.get? digest <;>
    simp [reachableOf, found, Dict.values, Dict.size, Dict.empty]

theorem length_touchPointsOf (f : Findings) (digest : String) :
    (f.touchPointsOf digest).length = ((f.touchPoints.get? digest).map List.length).getD 0 := by
  cases found : f.touchPoints.get? digest <;> simp [touchPointsOf, found]

/-- The constructs of an archive are those found under its digest. -/
theorem mem_reachableOf {f : Findings} {digest : String} {p : Profile} :
    p ∈ f.reachableOf digest ↔ ∃ name, f.constructAt? digest name = some p := by
  cases found : f.reachable.get? digest with
  | none => simp [reachableOf, constructAt?, found, Dict.values, Dict.empty]
  | some constructs => simp [reachableOf, constructAt?, found, Dict.values, Dict.get?_eq_some_iff]

theorem mem_touchPointsOf {f : Findings} {digest : String} {t : TouchPoint} :
    t ∈ f.touchPointsOf digest ↔ t ∈ f.touchPointsAt digest := List.mem_mergeSort

end Findings

/-! ## What scans find are nodes -/

namespace Scanned

variable {g : Callgraph} {index : AppIndex} {f : Findings} {digest : String}

theorem tidy {g : ScanGraph} (scanned : Scanned g index f) : f.Tidy := by
  obtain ⟨xs, rfl, -⟩ := scanned.exists_sighted
  exact Findings.tidy_seeAll Findings.tidy_none xs

/-- A construct is listed under the digest of its node. -/
theorem construct_node (scanned : Scanned g.scanGraph index f) {name : String} {p : Profile}
    (listed : f.constructAt? digest name = some p) :
    p.digest = digest ∧ ∃ i, g.profile? i = some p := by
  obtain ⟨xs, rfl, sighted⟩ := scanned.exists_sighted
  have nothing : Findings.none.constructAt? digest name = none := rfl
  rw [Findings.constructAt?_seeAll, nothing, Option.or_none] at listed
  obtain ⟨x, member, found⟩ := List.mem_filterMap.1 (List.mem_of_getLast? listed)
  obtain ⟨c, -, i, here⟩ := sighted x member
  have own : p ∈ (c.sightings g.scanGraph i).filterMap (·.constructAt? digest name) :=
    List.mem_filterMap.2 ⟨x, here, found⟩
  rw [Scanner.filterMap_sightings, Option.mem_toList, Option.bind_eq_some_iff] at own
  obtain ⟨q, node, lists⟩ := own
  obtain ⟨rfl, lists⟩ := Scanner.listed?_eq_some.1 lists
  exact ⟨lists.archive.1, i, node⟩

/-- A touch point is listed under the digest of the node on its library side. -/
theorem touchPoint_node (scanned : Scanned g.scanGraph index f) {met : List Construct}
    {calls : List (String × String)} (imported : g.Imported met calls) {t : TouchPoint}
    (listed : t ∈ f.touchPointsAt digest) :
    t.library.digest = digest ∧ ∃ i, g.profile? i = some t.library := by
  obtain ⟨⟨c, -, touches⟩, call, makes⟩ := scanned.touches imported listed
  refine ⟨touches.archive.2, ?_⟩
  unfold TouchPoint.library
  split
  · exact ⟨call.1, makes.caller⟩
  · exact ⟨call.2, makes.callee⟩

end Scanned

/-! ## Reports -/

namespace Report

variable {f : Findings} {digest : String}

/-- What a report has to be for a result with this graph and these findings. -/
structure Agrees (report : Report) (r : RunResult) (g : Callgraph) (f : Findings) : Prop where
  /-- The bugs are those of the map of paths, in order. -/
  bugs : report.bugs.map (·.id) = r.paths.keys
  bugsSorted : (report.bugs.map (·.id)).Pairwise (· < ·)
  paths : ∀ b ∈ report.bugs, r.paths.get? b.id = some b.paths
  reachable : ∀ b ∈ report.bugs, b.isReachable = true ↔ b.id ∈ r.reachable
  /-- The archives are those with an entry in one of the two maps, in order. -/
  digests : ∀ digest, digest ∈ report.archives.map (·.digest) ↔
    digest ∈ f.reachable.keys ∨ digest ∈ f.touchPoints.keys
  digestsSorted : (report.archives.map (·.digest)).Pairwise (· < ·)
  counts : ∀ a ∈ report.archives, a.reachable = (f.reachableOf a.digest).length ∧
    a.touchPoints = (f.touchPointsAt a.digest).length
  /-- No archive is listed in vain. -/
  found : ∀ a ∈ report.archives, 0 < a.reachable ∨ 0 < a.touchPoints
  located : ∀ a ∈ report.archives, ∃ i p, g.profile? i = some p ∧ p.digest = a.digest ∧
    p.locator = a.locator
  reachableTotal : r.stats.get? "reachable_constructs" =
    some (Nat.repr (report.archives.map (·.reachable)).sum)
  touchPointTotal : r.stats.get? "touch_points" =
    some (Nat.repr (report.archives.map (·.touchPoints)).sum)

theorem digests_archivesOf (f : Findings) : (archivesOf f).map (·.digest) = f.digests := by
  rw [archivesOf, List.map_map]
  exact List.map_id _

/-- Something stands under a digest of findings that list nothing in vain. -/
theorem found (tidy : f.Tidy) (member : digest ∈ f.digests) :
    f.reachableOf digest ≠ [] ∨ f.touchPointsOf digest ≠ [] := by
  rcases Findings.mem_digests_iff.1 member with reachable | points
  · obtain ⟨constructs, known⟩ := Option.ne_none_iff_exists'.1 (Dict.mem_keys.1 reachable)
    obtain ⟨name, there⟩ := tidy.reachable digest constructs known
    obtain ⟨p, here⟩ := Option.isSome_iff_exists.1 there
    have listed : f.constructAt? digest name = some p := by
      simp [Findings.constructAt?, known, here]
    exact .inl (List.ne_nil_of_mem (Findings.mem_reachableOf.2 ⟨name, listed⟩))
  · obtain ⟨points, known⟩ := Option.ne_none_iff_exists'.1 (Dict.mem_keys.1 points)
    obtain ⟨t, there⟩ := List.exists_mem_of_ne_nil points (tidy.touchPoints digest points known)
    have listed : t ∈ f.touchPointsAt digest := by simpa [Findings.touchPointsAt, known] using there
    exact .inr (List.ne_nil_of_mem (Findings.mem_touchPointsOf.2 listed))

/-- The locator of an archive is that of a node with its digest. -/
theorem located {g : Callgraph} {index : AppIndex} {met : List Construct}
    {calls : List (String × String)} (scanned : Scanned g.scanGraph index f)
    (imported : g.Imported met calls) (member : digest ∈ f.digests) :
    ∃ i p, g.profile? i = some p ∧ p.digest = digest ∧ p.locator = (archive f digest).locator := by
  cases constructs : f.reachableOf digest with
  | cons p rest =>
      obtain ⟨name, listed⟩ :=
        Findings.mem_reachableOf.1 (constructs ▸ List.mem_cons_self : p ∈ f.reachableOf digest)
      obtain ⟨same, i, node⟩ := scanned.construct_node listed
      exact ⟨i, p, node, same, by simp [archive, constructs]⟩
  | nil =>
      cases points : f.touchPointsOf digest with
      | cons t rest =>
          have listed : t ∈ f.touchPointsAt digest :=
            Findings.mem_touchPointsOf.1 (points ▸ List.mem_cons_self)
          obtain ⟨same, i, node⟩ := scanned.touchPoint_node imported listed
          exact ⟨i, t.library, node, same, by simp [archive, constructs, points]⟩
      | nil => exact absurd (found scanned.tidy member) (by simp [constructs, points])

theorem sum_reachable (f : Findings) :
    ((archivesOf f).map (·.reachable)).sum = f.reachableCount := by
  have listed : f.reachable.keys ⊆ f.digests :=
    fun digest member => Findings.mem_digests_iff.2 (.inl member)
  rw [Findings.reachableCount_eq, ← f.reachable.sum_get? Dict.size f.nodup_digests listed,
    archivesOf, List.map_map]
  exact congrArg _ (List.map_congr_left fun digest _ => f.length_reachableOf digest)

theorem sum_touchPoints (f : Findings) :
    ((archivesOf f).map (·.touchPoints)).sum = f.touchPointCount := by
  have listed : f.touchPoints.keys ⊆ f.digests :=
    fun digest member => Findings.mem_digests_iff.2 (.inr member)
  rw [Findings.touchPointCount_eq, ← f.touchPoints.sum_get? List.length f.nodup_digests listed,
    archivesOf, List.map_map]
  exact congrArg _ (List.map_congr_left fun digest _ => f.length_touchPointsOf digest)

/-- The report of a result with findings of scans and with their numbers. -/
theorem agrees_ofResult {r : RunResult} {g : Callgraph} {index : AppIndex} {met : List Construct}
    {calls : List (String × String)} (findings : r.findings = some f)
    (scanned : Scanned g.scanGraph index f) (imported : g.Imported met calls)
    (reachable : r.stats.get? "reachable_constructs" = some (Nat.repr f.reachableCount))
    (touchPoints : r.stats.get? "touch_points" = some (Nat.repr f.touchPointCount)) :
    (ofResult r).Agrees r g f := by
  have archives : (ofResult r).archives = archivesOf f := by simp [ofResult, findings]
  have ids : (ofResult r).bugs.map (·.id) = r.paths.keys := by simp [ofResult, Dict.keys]
  have paths : ∀ b ∈ (ofResult r).bugs, r.paths.get? b.id = some b.paths := by
    intro b member
    obtain ⟨e, entry, rfl⟩ := List.mem_map.1 member
    exact Dict.get?_eq_some_iff.2 entry
  refine
    { bugs := ids
      bugsSorted := ids ▸ r.paths.sorted_keys
      paths := paths
      reachable := fun b member => ?_
      digests := fun digest => ?_
      digestsSorted := ?_
      counts := fun a member => ?_
      found := fun a member => ?_
      located := fun a member => ?_
      reachableTotal := ?_
      touchPointTotal := ?_ }
  · rw [RunResult.mem_reachable, paths b member]
    simp [BugReport.isReachable]
  · rw [archives, digests_archivesOf, Findings.mem_digests_iff]
  · rw [archives, digests_archivesOf]
    exact f.sorted_digests
  · rw [archives] at member
    obtain ⟨digest, -, rfl⟩ := List.mem_map.1 member
    exact ⟨rfl, List.length_mergeSort _⟩
  · rw [archives] at member
    obtain ⟨digest, listed, rfl⟩ := List.mem_map.1 member
    exact (found scanned.tidy listed).imp List.length_pos_iff.2 List.length_pos_iff.2
  · rw [archives] at member
    obtain ⟨digest, listed, rfl⟩ := List.mem_map.1 member
    exact located scanned imported listed
  · rw [archives, sum_reachable, reachable]
  · rw [archives, sum_touchPoints, touchPoints]

end Report

/-! ## Runs -/

namespace RunState

variable {a : Analysis} {bugs : Dict ConstructSet} {s : RunState} {story : Story}
    {closed : List Note}

/-- The findings of jobs that are finished are those of scans. -/
theorem scanned_mergedFindings {g : ScanGraph} {index : AppIndex} {jobs : List ScanJob}
    (each : ∀ j ∈ jobs, Scanned g index (j.findings.getD .none)) :
    Scanned g index (mergedFindings jobs) := by
  induction jobs using List.reverseRecOn with
  | nil => exact .nothing
  | append_singleton jobs j ih =>
      rw [mergedFindings, List.foldl_append]
      exact .merge (ih fun j' member => each j' (List.mem_append_left _ member))
        (each j (List.mem_append_right _ List.mem_cons_self))

/-- What a range came to, if anything, was found by a scan. -/
theorem scanned_scan (p : Prepared) (a : Analysis) (range : NodeRange) (watch : Watch) :
    Scanned p.graph.scanGraph (scanner a p).apps ((p.scan a range watch).getD .none) := by
  unfold Prepared.scan
  split
  · exact .nothing
  · rename_i o ran
    split
    · exact .nothing
    · exact .run (scanner a p) range watch rfl ran

/-- A pipeline that has ended with a success leaves the findings of scans behind, also if some of
them were interrupted. -/
theorem Reached.scanned_findings (reached : Reached a bugs s) (ended : s.stage = .ended none)
    {p : Prepared} (known : ∀ p', s.prepared = some p' → p' = p) :
    ∃ f, s.findings = some f ∧ Scanned p.graph.scanGraph (scanner a p).apps f := by
  have finds := reached.finds
  rw [ended] at finds
  refine ⟨_, finds, scanned_mergedFindings fun j member => ?_⟩
  obtain ⟨p', w, prepared, -, outcome⟩ :=
    reached.scanned member (reached.scans_finished (by rw [ended]; trivial) j member)
  obtain rfl := known p' prepared
  rw [outcome]
  exact scanned_scan p' a j.range w

/-- The numbers of the findings are written down with them. -/
theorem Journal.get?_findings (journal : Journal a bugs s story (story.whole a bugs) closed) :
    s.findings = some story.findings ∧
      s.stats.get? "reachable_constructs" = some (Nat.repr story.findings.reachableCount) ∧
      s.stats.get? "touch_points" = some (Nat.repr story.findings.touchPointCount) := by
  have last {key : String} (notTimeout : key ≠ "timeout") (notElapsed : key ≠ "elapsed_ms") :
      s.stats.get? key = ((Dict.ofList (Note.statsOf (story.findingNotes a))).get? key).or
        ((Dict.ofList (Note.statsOf (story.upToPaths a bugs))).get? key) := by
    rw [journal.get?_stats notTimeout notElapsed, Story.whole, Note.statsOf_append,
      Dict.get?_ofList_append]
    rfl
  refine ⟨journal.findings.trans (story.findingsOf_whole a bugs), ?_, ?_⟩
  all_goals
    rw [last (by decide) (by decide), Story.findingNotes, stats_scanNotes, Dict.get?_ofList]
    rfl

/-- **A report agrees with its run.** Whatever the order of the steps, the report of a success lists
the bugs of its paths and the archives of its findings, both in order.  It calls a bug reachable
just if the result does.  Every archive has a construct or a touch point, and the locator of a node
with its digest, and their numbers add up to the statistics. -/
theorem report_agrees (a : Analysis) (bugs : Dict ConstructSet) (outbox : Outbox)
    (moves : List Move) (r : RunResult)
    (returned : (({ outbox } : RunState).steps a bugs moves).result? = some r)
    (success : r.isSuccess = true) :
    ∃ g f, r.graph = some g ∧ r.findings = some f ∧ (Report.ofResult r).Agrees r g f := by
  obtain ⟨m, error, toReturn, -, closing, rfl⟩ :=
    exists_return (leads_steps moves { outbox }) (by simp) (result?_eq_some returned)
  obtain rfl : error = none := by simpa [RunResult.isSuccess, snapshot] using success
  have reached : Reached a bugs m := ⟨outbox, toReturn⟩
  have ended : m.stage = .ended none := reached.closing_success ⟨[], closing⟩
  obtain ⟨story, told, closed, journal⟩ := reached.journal
  obtain rfl := journal.told_of_ended ended
  obtain ⟨findings, reachable, touchPoints⟩ := journal.get?_findings
  obtain ⟨f, found, scanned⟩ := reached.scanned_findings ended journal.built
  obtain rfl : f = story.findings := Option.some.inj (found.symm.trans findings)
  exact ⟨_, story.findings, journal.graph.trans (story.graph_whole a bugs), findings,
    Report.agrees_ofResult findings scanned (Callgraph.Imported.ofRaw _ _) reachable touchPoints⟩

/-- A bug in a construct that is called, and one in a construct that is not there. -/
def hitAndMiss : Dict ConstructSet :=
  (Dict.empty.insert "X" (.ofNames .java ["B"])).insert "Z" (.ofNames .java ["C"])

theorem report_agrees_archivedCall : ∃ moves r g f,
    (({} : RunState).steps archivedCall hitAndMiss moves).result? = some r ∧ r.isSuccess = true ∧
      (Report.ofResult r).bugs.map (fun b => (b.id, b.isReachable)) = [("X", true), ("Z", false)] ∧
      (Report.ofResult r).archives = [⟨"1234", "lib.zip", 1, 1⟩] ∧
        (Report.ofResult r).Agrees r g f := by
  obtain ⟨b, built, entries⟩ : ∃ b, archivedCall.builder.build archivedCall.options.strict .silent =
      .built b ∧ (Prepared.ofBuilt archivedCall b).entries = [0] := ⟨_, rfl, by decide +kernel⟩
  have answer : ((archivedCall.answer hitAndMiss (.built b)).map fun r =>
      ((Report.ofResult r).bugs.map (fun b => (b.id, b.isReachable)),
        (Report.ofResult r).archives)) =
        some ([("X", true), ("Z", false)], [⟨"1234", "lib.zip", 1, 1⟩]) := by
    rw [← built]
    decide +kernel
  obtain ⟨before, after, r, -, -, returned, error, caller, rang⟩ :=
    exists_success hitAndMiss {} (by decide) built (by simp [entries])
      (fun _ _ => Prepared.search_ne_stalled (Enumerator.search_ne_stalled _) _ _ _)
      (fun _ _ _ found => Prepared.storable_of_unlimited (by decide) _
        (Prepared.recordable_of_search (.inr ⟨⟨.pruned, 0⟩, rfl⟩) found))
  rw [← built, answer_of_undisturbed (leads_steps _ _) ⟨caller, rang⟩
    (result?_eq_some returned)] at answer
  obtain ⟨bugs, archives⟩ := Prod.mk.inj (Option.some.inj answer)
  have success : r.isSuccess = true := by simp [RunResult.isSuccess, error]
  obtain ⟨g, f, -, -, agrees⟩ :=
    report_agrees archivedCall hitAndMiss {} (before ++ after) r returned success
  exact ⟨_, r, g, f, returned, success, bugs, archives, agrees⟩

end RunState

end Exposure
