/-
# Proofs.Noninterference — uploads do not show in results

Two runs of one analysis may differ in where uploads go and whether they fail, in
what there was in the outbox before, in how long everything takes and in who
moves when (`Circumstances`).  If neither is disturbed and nobody is kept from
moving, the one returns if the other does, and they return the same apart from
times (`uploads_do_not_show`).  The lists of paths are the exception: they are
shared with the uploader, so they are the same only if no uploader writes into
what it is handed.  Those of the command do not (`Command.leavesLists_uploaderOf`).
One that turns the lists around, and never fails, shows in the result
(`reversal_shows`).

That a result is the same follows from `RunState.answer_of_undisturbed`: it is the
answer, which does not depend on where uploads go.  What is handed in for the
archives is followed along the run (`RunState.handsIn_of_leads`): what has been
handed in and what the pipeline is about to hand in are, together, nothing until
the scan is over, and all uploads of its findings from then on.
-/
import Exposure.Command.Run
import Exposure.Proofs.Isolation
import Exposure.Proofs.Return
import Mathlib.Data.Nat.Pairing

namespace Exposure

set_option autoImplicit false

/-! ## Uploads for archives -/

/-- The upload is about an archive, not about a bug. -/
def Upload.isOfArchive : Upload → Bool
  | .paths _ _ => false
  | _ => true

/-- What was handed in for archives, in order. -/
def Outbox.ofArchives (o : Outbox) : List Upload := o.sent.filter Upload.isOfArchive

/-- The upload for an archive that a note makes. -/
def Note.archiveUpload? : Note → Option Upload
  | .upload u => if u.isOfArchive then some u else none
  | _ => none

/-- The uploads for archives among notes. -/
def Note.archiveUploads (notes : List Note) : List Upload := notes.filterMap Note.archiveUpload?

theorem isOfArchive_of_mem_findingUploads {touchPoints : Bool} {f : Findings} {u : Upload}
    (member : u ∈ RunState.findingUploads touchPoints f) : u.isOfArchive = true := by
  obtain ⟨d, -, handed⟩ := List.mem_flatMap.1 member
  rcases List.mem_append.1 handed with here |
    here <;> split at here <;> simp_all [Upload.isOfArchive]

/-- Nothing is found without a success. -/
theorem Analysis.findings_of_answer (a : Analysis) {bugs : Dict ConstructSet}
    {outcome : BuildOutcome} {r : RunResult} (answers : a.answer bugs outcome = some r)
    (failed : r.error ≠ none) : r.findings = none := by
  cases outcome with
  | stalled => simp [answer] at answers
  | failed e =>
      obtain rfl := Option.some.inj answers
      rfl
  | built b =>
      simp only [answer] at answers
      split at answers <;> obtain rfl := Option.some.inj answers
      · rfl
      · exact absurd rfl failed

namespace RunState

variable {a : Analysis} {bugs : Dict ConstructSet} {s t : RunState} {start : Outbox}

open Note (archiveUploads archiveUpload?)

theorem ofArchives_upload (a : Analysis) (u : Upload) (s : RunState) :
    (s.upload a u).outbox.ofArchives = s.outbox.ofArchives ++ if u.isOfArchive then
      [u] else [] := by
  rw [Outbox.ofArchives, sent_upload, List.filter_append]
  cases u <;> rfl

theorem ofArchives_note (a : Analysis) (n : Note) (s : RunState) :
    (s.note a n).outbox.ofArchives = s.outbox.ofArchives ++ n.archiveUpload?.toList := by
  cases n with
  | upload u =>
      rw [note, ofArchives_upload]
      cases u <;> rfl
  | _ => exact (List.append_nil _).symm

theorem archiveUploads_buildNotes (a : Analysis) (b : Built) (g : Callgraph) :
    archiveUploads (buildNotes a b g) = [] := by
  simp [archiveUploads, buildNotes, List.filterMap_append, List.filterMap_cons, List.filterMap_map,
    Function.comp_def, archiveUpload?]

theorem archiveUploads_searchNotes (a : Analysis) (submitted : Nat) (summary : SearchSummary) :
    archiveUploads (searchNotes a submitted summary) = [] := by
  simp [archiveUploads, searchNotes, List.filterMap_append, List.filterMap_cons, List.filterMap_map,
    Function.comp_def, archiveUpload?]

theorem archiveUploads_scanNotes (a : Analysis) (ranges : Nat) (f : Findings) :
    archiveUploads (scanNotes a ranges f) = findingUploads a.options.touchPoints f := by
  have all : (findingUploads a.options.touchPoints f).filterMap
      (fun u => archiveUpload? (.upload u)) =
      findingUploads a.options.touchPoints f := by
    refine (List.filterMap_congr fun u member => ?_).trans List.filterMap_some
    simp [archiveUpload?, isOfArchive_of_mem_findingUploads member]
  simpa [archiveUploads, scanNotes, List.filterMap_append, List.filterMap_cons, List.filterMap_map,
    Function.comp_def, archiveUpload?] using all

theorem archiveUpload?_of_mem_closingNotes (error : Option RunError) (n : Note)
    (member : n ∈ closingNotes a error) : n.archiveUpload? = none := by
  have none : archiveUploads (closingNotes a error) = [] := by
    cases error with
    | none => rfl
    | some e => cases e <;> rfl
  exact List.filterMap_eq_nil_iff.1 none n member

/-- What is handed in for archives in the whole run, as far as a stage shows. -/
def handsIn (a : Analysis) (s : RunState) : Stage → List Upload
  | .noting _ (.finish none) => findingUploads a.options.touchPoints (mergedFindings s.scans)
  | .ended none => findingUploads a.options.touchPoints (mergedFindings s.scans)
  | _ => []

theorem handsIn_of_not_over {stage : Stage} (before : ¬ scanIsOver stage) :
    handsIn a s stage = [] := by
  unfold handsIn
  split
  case h_1 | h_2 => exact absurd trivial before
  case h_3 => rfl

/-- What has been handed in for archives, with what the pipeline is about to hand in. -/
def HandsIn (a : Analysis) (start : Outbox) (s : RunState) : Prop :=
  s.outbox.ofArchives ++ archiveUploads (pending s.stage) = start.ofArchives ++ handsIn a s s.stage

theorem Transition.keeps_handsIn (step : Transition a bugs s t) (reached : Reached a bugs s)
    (before : HandsIn a start s) : HandsIn a start t := by
  unfold HandsIn at *
  cases step
  case buildFails stage _ _ | goesOnToSearch stage | goesOnToAwait stage | goesOnToScan stage _ |
      passesOver stage _ _
      | submits stage _ _ | submitsNoMore stage | givesUpSearch stage _ | submitsRanges stage _
      | submitsNoMoreRanges stage | givesUpScan stage _ =>
      rw [stage] at before
      exact before
  case builds b stage _ _ =>
      rw [stage] at before
      rw [pending, archiveUploads_buildNotes, handsIn_of_not_over (by split <;> simp [scanIsOver])]
      exact before
  case leavesSearch stage _ =>
      rw [stage] at before
      rw [pending, archiveUploads_searchNotes]
      exact before
  case leavesScan stage _ =>
      rw [stage] at before
      rw [pending, archiveUploads_scanNotes]
      exact congrArg (· ++ _) ((List.append_nil _).symm.trans (before.trans (List.append_nil _)))
  case writes n notes next stage =>
      rw [stage] at before
      have same : handsIn a s (.noting (n :: notes) next) = handsIn a s (.noting notes next) := by
        cases next with
        | finish error => cases error <;> rfl
        | _ => rfl
      rw [same] at before
      refine Eq.trans ?_ before
      rw [ofArchives_note, List.append_assoc]
      cases here : n.archiveUpload? <;> simp [pending, archiveUploads, here]
  case goesOnToEnd error stage =>
      rw [stage] at before
      cases error <;> exact before
  case scans found unfinished _ _ =>
      have running : ¬ scanIsOver s.stage := fun past => by
        simp [reached.scans_finished past _ (List.mem_of_getElem? found)] at unfinished
      rw [handsIn_of_not_over running] at before
      exact before.trans (congrArg _ (handsIn_of_not_over running).symm)
  case uploads =>
      refine Eq.trans ?_ before
      refine congrArg (· ++ archiveUploads (pending s.stage)) ((ofArchives_upload _ _ _).trans ?_)
      exact List.append_nil _
  case closes n notes error front =>
      have silent :=
        reached.closing_notes archiveUpload?_of_mem_closingNotes front n List.mem_cons_self
      refine Eq.trans ?_ before
      refine congrArg (· ++ archiveUploads (pending s.stage)) ((ofArchives_note a n s).trans ?_)
      simp [silent]
  all_goals exact before

/-- **What has been handed in for archives**, at every moment of every run. -/
theorem handsIn_of_leads (leads : Leads a bugs { outbox := start } s) : HandsIn a start s := by
  induction leads with
  | refl => rfl
  | tail first last ih => exact last.keeps_handsIn ⟨start, first⟩ ih

/-- What an undisturbed run has handed in for archives when it returns: the uploads of its
findings. -/
theorem ofArchives_of_undisturbed {r : RunResult} (leads : Leads a bugs { outbox := start } s)
    (calm : Calm { outbox := start } s) (returned : s.front = .returned r) :
    s.outbox.ofArchives = start.ofArchives ++
      (r.findings.map (findingUploads a.options.touchPoints)).getD [] := by
  have answer := answer_of_undisturbed leads calm returned
  obtain ⟨m, error, toReturn, fromReturn, -, ended, -, rfl⟩ :=
    exists_end_of_undisturbed leads calm returned
  have handed := handsIn_of_leads leads
  rw [HandsIn, fromReturn.stays_ended ended] at handed
  cases error with
  | none =>
      obtain ⟨stage, -, findings⟩ := Reached.ended_settled ⟨start, toReturn⟩ ended fromReturn
      have finds := Reached.finds ⟨start, leads⟩
      rw [stage] at finds
      have found : (m.snapshot none).findings = some (mergedFindings s.scans) :=
        findings.symm.trans finds
      rw [found]
      exact (List.append_nil _).symm.trans handed
  | some e =>
      have none : (m.snapshot (some e)).findings = none :=
        a.findings_of_answer (r := (m.snapshot (some e)).withoutTimes) answer
          (by simp [RunResult.withoutTimes, snapshot])
      rw [none]
      exact (List.append_nil _).symm.trans handed

end RunState

/-! ## The order of uploads -/

/-- The kind of an upload and what it is about. -/
def Upload.label (u : Upload) : String × String := (u.kind, u.key)

namespace Findings

/-- How findings are handed in: the archives sorted by their digests, for each of them the reachable
constructs if there are any, then the touch points if they are asked for and there are any. -/
def HandedInAs (f : Findings) (touchPoints : Bool) (labels : List (String × String)) : Prop :=
  ∃ digests : List String, digests.Pairwise (· < ·) ∧
    (∀ d, f.reachableOf d ≠ [] ∨ f.touchPointsOf d ≠ [] → d ∈ digests) ∧
    labels = digests.flatMap fun d =>
      (if f.reachableOf d = [] then [] else [("reachable", d)]) ++
        if touchPoints = true ∧ f.touchPointsOf d ≠ [] then [("touchpoints", d)] else []

theorem mem_digests {f : Findings} {d : String}
    (found : f.reachableOf d ≠ [] ∨ f.touchPointsOf d ≠ []) : d ∈ f.digests := by
  rw [mem_digests_iff, Dict.mem_keys, Dict.mem_keys]
  refine found.imp (fun reachable absent => ?_) fun points absent => ?_
  · simp [reachableOf, absent, Dict.values, Dict.empty] at reachable
  · simp [touchPointsOf, absent] at points

theorem handedInAs_findingUploads (f : Findings) (touchPoints : Bool) :
    f.HandedInAs touchPoints ((RunState.findingUploads touchPoints f).map Upload.label) := by
  refine ⟨f.digests, Dict.sorted_keys _, fun d found => mem_digests found, ?_⟩
  rw [RunState.findingUploads, List.map_flatMap]
  congr 1
  funext d
  rw [List.map_append]
  congr 1
  · cases f.reachableOf d <;> rfl
  · cases touchPoints <;> cases f.touchPointsOf d <;> rfl

end Findings

/-! ## Circumstances -/

/-- The same build in another time. -/
def BuildOutcome.taking (milliseconds : Int) : BuildOutcome → BuildOutcome
  | .built b => .built { b with elapsed := milliseconds }
  | .failed e => .failed e
  | .stalled => .stalled

/-- What two runs of an analysis may differ in.  Neither is disturbed, and everybody moves again and
again. -/
structure Circumstances where
  uploader : Uploader
  schedule : Nat → Move
  fair : FairToAll schedule
  outbox : Outbox := {}
  timing : Timing := {}
  buildTime : Int := 0

/-- No list of paths is written over that the uploader is handed. -/
structure Circumstances.LeavesLists (c : Circumstances) : Prop where
  uploader : c.uploader.LeavesLists
  outbox : c.outbox.rewritten = .empty

namespace Analysis

open RunState

variable (a : Analysis) (bugs : Dict ConstructSet) (c : Circumstances)

/-- The analysis in its circumstances. -/
def under : Analysis :=
  { a with
    builder := ⟨fun strict watch => (a.builder.build strict watch).taking c.buildTime⟩
    uploader := c.uploader
    timing := c.timing }

/-- The run after so many moves. -/
def runUnder (n : Nat) : RunState :=
  RunState.after (a.under c) bugs c.schedule { outbox := c.outbox } n

theorem build_under : (a.under c).builder.build (a.under c).options.strict .silent =
    (a.builder.build a.options.strict .silent).taking c.buildTime := rfl

/-- The answer does not depend on the circumstances. -/
theorem answer_under :
    (a.under c).answer bugs ((a.under c).builder.build (a.under c).options.strict .silent) =
    a.answer bugs (a.builder.build a.options.strict .silent) := by
  rw [build_under]
  cases a.builder.build a.options.strict .silent <;> rfl

theorem completes_under :
    (a.under c).Completes bugs ((a.under c).builder.build (a.under c).options.strict .silent) ↔
      a.Completes bugs (a.builder.build a.options.strict .silent) := by
  rw [build_under]
  cases a.builder.build a.options.strict .silent with
  | stalled | failed => exact Iff.rfl
  | built b =>
      simp only [Completes, BuildOutcome.taking, AllStorable, Prepared.storable_iff]
      exact Iff.rfl


theorem returns_iff : (∃ n, (a.runUnder bugs c n).result?.isSome = true) ↔
    a.Completes bugs (a.builder.build a.options.strict .silent) := by
  rw [← a.completes_under bugs c, ← exists_returned_iff c.outbox c.fair]
  refine exists_congr fun n => ?_
  rw [Option.isSome_iff_exists]
  exact exists_congr fun r =>
    ⟨result?_eq_some, fun returned => by simp [runUnder, result?, returned]⟩

variable {n : Nat} {r : RunResult}

theorem answer_of_result (returned : (a.runUnder bugs c n).result? = some r) :
    a.answer bugs (a.builder.build a.options.strict .silent) = some r.withoutTimes := by
  rw [← a.answer_under bugs c]
  exact answer_of_undisturbed (leads_after _ bugs c.schedule _ n)
    (calm_after c.fair.undisturbed _ n)
    (result?_eq_some returned)

/-- What the uploader was handed for archives: the uploads of the findings. -/
theorem handled_of_result (returned : (a.runUnder bugs c n).result? = some r) :
    ∃ sent, c.uploader.Handles c.outbox sent (a.runUnder bugs c n).outbox ∧
      sent.filter Upload.isOfArchive =
        (r.findings.map (findingUploads a.options.touchPoints)).getD [] := by
  have leads := leads_after (a.under c) bugs c.schedule { outbox := c.outbox } n
  obtain ⟨sent, handled⟩ := handled_of_leads leads
  have archives : (c.outbox.sent ++ sent).filter Upload.isOfArchive =
      c.outbox.sent.filter Upload.isOfArchive ++
      (r.findings.map (findingUploads a.options.touchPoints)).getD [] := by
    rw [← handled.sent_eq]
    exact ofArchives_of_undisturbed (a := a.under c) leads (calm_after c.fair.undisturbed _ n)
      (result?_eq_some returned)
  rw [List.filter_append] at archives
  exact ⟨sent, handled, List.append_cancel_left archives⟩

/-- The caller finds what was put into the result, if no uploader has written over it. -/
theorem received?_runUnder (leaves : c.LeavesLists) :
    (a.runUnder bugs c n).received? = (a.runUnder bugs c n).result? :=
  received?_eq (leads_after (a.under c) bugs c.schedule _ n) leaves.uploader leaves.outbox

theorem isSome_received? :
    (a.runUnder bugs c n).received?.isSome = (a.runUnder bugs c n).result?.isSome :=
  Option.isSome_map

end Analysis

/-- **Uploads do not show in results.**  Of two fair runs of an analysis the one returns if the
other does, wherever their uploads go and whichever of them fail.  Their callers receive the same
apart from times, if the uploaders leave the lists alone that they are handed; if not, all but the
lists is the same.  Both uploaders have been handed the same for archives, in the same order. -/
theorem uploads_do_not_show (a : Analysis) (bugs : Dict ConstructSet) (here there : Circumstances) :
    ((∃ n, (a.runUnder bugs here n).received?.isSome = true) ↔
        ∃ n, (a.runUnder bugs there n).received?.isSome = true) ∧
      ∀ n m r r', (a.runUnder bugs here n).received? = some r →
        (a.runUnder bugs there m).received? = some r' →
        r.isSuccess = r'.isSuccess ∧ r.error = r'.error ∧ r.paths.keys = r'.paths.keys ∧
          (here.LeavesLists → there.LeavesLists → r.paths = r'.paths) ∧ r.findings = r'.findings ∧
          r.graph = r'.graph ∧ (∀ key, key ∉ timeKeys → r.stats.get? key = r'.stats.get? key) ∧
          ∃ sent sent', here.uploader.Handles here.outbox sent (a.runUnder bugs here n).outbox ∧
            there.uploader.Handles there.outbox sent' (a.runUnder bugs there m).outbox ∧
            sent.filter Upload.isOfArchive = sent'.filter Upload.isOfArchive ∧
            (r.findings = none → sent.filter Upload.isOfArchive = []) ∧
            ∀ f, r.findings = some f →
              f.HandedInAs a.options.touchPoints
                ((sent.filter Upload.isOfArchive).map Upload.label) := by
  constructor
  · simp only [a.isSome_received?]
    exact (a.returns_iff bugs here).trans (a.returns_iff bugs there).symm
  intro n m r r' received received'
  obtain ⟨own, returned, rfl⟩ := Option.map_eq_some_iff.1 received
  obtain ⟨own', returned', rfl⟩ := Option.map_eq_some_iff.1 received'
  have same : own.withoutTimes = own'.withoutTimes :=
    Option.some.inj ((a.answer_of_result bugs here returned).symm.trans
      (a.answer_of_result bugs there returned'))
  have error : own.error = own'.error := congrArg (·.error) same
  have paths : own.paths = own'.paths := congrArg (·.paths) same
  have findings : own.findings = own'.findings := congrArg (·.findings) same
  obtain ⟨sent, handled, archives⟩ := a.handled_of_result bugs here returned
  obtain ⟨sent', handled', archives'⟩ := a.handled_of_result bugs there returned'
  refine ⟨by simp [RunResult.isSuccess, error], error, ?_, fun leaves leaves' => ?_, findings,
    congrArg (·.graph) same, fun key lasts => ?_, sent, sent', handled, handled',
    by rw [archives, archives', findings], fun nothing => ?_, fun f found => ?_⟩
  · simp only [Outbox.seen, Dict.keys_mapValues, paths]
  · rw [a.received?_runUnder bugs here leaves, returned] at received
    rw [a.received?_runUnder bugs there leaves', returned'] at received'
    have kept := congrArg (·.paths) (Option.some.inj received)
    have kept' := congrArg (·.paths) (Option.some.inj received')
    exact kept.symm.trans (paths.trans kept')
  · have stats := congrArg (fun r : RunResult => r.stats.get? key) same
    simpa [RunResult.withoutTimes, Dict.get?_withoutTimes, lasts] using stats
  · have nothing : own.findings = none := nothing
    simp [archives, nothing]
  · have found : own.findings = some f := found
    simpa [archives, found] using f.handedInAs_findingUploads a.options.touchPoints

/-! ### All uploads refused -/

open RunState

/-- Every party has a number. -/
def Move.ofNumber (number : Nat) : Move :=
  match number % 5 with
  | 0 => .pipeline false none
  | 1 => .search (number / 5) none
  | 2 => .scan (number / 5) none
  | 3 => .conclude .done
  | _ => .close

/-- The first of the two numbers that `n` stands for says who moves, so that everybody does again
and again. -/
def turns (n : Nat) : Move := .ofNumber n.unpair.1

theorem exists_turn (number n : Nat) : ∃ m, n ≤ m ∧ turns m = .ofNumber number :=
  ⟨Nat.pair number n, Nat.right_le_pair number n, by rw [turns, Nat.unpair_pair]⟩

theorem fair_turns : FairToAll turns where
  undisturbed n := by
    unfold turns Move.ofNumber
    split <;> rfl
  pipeline n := (exists_turn 0 n).imp fun _ ⟨late, turn⟩ => ⟨late, false, none, turn⟩
  search i n := by
    obtain ⟨m, late, turn⟩ := exists_turn (5 * i + 1) n
    have party : (5 * i + 1) % 5 = 1 ∧ (5 * i + 1) / 5 = i := by omega
    exact ⟨m, late, none, by simp [turn, Move.ofNumber, party]⟩
  scan i n := by
    obtain ⟨m, late, turn⟩ := exists_turn (5 * i + 2) n
    have party : (5 * i + 2) % 5 = 2 ∧ (5 * i + 2) / 5 = i := by omega
    exact ⟨m, late, none, by simp [turn, Move.ofNumber, party]⟩
  conclude n := exists_turn 3 n
  close n := exists_turn 4 n

/-- Without a limit, searches with an enumerator of paths complete. -/
theorem Analysis.completes_of_unlimited {a : Analysis} (e : Enumerator)
    (itself : a.search = e.search) (unlimited : a.options.maxPaths < 1) (pool : poolSize a ≠ 0)
    (bugs : Dict ConstructSet) (b : Built) : a.Completes bugs (.built b) := by
  refine .inr ⟨pool, fun _ _ _ _ => ?_, fun bug _ _ _ _ found => ?_⟩
  · exact Prepared.search_ne_stalled (itself ▸ Enumerator.search_ne_stalled e) _ _ _
  · exact Prepared.storable_of_unlimited unlimited bug
      (Prepared.recordable_of_search (.inr ⟨e, itself⟩) found)

/-- A call from the application into an archive. -/
def archivedCall : Analysis where
  builder :=
    { nodes := ["A"], edges := ["A -> B"], entryPoints := ["A"], app := ["A"] : Document }.builder
  options := { touchPoints := true }
  resolver := some Scanner.oneArchive

/-- Every upload goes through. -/
def welcome : Circumstances := ⟨.nothing, turns, fair_turns, {}, {}, 0⟩

/-- Every upload is refused. -/
def refused : Circumstances := ⟨.refusing fun _ => some "no", turns, fair_turns, {}, {}, 0⟩

theorem archivedCall_answers :
    ((archivedCall.answer twoBugs
      (archivedCall.builder.build archivedCall.options.strict .silent)).map fun r =>
      (r.error.isNone, r.reachable, r.findings.map fun f =>
        (findingUploads true f).map Upload.label)) =
      some (true, ["X", "Y"], some [("reachable", "1234"), ("touchpoints", "1234")]) := by
  decide +kernel


theorem leavesLists_welcome : welcome.LeavesLists := ⟨Uploader.leavesLists_nothing, rfl⟩

theorem leavesLists_refused : refused.LeavesLists := ⟨Uploader.leavesLists_refusing _, rfl⟩

theorem uploads_do_not_show_refused : ∃ n m r r' sent sent',
    (archivedCall.runUnder twoBugs welcome n).received? = some r ∧
      (archivedCall.runUnder twoBugs refused m).received? = some r' ∧
      r.error = none ∧ r'.error = none ∧ r.reachable = ["X", "Y"] ∧ r'.paths = r.paths ∧
        r.findings = r'.findings ∧
      welcome.uploader.Handles {} sent (archivedCall.runUnder twoBugs welcome n).outbox ∧
      refused.uploader.Handles {} sent' (archivedCall.runUnder twoBugs refused m).outbox ∧
      (sent.filter Upload.isOfArchive).map Upload.label =
        [("reachable", "1234"), ("touchpoints", "1234")] ∧
      (sent'.filter Upload.isOfArchive).map Upload.label =
        [("reachable", "1234"), ("touchpoints", "1234")] := by
  obtain ⟨returns, agree⟩ := uploads_do_not_show archivedCall twoBugs welcome refused
  have comesBack := (archivedCall.returns_iff twoBugs welcome).2
    (Analysis.completes_of_unlimited ⟨.pruned, 0⟩ rfl (by decide) (by decide) twoBugs _)
  simp only [← archivedCall.isSome_received? twoBugs welcome] at comesBack
  obtain ⟨m, there⟩ := returns.1 comesBack
  obtain ⟨n, here⟩ := comesBack
  obtain ⟨r, received⟩ := Option.isSome_iff_exists.1 here
  obtain ⟨r', received'⟩ := Option.isSome_iff_exists.1 there
  obtain ⟨-, error, -, paths, findings, -, -, sent, sent', handled, handled', archives, -⟩ :=
    agree n m r r' received received'
  have returned := received
  rw [archivedCall.received?_runUnder twoBugs welcome leavesLists_welcome] at returned
  have value := archivedCall_answers
  rw [archivedCall.answer_of_result twoBugs welcome returned] at value
  obtain ⟨success, rest⟩ := Prod.mk.inj (Option.some.inj value)
  obtain ⟨found, archived⟩ := Prod.mk.inj rest
  have success : r.error = none := Option.isNone_iff_eq_none.1 success
  obtain ⟨f, known, labels⟩ := Option.map_eq_some_iff.1 archived
  have known : r.findings = some f := known
  have uploads : (sent.filter Upload.isOfArchive).map Upload.label =
      [("reachable", "1234"), ("touchpoints", "1234")] := by
    obtain ⟨same, handled', archives⟩ := archivedCall.handled_of_result twoBugs welcome returned
    obtain rfl : sent = same :=
      List.append_cancel_left (handled.sent_eq.symm.trans handled'.sent_eq)
    rw [archives, known]
    exact labels
  exact ⟨n, m, r, r', sent, sent', received, received', success, error ▸ success, found,
    (paths leavesLists_welcome leavesLists_refused).symm, findings, handled, handled', uploads,
      archives ▸ uploads⟩

/-! ### Lists turned around -/

/-- Wherever the command is told to send uploads, lists stay as they are. -/
theorem Command.leavesLists_uploaderOf (s : Surroundings) (c : Config) :
    (uploaderOf s c).LeavesLists := by
  refine Uploader.leavesLists_several (List.forall_mem_cons.2 ⟨Uploader.leavesLists_log, ?_⟩)
  split
  · exact List.forall_mem_nil _
  · exact List.forall_mem_singleton.2
      (Uploader.leavesLists_throttled 0 _ (Uploader.leavesLists_directory _ _ _))

/-- Turns every list of paths around that it is handed. -/
def Uploader.reversing : Uploader where
  send _ u o :=
    match u with
    | .paths bug records =>
        ({ o with rewritten := o.rewritten.insert bug (records.getD []).reverse }, none)
    | _ => (o, none)

/-- What has become of the lists: the last one handed in for a bug, turned around. -/
theorem Uploader.Handles.rewritten_reversing {sent : List Upload} {o : Outbox}
    (handled : reversing.Handles {} sent o) (bug : String) :
    o.rewritten.get? bug =
      (sent.filterMap (Upload.listFor? bug)).getLast?.map fun records =>
        (records.getD []).reverse := by
  induction handled with
  | start => rfl
  | record _ _ ih => exact ih
  | upload _ patience u ih =>
      cases u with
      | reachable | touchPoints => simpa [handIn, reversing, Upload.listFor?] using ih
      | paths other records =>
          by_cases same : other = bug
          · simp [handIn, reversing, Upload.listFor?, same]
          · simpa [handIn, reversing, Upload.listFor?, same, Dict.get?_insert_of_ne] using ih

/-- All lists are turned around, and no upload fails. -/
def reversed : Circumstances := ⟨.reversing, turns, fair_turns, {}, {}, 0⟩

theorem oneCall_finds : ∃ b, oneCall.builder.build oneCall.options.strict .silent = .built b ∧
    (Prepared.ofBuilt oneCall b).entries ≠ [] ∧
    (Prepared.ofBuilt oneCall b).search oneCall (.ofNames .java ["A", "B"]) .silent =
      .found [[0], [0, 1]] := by
  refine ⟨_, rfl, by decide +kernel, ?_⟩
  refine (Prepared.search_of_names names_wide .silent).trans ?_
  decide +kernel

/-- What a run of `oneCall` has stored for the bug with two targets, and has handed in for it. -/
theorem oneCall_stores (c : Circumstances) {n : Nat} {r : RunResult}
    (returned : (oneCall.runUnder wideBug c n).result? = some r) :
    ∃ records, r.error = none ∧ r.paths.get? "X" = some records ∧
      records.map PathRecord.calls = [0, 1] ∧
      (oneCall.runUnder wideBug c n).outbox.listsFor "X" = c.outbox.listsFor "X" ++
        [some records] := by
  obtain ⟨b, built, entry, search⟩ := oneCall_finds
  have leads := leads_after (oneCall.under c) wideBug c.schedule { outbox := c.outbox } n
  have calm : Calm { outbox := c.outbox } (oneCall.runUnder wideBug c n) :=
    calm_after c.fair.undisturbed _ n
  have built : (oneCall.under c).builder.build (oneCall.under c).options.strict .silent =
      .built { b with elapsed := c.buildTime } :=
    (oneCall.build_under c).trans (congrArg (BuildOutcome.taking c.buildTime) built)
  obtain ⟨past, success, paths⟩ :=
    over_of_returned leads built entry calm (result?_eq_some returned)
  have searched := searched_of_undisturbed leads built entry calm past
  have known : wideBug.get? "X" = some (.ofNames .java ["A", "B"]) := rfl
  have storable := allStorable_of_undisturbed leads built entry calm past "X" _ _ known
    (by decide) search
  obtain ⟨records, recorded, -⟩ := Prepared.storable_iff.1 storable
  have expected := Prepared.pathsFor?_eq_some.2 ⟨_, _, known, by decide, search, recorded⟩
  obtain ⟨kept, dropped, capped, lists⟩ := searched.uploaded "X" records expected
  obtain ⟨rfl, -⟩ : records = kept ∧ _ := by simpa [capPaths, Analysis.under, oneCall] using capped
  exact ⟨records, success, paths ▸ (searched.stored "X").trans expected,
    calls_of_pathRecords recorded, lists⟩

/-- **Uploads can show in results.**  No upload fails in either of two runs; the one succeeds as
well as the other.  But in the second run the uploader turns the lists around that it is handed, and
its caller receives other paths. -/
theorem reversal_shows : ∃ n m r r', (oneCall.runUnder wideBug welcome n).received? = some r ∧
    (oneCall.runUnder wideBug reversed m).received? = some r' ∧ r.error = none ∧ r'.error = none ∧
    (∀ patience u o, (welcome.uploader.send patience u o).2 = none) ∧
    (∀ patience u o, (reversed.uploader.send patience u o).2 = none) ∧
    (r.paths.get? "X").map (·.map PathRecord.calls) = some [0, 1] ∧
    (r'.paths.get? "X").map (·.map PathRecord.calls) = some [1, 0] := by
  have comesBack (c : Circumstances) : ∃ n r, (oneCall.runUnder wideBug c n).result? = some r := by
    have returns := (oneCall.returns_iff wideBug c).2
      (Analysis.completes_of_unlimited ⟨.pruned, 0⟩ rfl (by decide) (by decide) wideBug _)
    exact returns.imp fun _ => Option.isSome_iff_exists.1
  obtain ⟨n, r, returned⟩ := comesBack welcome
  obtain ⟨m, r', returned'⟩ := comesBack reversed
  obtain ⟨records, success, stored, calls, -⟩ := oneCall_stores welcome returned
  obtain ⟨records', success', stored', calls', lists⟩ := oneCall_stores reversed returned'
  have received := (oneCall.received?_runUnder wideBug welcome leavesLists_welcome).trans returned
  obtain ⟨sent, handled, -⟩ := oneCall.handled_of_result wideBug reversed returned'
  have rewritten : (oneCall.runUnder wideBug reversed m).outbox.rewritten.get? "X" =
      some records'.reverse := by
    have lists : sent.filterMap (Upload.listFor? "X") = [some records'] := by
      rwa [Outbox.listsFor, handled.sent_eq] at lists
    rw [handled.rewritten_reversing, lists]
    rfl
  refine ⟨n, m, r, _, received, congrArg (Option.map _) returned', success, success',
    fun _ _ _ => rfl, fun _ u _ => by cases u <;> rfl, by simp [stored, calls], ?_⟩
  simp [Outbox.seen, Dict.get?_mapValues, stored', rewritten, calls']

end Exposure
