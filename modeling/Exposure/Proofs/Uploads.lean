/-
# Proofs.Uploads — every list of paths is uploaded once

`Uploader.Handles` says how an outbox came about: by handing uploads to an
uploader, one after the other.  The outbox of every run is one of those
(`handled_of_leads`), and the uploads are those that it has as sent.  So what a
run hands in is what its uploader gets, neither more nor less.  Uploaders that
leave the lists alone that they are handed (`Uploader.LeavesLists`) do not show
in what the caller finds in them (`received?_eq`).

`Prepared.pathsFor?` is the list of paths that a bug gets if nothing interrupts
its search.  `Handed` says what has been uploaded for a bug at any moment of a
run: nothing until a worker with paths is finished, and one list from then on,
which is what the limit keeps of the stored one.  It holds for every schedule,
interrupted or not; what a run leaves behind once its search is over follows
from it (`Searched`).
-/
import Exposure.Proofs.Workers

namespace Exposure

set_option autoImplicit false

/-! ## Lists of paths -/

/-- The list of paths that an upload hands in for a bug. -/
def Upload.listFor? (bug : String) : Upload → Option (Option (List PathRecord))
  | .paths other records => if other = bug then some records else none
  | _ => none

/-- The lists of paths that were handed in for a bug, in order. -/
def Outbox.listsFor (o : Outbox) (bug : String) : List (Option (List PathRecord)) :=
  o.sent.filterMap (Upload.listFor? bug)

/-- The paths of a bug that has targets, if its search does not fail. -/
def Prepared.pathsFor? (p : Prepared) (a : Analysis) (bugs : Dict ConstructSet) (bug : String) :
    Option (List PathRecord) :=
  (bugs.get? bug).bind fun targets =>
    if targets.size = 0 then none
    else
      match p.search a targets .silent with
      | .found paths => pathRecords p.graph bug paths
      | _ => none

theorem Prepared.pathsFor?_eq_some {p : Prepared} {a : Analysis} {bugs : Dict ConstructSet}
    {bug : String} {records : List PathRecord} :
    p.pathsFor? a bugs bug = some records ↔
      ∃ targets found, bugs.get? bug = some targets ∧ targets.size ≠ 0 ∧
        p.search a targets .silent = .found found ∧
          pathRecords p.graph bug found = some records := by
  simp only [pathsFor?, Option.bind_eq_some_iff, Option.ite_none_left_eq_some]
  refine exists_congr fun targets => ?_
  cases p.search a targets .silent <;> simp

/-! ## What uploaders are handed -/

/-- The outbox comes from another one by handing uploads to an uploader, one after the other, with
records made in between. -/
inductive Uploader.Handles (uploader : Uploader) (start : Outbox) :
    List Upload → Outbox → Prop where
  | start : Handles uploader start [] start
  | record {sent : List Upload} {o : Outbox} (before : Handles uploader start sent o)
      (rs : List Log.Record) : Handles uploader start sent { o with records := o.records ++ rs }
  | upload {sent : List Upload} {o : Outbox} (before : Handles uploader start sent o)
      (patience : Patience) (u : Upload) :
      Handles uploader start (sent ++ [u]) (uploader.handIn patience u o).1

theorem Uploader.Handles.sent_eq {uploader : Uploader} {start o : Outbox} {sent : List Upload}
    (handled : uploader.Handles start sent o) : o.sent = start.sent ++ sent := by
  induction handled with
  | start => exact (List.append_nil _).symm
  | record _ _ ih => exact ih
  | upload _ _ u ih => exact (congrArg (· ++ [u]) ih).trans (List.append_assoc _ _ _)

/-- The uploader writes nothing into the lists that it is handed. -/
def Uploader.LeavesLists (uploader : Uploader) : Prop :=
  ∀ patience u o, (uploader.send patience u o).1.rewritten = o.rewritten

theorem Uploader.Handles.rewritten_eq {uploader : Uploader} {start o : Outbox} {sent : List Upload}
    (handled : uploader.Handles start sent o) (leaves : uploader.LeavesLists) :
    o.rewritten = start.rewritten := by
  induction handled with
  | start => rfl
  | record _ _ ih => exact ih
  | upload _ patience u ih => exact (leaves patience u _).trans ih

namespace Uploader

theorem leavesLists_nothing : nothing.LeavesLists := fun _ _ _ => rfl

theorem leavesLists_log : log.LeavesLists := fun _ _ _ => rfl

theorem leavesLists_refusing (reason : Upload → Option String) : (refusing reason).LeavesLists :=
  fun _ _ _ => rfl

theorem leavesLists_directory (root run time : String) : (directory root run time).LeavesLists := by
  intro patience u o
  simp only [directory]
  split
  · rfl
  · split <;> rfl

theorem leavesLists_throttled (id : Nat) (perSecond : Number.Binary64) {next : Uploader}
    (leaves : next.LeavesLists) : (throttled id perSecond next).LeavesLists := by
  intro patience u o
  simp only [throttled]
  split
  · rfl
  · split
    · exact leaves patience u o
    · split
      · rfl
      · exact leaves patience u _

theorem leavesLists_several {uploaders : List Uploader} (leave : ∀ u ∈ uploaders, u.LeavesLists) :
    (several uploaders).LeavesLists := by
  intro patience u o
  have all : (sendAll patience u uploaders o).1.rewritten = o.rewritten := by
    induction uploaders generalizing o with
    | nil => rfl
    | cons uploader rest ih =>
        obtain ⟨first, others⟩ := List.forall_mem_cons.1 leave
        exact (ih others _).trans (first patience u o)
  simp only [several]
  split <;> rename_i outcome <;> rw [outcome] at all <;> exact all

end Uploader

namespace RunState

variable {a : Analysis} {bugs : Dict ConstructSet} {s t : RunState} {p : Prepared} {start : Outbox}

theorem outbox_upload (a : Analysis) (u : Upload) (s : RunState) :
    ∃ rs, (s.upload a u).outbox =
      { (a.uploader.handIn { lost := s.interrupted } u s.outbox).1 with
        records := (a.uploader.handIn { lost := s.interrupted } u s.outbox).1.records ++ rs } := by
  unfold upload
  split
  case h_1 outcome => exact ⟨[], by simp [outcome, addMeasures]⟩
  case h_2 e outcome => exact ⟨[failedUpload u e], by simp [outcome, addMeasures, addRecords]⟩

/-- An upload is handed in whether it fails or not. -/
theorem sent_upload (a : Analysis) (u : Upload) (s : RunState) :
    (s.upload a u).outbox.sent = s.outbox.sent ++ [u] := by
  obtain ⟨rs, same⟩ := outbox_upload a u s
  rw [same]
  rfl

/-- Every outbox that a step leaves behind comes from uploads that were handed to the uploader. -/
def WasHandled (a : Analysis) (start : Outbox) (s : RunState) : Prop :=
  ∃ sent, a.uploader.Handles start sent s.outbox

theorem WasHandled.upload (handled : WasHandled a start s) (u : Upload) :
    WasHandled a start (s.upload a u) := by
  obtain ⟨sent, handled⟩ := handled
  obtain ⟨rs, same⟩ := outbox_upload a u s
  refine ⟨sent ++ [u], ?_⟩
  rw [same]
  exact (handled.upload _ u).record rs

theorem WasHandled.addRecords (handled : WasHandled a start s) (rs : List Log.Record) :
    WasHandled a start (s.addRecords rs) := by
  obtain ⟨sent, handled⟩ := handled
  exact ⟨sent, handled.record rs⟩

theorem WasHandled.note (handled : WasHandled a start s) (n : Note) :
    WasHandled a start (s.note a n) := by
  cases n with
  | upload u => exact handled.upload u
  | record r => exact handled.addRecords [r]
  | stat | graph | findings | measure => exact handled

theorem Transition.keeps_wasHandled (step : Transition a bugs s t)
    (handled : WasHandled a start s) : WasHandled a start t := by
  cases step
  case writes n _ _ _ => exact handled.note n
  case closes n _ _ _ => exact handled.note n
  case uploads job records kept dropped _ _ _ measures =>
      have before : WasHandled a start (s.addMeasures measures) := handled
      exact (before.addRecords dropped).upload (.paths job.bug (some kept))
  case buildFails records | builds records | goesOnToScan records | passesOver records
      | fails records _ | scans records _ => exact handled.addRecords records
  all_goals exact handled

/-- **What a run hands in is what its uploader gets.** -/
theorem handled_of_leads (leads : Leads a bugs { outbox := start } s) :
    ∃ sent, a.uploader.Handles start sent s.outbox := by
  induction leads with
  | refl => exact ⟨[], .start⟩
  | tail _ last ih => exact last.keeps_wasHandled ih

/-- The caller finds in its result what was put there, if the uploader leaves lists alone. -/
theorem received?_eq (leads : Leads a bugs { outbox := start } s) (leaves : a.uploader.LeavesLists)
    (untouched : start.rewritten = .empty) : s.received? = s.result? := by
  obtain ⟨sent, handled⟩ := handled_of_leads leads
  have none : s.outbox.rewritten = .empty := (handled.rewritten_eq leaves).trans untouched
  have same (paths : Dict (List PathRecord)) : s.outbox.seen paths = paths := by
    rw [Outbox.seen, none]
    exact Dict.mapValues_id paths
  simp only [received?, same]
  exact Option.map_id'

/-! ## Notes upload no paths -/

theorem listsFor_upload (a : Analysis) (u : Upload) (s : RunState) (bug : String) :
    (s.upload a u).outbox.listsFor bug = s.outbox.listsFor bug ++ (u.listFor? bug).toList := by
  rw [Outbox.listsFor, sent_upload, List.filterMap_append]
  cases here : u.listFor? bug <;> simp [Outbox.listsFor, here]

/-- A note that hands in no list of paths. -/
def keepsPaths : Note → Bool
  | .upload (.paths _ _) => false
  | _ => true

theorem listsFor_note {n : Note} (keeps : keepsPaths n = true) (s : RunState) (bug : String) :
    (s.note a n).outbox.listsFor bug = s.outbox.listsFor bug := by
  cases n with
  | upload u =>
      cases u with
      | paths => simp [keepsPaths] at keeps
      | reachable | touchPoints =>
          rw [note, listsFor_upload]
          exact List.append_nil _
  | _ => rfl

theorem keepsPaths_of_mem_buildNotes {b : Built} {g : Callgraph} {n : Note}
    (member : n ∈ buildNotes a b g) : keepsPaths n = true := by
  revert n
  simp only [← List.all_eq_true]
  simp [buildNotes, keepsPaths]

theorem keepsPaths_of_mem_searchNotes {submitted : Nat} {summary : SearchSummary} {n : Note}
    (member : n ∈ searchNotes a submitted summary) : keepsPaths n = true := by
  revert n
  simp only [← List.all_eq_true]
  simp [searchNotes, keepsPaths]

theorem keepsPaths_of_mem_scanNotes {ranges : Nat} {f : Findings} {n : Note}
    (member : n ∈ scanNotes a ranges f) : keepsPaths n = true := by
  have uploads : ∀ u ∈ findingUploads a.options.touchPoints f, keepsPaths (.upload u) = true := by
    intro u handed
    obtain ⟨d, -, handed⟩ := List.mem_flatMap.1 handed
    rcases List.mem_append.1 handed with here | here <;> split at here <;> simp_all [keepsPaths]
  revert n
  simp only [← List.all_eq_true]
  simpa [scanNotes, keepsPaths] using uploads

theorem keepsPaths_of_mem_closingNotes (error : Option RunError) (n : Note)
    (member : n ∈ closingNotes a error) : keepsPaths n = true := by
  revert n
  rw [← List.all_eq_true]
  match error with
  | none | some .timeout | some (.build _) | some .noEntryPoints | some (.search _) | some (.scan _)
  | some (.interrupted _) => rfl

/-- None of the notes that the pipeline writes hands in paths. -/
theorem Reached.stage_keepsPaths (reached : Reached a bugs s) {notes : List Note} {next : Next}
    (stage : s.stage = .noting notes next) : ∀ n ∈ notes, keepsPaths n = true := by
  revert notes next
  refine reached.invariant (P := fun s => ∀ {notes : List Note} {next : Next},
    s.stage = .noting notes next → ∀ n ∈ notes, keepsPaths n = true) (by simp) ?_
  intro s t _ before step notes next stage
  cases step
  case writes n rest _ earlier =>
      obtain ⟨rfl, -⟩ : rest = notes ∧ _ := by simpa using stage
      exact fun n' member => before earlier n' (List.mem_cons_of_mem n member)
  case builds =>
      obtain ⟨rfl, -⟩ : _ = notes ∧ _ := by simpa using stage
      exact fun _ => keepsPaths_of_mem_buildNotes
  case submitsNoMore =>
      obtain ⟨rfl, -⟩ : _ = notes ∧ _ := by simpa using stage
      simp [keepsPaths]
  case leavesSearch =>
      obtain ⟨rfl, -⟩ : _ = notes ∧ _ := by simpa using stage
      exact fun _ => keepsPaths_of_mem_searchNotes
  case leavesScan =>
      obtain ⟨rfl, -⟩ : _ = notes ∧ _ := by simpa using stage
      exact fun _ => keepsPaths_of_mem_scanNotes
  case buildFails | goesOnToSearch | goesOnToAwait | goesOnToScan | goesOnToEnd |
      passesOver | submits
      | givesUpSearch | submitsRanges | submitsNoMoreRanges | givesUpScan => simp at stage
  all_goals exact before stage

/-! ## What has been handed in for a bug -/

/-- What has been handed in for a bug since the start: nothing until its worker is finished with
paths, and from then on what the limit keeps of them. -/
def Handed (a : Analysis) (start : Outbox) (bug : String) (s : RunState) : Prop :=
  (s.outbox.listsFor bug = start.listsFor bug ∧
      ∀ j ∈ s.searches, j.bug = bug → j.task = .finished → s.paths.get? bug = none) ∨
    ∃ records kept dropped, s.paths.get? bug = some records ∧
      capPaths bug a.options.maxPaths records = some (kept, dropped) ∧
      s.outbox.listsFor bug = start.listsFor bug ++ [some kept] ∧
      ∀ j ∈ s.searches, j.bug = bug → j.task = .finished

/-- Nothing that concerns the bug has happened. -/
theorem Handed.congr {bug : String} (handed : Handed a start bug s)
    (lists : t.outbox.listsFor bug = s.outbox.listsFor bug) (paths : t.paths = s.paths)
    (searches : t.searches = s.searches) : Handed a start bug t := by
  unfold Handed at *
  rwa [lists, paths, searches]

/-- The worker of a job goes on, without storing or uploading anything for the bug. -/
theorem Handed.goesOn {bug : String} (handed : Handed a start bug s) {i : Nat} {job : SearchJob}
    {next : SearchTask} (found : s.searches[i]? = some job) (busy : job.task ≠ .finished)
    (lists : t.outbox.listsFor bug = s.outbox.listsFor bug)
    (paths : t.paths.get? bug = s.paths.get? bug)
    (searches : t.searches = (s.setTask i next).searches)
    (nothing : next = .finished → job.bug = bug → s.paths.get? bug = none) :
    Handed a start bug t := by
  have jobs {j : SearchJob} (member : j ∈ t.searches) : j = { job with task := next } ∨
      j ∈ s.searches := by
    rw [searches] at member
    obtain ⟨n, here⟩ := List.mem_iff_getElem?.1 member
    rcases getElem?_setTask found here with ⟨-, moved⟩ | ⟨-, old⟩
    · exact .inl moved
    · exact .inr (List.mem_of_getElem? old)
  unfold Handed
  rw [lists, paths]
  rcases handed with ⟨same, none⟩ | ⟨records, kept, dropped, stored, capped, same, finished⟩
  · refine .inl ⟨same, fun j member ofBug done => ?_⟩
    rcases jobs member with rfl | old
    · exact nothing done ofBug
    · exact none j old ofBug done
  · refine .inr ⟨records, kept, dropped, stored, capped, same, fun j member ofBug => ?_⟩
    rcases jobs member with rfl | old
    · exact absurd (finished job (List.mem_of_getElem? found) ofBug) busy
    · exact finished j old ofBug

/-- The only job of its bug is at its own place. -/
theorem Reached.job_of_setTask (reached : Reached a bugs s) {i : Nat} {job j : SearchJob}
    {next : SearchTask} (found : s.searches[i]? = some job)
    (member : j ∈ (s.setTask i next).searches) (ofBug : j.bug = job.bug) : j.task = next := by
  obtain ⟨n, here⟩ := List.mem_iff_getElem?.1 member
  rcases getElem?_setTask found here with ⟨-, rfl⟩ | ⟨apart, old⟩
  · rfl
  · exact absurd (reached.job_unique old found ofBug) apart

/-- As long as its worker is busy, nothing has been handed in for a bug. -/
theorem Handed.of_busy {job : SearchJob} (handed : Handed a start job.bug s)
    (member : job ∈ s.searches) (busy : job.task ≠ .finished) :
    s.outbox.listsFor job.bug = start.listsFor job.bug := by
  rcases handed with ⟨same, -⟩ | ⟨_, _, _, -, -, -, finished⟩
  · exact same
  · exact absurd (finished job member rfl) busy

theorem Transition.keeps_handed (step : Transition a bugs s t) (reached : Reached a bugs s)
    {bug : String} (handed : Handed a start bug s) : Handed a start bug t := by
  -- a worker that has found nothing yet has stored nothing
  have nothing {i : Nat} {job : SearchJob} (found : s.searches[i]? = some job)
      (task : job.task = .waiting ∨ job.task = .searching) (ofBug : job.bug = bug) :
      s.paths.get? bug = none := by
    obtain ⟨p, prepared⟩ := reached.prepared_of_job (List.mem_of_getElem? found)
    have holds := reached.holds prepared found
    subst ofBug
    rcases task with task | task <;> rw [task] at holds <;> exact holds
  cases step
  case writes n notes next stage =>
      exact handed.congr (listsFor_note (reached.stage_keepsPaths stage n List.mem_cons_self) s bug)
        rfl rfl
  case closes n notes error front =>
      have keeps := reached.closing_notes keepsPaths_of_mem_closingNotes front n List.mem_cons_self
      exact handed.congr (listsFor_note keeps s bug) rfl rfl
  case submits other targets rest _ stage targeted _ =>
      rcases handed with ⟨same, none⟩ | ⟨records, kept, dropped, stored, capped, same, finished⟩
      · refine .inl ⟨same, fun j member ofBug done => ?_⟩
        rcases List.mem_append.1 member with old | new
        · exact none j old ofBug done
        · simp [List.mem_singleton.1 new] at done
      · refine .inr ⟨records, kept, dropped, stored, capped, same, fun j member ofBug => ?_⟩
        rcases List.mem_append.1 member with old | new
        · exact finished j old ofBug
        · obtain rfl : other = bug := by rw [← ofBug, List.mem_singleton.1 new]
          simp [reached.not_stored stage targeted] at stored
  case starts found task _ =>
      exact handed.goesOn found (by simp [task]) rfl rfl rfl nofun
  case skips found task _ =>
      exact handed.goesOn found (by simp [task]) rfl rfl rfl fun _ => nothing found (.inl task)
  case fails found task _ _ _ =>
      exact handed.goesOn found (by simp [task]) rfl rfl rfl fun _ => nothing found (.inr task)
  case finds found task _ => exact handed.goesOn found (by simp [task]) rfl rfl rfl nofun
  case counts found task => exact handed.goesOn found (by simp [task]) rfl rfl rfl nofun
  case stores i job paths records prepared found task _ =>
      by_cases ofBug : job.bug = bug
      · subst ofBug
        refine .inl ⟨handed.of_busy (List.mem_of_getElem? found) (by simp [task]),
          fun j member same done => ?_⟩
        exact absurd (done.symm.trans (reached.job_of_setTask found member same)) nofun
      · exact handed.goesOn found (by simp [task]) rfl (Dict.get?_insert_of_ne _ ofBug _) rfl nofun
  case uploads i job records kept dropped found task capped measures =>
      have lists : ∀ other, ((((s.addMeasures measures).addRecords dropped).upload a
          (.paths job.bug (some kept))).outbox.listsFor other) =
            s.outbox.listsFor other ++ (if job.bug = other then some (some kept)
              else none).toList :=
        fun other => listsFor_upload a _ ((s.addMeasures measures).addRecords dropped) other
      by_cases ofBug : job.bug = bug
      · subst ofBug
        obtain ⟨p, prepared⟩ := reached.prepared_of_job (List.mem_of_getElem? found)
        have holds := reached.holds prepared found
        rw [task] at holds
        refine .inr ⟨records, kept, dropped, holds.1, capped, ?_, fun j member same => ?_⟩
        · have before := handed.of_busy (List.mem_of_getElem? found) (by simp [task])
          refine (lists job.bug).trans ?_
          simp [before]
        · exact reached.job_of_setTask found member same
      · refine handed.goesOn found (by simp [task]) ((lists bug).trans (by simp [ofBug])) rfl rfl ?_
        exact fun _ same => absurd same ofBug
  all_goals exact handed.congr rfl rfl rfl

/-- **What has been handed in for a bug**, at every moment of every run. -/
theorem handed_of_leads (leads : Leads a bugs { outbox := start } s) (bug : String) :
    Handed a start bug s := by
  induction leads with
  | refl => exact .inl ⟨rfl, by simp⟩
  | tail first last ih => exact last.keeps_handed ⟨start, first⟩ ih

/-! ## When the search is over -/

/-- What a search has left behind: the paths of every bug that has some to be found, each list
uploaded once as far as the limit keeps it, and no other list. -/
structure Searched (a : Analysis) (bugs : Dict ConstructSet) (p : Prepared) (start : Outbox)
    (paths : Dict (List PathRecord)) (outbox : Outbox) : Prop where
  /-- What was handed in is what the uploader got, upload after upload. -/
  handled : ∃ sent, outbox.sent = start.sent ++ sent ∧ a.uploader.Handles start sent outbox
  stored : ∀ bug, paths.get? bug = p.pathsFor? a bugs bug
  uploaded : ∀ bug records, p.pathsFor? a bugs bug = some records →
    ∃ kept dropped, capPaths bug a.options.maxPaths records = some (kept, dropped) ∧
      outbox.listsFor bug = start.listsFor bug ++ [some kept]
  silent : ∀ bug, p.pathsFor? a bugs bug = none → outbox.listsFor bug = start.listsFor bug

theorem Reached.stored_eq (reached : Reached a bugs s) (prepared : s.prepared = some p)
    (past : searchIsOver s.stage) (quiet : s.interrupted = none) (bug : String) :
    s.paths.get? bug = p.pathsFor? a bugs bug := by
  refine Option.ext fun records => ⟨fun stored => ?_, fun expected => ?_⟩
  · obtain ⟨p', targets, found, w, prepared', known, targeted, had, outcome, recorded⟩ :=
      reached.stored_found stored
    obtain rfl : p' = p := Option.some.inj (prepared'.symm.trans prepared)
    exact Prepared.pathsFor?_eq_some.2
      ⟨targets, found, known, targeted, had quiet ▸ outcome, recorded⟩
  · obtain ⟨targets, found, known, targeted, outcome, recorded⟩ :=
      Prepared.pathsFor?_eq_some.1 expected
    rcases reached.over_searched prepared past quiet known targeted with
      ⟨_, _, same, recorded', stored⟩ | ⟨⟨m, failed⟩, -⟩
    · obtain rfl := BugSearch.found.inj (outcome.symm.trans same)
      exact stored.trans (recorded'.symm.trans recorded)
    · simp [outcome] at failed

/-- Once the search is over, what has been handed in is what is stored. -/
theorem searched_of_stored (leads : Leads a bugs { outbox := start } s)
    (past : searchIsOver s.stage) (stored : ∀ bug, s.paths.get? bug = p.pathsFor? a bugs bug) :
    Searched a bugs p start s.paths s.outbox := by
  have reached : Reached a bugs s := ⟨start, leads⟩
  have handled : ∃ sent, s.outbox.sent = start.sent ++ sent ∧
      a.uploader.Handles start sent s.outbox :=
    (handled_of_leads leads).imp fun _ handled => ⟨handled.sent_eq, handled⟩
  refine ⟨handled, stored, fun bug records expected => ?_, fun bug nothing => ?_⟩
  · have here := (stored bug).trans expected
    rcases handed_of_leads leads bug with ⟨-, none⟩ | ⟨_, kept, dropped, same, capped, lists, -⟩
    · obtain ⟨j, member, ofBug⟩ : ∃ j ∈ s.searches, j.bug = bug :=
        reached.stored_job (by simp [here])
      simp [none j member ofBug (reached.searches_finished past j member)] at here
    · obtain rfl := Option.some.inj (same.symm.trans here)
      exact ⟨kept, dropped, capped, lists⟩
  · rcases handed_of_leads leads bug with ⟨same, -⟩ | ⟨_, _, _, here, -⟩
    · exact same
    · simp [(stored bug).trans nothing] at here

/-- **What an uninterrupted search leaves behind.** -/
theorem searched_of_over (leads : Leads a bugs { outbox := start } s)
    (prepared : s.prepared = some p) (past : searchIsOver s.stage) (quiet : s.interrupted = none) :
    Searched a bugs p start s.paths s.outbox :=
  searched_of_stored leads past (Reached.stored_eq ⟨start, leads⟩ prepared past quiet)

end RunState

end Exposure
