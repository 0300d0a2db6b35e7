/-
# Analysis.Run — a run, step by step

A run has several parties.  The pipeline builds the graph, hands the bugs to a
pool of workers, waits for them, hands the ranges of the graph to a second pool,
waits again and uploads what was found.  Every worker goes through its own
steps.  The front waits for the pipeline, for a timer and for the caller, and
returns a snapshot of what there is by then.

Who makes the next step is not up to the run: a schedule is a list of moves, and
`step` makes one.  A move that is not possible changes nothing.  Writing one
statistic, storing one list of paths or making one upload is a step of its own,
so the snapshot may fall between any two of them.

A computation that looks at its watch does so while others move.  It is one step
here, made when it ends: if the run has been interrupted by then, the move says
how many looks found the watch quiet.
-/
import Exposure.Analysis.Builder
import Exposure.Analysis.Measure
import Exposure.Analysis.Options
import Exposure.Analysis.Search
import Exposure.Classification
import Exposure.Upload.Uploader

namespace Exposure

set_option autoImplicit false

/-! ## What a run is given and what it returns -/

/-- The nanoseconds that the parts of a run take. -/
structure Timing where
  construct : Int := 0
  search : Int := 0
  scan : Int := 0
  total : Int := 0
  deriving DecidableEq, Repr

/-- The milliseconds of a statistic. -/
def Timing.milliseconds (nanoseconds : Int) : String := Text.intText (nanoseconds.tdiv 1000000)

/-- What an analysis works with. -/
structure Analysis where
  builder : Builder
  options : Options := {}
  search : PathSearch := options.enumerator.search
  /-- The archives, in place of what the builder knows. -/
  resolver : Option Resolver := none
  uploader : Uploader := .nothing
  processors : Nat := 1
  timing : Timing := {}

/-- Why a run has no complete result. -/
inductive RunError where
  | build (cause : BuildError)
  | noEntryPoints
  | search (cause : Interrupt)
  | scan (cause : Interrupt)
  | timeout
  | interrupted (cause : Interrupt)
  deriving DecidableEq, Repr

namespace RunError

def message : RunError → String
  | .build e => "building call graph: " ++ e.message
  | .noEntryPoints => "no entry points"
  | .search cause => "searching paths: " ++ cause.message
  | .scan cause => "scanning graph: " ++ cause.message
  | .timeout => "analysis timed out"
  | .interrupted cause => cause.message

end RunError

/-- What a run returns. -/
structure RunResult where
  error : Option RunError
  stats : Dict String
  paths : Dict (List PathRecord)
  findings : Option Findings
  graph : Option Callgraph

namespace RunResult

def isSuccess (r : RunResult) : Bool := r.error.isNone

/-- The bugs with a path, sorted. -/
def reachable (r : RunResult) : List String :=
  (r.paths.entries.filter fun e => !e.2.isEmpty).map (·.1)

end RunResult

/-! ## The parties -/

/-- Something that is written down in one step. -/
inductive Note where
  | stat (key value : String)
  | graph (g : Callgraph)
  | findings (f : Findings)
  | record (r : Log.Record)
  | measure (m : Measure)
  | upload (u : Upload)

/-- What the search and the scan work on. -/
structure Prepared where
  graph : Callgraph
  entries : List Nat
  apps : ConstructSet

/-- The steps of a worker that searches a bug. -/
inductive SearchTask where
  | waiting
  | searching
  | counting (paths : List Path)
  | storing (paths : List Path)
  | uploading (records : List PathRecord)
  | finished

/-- A bug in the pool. -/
structure SearchJob where
  bug : String
  targets : ConstructSet
  task : SearchTask := .waiting

def SearchJob.isFinished (j : SearchJob) : Bool :=
  match j.task with
  | .finished => true
  | _ => false

/-- A range in the pool, and what its scan came to. -/
structure ScanJob where
  range : NodeRange
  finished : Bool := false
  findings : Option Findings := none

/-- What the pipeline does next. -/
inductive Next where
  | search
  | await
  | scan
  | finish (error : Option RunError)

/-- Where the pipeline is. -/
inductive Stage where
  | building
  | noting (notes : List Note) (next : Next)
  | submittingBugs (rest : List (String × ConstructSet)) (submitted : Nat)
  | awaitingSearch
  | submittingRanges (rest : List NodeRange)
  | awaitingScan
  | ended (error : Option RunError)

/-- Where the front is. -/
inductive Front where
  | watching
  | closing (notes : List Note) (error : Option RunError)
  | returned (result : RunResult)

/-- A run between two steps. -/
structure RunState where
  stage : Stage := .building
  prepared : Option Prepared := none
  searches : List SearchJob := []
  scans : List ScanJob := []
  summary : SearchSummary := {}
  stats : Dict String := .empty
  paths : Dict (List PathRecord) := .empty
  findings : Option Findings := none
  graph : Option Callgraph := none
  outbox : Outbox := {}
  measures : List Measure := []
  /-- Why the pipeline and the workers are to stop. -/
  interrupted : Option Interrupt := none
  /-- Why the caller has lost interest. -/
  caller : Option Interrupt := none
  /-- Whether the timer has gone off. -/
  rang : Bool := false
  /-- Whether a worker has brought everything down. -/
  crashed : Bool := false
  front : Front := .watching

/-- What the front returns for. -/
inductive Ending where
  | done
  | timeout
  | caller
  deriving DecidableEq, Repr

/-- Who makes the next step. -/
inductive Move where
  /-- The pipeline.  `early` prefers an interrupt to results that are ready as well. -/
  | pipeline (early : Bool) (quiet : Option Nat)
  /-- The worker of a bug. -/
  | search (job : Nat) (quiet : Option Nat)
  /-- The worker of a range. -/
  | scan (job : Nat) (quiet : Option Nat)
  /-- The caller loses interest. -/
  | cancel (cause : Interrupt)
  /-- The timer goes off. -/
  | ring
  /-- The front stops waiting. -/
  | conclude (ending : Ending)
  /-- The front goes on towards its return. -/
  | close
  deriving DecidableEq, Repr

namespace RunState

/-! ## Notes -/

/-- The watch of a computation that ends now. -/
def watch (s : RunState) (quiet : Option Nat) : Watch :=
  match s.interrupted with
  | none => .silent
  | some cause => ⟨quiet, cause⟩

def addRecords (s : RunState) (rs : List Log.Record) : RunState :=
  { s with outbox := { s.outbox with records := s.outbox.records ++ rs } }

def addMeasures (s : RunState) (ms : List Measure) : RunState :=
  { s with measures := s.measures ++ ms }

/-- The record of an upload that failed. -/
def failedUpload (u : Upload) (e : UploadError) : Log.Record :=
  match u with
  | .paths bug _ =>
    Log.warn "uploading paths failed" [("bug", .text bug), ("error", .text e.message)]
  | .reachable digest _ =>
    Log.warn "uploading reachable constructs failed"
      [("digest", .text digest), ("error", .text e.message)]
  | .touchPoints digest _ =>
    Log.warn "uploading touch points failed" [("digest", .text digest), ("error", .text e.message)]

/-- One upload.  Whether it fails shows in the records and the measures only. -/
def upload (a : Analysis) (u : Upload) (s : RunState) : RunState :=
  match a.uploader.handIn { lost := s.interrupted } u s.outbox with
  | (outbox, none) => { s with outbox }.addMeasures [.upload u.kind true]
  | (outbox, some e) =>
    ({ s with outbox }.addMeasures [.upload u.kind false]).addRecords [failedUpload u e]

/-- Writes one note down. -/
def note (a : Analysis) (n : Note) (s : RunState) : RunState :=
  match n with
  | .stat key value => { s with stats := s.stats.insert key value }
  | .graph g => { s with graph := some g }
  | .findings f => { s with findings := some f }
  | .record r => s.addRecords [r]
  | .measure m => s.addMeasures [m]
  | .upload u => s.upload a u

/-! ## The pipeline -/

/-- The entry points that are kept, with their nodes. -/
def keptEntries (a : Analysis) (g : Callgraph) (entries : ConstructSet) :
    List (String × Option Nat) :=
  let kept := match a.options.entryFilter with
    | none => entries.names
    | some f => entries.names.filter f.keeps
  kept.map fun n => (n, g.index? n)

/-- What is said about an entry point. -/
def entryRecords (g : Callgraph) : String × Option Nat → List Log.Record
  | (name, none) => [Log.warn "entry point not in call graph" [("construct", .text name)]]
  | (name, some i) =>
    if (g.profile? i).any (·.isResolved) then []
    else [Log.debug "entry point without archive" [("construct", .text name)]]

/-- What is written down once the graph is built. -/
def buildNotes (a : Analysis) (b : Built) (g : Callgraph) : List Note :=
  let entries := keptEntries a g b.entries
  let found := (entries.filterMap (·.2)).length
  b.records.map .record ++ g.provenance.warnings.map .record ++ [.graph g]
    ++ (g.unresolved.names.map fun n =>
      .record (Log.debug "construct without archive" [("construct", .text n)]))
    ++ [.stat "cg_construction_ms" (Text.intText b.elapsed),
      .stat "cg_nodes" (Nat.repr g.size),
      .stat "cg_edges" (Nat.repr g.edgeCount),
      .stat "cg_unresolved" (Nat.repr g.unresolved.size),
      .measure (.graphSize g.size g.edgeCount)]
    ++ (entries.flatMap (entryRecords g)).map .record
    ++ [.stat "entry_points" (Nat.repr found),
      .stat "phase1_ms" (Timing.milliseconds a.timing.construct),
      .measure (.phase .construct),
      .record (Log.info "call graph built" [("nodes", .number g.size),
        ("edges", .number g.edgeCount),
        ("entry_points", .number found), ("unresolved", .number g.unresolved.size),
        ("dur", .duration a.timing.construct)])]

/-- The graph has been built. -/
def onBuilt (a : Analysis) (b : Built) (s : RunState) : RunState :=
  let resolver := (a.resolver.orElse fun _ => b.resolver).getD .nothing
  let g := Callgraph.ofRaw b.graph resolver
  let entries := (keptEntries a g b.entries).filterMap (·.2)
  let apps := (a.options.apps.orElse fun _ => b.apps).getD (.ofList [])
  let next := if entries.isEmpty then .finish (some .noEntryPoints) else .search
  { s with prepared := some ⟨g, entries, apps⟩, stage := .noting (buildNotes a b g) next }

/-- What is written down once all bugs have been searched. -/
def searchNotes (a : Analysis) (submitted : Nat) (summary : SearchSummary) : List Note :=
  (summary.stats.map fun (k, v) => .stat k v)
    ++ [.stat "phase2_ms" (Timing.milliseconds a.timing.search),
      .measure (.phase .search),
      .record (Log.info "path search completed" [("bugs", .number submitted),
        ("reachable", .number summary.reachable), ("dur", .duration a.timing.search)])]

/-- The uploads of findings: for each archive the reachable constructs, then the touch points
if they are asked for. -/
def findingUploads (touchPoints : Bool) (f : Findings) : List Upload :=
  f.digests.flatMap fun d =>
    let reachable := f.reachableOf d
    let points := f.touchPointsOf d
    (if reachable.isEmpty then [] else [.reachable d (some reachable)])
      ++ (if !touchPoints || points.isEmpty then [] else [.touchPoints d (some points)])

/-- What is written down once all ranges have been scanned. -/
def scanNotes (a : Analysis) (ranges : Nat) (f : Findings) : List Note :=
  [.findings f,
    .stat "reachable_constructs" (Nat.repr f.reachableCount),
    .stat "touch_points" (Nat.repr f.touchPointCount),
    .stat "unattributed" (Text.intText f.unattributed)]
    ++ (findingUploads a.options.touchPoints f).map .upload
    ++ [.stat "phase3_ms" (Timing.milliseconds a.timing.scan),
      .measure (.phase .scan),
      .record (Log.info "scan completed" [("partitions", .number ranges),
        ("reachable", .number f.reachableCount), ("touch_points", .number f.touchPointCount),
        ("dur", .duration a.timing.scan)])]

/-- The findings of all ranges together. -/
def mergedFindings (jobs : List ScanJob) : Findings :=
  jobs.foldl (fun f j => f.merge (j.findings.getD .none)) .none

/-- Whether a pool takes another job while `running` are not finished.  A negative size is no
limit. -/
def hasRoom (size : Int) (running : Nat) : Bool := size < 0 || (running : Int) < size

def runningSearches (s : RunState) : Nat := (s.searches.filter (!·.isFinished)).length
def runningScans (s : RunState) : Nat := (s.scans.filter (!·.finished)).length

def poolSize (a : Analysis) : Int := a.options.poolSize a.processors

/-- The ranges that the graph is split into. -/
def ranges (a : Analysis) (s : RunState) : List NodeRange :=
  partitions ((s.prepared.map (·.graph.size)).getD 0) (poolSize a)

/-- The scanner of a run. -/
def scanner (a : Analysis) (p : Prepared) : Scanner where
  blacklist := .ofLists (a.options.platform.getD []) (a.options.custom.getD [])
  apps := .ofSet p.apps
  touchPoints := a.options.touchPoints

/-- What the pipeline does once its notes are written. -/
def goOn (a : Analysis) (bugs : Dict ConstructSet) (next : Next) (s : RunState) : RunState :=
  match next with
  | .search => { s with stage := .submittingBugs bugs.entries 0 }
  | .await => { s with stage := .awaitingSearch }
  | .scan =>
    let started := match s.prepared with
      | none => s
      | some p =>
        s.addRecords [Log.debug "scanning graph" [("partitions", .number (ranges a s).length),
          ("app_constructs", .number (scanner a p).apps.size),
          ("blacklist", .texts (scanner a p).blacklist.entries)]]
    { started with stage := .submittingRanges (ranges a s) }
  | .finish error => { s with stage := .ended error }

/-- One step of the pipeline. -/
def advance (a : Analysis) (bugs : Dict ConstructSet) (early : Bool) (quiet : Option Nat)
    (s : RunState) : RunState :=
  match s.stage with
  | .building =>
    let begun := s.addRecords [Log.info "building call graph" [("strict", .flag a.options.strict)]]
    match a.builder.build a.options.strict (s.watch quiet) with
    | .stalled => s
    | .failed e => { begun with stage := .ended (some (.build e)) }
    | .built b => begun.onBuilt a b
  | .noting (n :: notes) next => { s.note a n with stage := .noting notes next }
  | .noting [] next => s.goOn a bugs next
  | .submittingBugs [] submitted =>
    { s with stage := .noting [.stat "bugs_total" (Nat.repr submitted)] .await }
  | .submittingBugs ((bug, targets) :: rest) submitted =>
    if targets.size = 0 then
      { s.addRecords [Log.debug "skipping bug without targets" [("bug", .text bug)]] with
        stage := .submittingBugs rest submitted }
    else if hasRoom (poolSize a) s.runningSearches then
      { s with searches := s.searches ++ [{ bug, targets }],
               stage := .submittingBugs rest (submitted + 1) }
    else s
  | .awaitingSearch =>
    let ready := s.runningSearches == 0
    match s.interrupted with
    | some cause =>
      if early || !ready then { s with stage := .ended (some (.search cause)) }
      else { s with stage := .noting (searchNotes a s.searches.length s.summary) .scan }
    | none =>
      if ready then { s with stage := .noting (searchNotes a s.searches.length s.summary) .scan }
      else s
  | .submittingRanges [] => { s with stage := .awaitingScan }
  | .submittingRanges ranges =>
    let taken := if poolSize a < 0 then ranges.length else (poolSize a - s.runningScans).toNat
    { s with scans := s.scans ++ (ranges.take taken).map ({ range := · }),
             stage := .submittingRanges (ranges.drop taken) }
  | .awaitingScan =>
    let ready := s.runningScans == 0
    let merged := mergedFindings s.scans
    match s.interrupted with
    | some cause =>
      if early || !ready then { s with stage := .ended (some (.scan cause)) }
      else { s with stage := .noting (scanNotes a s.scans.length merged) (.finish none) }
    | none =>
      if ready then { s with stage := .noting (scanNotes a s.scans.length merged) (.finish none) }
      else s
  | .ended _ => s

/-! ## The workers -/

/-- One worker of a bug further. -/
def setTask (s : RunState) (i : Nat) (task : SearchTask) : RunState :=
  { s with searches := s.searches.modify i fun j => { j with task } }

/-- One step of the worker of a bug. -/
def searchStep (a : Analysis) (p : Prepared) (i : Nat) (job : SearchJob) (quiet : Option Nat)
    (s : RunState) : RunState :=
  match job.task with
  | .waiting => s.setTask i (if s.interrupted.isSome then .finished else .searching)
  | .searching =>
    match searchBug a.options.shortestOnly a.search p.graph p.entries job.targets
      (s.watch quiet) with
    | .stalled => s
    | .failed m =>
      ((s.addRecords [Log.warn "skipping bug" [("bug", .text job.bug),
        ("error", .text m)]]).addMeasures
        [.bug .failed]).setTask i .finished
    | .found paths => s.setTask i (.counting paths)
  | .counting paths =>
    { s with summary := s.summary.add paths (targetNodes p.graph job.targets).length }.setTask i
      (.storing paths)
  | .storing paths =>
    match pathRecords p.graph job.bug paths with
    | none => { s with crashed := true }
    | some records =>
      { s with paths := s.paths.insert job.bug records }.setTask i (.uploading records)
  | .uploading records =>
    let outcome : Measure := .bug (if records.isEmpty then .unreachable else .reachable)
    let s := s.addMeasures (outcome :: records.map fun r => .pathLength r.calls)
    match capPaths job.bug a.options.maxPaths records with
    | none => { s with crashed := true }
    | some (kept, dropped) =>
      ((s.addRecords dropped).upload a (.paths job.bug (some kept))).setTask i .finished
  | .finished => s

/-- The end of the scan of a range. -/
def finishScan (s : RunState) (i : Nat) (findings : Option Findings) : RunState :=
  { s with scans := s.scans.modify i fun j => { j with finished := true, findings } }

/-- The step of the worker of a range. -/
def scanStep (a : Analysis) (p : Prepared) (i : Nat) (job : ScanJob) (quiet : Option Nat)
    (s : RunState) : RunState :=
  let skip (e : ScanError) (s : RunState) : RunState :=
    (s.addRecords [Log.warn "skipping partition" [("range", .text job.range.text),
      ("error", .text e.message)]]).finishScan i none
  if job.finished then s
  else
    match (scanner a p).run p.graph.scanGraph job.range (s.watch quiet) with
    | .error e => skip e s
    | .ok outcome =>
      let s := s.addRecords outcome.records
      match outcome.failure with
      | some e => skip e s
      | none => (s.addMeasures [.scanned job.range.length]).finishScan i (some outcome.findings)

/-! ## The front -/

/-- What is written down last, for an error that is known. -/
def closingNotes (a : Analysis) (error : Option RunError) : List Note :=
  let outcome : RunOutcome := match error with
    | none => .success
    | some .timeout => .timeout
    | some _ => .failure
  (match error with
    | some .timeout =>
      [.stat "timeout" "true",
        .record (Log.error "analysis timed out" [("timeout", .duration a.options.timeout)])]
    | _ => [])
    ++ [.stat "elapsed_ms" (Timing.milliseconds a.timing.total)]
    ++ (match error with
      | none => []
      | some .timeout => []
      | some e => [.record (Log.error "analysis failed" [("error", .text e.message)])])
    ++ [.measure (.run outcome)]

/-- What there is by now. -/
def snapshot (s : RunState) (error : Option RunError) : RunResult :=
  ⟨error, s.stats, s.paths, s.findings, s.graph⟩

/-- The front stops waiting, if what it stops for has happened. -/
def conclude (a : Analysis) (ending : Ending) (s : RunState) : RunState :=
  match s.front with
  | .watching =>
    match ending with
    | .done =>
      match s.stage with
      | .ended error => { s with front := .closing (closingNotes a error) error }
      | _ => s
    | .timeout =>
      if s.rang then
        { s with interrupted := s.interrupted.orElse fun _ => some .cancelled,
                 front := .closing (closingNotes a (some .timeout)) (some .timeout) }
      else s
    | .caller =>
      match s.caller with
      | some cause =>
        { s with
          front := .closing (closingNotes a (some (.interrupted cause)))
            (some (.interrupted cause)) }
      | none => s
  | _ => s

/-- The front writes its next note, or returns and leaves the others to stop. -/
def closeStep (a : Analysis) (s : RunState) : RunState :=
  match s.front with
  | .closing (n :: notes) error => { s.note a n with front := .closing notes error }
  | .closing [] error =>
    { s with front := .returned (s.snapshot error),
             interrupted := s.interrupted.orElse fun _ => some .cancelled }
  | _ => s

/-! ## Steps and runs -/

/-- One move.  Nothing moves after a crash. -/
def step (a : Analysis) (bugs : Dict ConstructSet) (s : RunState) (m : Move) : RunState :=
  if s.crashed then s
  else
    match m with
    | .pipeline early quiet => s.advance a bugs early quiet
    | .search i quiet =>
      match s.prepared, s.searches[i]? with
      | some p, some job => s.searchStep a p i job quiet
      | _, _ => s
    | .scan i quiet =>
      match s.prepared, s.scans[i]? with
      | some p, some job => s.scanStep a p i job quiet
      | _, _ => s
    | .cancel cause =>
      { s with caller := s.caller.orElse fun _ => some cause,
               interrupted := s.interrupted.orElse fun _ => some cause }
    | .ring => { s with rang := s.rang || decide (0 < a.options.timeout) }
    | .conclude ending => s.conclude a ending
    | .close => s.closeStep a

/-- The moves of a schedule, one after the other. -/
def steps (a : Analysis) (bugs : Dict ConstructSet) (moves : List Move) (s : RunState) : RunState :=
  moves.foldl (step a bugs) s

/-- What the front has returned, if it has. -/
def result? (s : RunState) : Option RunResult :=
  match s.front with
  | .returned r => some r
  | _ => none

/-- What the caller has, if the front has returned.  The lists of paths in a result are those that
were handed to the uploader, and what it has written there is found in them. -/
def received? (s : RunState) : Option RunResult :=
  s.result?.map fun r => { r with paths := s.outbox.seen r.paths }

end RunState

end Exposure
