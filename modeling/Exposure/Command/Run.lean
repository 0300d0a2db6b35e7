/-
# Command.Run — the command

A command line is read; unless it asks for something else, such as help, the
version or a script for a shell, the analysis it describes is run, and its
report is what the command prints.  The command ends with zero, with one when a
bug is reachable, and with two when something goes wrong, which it says on its
error output.

Profiling leaves a file from the start on and another one at the end, whatever
happens in between.
-/
import Exposure.Analysis.Metrics
import Exposure.Analysis.Setup
import Exposure.Command.Address
import Exposure.Command.Completion
import Exposure.Command.Manual
import Exposure.Command.Script
import Exposure.Log.Line
import Exposure.Report

namespace Exposure

set_option autoImplicit false

/-- What the command finds around it. -/
structure Surroundings where
  files : FileTree
  /-- The packages of the program, as a loader gives them, if there is a loader. -/
  packages : Option (List Program.Package) := none
  processors : Nat := 1
  /-- The time of the run. -/
  time : String
  /-- The name of the run. -/
  run : String

/-- How the command ends. -/
structure Exit where
  code : Nat
  output : String := ""
  errors : String := ""
  files : FileTree

namespace Command

def version : String := "dev"

def versionText : String :=
  "vulnreach version " ++ version ++ "\n  commit: unknown\n  built:  unknown\n"

/-- Why the command stops: its exit code, and a message if it is an error. -/
structure Stop where
  code : Nat := 2
  message : String := ""

/-- What the command has done so far. -/
structure Progress where
  files : FileTree
  output : String := ""
  records : List Log.Record := []
  /-- Whether a profile is to be finished. -/
  profiling : Bool := false

/-- A part of the command. -/
abbrev Part := ExceptT Stop (StateM Progress)

/-- Stops with an error. -/
def fail {α : Type} (message : String) : Part α := throw { message }

/-- Goes on with a value, or stops with its error. -/
def orFail {ε α : Type} (message : ε → String) : Except ε α → Part α
  | .ok a => pure a
  | .error e => fail (message e)

def note (r : Log.Record) : Part Unit := modify fun p => { p with records := p.records ++ [r] }

/-- Writes a file. -/
def writeFile (what path content : String) : Part Unit := do
  let files ← orFail (fun e => what ++ e.message) ((← get).files.write path content)
  modify fun p => { p with files }

/-! ## Before and after -/

def cpuProfile : String := "cpu.prof"

def memoryProfile : String := "mem.prof"

/-- Starts to serve metrics and to profile. -/
def setUp (a : Arguments) : Part Unit := do
  if a.metricsAddress != "" then
    match Address.fault? a.metricsAddress with
    | some e => fail ("listening on " ++ a.metricsAddress ++ ": listen tcp: " ++ e)
    | none => note (Log.info "serving metrics" [("addr", .text a.metricsAddress)])
  if a.profile then
    writeFile ("creating " ++ cpuProfile ++ ": ") cpuProfile ""
    modify fun p => { p with profiling := true }
    note (Log.info "cpu profiling started" [("file", .text cpuProfile)])

/-- Finishes a profile. -/
def tearDown : Part Unit := do
  if (← get).profiling then
    modify fun p => { p with profiling := false }
    note (Log.info "cpu profiling stopped" [("file", .text cpuProfile)])
    writeFile ("creating " ++ memoryProfile ++ ": ") memoryProfile ""
    note (Log.info "memory profiling completed" [("file", .text memoryProfile)])

/-! ## The analysis -/

/-- The configuration of the files with what the command line asks for. -/
def configure (a : Arguments) (files : FileTree) : Except LoadError Config := do
  let c ← match a.config with
    | some path => Config.load files path
    | none => Config.loadOptional files Arguments.defaultConfig
  let c := a.apply c
  c.check.mapError .invalid
  return c

/-- Where uploads go: to the log, and to a directory if there is one. -/
def uploaderOf (s : Surroundings) (c : Config) : Uploader :=
  .several (.log :: if c.output == "" then []
    else [.throttled 0 c.uploadRate (.directory c.output s.run s.time)])

/-- The report as it is printed. -/
def reportText (a : Arguments) (time : String) (r : Report) : String :=
  if a.json then JsonText.ofTree (r.tree version time) ++ "\n" else r.text a.verbose

/-- Reads the files, runs the analysis and prints its report. -/
def analyse (s : Surroundings) (a : Arguments) : Part Unit := do
  if a.bugs == "" then fail "--bugs is required"
  let files := (← get).files
  let c ← orFail (·.message) (configure a files)
  let source ← orFail (fun e => "create builder: " ++ e.message) (c.source files "")
  let bugs ← orFail (·.message) (Bugs.load files a.bugs source.lang)
  let analysis ← orFail (·.message) (c.analysis source s.packages (uploaderOf s c) s.processors)
  if c.output != "" then
    note (Log.info "writing uploads"
      [("dir", .text c.output), ("run", .text s.run), ("rate", .text c.uploadRate.text)])
  note (Log.info "starting reachability analysis"
    [("bugs", .number bugs.size), ("lang", .text source.lang.text)])
  let state := analysis.run bugs { files }
  match state.received? with
  | none => throw {}
  | some result =>
    let report := Report.ofResult result
    modify fun p => { p with
      files := state.outbox.files
      output := reportText a s.time report
      records := p.records ++ state.outbox.records }
    if a.verbose && !a.json then
      note (Log.info "analysis stats" (result.stats.entries.map fun (k, v) => (k, .text v)))
    if a.metricsFile != "" then
      writeFile "writing metrics: " a.metricsFile (Metrics.text state.measures)
    match result.error with
    | some e => fail ("analysis failed: " ++ e.message)
    | none => if !result.reachable.isEmpty then throw { code := 1 }

/-- The records of a verbose command. -/
def recordLines (a : Arguments) (time : String) (rs : List Log.Record) : String :=
  if a.verbose then
    String.join (rs.map fun r => (if a.json then r.jsonLine time else r.line time) ++ "\n")
  else ""

/-- Prints a text. -/
def print (text : String) : Part Unit := modify fun p => { p with output := p.output ++ text }

/-- Does a part of the command between setting up and tearing down. -/
def runPart (s : Surroundings) (a : Arguments) (part : Part Unit) : Exit :=
  let all : Part Unit := do
    setUp a
    part
    tearDown
  match all.run { files := s.files } with
  | (.ok _, p) => ⟨0, p.output, recordLines a s.time p.records, p.files⟩
  | (.error stop, p) =>
    let (_, p) := tearDown.run p
    let message := if stop.message == "" then "" else stop.message ++ "\n"
    ⟨stop.code, p.output, recordLines a s.time p.records ++ message, p.files⟩

/-- Runs a command with its arguments. -/
def runVerb (s : Surroundings) (v : Verb) (arguments : List String) : Exit :=
  match v.read arguments with
  | .error e => ⟨2, "", e.message ++ "\n", s.files⟩
  | .ok a =>
    if a.help then ⟨0, v.helpText, "", s.files⟩
    else if a.version then ⟨0, versionText, "", s.files⟩
    else
      match v, a.packages with
      | .analysis, _ => runPart s a (analyse s a)
      | .completion, _ => ⟨0, v.helpText, "", s.files⟩
      | .script shell, [] => runPart s a (print (shell.script !a.noDescriptions))
      | .script _, word :: _ =>
        ⟨2, "",
          "unknown command " ++ Text.quoted word ++ " for " ++ Text.quoted v.path ++ "\n", s.files⟩

/-- Answers how arguments can go on. -/
def runRequest (s : Surroundings) (described : Bool) (arguments : List String) : Exit :=
  if arguments.isEmpty then ⟨2, "", "requires at least 1 arg(s), only received 0\n", s.files⟩
  else
    let offer := Completion.offerFor arguments
    ⟨0, offer.text described, offer.remarks, s.files⟩

/-- Runs a command line. -/
def run (s : Surroundings) (line : List String) : Exit :=
  match CommandLine.errand line with
  | .command v arguments => runVerb s v arguments
  | .request described arguments => runRequest s described arguments

/-- The files and directories that a command line looks at, as far as the files at hand tell. -/
def inputs (files : FileTree) (line : List String) : List String :=
  match CommandLine.errand line with
  | .command .analysis arguments =>
    match Verb.analysis.read arguments with
    | .error _ => []
    | .ok a =>
      let named := match configure a files with
        | .ok c => [c.graph, c.output]
        | .error _ => []
      [a.config.getD Arguments.defaultConfig, a.bugs, a.metricsFile] ++ named
  | _ => []

end Command

end Exposure
