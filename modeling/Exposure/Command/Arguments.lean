/-
# Command.Arguments — what the command line asks for

A flag that also exists in the configuration counts only if it is given; then it
takes the place of what the configuration says.
-/
import Exposure.Command.CommaList
import Exposure.Command.Flag
import Exposure.Config.Basic
import Exposure.Number.Decimal

namespace Exposure

set_option autoImplicit false

open Number

/-- What the command line asks for.  Without a value a flag was not given. -/
structure Arguments where
  /-- The arguments that are no flags; for an analysis, patterns of packages. -/
  packages : List String := []
  config : Option String := none
  bugs : String := ""
  graph : Option String := none
  out : Option String := none
  dir : Option String := none
  buildTags : Option (List String) := none
  tests : Option Bool := none
  timeout : Option Int := none
  shortest : Option Bool := none
  touchPoints : Option Bool := none
  maxPaths : Option Int := none
  workers : Option String := none
  strategy : Option String := none
  algorithm : Option String := none
  entryRegex : Option String := none
  strict : Option Bool := none
  exclude : Option (List String) := none
  uploadRate : Option Binary64 := none
  verbose : Bool := false
  json : Bool := false
  profile : Bool := false
  metricsAddress : String := ""
  metricsFile : String := ""
  help : Bool := false
  version : Bool := false
  /-- Whether a script leaves out what the words mean. -/
  noDescriptions : Bool := false

namespace Arguments

/-- The configuration that is read when none is named, if it is there. -/
def defaultConfig : String := "vulnreach.yaml"

/-! ## Values -/

/-- A truth value. -/
def readBool (s : String) : Except String Bool :=
  if ["1", "t", "T", "TRUE", "true", "True"].contains s then .ok true
  else if ["0", "f", "F", "FALSE", "false", "False"].contains s then .ok false
  else .error ("strconv.ParseBool: parsing " ++ Text.quoted s ++ ": invalid syntax")

/-- A whole number in any base that it announces. -/
def readInt (s : String) : Except String Int :=
  (Number.readSigned 0 s.toList).mapError fun f =>
    "strconv.ParseInt: parsing " ++ Text.quoted s ++ ": " ++ f.message

def readReal (s : String) : Except String Binary64 :=
  (Number.readReal s.toList).mapError fun f =>
    "strconv.ParseFloat: parsing " ++ Text.quoted s ++ ": " ++ f.message

/-! ## Flags -/

/-- A flag with a text. -/
def textFlag (name : String) (letter : Option Char) (initial help : String)
    (set : String → Arguments → Arguments) : Flag Arguments :=
  { name, letter, valueName := "string", help, set := fun s a => .ok (set s a),
    initial := if initial == "" then "" else Text.quoted initial }

/-- A flag that is on or off. -/
def switch (name : String) (letter : Option Char) (help : String)
    (set : Bool → Arguments → Arguments) : Flag Arguments :=
  { name, letter, help, set := fun s a => (readBool s).map (set · a) }

/-- A flag with a whole number. -/
def intFlag (name initial help : String) (set : Int → Arguments → Arguments) : Flag Arguments :=
  { name, valueName := "int", initial, help, set := fun s a => (readInt s).map (set · a) }

/-- The flag that asks for the help of a command. -/
def helpFlag (command : String) : Flag Arguments :=
  switch "help" (some 'h') ("help for " ++ command) fun b a => { a with help := b }

/-- The flags of all commands. -/
def flags : List (Flag Arguments) := [
  textFlag "config" (some 'c') defaultConfig "Configuration file; a missing default file is ignored"
    fun s a => { a with config := some s },
  textFlag "bugs" (some 'b') "" "Bug file mapping vulnerability ids to target constructs"
    fun s a => { a with bugs := s },
  textFlag "graph" none "" "Analyze a YAML call graph file instead of Go packages"
    fun s a => { a with graph := some s },
  textFlag "out" (some 'o') ""
    "Directory to write JSON path, reachable and touch point documents to"
    fun s a => { a with out := some s },
  textFlag "dir" none "" "Directory to load Go packages from" fun s a => { a with dir := some s },
  { name := "build-tags", valueName := "strings", repeats := true,
    help := "Build tags to use during package loading",
    set := fun s a => ((CommaList.read s).mapError (·.message)).map fun tags =>
      { a with buildTags := some (a.buildTags.getD [] ++ tags) } },
  switch "tests" none "Load test packages; test functions become entry points"
    fun b a => { a with tests := some b },
  intFlag "timeout" "" "Analysis timeout in minutes; 0 disables it"
    fun n a => { a with timeout := some n },
  switch "shortest" none "Search only the shortest path from each entry point"
    fun b a => { a with shortest := some b },
  { switch "touch-points" none "Collect application to library touch points"
      (fun b a => { a with touchPoints := some b }) with initial := "true" },
  intFlag "max-paths" "10" "Maximum paths uploaded per target construct; 0 keeps all"
    fun n a => { a with maxPaths := some n },
  textFlag "workers" none "auto" "Worker count, \"auto\" or \"auto:<factor of GOMAXPROCS>\""
    fun s a => { a with workers := some s },
  textFlag "strategy" none "pruned" "Path enumeration strategy: pruned or dfs"
    fun s a => { a with strategy := some s },
  textFlag "algorithm" none "rta" "Go call graph algorithm: rta, cha, static or vta"
    fun s a => { a with algorithm := some s },
  textFlag "entry-regex" none "" "Only keep entry points matching this regular expression"
    fun s a => { a with entryRegex := some s },
  switch "strict" none "Fail when configured entry points are missing from the graph"
    fun b a => { a with strict := some b },
  { name := "exclude", valueName := "stringArray", repeats := true,
    help := "Go package path prefixes or doublestar globs to leave out of the graph",
    set := fun s a => .ok { a with exclude := some (a.exclude.getD [] ++ [s]) } },
  { name := "upload-rate", valueName := "float",
    help := "Maximum uploads per second to the output directory; 0 is unlimited",
    set := fun s a => (readReal s).map fun x => { a with uploadRate := some x } },
  switch "verbose" (some 'v') "Enable verbose output" fun b a => { a with verbose := b },
  switch "json" none "Output in JSON format" fun b a => { a with json := b },
  switch "profile" none
    "Enable CPU and memory profiling (writes cpu.prof and mem.prof to current directory)"
    fun b a => { a with profile := b },
  textFlag "metrics-addr" none "" "Serve Prometheus metrics on this address while running"
    fun s a => { a with metricsAddress := s },
  textFlag "metrics-file" none "" "Write Prometheus metrics to this file when done"
    fun s a => { a with metricsFile := s }]

/-- What a line asks for with the flags of a command. -/
def read (flags : List (Flag Arguments)) (line : List String) : Except FlagError Arguments :=
  (Flag.readAll flags ({} : Arguments) line).map fun r => { r.values with packages := r.plain }

/-- The configuration with what the command line asks for. -/
def apply (a : Arguments) (c : Config) : Config :=
  { c with
    graph := a.graph.getD c.graph
    output := a.out.getD c.output
    timeoutMinutes := a.timeout.getD c.timeoutMinutes
    shortestOnly := a.shortest.getD c.shortestOnly
    touchPoints := a.touchPoints.getD c.touchPoints
    maxPathsPerTarget := a.maxPaths.getD c.maxPathsPerTarget
    workers := a.workers.getD c.workers
    strategy := a.strategy.getD c.strategy
    entryRegex := a.entryRegex.getD c.entryRegex
    strict := a.strict.getD c.strict
    uploadRate := a.uploadRate.getD c.uploadRate
    go := { c.go with
      packages := if a.packages.isEmpty then c.go.packages else some a.packages
      dir := a.dir.getD c.go.dir
      buildTags := a.buildTags.orElse fun _ => c.go.buildTags
      tests := a.tests.getD c.go.tests
      algorithm := a.algorithm.getD c.go.algorithm
      excludePackages := a.exclude.orElse fun _ => c.go.excludePackages } }

end Arguments

end Exposure
