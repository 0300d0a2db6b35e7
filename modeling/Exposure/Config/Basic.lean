/-
# Config.Basic — the settings of an analysis

A configuration starts from the defaults and is checked as a whole: `check`
gives the first thing that is wrong with it, in a fixed order.  `options` makes
the options of a run of a configuration that passes the check.
-/
import Exposure.Algorithm
import Exposure.Analysis.Options
import Exposure.Classification
import Exposure.Glob
import Exposure.Number.Binary64
import Exposure.Text.Blank

namespace Exposure

set_option autoImplicit false

open Number

/-- Constructs that a scan leaves out, by the start of their names. -/
structure BlacklistConfig where
  platform : Option (List String) := none
  custom : Option (List String) := none
  deriving DecidableEq, Repr

/-- Settings for the analysis of a Go program. -/
structure GoConfig where
  dir : String := ""
  packages : Option (List String) := some ["./..."]
  buildTags : Option (List String) := none
  tests : Bool := false
  algorithm : String := "rta"
  excludePackages : Option (List String) := none
  entryPoints : Option (List String) := none
  deriving DecidableEq, Repr

/-- The settings of an analysis, with their defaults. -/
structure Config where
  lang : Lang := .go
  timeoutMinutes : Int := 0
  shortestOnly : Bool := false
  touchPoints : Bool := true
  maxPathsPerTarget : Int := 10
  workers : String := "auto"
  strategy : String := "pruned"
  pathLimit : Int := 0
  strict : Bool := false
  entryRegex : String := ""
  statusInterval : Int := Options.defaultStatusInterval
  blacklist : BlacklistConfig := {}
  app : Option (List String) := none
  go : GoConfig := {}
  graph : String := ""
  output : String := ""
  uploadRate : Binary64 := .zero
  deriving DecidableEq, Repr

/-- What is wrong with a configuration. -/
inductive ConfigError where
  | unknownLang (lang : String)
  | negativeTimeout
  | negativePathLimits
  | workerFactor (text : String)
  | workerCount (text : String)
  | strategy (cause : PathError)
  | unknownAlgorithm (name : String)
  | excludePattern (pattern : String)
  | negativeUploadRate
  | entryRegex (cause : Regex.Fault)
  | emptyBugId
  deriving DecidableEq, Repr

namespace ConfigError

/-- What is wrong, without the words that all such errors start with. -/
def detail : ConfigError → String
  | .unknownLang l => "unknown lang " ++ Text.quoted l
  | .negativeTimeout => "negative timeout_minutes"
  | .negativePathLimits => "negative path limits"
  | .workerFactor s => "workers " ++ Text.quoted s ++ ": factor must be a positive integer"
  | .workerCount s => "workers " ++ Text.quoted s ++ ": want a positive count or auto[:factor]"
  | .strategy e => e.message
  | .unknownAlgorithm a => Algorithm.unknownText ++ " " ++ Text.quoted a
  | .excludePattern p => "exclude_packages: bad pattern " ++ Text.quoted p
  | .negativeUploadRate => "negative upload_rate"
  | .entryRegex f => "entry_regex: " ++ f.message
  | .emptyBugId => "empty bug id"

def message (e : ConfigError) : String := "invalid configuration: " ++ e.detail

end ConfigError

/-- A pool size: a fixed count, or a factor for every processor when the count is zero. -/
structure Workers where
  count : Int
  factor : Int
  deriving DecidableEq, Repr

namespace Workers

/-- A positive whole number of sixty-four bits. -/
def positive? (s : List Char) : Option Int :=
  match readSigned 10 s with
  | .ok n => if 1 ≤ n then some n else none
  | .error _ => none

/-- The pool size that a text asks for: `auto`, `auto:<factor>` or a count. -/
def ofText (text : String) : Except ConfigError Workers :=
  let s := Text.trimmed text
  if s == "" || s == "auto" then .ok ⟨0, 1⟩
  else if Text.startsWith "auto:" s then
    match positive? (s.toList.drop 5) with
    | some f => .ok ⟨0, f⟩
    | none => .error (.workerFactor s)
  else
    match positive? s.toList with
    | some n => .ok ⟨n, 1⟩
    | none => .error (.workerCount s)

end Workers

namespace Config

/-- The pattern of the first excluded package that is a malformed pattern. -/
def badExclude? (c : Config) : Option String :=
  (c.go.excludePackages.getD []).find? fun p => Glob.isPattern p && !Glob.isValid p

/-- The first thing that is wrong with a configuration. -/
def check (c : Config) : Except ConfigError Unit := do
  if c.lang != .go && c.lang != .java then throw (.unknownLang c.lang.text)
  if c.timeoutMinutes < 0 then throw .negativeTimeout
  if c.maxPathsPerTarget < 0 || c.pathLimit < 0 then throw .negativePathLimits
  let _ ← Workers.ofText c.workers
  match Strategy.ofName c.strategy with
  | .error e => throw (.strategy e)
  | .ok _ => pure ()
  if (Algorithm.ofName? c.go.algorithm).isNone then throw (.unknownAlgorithm c.go.algorithm)
  match c.badExclude? with
  | some p => throw (.excludePattern p)
  | none => pure ()
  if c.uploadRate.isNegative then throw .negativeUploadRate
  if c.entryRegex != "" then
    match Regex.ofPattern c.entryRegex with
    | .error f => throw (.entryRegex f)
    | .ok _ => pure ()

/-- The nanoseconds of a minute. -/
def minute : Int := 60000000000

/-- The options of a run for constructs of `lang`, or of the configured language when that
has no name. -/
def options (c : Config) (lang : Lang) : Except ConfigError Options := do
  c.check
  let lang := if lang.text == "" then c.lang else lang
  let workers ← Workers.ofText c.workers
  let strategy ← (Strategy.ofName c.strategy).mapError ConfigError.strategy
  let filter ←
    if c.entryRegex == "" then pure none
    else some <$> (EntryFilter.ofPattern c.entryRegex).mapError ConfigError.entryRegex
  let apps := c.app.getD []
  return {
    timeout := wrap (c.timeoutMinutes * minute)
    shortestOnly := c.shortestOnly
    touchPoints := c.touchPoints
    maxPaths := c.maxPathsPerTarget
    workers := workers.count
    workerFactor := workers.factor
    enumerator := ⟨strategy, c.pathLimit⟩
    strict := c.strict
    entryFilter := filter
    statusInterval := c.statusInterval
    platform := c.blacklist.platform.orElse fun _ => platformPrefixes lang
    custom := c.blacklist.custom
    apps := if apps.isEmpty then none else some (.ofNames lang apps) }

end Config

end Exposure
