/-
# Expectation.Case — directories with expectations

A case is a directory with a document of expectations.  It names bugs and a
configuration, and the setups to run one after the other; a setup has a
configuration of its own on top, and what is expected of it.  A case that
cannot be run at all ends the work on all of them.
-/
import Exposure.Analysis.Setup
import Exposure.Expectation.Check

namespace Exposure

set_option autoImplicit false

/-- A configuration on top of that of its case, and what is expected under it. -/
structure Setup where
  name : String := ""
  config : Option Yaml.Node := none
  expected : Expectation := {}

/-- A directory with expectations. -/
structure Case where
  dir : String := ""
  config : Option Yaml.Node := none
  bugs : Dict (List String) := .empty
  setups : List Setup := []

/-! ## Reading -/

open Yaml.Reader in
/-- A field with a list; a null is the empty one. -/
def listField {α : Type} (name : String) (get : α → List String) (set : List String → α → α) :
    Yaml.Reader.Field α :=
  field name texts (some ∘ get) fun l => set (l.getD [])

open Yaml.Reader in
/-- A field with a table of lists. -/
def tableField {α : Type} (name : String) (get : α → Dict (List String))
    (set : Dict (List String) → α → α) : Yaml.Reader.Field α :=
  field name (table "map[string][]string" none texts)
    (fun a => some ((get a).mapValues fun _ l => some l))
    fun t => set ((t.getD .empty).mapValues fun _ l => l.getD [])

open Yaml.Reader in
def Expectation.reader : Yaml.Reader Expectation :=
  openRecord "expectation" [
    field "error" (text "string") (·.error) fun v e => { e with error := v },
    listField "reachable" (·.reachable) fun v e => { e with reachable := v },
    tableField "paths" (·.paths) fun v e => { e with paths := v },
    listField "reachable_constructs" (·.reachableConstructs) fun v e =>
      { e with reachableConstructs := v },
    listField "unreachable_constructs" (·.unreachableConstructs)
      fun v e => { e with unreachableConstructs := v },
    listField "touch_points" (·.touchPoints) fun v e => { e with touchPoints := v },
    field "exact_touch_points" flag (·.exactTouchPoints) fun v e =>
      { e with exactTouchPoints := v },
    listField "archives" (·.archives) fun v e => { e with archives := v },
    field "stats" (table "map[string]string" "" (text "string")) (some ·.stats)
      fun v e => { e with stats := v.getD .empty }]

open Yaml.Reader in
def Setup.reader : Yaml.Reader Setup :=
  openRecord "setup" [
    field "name" (text "string") (·.name) fun v s => { s with name := v },
    field "config" node (·.config) fun v s => { s with config := v },
    field "expected" Expectation.reader (·.expected) fun v s => { s with expected := v }]

open Yaml.Reader in
def Case.reader : Yaml.Reader Case :=
  openRecord "case" [
    field "config" node (·.config) fun v c => { c with config := v },
    tableField "bugs" (·.bugs) fun v c => { c with bugs := v },
    field "configurations" (list "setups" {} Setup.reader) (some ·.setups)
      fun v c => { c with setups := v.getD [] }]

/-- A configuration with the values of a node, which has to stand for itself. -/
def Config.layerNode (c : Config) : Option Yaml.Node → Option Config
  | none => some c
  | some n => do (Yaml.readDocument Config.reader (← Yaml.Document.ofPart? n) c).toOption

/-! ## Running -/

/-- What became of one setup. -/
structure SetupResult where
  name : String
  message : String
  details : List String

def SetupResult.isSuccess (r : SetupResult) : Bool := r.details.isEmpty

/-- What became of a case. -/
structure CaseResult where
  dir : String
  setups : List SetupResult

namespace CaseResult

def isSuccess (r : CaseResult) : Bool := r.setups.all (·.isSuccess)

def message (r : CaseResult) : String :=
  let failed := r.setups.filter (!·.isSuccess)
  if failed.isEmpty then "All " ++ Nat.repr r.setups.length ++ " configurations passed"
  else
    Nat.repr failed.length ++ "/" ++ Nat.repr r.setups.length ++ " configurations failed:\n"
      ++ Text.joined "\n" (failed.map fun s =>
        "[" ++ s.name ++ "] " ++ s.message ++ ":\n  " ++ Text.joined "\n  " s.details)

end CaseResult

namespace Case

/-- The directory for the documents of a run. -/
def outputRoot : String := "/output"

/-- The configuration of a setup. -/
def configOf (c : Case) (s : Setup) : Option Config := do
  let config ← (← ({} : Config).layerNode c.config).layerNode s.config
  match config.check with
  | .ok _ => some config
  | .error _ => none

/-- Runs one setup of a case whose directory is among `files`. -/
def runSetup (files : FileTree) (c : Case) (s : Setup) : Option SetupResult := do
  let config ← c.configOf s
  let source ← (config.source files c.dir).toOption
  let bugs ← (Bugs.ofTable source.lang c.bugs).toOption
  let a ← (config.analysis source none (.directory outputRoot "" "") 1).toOption
  let state := a.run bugs { files := { work := [] } }
  let result ← state.received?
  let details := s.expected.mismatches outputRoot state.outbox.files result
  return ⟨s.name, s.expected.verdict details, details⟩

/-- Runs a case with all its setups, of which there has to be one. -/
def run (files : FileTree) (c : Case) : Option CaseResult :=
  if c.setups.isEmpty then none
  else (c.setups.mapM (c.runSetup files)).map fun setups => ⟨c.dir, setups⟩

/-- The name of the documents of expectations. -/
def fileName : String := "expected.yaml"

/-- The directories of the working directory that hold expectations, by name. -/
def directories (files : FileTree) : List String :=
  (Dict.ofList (files.paths.filterMap fun (path, _) =>
    match FilePath.elements path with
    | dir :: name :: _ => if name == fileName then some (dir, ()) else none
    | _ => none)).keys

/-- The case of a directory. -/
def load (files : FileTree) (dir : String) : Option Case := do
  let text ← (files.read (FilePath.join [dir, fileName])).toOption
  let c ← (Yaml.read Case.reader text {}).toOption
  return { c with dir }

/-- Runs the cases of all directories. -/
def runAll (files : FileTree) : Option (List CaseResult) := do
  let cases ← (directories files).mapM (load files)
  cases.mapM (·.run files)

end Case

end Exposure
