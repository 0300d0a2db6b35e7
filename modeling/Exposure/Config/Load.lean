/-
# Config.Load — documents from files

A configuration, a list of bugs or a call graph is read from a file.  That fails
when the file cannot be read, when its text is no document of the kind, or when
the document says something that is not allowed; the error names the file.  The
ending of a configuration's file says which notation it is in.  A configuration
also says where the call graph comes from: a document, or the analysis of a Go
program.
-/
import Exposure.Config.Document
import Exposure.Dict
import Exposure.FileTree
import Exposure.Graph.Document

namespace Exposure

set_option autoImplicit false

/-! ## Errors -/

/-- Why a document could not be had from a file. -/
inductive LoadError where
  | unreadable (what : String) (cause : FileError)
  | yaml (path : String) (cause : Yaml.ReadError)
  | toml (path : String) (cause : Toml.ReadError)
  | invalid (cause : ConfigError)

namespace LoadError

def message : LoadError → String
  | .unreadable what e => "reading " ++ what ++ ": " ++ e.message
  | .yaml path e => "parsing " ++ path ++ ": " ++ e.message
  | .toml path e => "parsing " ++ path ++ ": " ++ e.message
  | .invalid e => e.message

/-- Whether the file is not there. -/
def isMissing : LoadError → Bool
  | .unreadable _ e => e.fault == .missing
  | _ => false

end LoadError

/-- The text of a file that holds `what`. -/
def FileTree.document (t : FileTree) (what path : String) : Except LoadError String :=
  (t.read path).mapError (.unreadable what)

/-! ## Configurations -/

namespace Config

/-- Whether a file of this name is in the second notation. -/
def isToml (path : String) : Bool := Text.sameFolded (FilePath.extension path) ".toml"

/-- The configuration of a file, on top of the defaults and checked. -/
def load (t : FileTree) (path : String) : Except LoadError Config := do
  let text ← t.document "config" path
  let c ←
    if isToml path then (layerToml text {}).mapError (.toml path)
    else (layer text {}).mapError (.yaml path)
  c.check.mapError .invalid
  return c

/-- The configuration of a file, or the defaults if it is not there. -/
def loadOptional (t : FileTree) (path : String) : Except LoadError Config :=
  match load t path with
  | .ok c => .ok c
  | .error e => if e.isMissing then .ok {} else .error e

end Config

/-! ## Bugs -/

/-- Bugs with the constructs that they are in. -/
abbrev Bugs := Dict ConstructSet

namespace Bugs

/-- The constructs that names stand for; blank names stand for none. -/
def targets (lang : Lang) (names : List String) : ConstructSet :=
  .ofNames lang ((names.map Text.trimmed).filter (· != ""))

/-- The bugs of a table of names.  A bug without a name is an error. -/
def ofTable (lang : Lang) (table : Dict (List String)) : Except ConfigError Bugs :=
  if table.keys.any fun b => Text.trimmed b == "" then .error .emptyBugId
  else .ok (table.mapValues fun _ names => targets lang names)

/-- A document has the bugs under one key. -/
structure Listing where
  bugs : Dict (List String) := .empty

open Yaml.Reader in
/-- A document of bugs. -/
def reader : Yaml.Reader Listing :=
  record "config.BugFile" [
    field "bugs" (table "map[string][]string" none texts)
      (fun l => some (l.bugs.mapValues fun _ names => some names)) fun t l =>
        { l with bugs := (t.getD .empty).mapValues fun _ names => names.getD [] }]

/-- The bugs of a text. -/
def ofText (lang : Lang) (path text : String) : Except LoadError Bugs := do
  let l ← (Yaml.read reader text {}).mapError (.yaml path)
  (ofTable lang l.bugs).mapError .invalid

/-- The bugs of a file. -/
def load (t : FileTree) (path : String) (lang : Lang) : Except LoadError Bugs := do
  ofText lang path (← t.document "bugs" path)

end Bugs

/-! ## Where the call graph comes from -/

/-- The call graph document of a file. -/
def Document.load (t : FileTree) (path : String) : Except LoadError Document := do
  (Document.ofText (← t.document "graph" path)).mapError (.yaml path)

/-- Where a call graph comes from. -/
inductive Source where
  | document (d : Document)
  | program (settings : GoConfig)

namespace Source

/-- The language of the names in a call graph. -/
def lang : Source → Lang
  | .document d => d.language
  | .program _ => .go

end Source

/-- Where the call graph of a configuration comes from; its paths are seen from `base`. -/
def Config.source (c : Config) (t : FileTree) (base : String) : Except LoadError Source :=
  if c.graph == "" then .ok (.program { c.go with dir := FilePath.resolve base c.go.dir })
  else (Document.load t (FilePath.resolve base c.graph)).map .document

end Exposure
