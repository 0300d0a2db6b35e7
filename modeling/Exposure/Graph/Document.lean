/-
# Graph.Document — call graphs written down

A document lists vertices, edges written `caller -> callee`, the entry points,
the constructs of the application and the archives.  Building it fails at the
first malformed edge; entry points that are no vertices are all reported, as an
error when the build is strict and as a warning otherwise.  A build that fails
leaves nothing behind.
-/
import Exposure.Archive.Listed
import Exposure.Graph.Raw
import Exposure.Log
import Exposure.Text.Blank
import Exposure.Watch
import Exposure.Yaml.Reader

namespace Exposure

set_option autoImplicit false

/-! ## Edges -/

/-- Why an edge or a document is no graph. -/
inductive DocumentError where
  | malformedEdge (text : String)
  | missingEntryPoints (names : List String)
  | interrupted (cause : Interrupt)
  deriving DecidableEq, Repr

namespace DocumentError

def message : DocumentError → String
  | .malformedEdge s => "malformed edge " ++ Text.quoted s ++ ": want \"from -> to\""
  | .missingEntryPoints names => "entry point not in graph: " ++ Text.joined ", " names
  | .interrupted cause => cause.message

end DocumentError

namespace Edge

/-- The mark between the two ends of an edge. -/
def arrow : List Char := ['-', '>']

/-- The ends of an edge without the blanks around them: what stands before and after the
first arrow, if there is something on both sides. -/
def ofText? (s : String) : Option (String × String) :=
  match Text.cut arrow s.toList with
  | none => none
  | some (caller, callee) =>
    let caller := Text.trim caller
    let callee := Text.trim callee
    if caller.isEmpty || callee.isEmpty then none
    else some (String.ofList caller, String.ofList callee)

/-- The ends of an edge, or the error that quotes it. -/
def read (s : String) : Except DocumentError (String × String) :=
  match ofText? s with
  | some ends => .ok ends
  | none => .error (.malformedEdge s)

end Edge

/-! ## Documents -/

/-- A call graph as a document gives it. -/
structure Document where
  lang : Lang := ⟨""⟩
  nodes : List String := []
  edges : List String := []
  entryPoints : List String := []
  app : List String := []
  archives : List Archive := []
  deriving DecidableEq, Repr, Inhabited

/-- What building a document gives. -/
structure BuiltDocument where
  graph : Digraph
  entries : ConstructSet
  apps : ConstructSet
  records : List Log.Record

namespace Document

/-- The language of a document: Java unless it says otherwise. -/
def language (d : Document) : Lang := if d.lang.text == "" then .java else d.lang

/-- The listed vertices, without the blank ones. -/
def vertexNames (d : Document) : List String :=
  (d.nodes.map Text.trimmed).filter (· != "")

/-- How many edges are added between two looks at the watch. -/
def lookInterval : Nat := 1024

/-- The graph with the edges `es`, of which the first has the number `i`. -/
def addEdges (lang : Lang) : Nat → Watch → Digraph → List String → Except DocumentError Digraph
  | _, _, g, [] => .ok g
  | i, watch, g, e :: es =>
    let (rings, watch) := if i % lookInterval = 0 then watch.look else (false, watch)
    if rings then .error (.interrupted watch.cause)
    else
      match Edge.read e with
      | .error err => .error err
      | .ok (caller, callee) =>
        addEdges lang (i + 1) watch (g.addEdge (.ofName lang caller) (.ofName lang callee)) es

/-- The graph of a document. -/
def graph (d : Document) (watch : Watch) : Except DocumentError Digraph :=
  let listed := d.vertexNames.foldl (fun g n => g.addVertex (.ofName d.language n)) Digraph.empty
  addEdges d.language 0 watch listed d.edges

/-- The entry points without the blanks around them. -/
def entryNames (d : Document) : List String := d.entryPoints.map Text.trimmed

/-- The entry points that are no vertices of `g`, in order. -/
def missing (d : Document) (g : Digraph) : List String :=
  d.entryNames.filter fun n => !g.members.hasName n

/-- The build of a document. -/
def build (d : Document) (strict : Bool) (watch : Watch) : Except DocumentError BuiltDocument :=
  match d.graph watch with
  | .error e => .error e
  | .ok g =>
    let missing := d.missing g
    if strict && !missing.isEmpty then .error (.missingEntryPoints missing)
    else
      let entries := .ofNames d.language (d.entryNames.filter g.members.hasName)
      let apps := .ofNames d.language (d.app.map Text.trimmed)
      let dropped :=
        if missing.isEmpty then []
        else [Log.warn "dropping entry points not in graph" [("entry_points", .texts missing)]]
      let loaded := Log.debug "graph loaded" [("vertices", .number g.size),
        ("edges", .number g.edgeCount), ("entry_points", .number entries.size)]
      .ok { graph := g, entries, apps, records := dropped ++ [loaded] }

/-- The archives of a document as a resolver. -/
def resolver (d : Document) : Resolver := Archive.resolver d.archives

end Document

/-! ## Repeated builds -/

/-- A document together with what its last successful build gave, if there was one. -/
structure DocumentBuilder where
  document : Document
  built : Option BuiltDocument := none

namespace DocumentBuilder

/-- One more build.  A success takes the place of what was held, a failure leaves it alone. -/
def build (b : DocumentBuilder) (strict : Bool) (watch : Watch) :
    Option DocumentError × DocumentBuilder :=
  match b.document.build strict watch with
  | .ok result => (none, { b with built := some result })
  | .error e => (some e, b)

end DocumentBuilder

/-! ## Reading -/

namespace Document

open Yaml.Reader in
/-- An archive in a document. -/
def archiveReader : Yaml.Reader Archive :=
  record "provenance.Archive" [
    field "locator" (text "string") (·.locator) fun s a => { a with locator := s },
    field "digest" (text "string") (·.digest) fun s a => { a with digest := s },
    field "units" texts (some ·.units) fun l a => { a with units := l.getD [] }]

open Yaml.Reader in
/-- A whole document. -/
def reader : Yaml.Reader Document :=
  record "graphfile.Document" [
    field "lang" (text "construct.Lang") (·.lang.text) fun s d => { d with lang := ⟨s⟩ },
    field "nodes" texts (some ·.nodes) fun l d => { d with nodes := l.getD [] },
    field "edges" texts (some ·.edges) fun l d => { d with edges := l.getD [] },
    field "entry_points" texts (some ·.entryPoints) fun l d => { d with entryPoints := l.getD [] },
    field "app" texts (some ·.app) fun l d => { d with app := l.getD [] },
    field "archives" (list "[]provenance.Archive" default archiveReader) (some ·.archives)
      fun l d => { d with archives := l.getD [] }]

/-- The document that a text holds; an empty text holds the empty one. -/
def ofText (text : String) : Except Yaml.ReadError Document := Yaml.read reader text {}

end Document

end Exposure
