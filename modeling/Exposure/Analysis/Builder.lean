/-
# Analysis.Builder — where a run gets its call graph

A builder gives the graph, its entry points and, if it knows them, the
constructs of the application and the archives.  It may also fail, or not come
back at all; a builder that fails gives nothing.
-/
import Exposure.Graph.Document

namespace Exposure

set_option autoImplicit false

/-- Why there is no call graph. -/
inductive BuildError where
  | missingEntryPoint (message : String)
  | unknownAlgorithm (message : String)
  | interrupted (cause : Interrupt)
  | other (message : String)
  deriving DecidableEq, Repr

namespace BuildError

def message : BuildError → String
  | .missingEntryPoint m => m
  | .unknownAlgorithm m => m
  | .interrupted cause => cause.message
  | .other m => m

/-- The error of a document. -/
def ofDocument : DocumentError → BuildError
  | .missingEntryPoints names => .missingEntryPoint (DocumentError.missingEntryPoints names).message
  | .interrupted cause => .interrupted cause
  | e => .other e.message

end BuildError

/-- What a builder gives. -/
structure Built where
  graph : RawGraph
  entries : ConstructSet
  /-- The constructs of the application, if the builder knows them. -/
  apps : Option ConstructSet := none
  /-- The archives, if the builder knows them. -/
  resolver : Option Resolver := none
  /-- The milliseconds that building took. -/
  elapsed : Int := 0
  records : List Log.Record := []

/-- What a build comes to. -/
inductive BuildOutcome where
  | built (b : Built)
  | failed (e : BuildError)
  /-- The builder has not come back. -/
  | stalled

/-- Builds call graphs; the flag makes missing entry points an error. -/
structure Builder where
  build : Bool → Watch → BuildOutcome

namespace Document

/-- What building a document gives to a run. -/
def built (d : Document) (b : BuiltDocument) : Built where
  graph := b.graph.toRaw
  entries := b.entries
  apps := some b.apps
  resolver := some d.resolver
  records := b.records

/-- A document as a builder. -/
def builder (d : Document) : Builder where
  build strict watch :=
    match d.build strict watch with
    | .ok b => .built (d.built b)
    | .error e => .failed (.ofDocument e)

end Document

end Exposure
