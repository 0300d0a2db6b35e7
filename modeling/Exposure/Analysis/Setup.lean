/-
# Analysis.Setup — the analysis that a configuration asks for

A configuration names a call graph document or a program, and the options of
the run.  The packages of a program are given beside it, where they can be
loaded at all.
-/
import Exposure.Analysis.Schedule
import Exposure.Config.Load
import Exposure.Program.Build

namespace Exposure

set_option autoImplicit false

namespace GoConfig

/-- What the settings ask of a build. -/
def request (c : GoConfig) : Program.Request where
  patterns := c.packages.getD []
  tests := c.tests
  algorithm := c.algorithm
  exclude := c.excludePackages.getD []
  entryPoints := c.entryPoints.getD []

end GoConfig

namespace Source

/-- Builds the call graph; `packages` are those of the program. -/
def builder (packages : Option (List Program.Package)) : Source → Builder
  | .document d => d.builder
  | .program settings => Program.builder settings.request packages

end Source

namespace Config

/-- The analysis of a source under a configuration. -/
def analysis (c : Config) (source : Source) (packages : Option (List Program.Package))
    (uploader : Uploader) (processors : Nat) : Except ConfigError Analysis := do
  let options ← c.options source.lang
  return { builder := source.builder packages, options, uploader, processors }

end Config

namespace Analysis

/-- What ends a run that does not end by itself. -/
def cutoff (a : Analysis) : Cutoff := if 0 < a.options.timeout then .timer else .nothing

/-- A run to its end. -/
def run (a : Analysis) (bugs : Bugs) (outbox : Outbox) : RunState :=
  .undisturbed a bugs a.cutoff outbox

end Analysis

end Exposure
