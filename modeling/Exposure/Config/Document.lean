/-
# Config.Document — configurations written down

A configuration is written in one of two notations, with the same names.  What a
document does not name stays as it was, so that documents can be laid on top of
each other; in the first notation a null leaves a text, a number or a group of
settings alone and takes a list away.
-/
import Exposure.Config.Basic
import Exposure.Toml.Reader
import Exposure.Yaml.Reader

namespace Exposure.Config

set_option autoImplicit false

open Yaml.Reader in
/-- The excluded names. -/
def blacklistReader : Yaml.Reader BlacklistConfig :=
  record "config.Blacklist" [
    field "platform" texts (·.platform) fun l b => { b with platform := l },
    field "custom" texts (·.custom) fun l b => { b with custom := l }]

open Yaml.Reader in
/-- The settings for a Go program. -/
def goReader : Yaml.Reader GoConfig :=
  record "config.Go" [
    field "dir" (text "string") (·.dir) fun s g => { g with dir := s },
    field "packages" texts (·.packages) fun l g => { g with packages := l },
    field "build_tags" texts (·.buildTags) fun l g => { g with buildTags := l },
    field "tests" flag (·.tests) fun b g => { g with tests := b },
    field "algorithm" (text "string") (·.algorithm) fun s g => { g with algorithm := s },
    field "exclude_packages" texts (·.excludePackages) fun l g => { g with excludePackages := l },
    field "entry_points" texts (·.entryPoints) fun l g => { g with entryPoints := l }]

open Yaml.Reader in
/-- A whole configuration. -/
def reader : Yaml.Reader Config :=
  record "config.Config" [
    field "lang" (text "construct.Lang") (·.lang.text) fun s c => { c with lang := ⟨s⟩ },
    field "timeout_minutes" whole (·.timeoutMinutes) fun n c => { c with timeoutMinutes := n },
    field "shortest_only" flag (·.shortestOnly) fun b c => { c with shortestOnly := b },
    field "touch_points" flag (·.touchPoints) fun b c => { c with touchPoints := b },
    field "max_paths_per_target" whole (·.maxPathsPerTarget)
      fun n c => { c with maxPathsPerTarget := n },
    field "workers" (text "string") (·.workers) fun s c => { c with workers := s },
    field "strategy" (text "string") (·.strategy) fun s c => { c with strategy := s },
    field "path_limit" whole (·.pathLimit) fun n c => { c with pathLimit := n },
    field "strict" flag (·.strict) fun b c => { c with strict := b },
    field "entry_regex" (text "string") (·.entryRegex) fun s c => { c with entryRegex := s },
    field "status_interval" duration (·.statusInterval) fun n c => { c with statusInterval := n },
    field "blacklist" blacklistReader (·.blacklist) fun b c => { c with blacklist := b },
    field "app" texts (·.app) fun l c => { c with app := l },
    field "go" goReader (·.go) fun g c => { c with go := g },
    field "graph" (text "string") (·.graph) fun s c => { c with graph := s },
    field "output" (text "string") (·.output) fun s c => { c with output := s },
    field "upload_rate" real (·.uploadRate) fun x c => { c with uploadRate := x }]

open Toml.Reader in
/-- The fields of a configuration in the second notation. -/
def tomlFields : List (Toml.Reader.Field Config) := [
  field "lang" text (·.lang.text) fun s c => { c with lang := ⟨s⟩ },
  field "timeout_minutes" whole (·.timeoutMinutes) fun n c => { c with timeoutMinutes := n },
  field "shortest_only" flag (·.shortestOnly) fun b c => { c with shortestOnly := b },
  field "touch_points" flag (·.touchPoints) fun b c => { c with touchPoints := b },
  field "max_paths_per_target" whole (·.maxPathsPerTarget)
    fun n c => { c with maxPathsPerTarget := n },
  field "workers" text (·.workers) fun s c => { c with workers := s },
  field "strategy" text (·.strategy) fun s c => { c with strategy := s },
  field "path_limit" whole (·.pathLimit) fun n c => { c with pathLimit := n },
  field "strict" flag (·.strict) fun b c => { c with strict := b },
  field "entry_regex" text (·.entryRegex) fun s c => { c with entryRegex := s },
  field "status_interval" duration (·.statusInterval) fun n c => { c with statusInterval := n },
  field "blacklist" (record "config.Blacklist" [
      field "platform" texts (·.platform) fun l b => { b with platform := l },
      field "custom" texts (·.custom) fun l b => { b with custom := l }])
    (·.blacklist) fun b c => { c with blacklist := b },
  field "app" texts (·.app) fun l c => { c with app := l },
  field "go" (record "config.Go" [
      field "dir" text (·.dir) fun s g => { g with dir := s },
      field "packages" texts (·.packages) fun l g => { g with packages := l },
      field "build_tags" texts (·.buildTags) fun l g => { g with buildTags := l },
      field "tests" flag (·.tests) fun b g => { g with tests := b },
      field "algorithm" text (·.algorithm) fun s g => { g with algorithm := s },
      field "exclude_packages" texts (·.excludePackages)
        fun l g => { g with excludePackages := l },
      field "entry_points" texts (·.entryPoints) fun l g => { g with entryPoints := l }])
    (·.go) fun g c => { c with go := g },
  field "graph" text (·.graph) fun s c => { c with graph := s },
  field "output" text (·.output) fun s c => { c with output := s },
  field "upload_rate" real (·.uploadRate) fun x c => { c with uploadRate := x }]

/-- The configuration that a document gives on top of another. -/
def layer (text : String) (base : Config) : Except Yaml.ReadError Config :=
  Yaml.read reader text base

/-- The same in the second notation. -/
def layerToml (text : String) (base : Config) : Except Toml.ReadError Config :=
  Toml.read tomlFields text base

end Exposure.Config
