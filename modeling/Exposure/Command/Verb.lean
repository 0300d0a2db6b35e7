/-
# Command.Verb — the commands on a command line

A line asks for an analysis unless its first word names a command; a word is an
argument that is no flag and no value of one.  `completion` has a command below
it for every shell, which prints a script.  Two more names, which no help shows,
ask how an unfinished line can go on.

The first word is looked for before the flags are read: a flag that is not known
there, such as the one for help, takes the next argument for its value.
-/
import Exposure.Command.Arguments

namespace Exposure

set_option autoImplicit false

/-! ## Commands -/

/-- A shell that completes command lines. -/
inductive Shell where
  | bash
  | fish
  | powershell
  | zsh
  deriving DecidableEq, Repr

namespace Shell

def name : Shell → String
  | .bash => "bash"
  | .fish => "fish"
  | .powershell => "powershell"
  | .zsh => "zsh"

/-- The shells by name. -/
def all : List Shell := [.bash, .fish, .powershell, .zsh]

def ofName? (name : String) : Option Shell := all.find? (·.name == name)

/-- What the command for a shell does. -/
def summary (s : Shell) : String := "Generate the autocompletion script for " ++ s.name

end Shell

/-- A command. -/
inductive Verb where
  | analysis
  | completion
  | script (shell : Shell)
  deriving DecidableEq, Repr

namespace Verb

def name : Verb → String
  | .analysis => "vulnreach"
  | .completion => "completion"
  | .script s => s.name

/-- The name of a command with those of the commands above it. -/
def path : Verb → String
  | .analysis => "vulnreach"
  | .completion => "vulnreach completion"
  | .script s => "vulnreach completion " ++ s.name

/-- The commands below a command that can be called, with what they do. -/
def below : Verb → List (String × String)
  | .completion => Shell.all.map fun s => (s.name, s.summary)
  | _ => []

/-- The flags that a command has from the command above it. -/
def inheritedFlags : Verb → List (Flag Arguments)
  | .analysis => []
  | _ => Arguments.flags

/-- The flags of a command. -/
def ownFlags (v : Verb) : List (Flag Arguments) :=
  match v with
  | .analysis =>
    Arguments.flags ++ [Arguments.helpFlag v.name,
      Arguments.switch "version" none ("version for " ++ v.name) fun b a => { a with version := b }]
  | .completion => [Arguments.helpFlag v.name]
  | .script _ =>
    [Arguments.helpFlag v.name,
      Arguments.switch "no-descriptions" none "disable completion descriptions"
        fun b a => { a with noDescriptions := b }]

def flags (v : Verb) : List (Flag Arguments) := v.inheritedFlags ++ v.ownFlags

/-- What a line asks of a command. -/
def read (v : Verb) (line : List String) : Except FlagError Arguments := Arguments.read v.flags line

end Verb

/-! ## Finding the command of a line -/

namespace CommandLine

/-- Whether an argument takes the next one for its value. -/
def takesNext (argument : String) : Bool :=
  match argument.toList with
  | '-' :: '-' :: rest =>
    !rest.contains '=' && !Arguments.flags.any fun f => f.isSwitch && f.name == String.ofList rest
  | ['-', c] =>
    c.toNat < 128 && c != '=' && !Arguments.flags.any fun f => f.isSwitch && f.letter == some c
  | _ => false

/-- Whether an argument may name a command. -/
def isWord (argument : String) : Bool := argument != "" && !Text.startsWith "-" argument

/-- The argument behind which there are no flags. -/
def lastFlag : String := "--"

/-- The first word of a line. -/
def firstWord? : List String → Option String
  | [] => none
  | [s] => if isWord s then some s else none
  | s :: next :: rest =>
    if s == lastFlag then none
    else if takesNext s then firstWord? rest
    else if isWord s then some s
    else firstWord? (next :: rest)

/-- A line without its first word, which is `word`. -/
def withoutWord (word : String) : List String → List String
  | [] => []
  | [s] => if s == word then [] else [s]
  | s :: next :: rest =>
    if s == lastFlag then s :: next :: rest
    else if takesNext s then s :: next :: withoutWord word rest
    else if s == word then next :: rest
    else s :: withoutWord word (next :: rest)

/-- The command of a line that names `completion`, and the rest of the line. -/
def completionVerb (line : List String) : Verb × List String :=
  let line := withoutWord Verb.completion.name line
  match (firstWord? line).bind Shell.ofName? with
  | some shell => (.script shell, withoutWord shell.name line)
  | none => (.completion, line)

/-- What a line asks for. -/
inductive Errand where
  /-- A command, with the rest of the line. -/
  | command (verb : Verb) (arguments : List String)
  /-- How the arguments can go on, with what the words mean or without. -/
  | request (described : Bool) (arguments : List String)

/-- The name of a request. -/
def requestName : String := "__complete"

/-- The name of a request that leaves out what the words mean. -/
def plainRequestName : String := "__completeNoDesc"

/-- What a line asks for. -/
def errand (line : List String) : Errand :=
  match firstWord? line with
  | none => .command .analysis line
  | some word =>
    if word == requestName || word == plainRequestName then
      .request (word == requestName) (withoutWord word line)
    else if word == Verb.completion.name then
      match completionVerb line with
      | (verb, arguments) => .command verb arguments
    else .command .analysis line

end CommandLine

end Exposure
