/-
# Command.Completion — how an unfinished line can go on

The last argument of a line is a word that is still being written.  If it starts
with a hyphen, the names of flags that start with it are offered, but no flag
twice unless it is of use more than once; for the value of a flag nothing is
offered.  Elsewhere the commands below the command of the line are offered.

Behind `--` there are no flags.  A line that cannot be read offers nothing and
says why.
-/
import Exposure.Command.Verb
import Exposure.Text.Octets

namespace Exposure.Completion

set_option autoImplicit false

/-- What a shell may do where the words that are offered do not fit. -/
inductive Directive where
  /-- It may complete the names of files. -/
  | files
  | noFiles
  deriving DecidableEq, Repr

namespace Directive

def number : Directive → Nat
  | .files => 0
  | .noFiles => 4

def title : Directive → String
  | .files => "ShellCompDirectiveDefault"
  | .noFiles => "ShellCompDirectiveNoFileComp"

end Directive

/-- What is offered for a word. -/
structure Offer where
  /-- The words, with what they mean. -/
  words : List (String × String) := []
  directive : Directive
  /-- Why the line cannot be read. -/
  problem : Option String := none
  deriving DecidableEq, Repr

/-! ## The flag whose value is written -/

/-- The last byte of a text. -/
def lastByte (s : List Char) : String :=
  match (s.flatMap String.utf8EncodeChar).getLast? with
  | some b => Text.ofOctets [b]
  | none => ""

/-- The name that an argument gives to a flag, or the last letter of its group. -/
def flagName : List Char → String
  | '-' :: '-' :: name => String.ofList name
  | group => lastByte group

/-- Whether an argument has a flag. -/
def hasFlag (argument : String) : Bool :=
  match argument.toList with
  | '-' :: '-' :: rest => !rest.isEmpty
  | '-' :: rest => !rest.isEmpty
  | _ => false

/-- A flag by its name or its letter. -/
def findFlag? (flags : List (Flag Arguments)) (name : String) : Option (Flag Arguments) :=
  flags.find? fun f => f.name == name || f.letter.map String.singleton == some name

/-- What is known of the word that is written. -/
structure Unfinished where
  /-- The flag of which the word is the value. -/
  flag : Option (Flag Arguments) := none
  /-- The arguments before, without that flag. -/
  arguments : List String
  word : String
  /-- The name of a flag that does not exist. -/
  missing : Option String := none

/-- What the arguments before a word make of it: a word with an equals sign has the name of its
flag in it, and else a flag before it takes it for its value. -/
def unfinished (flags : List (Flag Arguments)) (arguments : List String) (word : String) :
    Unfinished :=
  let chars := word.toList
  let isFlag := chars.head? == some '-'
  if isFlag && !chars.contains '=' then { arguments, word }
  else
    let within := if isFlag then flagName (Text.upTo '=' chars) else ""
    let value := if isFlag then String.ofList ((chars.dropWhile (· != '=')).drop 1) else word
    let before := arguments.getLast?.filter fun a => hasFlag a && !a.toList.contains '='
    let (name, rest) :=
      if within != "" then (within, arguments)
      else (before.map fun a => (flagName a.toList, arguments.dropLast)).getD ("", arguments)
    if name == "" then { arguments := rest, word := value }
    else
      match findFlag? flags name with
      | none => { arguments, word, missing := some name }
      | some f =>
        if !isFlag && f.isSwitch then { arguments, word }
        else { flag := some f, arguments := rest, word := value }

/-! ## Offers -/

/-- A flag that also lists its name when it is given. -/
def noted (f : Flag Arguments) : Flag (List String) where
  name := f.name
  letter := f.letter
  valueName := f.valueName
  help := f.help
  set := fun value names => (f.set value {}).map fun _ => f.name :: names

/-- The names and letters of a flag that start with a word. -/
def flagWords (word : String) (f : Flag Arguments) : List (String × String) :=
  let names := ("--" ++ f.name) :: (f.letter.map fun c => "-" ++ String.singleton c).toList
  (names.filter (Text.startsWith word)).map (·, f.help)

/-- The flags that a word may become, where the flags of `given` are there already. -/
def offerFlags (v : Verb) (given : List String) (word : String) : Offer :=
  let flags := Flag.sorted v.inheritedFlags ++ Flag.sorted v.ownFlags
  { words := (flags.filter fun f => f.repeats || !given.contains f.name).flatMap (flagWords word)
    directive := .noFiles }

/-- The words that an unfinished line of a command may go on with. -/
def offer (v : Verb) (u : Unfinished) : Offer :=
  match Flag.readAll (v.flags.map noted) [] u.arguments with
  | .error e =>
    { directive := .files
      problem := some ("Error while parsing flags from args [" ++ Text.joined " " u.arguments
        ++ "]: " ++ e.message) }
  | .ok r =>
    match u.missing, r.closed with
    | some name, false =>
      { directive := .files
        problem := some ("Subcommand '" ++ v.name ++ "' does not support flag '" ++ name ++ "'") }
    | _, _ =>
      if r.values.contains "help" || r.values.contains "version" then { directive := .noFiles }
      else if u.flag.isSome && !r.closed then { directive := .files }
      else if u.flag.isNone && !r.closed && Text.startsWith "-" u.word &&
        !u.word.toList.contains '=' then
        offerFlags v r.values u.word
      else
        { words := if u.flag.isNone && r.plain.isEmpty then
            v.below.filter fun (name, _) => Text.startsWith u.word name else []
          directive := if v == .analysis then .files else .noFiles }

/-- What is offered for the last of some arguments; `completion` is a command only where it
comes first and more follows. -/
def offerFor (arguments : List String) : Offer :=
  let before := arguments.dropLast
  let (v, rest) :=
    if before.head? == some Verb.completion.name then CommandLine.completionVerb before
    else (.analysis, before)
  offer v (unfinished v.flags rest (arguments.getLast?.getD ""))

namespace Offer

/-- An offer as a shell reads it, with what the words mean or without. -/
def text (o : Offer) (described : Bool) : String :=
  String.join (o.words.map fun (word, meaning) =>
    word ++ (if described then "\t" ++ meaning else "") ++ "\n")
    ++ ":" ++ Nat.repr o.directive.number ++ "\n"

/-- What a person is told about an offer. -/
def remarks (o : Offer) : String :=
  (match o.problem with
    | some p => "[Debug] [Error] " ++ p ++ "\n"
    | none => "")
    ++ "Completion ended with directive: " ++ o.directive.title ++ "\n"

end Offer

end Exposure.Completion
