/-
# Command.Flag — flags on a command line

An argument with two hyphens names a flag in full, one with a single hyphen is a
group of one-letter names.  A switch needs no value; any other flag takes what
follows an equals sign, the rest of its group, or the next argument.  Arguments
without a hyphen are collected, and so is everything after `--`.  The first
argument that is wrong ends the reading.
-/
import Exposure.Text.Cut
import Exposure.Text.Quoted

namespace Exposure

set_option autoImplicit false

/-- Why a command line cannot be read. -/
inductive FlagError where
  | unknown (name : String)
  /-- A letter that is no flag, in what is left of its group. -/
  | unknownLetter (group : String)
  | needsValue (name : String)
  | letterNeedsValue (group : String)
  | badName (argument : String)
  | badValue (flag value reason : String)
  deriving DecidableEq, Repr

namespace FlagError

/-- The first byte of a group, as a character. -/
def firstByte (group : String) : String :=
  match group.toList.flatMap String.utf8EncodeChar with
  | b :: _ => Text.quotedChar (Char.ofNat b.toNat)
  | [] => ""

def message : FlagError → String
  | .unknown name => "unknown flag: --" ++ name
  | .unknownLetter group => "unknown shorthand flag: " ++ firstByte group ++ " in -" ++ group
  | .needsValue name => "flag needs an argument: --" ++ name
  | .letterNeedsValue group => "flag needs an argument: " ++ firstByte group ++ " in -" ++ group
  | .badName argument => "bad flag syntax: " ++ argument
  | .badValue flag value reason =>
    "invalid argument " ++ Text.quoted value ++ " for " ++ Text.quoted flag ++ " flag: " ++ reason

end FlagError

/-- A flag of a command line whose values are kept in `α`. -/
structure Flag (α : Type) where
  name : String
  letter : Option Char := none
  /-- The word for the value in the help; a switch has none. -/
  valueName : String := ""
  /-- The value without the flag as the help shows it. -/
  initial : String := ""
  /-- Whether the flag is of use more than once. -/
  repeats : Bool := false
  help : String
  /-- Keeps a value, or says why it is none. -/
  set : String → α → Except String α

namespace Flag

variable {α : Type}

def isSwitch (f : Flag α) : Bool := f.valueName == ""

/-- The name of a flag in messages, with its letter. -/
def title (f : Flag α) : String :=
  match f.letter with
  | some c => "-" ++ String.singleton c ++ ", --" ++ f.name
  | none => "--" ++ f.name

/-- Keeps the value of a flag. -/
def keep (f : Flag α) (value : String) (a : α) : Except FlagError α :=
  (f.set value a).mapError (.badValue f.title value)

/-! ## Help -/

/-- The left side of a flag's line in the help. -/
def usage (f : Flag α) : String :=
  (match f.letter with
    | some c => "  -" ++ String.singleton c ++ ", --" ++ f.name
    | none => "      --" ++ f.name)
    ++ (if f.isSwitch then "" else " " ++ f.valueName)

/-- Flags by name. -/
def sorted (flags : List (Flag α)) : List (Flag α) :=
  flags.mergeSort fun a b => decide (a.name ≤ b.name)

/-- The lines of the help for flags. -/
def helpLines (flags : List (Flag α)) : List String :=
  let sorted := sorted flags
  let width := (sorted.map (·.usage.length)).foldl max 0
  sorted.map fun f =>
    f.usage ++ String.ofList (List.replicate (width - f.usage.length) ' ') ++ "   " ++ f.help
      ++ (if f.initial == "" then "" else " (default " ++ f.initial ++ ")")

end Flag

/-! ## Reading -/

/-- How far a command line is read. -/
structure ReadArguments (α : Type) where
  values : α
  /-- The arguments that are no flags. -/
  plain : List String := []
  /-- A flag that waits for its value, and the error if none comes. -/
  waiting : Option (Flag α × FlagError) := none
  /-- Whether all that follows is no flag. -/
  closed : Bool := false

namespace ReadArguments

variable {α : Type}

/-- Keeps the value of a flag. -/
def keep (r : ReadArguments α) (f : Flag α) (value : String) : Except FlagError (ReadArguments α) :=
  (f.keep value r.values).map fun values => { r with values, waiting := none }

/-- Reads a flag with its full name. -/
def readName (flags : List (Flag α)) (r : ReadArguments α) (argument : String) :
    Except FlagError (ReadArguments α) :=
  let text := argument.toList.drop 2
  if text.isEmpty || text.head? == some '-' || text.head? == some '=' then
    .error (.badName argument)
  else
    let name := String.ofList (Text.upTo '=' text)
    match flags.find? (·.name == name) with
    | none => .error (.unknown name)
    | some f =>
      match text.dropWhile (· != '=') with
      | _ :: value => r.keep f (String.ofList value)
      | [] =>
        if f.isSwitch then r.keep f "true" else .ok { r with waiting := some (f, .needsValue name) }

/-- Reads a group of letters. -/
def readGroup (flags : List (Flag α)) (r : ReadArguments α) : List Char →
    Except FlagError (ReadArguments α)
  | [] => .ok r
  | c :: rest =>
    if Text.startsWith "test." (String.ofList (c :: rest)) then .ok r
    else
      match flags.find? (·.letter == some c) with
      | none => .error (.unknownLetter (String.ofList (c :: rest)))
      | some f =>
        match rest with
        | '=' :: v :: value => r.keep f (String.ofList (v :: value))
        | _ =>
          if f.isSwitch then
            match r.keep f "true" with
            | .ok r => readGroup flags r rest
            | .error e => .error e
          else if rest.isEmpty then
            .ok { r with waiting := some (f, .letterNeedsValue (String.ofList (c :: rest))) }
          else r.keep f (String.ofList rest)

/-- Reads one more argument. -/
def step (flags : List (Flag α)) (r : ReadArguments α) (argument : String) :
    Except FlagError (ReadArguments α) :=
  if r.closed then .ok { r with plain := r.plain ++ [argument] }
  else
    match r.waiting with
    | some (f, _) => r.keep f argument
    | none =>
      match argument.toList with
      | ['-', '-'] => .ok { r with closed := true }
      | '-' :: '-' :: _ => r.readName flags argument
      | '-' :: c :: rest => r.readGroup flags (c :: rest)
      | _ => .ok { r with plain := r.plain ++ [argument] }

end ReadArguments

/-- Reads a command line on top of `values`. -/
def Flag.readAll {α : Type} (flags : List (Flag α)) (values : α) (arguments : List String) :
    Except FlagError (ReadArguments α) :=
  match arguments.foldlM (ReadArguments.step flags) ({ values } : ReadArguments α) with
  | .error e => .error e
  | .ok r =>
    match r.waiting with
    | some (_, e) => .error e
    | none => .ok r

end Exposure
