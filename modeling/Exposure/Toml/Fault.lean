/-
# Toml.Fault — why a text is no document

A fault tells what is wrong, on which line, and which key was the last to be
read, if there was one.  While a lexeme is read, only the place of a fault is
known: what is left of the text behind it, and whether the fault counts for the
line before.
-/
import Exposure.Text.Cut
import Exposure.Text.Quoted

namespace Exposure.Toml

set_option autoImplicit false

open Text

/-- What is wrong. -/
inductive Fault.Cause where
  | nullBytes
  | controlCharacter (found : Char)
  | unendedLine (found : Option Char)
  | missingTableName
  | strayTableSeparator
  | unendedTableName (found : Option Char)
  | unendedListName (found : Option Char)
  | blankKey
  | leadingSeparator
  | missingName
  | straySeparator
  | missingEquals
  | unendedKey (found : Option Char)
  | missingValue
  | strayCharacter (found : Char)
  | strayWord (found : String)
  | strayComma
  | unendedItem (found : Option Char)
  | breakInTable
  | trailingComma
  | unendedPair (found : Option Char)
  | unclosedText (closing : String)
  | breakInText
  | tooManyQuotes (quote : Char)
  | unknownEscape (found : Option Char)
  | blankEscape (found : Char)
  | shortCode (long : Bool) (seen : String)
  | invalidCodePoint (digits : String)
  | leadingPoint
  | missingDigit (found : Option Char)
  | signedBase (text : String)
  | missingBaseDigit (base text : String)
  | unfinishedWord (text : String)
  | underscores (kind text : String)
  | leadingZeros (kind text : String)
  | barePoint (text : String)
  | invalidReal (text : String)
  | outOfRange (text size : String)
  | invalidMoment (text : String)
  | definedTwice (key : String)
  | noTable (key : String)
  | noList (key : String)
  | invalidDuration (text : String)
  | inexact (number : Int)
  deriving DecidableEq, Repr

namespace Fault.Cause

/-- A character in single quotes; the end of the text shows as a null. -/
def shown (found : Option Char) : String := quotedChar (found.getD '\x00')

/-- A character as it is, in single quotes, or the end of the text. -/
def plainlyShown : Option Char → String
  | some c => "'" ++ String.singleton c ++ "'"
  | none => "end of file"

/-- Quotes between quotes of the other kind. -/
def betweenQuotes (quotes : String) : String :=
  if quotes.toList.contains '"' then "'" ++ quotes ++ "'" else "\"" ++ quotes ++ "\""

def message : Cause → String
  | .nullBytes =>
    "files cannot contain NULL bytes; probably using UTF-16; TOML files must be UTF-8"
  | .controlCharacter c =>
    "TOML files cannot contain control characters: '0x" ++ String.ofList (hexPadded 2 c.toNat) ++
      "'"
  | .unendedLine found =>
    "expected a top-level item to end with a newline, comment, or EOF, but got " ++ shown found
      ++ " instead"
  | .missingTableName => "unexpected end of table name (table names cannot be empty)"
  | .strayTableSeparator => "unexpected table separator (table names cannot be empty)"
  | .unendedTableName found =>
    "expected '.' or ']' to end table name, but got " ++ shown found ++ " instead"
  | .unendedListName found =>
    "expected end of table array name delimiter ']', but got " ++ shown found ++ " instead"
  | .blankKey => "unexpected '=': key name appears blank"
  | .leadingSeparator => "unexpected '.': keys cannot start with a '.'"
  | .missingName => "unexpected '='"
  | .straySeparator => "unexpected '.'"
  | .missingEquals => "unexpected EOF; expected key separator '='"
  | .unendedKey found => "expected '.' or '=', but got " ++ shown found ++ " instead"
  | .missingValue => "unexpected EOF; expected value"
  | .strayCharacter c => "expected value but found " ++ quotedChar c ++ " instead"
  | .strayWord s => "expected value but found " ++ quoted s ++ " instead"
  | .strayComma => "unexpected comma"
  | .unendedItem found =>
    "expected a comma (',') or array terminator (']'), but got " ++ plainlyShown found
  | .breakInTable => "newlines not allowed within inline tables"
  | .trailingComma => "trailing comma not allowed in inline tables"
  | .unendedPair found =>
    "expected a comma or an inline table terminator '\x7d', but got " ++ plainlyShown found
      ++ " instead"
  | .unclosedText closing => "unexpected EOF; expected " ++ betweenQuotes closing
  | .breakInText => "strings cannot contain newlines"
  | .tooManyQuotes quote =>
    "unexpected " ++ betweenQuotes (String.ofList (List.replicate 6 quote))
  | .unknownEscape found =>
    "invalid escape in string '\\" ++ String.singleton (found.getD '\x00') ++ "'"
  | .blankEscape c => "invalid escape: '\\" ++ String.singleton c ++ "'"
  | .shortCode long seen =>
    (if long then "expected eight hexadecimal digits after '\\U', but got "
      else "expected four hexadecimal digits after '\\u', but got ") ++ quoted seen ++ " instead"
  | .invalidCodePoint digits => "Escaped character '\\u" ++ digits ++ "' is not valid UTF-8."
  | .leadingPoint => "floats must start with a digit, not '.'"
  | .missingDigit found => "expected a digit but got " ++ shown found
  | .signedBase s => "cannot use sign with non-decimal numbers: '" ++ s ++ "'"
  | .missingBaseDigit base s => "not " ++ base ++ " number: '" ++ s ++ "'"
  | .unfinishedWord s => "invalid float: '" ++ s ++ "'"
  | .underscores kind s =>
    "Invalid " ++ kind ++ " " ++ quoted s ++ ": underscores must be surrounded by digits"
  | .leadingZeros kind s => "Invalid " ++ kind ++ " " ++ quoted s ++ ": cannot have leading zeroes"
  | .barePoint s =>
    "Invalid float " ++ quoted s ++ ": '.' must be followed by one or more digits"
  | .invalidReal s => "Invalid float value: " ++ quoted s
  | .outOfRange s size => s ++ " is out of range for " ++ size
  | .invalidMoment s => "invalid datetime: " ++ quoted s
  | .definedTwice key => "Key '" ++ key ++ "' has already been defined."
  | .noTable key => "Key '" ++ key ++ "' was already created as a hash."
  | .noList key => "Key '" ++ key ++ "' was already created and cannot be used as an array."
  | .invalidDuration s => "invalid duration: " ++ quoted s
  | .inexact n => Int.repr n ++ " is out of the safe float64 range"

end Fault.Cause

/-- What is wrong with a text. -/
structure Fault where
  cause : Fault.Cause
  line : Nat
  /-- The last key, or nothing. -/
  key : String
  deriving DecidableEq, Repr

namespace Fault

/-- A line, and the key that was last there, in front of a message. -/
def located (line : Nat) (key message : String) : String :=
  "toml: line " ++ Nat.repr line ++ (if key == "" then "" else " (last key " ++ quoted key ++ ")")
    ++ ": " ++ message

def message (f : Fault) : String := located f.line f.key f.cause.message

end Fault

/-- A fault in a lexeme: what is left of the text behind it, and whether it counts for the line
before, which at the end of the text it does if a line break ends that.  `sawEnd` tells whether
the end of the text was looked at. -/
structure Slip where
  cause : Fault.Cause
  rest : List Char
  earlier : Bool := false
  atEnd : Bool := false
  sawEnd : Bool := atEnd

/-- What a lexeme stands for and the rest of the text. -/
abbrev Lexed (α : Type) := Except Slip (α × List Char)

/-- A fault behind which `rest` is left. -/
def slip {α : Type} (cause : Fault.Cause) (rest : List Char) : Except Slip α :=
  .error { cause, rest }

/-- A fault that shows when one looks at what is left, be it the end of the text. -/
def slipPeeking {α : Type} (cause : Fault.Cause) (rest : List Char) : Except Slip α :=
  .error { cause, rest, sawEnd := rest.isEmpty }

/-- A fault of the line before. -/
def slipBack {α : Type} (cause : Fault.Cause) (rest : List Char) : Except Slip α :=
  .error { cause, rest, earlier := true }

/-- A fault that the end of the text is. -/
def slipAtEnd {α : Type} (cause : Fault.Cause) : Except Slip α :=
  .error { cause, rest := [], atEnd := true }

/-- A fault at the next character, which counts as read, or at the end of the text. -/
def slipAt {α : Type} (cause : Option Char → Fault.Cause) : List Char → Except Slip α
  | [] => slipAtEnd (cause none)
  | c :: r => slip (cause (some c)) r

/-- The same, where the fault of a line break counts for the line that it ends. -/
def slipAtBreak {α : Type} (cause : Option Char → Fault.Cause) : List Char → Except Slip α
  | '\n' :: r => slipBack (cause (some '\n')) r
  | s => slipAt cause s

end Exposure.Toml
