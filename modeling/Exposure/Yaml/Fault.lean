/-
# Yaml.Fault — why a text is no document

A fault is either lexical, found while the text is cut into tokens, or
structural, found while the tokens are put together, or it lies in a value that
cannot be what its tag says.  Both of the first kinds name a line: the one on
which the thing starts that is at fault, or, when that is the first line of the
text, the one where the fault shows; the first line itself is never named.
Lexical faults count lines from one, structural faults from zero.
-/

namespace Exposure.Yaml

set_option autoImplicit false

/-- What is wrong. -/
inductive Fault.Cause where
  | controlCharacter
  | strayCharacter
  | missingColon
  | strayDash
  | strayKey
  | strayValue
  | anchorName
  | unclosedAddress
  | unendedTag
  | missingHandle
  | missingAddress
  | missingOctet
  | leadingOctet
  | trailingOctet
  | zeroIndentation
  | missingLineEnd
  | tabForSpace
  | tabInIndentation
  | documentMark
  | unclosedQuote
  | unknownEscape
  | missingHexadecimal
  | invalidCodePoint
  | missingDirectiveName
  | directiveName
  | unknownDirective
  | missingNumber
  | longNumber
  | missingPoint
  | missingBlank
  | missingDocumentStart
  | repeatedVersion
  | foreignVersion
  | repeatedHandle
  | unknownHandle
  | missingContent
  | missingDash
  | missingKey
  | missingBracket
  | missingBrace
  | tooDeep
  | unknownAnchor (name : String)
  | containsItself (name : String)
  | excessiveAliases
  | collectionKey (shown : String)
  | otherKind (found text wanted : String)
  | invalidBase64
  | mergeOfNoMapping
  deriving DecidableEq, Repr

namespace Fault.Cause

def message : Cause → String
  | .controlCharacter => "control characters are not allowed"
  | .strayCharacter => "found character that cannot start any token"
  | .missingColon => "could not find expected ':'"
  | .strayDash => "block sequence entries are not allowed in this context"
  | .strayKey => "mapping keys are not allowed in this context"
  | .strayValue => "mapping values are not allowed in this context"
  | .anchorName => "did not find expected alphabetic or numeric character"
  | .unclosedAddress => "did not find the expected '>'"
  | .unendedTag => "did not find expected whitespace or line break"
  | .missingHandle => "did not find expected '!'"
  | .missingAddress => "did not find expected tag URI"
  | .missingOctet => "did not find URI escaped octet"
  | .leadingOctet => "found an incorrect leading UTF-8 octet"
  | .trailingOctet => "found an incorrect trailing UTF-8 octet"
  | .zeroIndentation => "found an indentation indicator equal to 0"
  | .missingLineEnd => "did not find expected comment or line break"
  | .tabForSpace => "found a tab character where an indentation space is expected"
  | .tabInIndentation => "found a tab character that violates indentation"
  | .documentMark => "found unexpected document indicator"
  | .unclosedQuote => "found unexpected end of stream"
  | .unknownEscape => "found unknown escape character"
  | .missingHexadecimal => "did not find expected hexdecimal number"
  | .invalidCodePoint => "found invalid Unicode character escape code"
  | .missingDirectiveName => "could not find expected directive name"
  | .directiveName => "found unexpected non-alphabetical character"
  | .unknownDirective => "found unknown directive name"
  | .missingNumber => "did not find expected version number"
  | .longNumber => "found extremely long version number"
  | .missingPoint => "did not find expected digit or '.' character"
  | .missingBlank => "did not find expected whitespace"
  | .missingDocumentStart => "did not find expected <document start>"
  | .repeatedVersion => "found duplicate %YAML directive"
  | .foreignVersion => "found incompatible YAML document"
  | .repeatedHandle => "found duplicate %TAG directive"
  | .unknownHandle => "found undefined tag handle"
  | .missingContent => "did not find expected node content"
  | .missingDash => "did not find expected '-' indicator"
  | .missingKey => "did not find expected key"
  | .missingBracket => "did not find expected ',' or ']'"
  | .missingBrace => "did not find expected ',' or '\x7d'"
  | .tooDeep => "exceeded max depth of 10000"
  | .unknownAnchor name => "unknown anchor '" ++ name ++ "' referenced"
  | .containsItself name => "anchor '" ++ name ++ "' value contains itself"
  | .excessiveAliases => "document contains excessive aliasing"
  | .collectionKey shown => "invalid map key: " ++ shown
  | .otherKind found text wanted =>
    "cannot decode " ++ found ++ " `" ++ text ++ "` as a " ++ wanted
  | .invalidBase64 => "!!binary value contains invalid base64 data"
  | .mergeOfNoMapping => "map merge requires map or sequence of maps as the value"

end Fault.Cause

/-- What is wrong with a text, and the line it names; zero names none. -/
structure Fault where
  cause : Fault.Cause
  line : Nat := 0
  deriving DecidableEq, Repr

namespace Fault

/-- A fault on line `here` within a lexeme that starts on line `start`, both counted from
zero. -/
def lexical (start here : Nat) (cause : Cause) : Fault :=
  let line := if start = 0 then here else start
  { cause, line := if line = 0 then 0 else line + 1 }

/-- A fault at a token on line `here` within a collection that starts on line `start`. -/
def structural (start here : Nat) (cause : Cause) : Fault :=
  { cause, line := if start = 0 then here else start }

def message (f : Fault) : String :=
  "yaml: " ++ (if f.line = 0 then "" else "line " ++ Nat.repr f.line ++ ": ") ++ f.cause.message

end Fault

end Exposure.Yaml
