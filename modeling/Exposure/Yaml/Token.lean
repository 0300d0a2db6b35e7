/-
# Yaml.Token — the marks of a document

A token is a scalar, an indicator or a boundary that the layout implies, with
the line on which it starts.
-/

namespace Exposure.Yaml

set_option autoImplicit false

/-- How a scalar is written. -/
inductive Style where
  | plain
  | quoted
  | block
  deriving DecidableEq, Repr

/-- What a token is. -/
inductive Token.Kind where
  | streamEnd
  | version (major minor : Nat)
  | tagHandle (handle stem : String)
  | documentStart
  | documentEnd
  | sequenceStart
  | mappingStart
  | blockEnd
  | openBracket
  | closeBracket
  | openBrace
  | closeBrace
  | comma
  | dash
  | key
  | value
  | alias (name : String)
  | anchor (name : String)
  | tag (handle suffix : String)
  | scalar (text : String) (style : Style)
  deriving DecidableEq, Repr

/-- A token with its line, counted from zero. -/
structure Token where
  kind : Token.Kind
  line : Nat
  deriving DecidableEq, Repr

end Exposure.Yaml
