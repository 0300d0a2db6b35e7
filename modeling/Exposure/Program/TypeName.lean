/-
# Program.TypeName — names of receiver types

A method's name has the name of its receiver's type: the plain name of a named
type or a type parameter, through aliases and one pointer, and the whole type
written out for all others.
-/

namespace Exposure.Program

set_option autoImplicit false

/-- A type as far as names go. -/
inductive ReceiverType where
  | named (package name : String)
  | typeParameter (name : String)
  | basic (name : String)
  | pointer (element : ReceiverType)
  | slice (element : ReceiverType)
  /-- A map from strings. -/
  | table (element : ReceiverType)
  | alias (package name : String) (aliased : ReceiverType)
  deriving DecidableEq, Repr

namespace ReceiverType

/-- The type that an alias stands for in the end. -/
def resolved : ReceiverType → ReceiverType
  | .alias _ _ t => resolved t
  | t => t

/-- The type written out. -/
def text : ReceiverType → String
  | .named package name => package ++ "." ++ name
  | .typeParameter name => name
  | .basic name => name
  | .pointer t => "*" ++ text t
  | .slice t => "[]" ++ text t
  | .table t => "map[string]" ++ text t
  | .alias package name _ => package ++ "." ++ name

/-- The name of a type that is neither an alias nor a pointer to be followed. -/
def plainName : ReceiverType → String
  | .named _ name => name
  | .typeParameter name => name
  | .basic name => if name == "any" then "interface\x7b\x7d" else name
  | t => t.text

/-- The name of a receiver's type. -/
def name (t : ReceiverType) : String :=
  match t.resolved with
  | .pointer element => element.resolved.plainName
  | t => t.plainName

end ReceiverType

end Exposure.Program
