/-
# Construct.Basic — code constructs and their names

A construct is a package, class, method, constructor or function of some
language, identified by its qualified name alone: the language and the kind
describe it and take no part in its identity.  Both are open sets of words,
because a caller may bring a language that has no rules here; the constants
below are the ones that do.
-/

namespace Exposure

set_option autoImplicit false

/-- The language a construct is written in, by its short name. -/
structure Lang where
  text : String
  deriving DecidableEq, Repr, Inhabited

namespace Lang

def go : Lang := ⟨"go"⟩
def java : Lang := ⟨"java"⟩

end Lang

/-- What sort of thing a construct is. -/
structure Kind where
  text : String
  deriving DecidableEq, Repr, Inhabited

namespace Kind

def package : Kind := ⟨"package"⟩
def «class» : Kind := ⟨"class"⟩
def method : Kind := ⟨"method"⟩
def constructor : Kind := ⟨"constructor"⟩
def function : Kind := ⟨"function"⟩

end Kind

/-- A construct: its language, its kind and its qualified name. -/
structure Construct where
  lang : Lang
  kind : Kind
  name : String
  deriving DecidableEq, Repr, Inhabited

namespace Construct

/-- The construct of an empty path: no language, no kind, no name. -/
def nameless : Construct := ⟨⟨""⟩, ⟨""⟩, ""⟩

/-- A construct without a name stands for no construct. -/
def isNameless (c : Construct) : Bool := c.name == ""

/-- Two constructs are the same when their names are. -/
def sameAs (a b : Construct) : Bool := a.name == b.name

/-- Constructs are ordered by name. -/
def order (a b : Construct) : Ordering := compare a.name b.name

/-- The order of names as a test for sorting. -/
def nameLe (a b : Construct) : Bool := decide (a.name ≤ b.name)

end Construct

end Exposure
