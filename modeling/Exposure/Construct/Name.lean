/-
# Construct.Name — what a qualified name says

Go names are an import path, a dot, an optional receiver with its dot, and a
function name with closure suffixes.  Names of every other language follow the
conventions of class members: `package.Class.member(parameters)`.

* `packagePath` reads the import path off a Go name;
* `kindOf` infers the kind a name denotes;
* `Construct.unit` is the compilation unit: the package of a Go construct, the
  declaring class of a member of any other language;
* `Construct.normalize` removes what a compiler added to a name, if anything.
-/
import Exposure.Construct.Basic
import Exposure.Text.Blank
import Exposure.Text.Cut

namespace Exposure

set_option autoImplicit false

open Text

namespace Name

/-! ## Import paths -/

/-- The element `.vN` at the start of a text, when the text ends with it or
goes on with a dot; nothing otherwise. -/
def versionElement : List Char → List Char
  | '.' :: 'v' :: r =>
    let digits := r.takeWhile isDigit
    let rest := r.dropWhile isDigit
    if digits.isEmpty then []
    else if rest.isEmpty || rest.head? == some '.' then '.' :: 'v' :: digits
    else []
  | _ => []

/-- A name up to its type arguments or parameters. -/
def bare (name : List Char) : List Char := name.takeWhile fun c => c != '[' && c != '('

/-- The import path at the start of a Go name: everything up to the first dot
after the last slash, and the version element there, as in `gopkg.in/check.v1`. -/
def packagePath (name : List Char) : List Char :=
  let stem := bare name
  let last := afterLast '/' stem
  throughLast '/' stem ++ upTo '.' last ++ versionElement (last.dropWhile (· != '.'))

/-! ## Kinds -/

/-- A name up to its parameters. -/
def withoutParameters (name : List Char) : List Char := upTo '(' name

/-- Whether a text begins with an ASCII capital. -/
def capitalized (s : List Char) : Bool := s.head?.any isUpper

/-- The kind of a Go name: the import path alone is a package, a second dot
after it means a receiver. -/
def goKind (name : List Char) : Kind :=
  let path := packagePath name
  if path == name then .package
  else if (name.drop (path.length + 1)).contains '.' then .method
  else .function

/-- The kind of a class member's name: parameters make it callable, a capital
makes it a class or its constructor. -/
def memberKind (name : List Char) : Kind :=
  let capital := capitalized (afterLast '.' (withoutParameters name))
  if name.contains '(' then (if capital then .constructor else .method)
  else if capital then .class
  else .package

/-- The kind that `name` denotes in `lang`. -/
def kindOf (lang : Lang) (name : String) : Kind :=
  if lang = .go then goKind name.toList else memberKind name.toList

/-! ## Synthetic parts -/

/-- The suffixes of method value and method expression wrappers. -/
def wrapperSuffixes : List String := ["$bound", "$thunk"]

/-- A Go name without its wrapper suffix, if it has one. -/
def unwrapped? (name : List Char) : Option (List Char) :=
  wrapperSuffixes.findSome? fun suffix => dropSuffix? suffix.toList name

/-- The constructor of a nested class without the enclosing instance that is
its implicit first parameter, if it has one. -/
def withoutEnclosing? (name : List Char) : Option (List Char) :=
  if name.contains '(' && name.getLast? == some ')' then
    let owner := withoutParameters name
    let parameters := (name.drop (owner.length + 1)).dropLast
    match beforeLast? '$' owner with
    | none => none
    | some outer =>
      if parameters.isEmpty then none
      else
        let first := upTo ',' parameters
        let rest := parameters.drop (first.length + 1)
        if trim first == outer then some (owner ++ '(' :: trim rest ++ [')']) else none
  else none

end Name

namespace Construct

/-- The construct that `name` denotes in `lang`. -/
def ofName (lang : Lang) (name : String) : Construct := ⟨lang, Name.kindOf lang name, name⟩

/-- The qualified name of the unit that a construct was compiled in. -/
def unit (c : Construct) : String :=
  if c.lang = .go then String.ofList (Name.packagePath c.name.toList)
  else if c.kind = .package ∨ c.kind = .class then c.name
  else
    let stem := Name.withoutParameters c.name.toList
    if c.kind = .constructor then String.ofList stem
    else String.ofList ((beforeLast? '.' stem).getD stem)

/-- The construct without the parts that a compiler added, if it had any. -/
def normalize (c : Construct) : Option Construct :=
  let stripped :=
    if c.lang = .go then Name.unwrapped? c.name.toList
    else if c.kind = .constructor then Name.withoutEnclosing? c.name.toList
    else none
  stripped.map fun name => { c with name := String.ofList name }

end Construct

end Exposure
