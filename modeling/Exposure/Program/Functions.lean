/-
# Program.Functions — the functions of a program and their calls

Every package has an initializer, which calls its explicit `init` functions.  A
closure is named after the function around it and numbered within that.  A
generic function, or a method of a generic type, exists as its origin and as an
instance with the same name, and every call goes to the instance; the closures
of an instance belong to no package.

A type has its own methods and those of the types it embeds: the nearest one of
a name counts, and none when two are equally near or a field of that name is as
near.  Names that are not exported differ between packages.  What has the blank
name cannot be called, and a method of that name is none.
-/
import Exposure.Construct.Basic
import Exposure.Program.Basic
import Exposure.Text.Category

namespace Exposure.Program

set_option autoImplicit false

/-! ## Functions -/

/-- A function of a program. -/
structure FunctionKey where
  /-- The path of the package that declares it. -/
  package : String
  /-- The type that it is a method of. -/
  type : Option String := none
  name : String
  /-- The numbers of the closures around it and of itself, the outermost first. -/
  closures : List Nat := []
  isInstance : Bool := false
  /-- Which one it is of the functions of its package with the blank name. -/
  blank : Nat := 0
  deriving DecidableEq, Repr

namespace FunctionKey

/-- The initializer of a package. -/
def initializer (path : String) : FunctionKey := { package := path, name := "init" }

/-- The explicit initialization function number `n` of a package. -/
def explicitInit (path : String) (n : Nat) : FunctionKey :=
  { package := path, name := "init#" ++ Nat.repr n }

/-- Closure number `n` within a function. -/
def closure (k : FunctionKey) (n : Nat) : FunctionKey := { k with closures := k.closures ++ [n] }

def isInitializer (k : FunctionKey) : Bool :=
  k.type.isNone && k.name == "init" && k.closures.isEmpty

/-- A closure of an instance belongs to no package. -/
def isDetached (k : FunctionKey) : Bool := k.isInstance && !k.closures.isEmpty

/-- The path of the package that a function belongs to, if there is one. -/
def path (k : FunctionKey) : String := if k.isDetached then "" else k.package

def qualifiedName (k : FunctionKey) : String :=
  k.package ++ "." ++ (match k.type with | none => "" | some t => t ++ ".") ++ k.name
    ++ String.join (k.closures.map fun n => "$" ++ Nat.repr n)

/-- The construct of a function. -/
def construct (k : FunctionKey) : Construct :=
  ⟨.go, if k.type.isSome then .method else .function, k.qualifiedName⟩

end FunctionKey

/-! ## Methods -/

/-- Names that start with a capital are exported. -/
def isExported (name : String) : Bool := name.toList.head?.any Text.isCapital

/-- The name of what is declared and cannot be named. -/
def blankName : String := "_"

/-- What tells names apart: one that is not exported is private to its package. -/
def nameWithin (package name : String) : String × String :=
  (name, if isExported name then "" else package)

/-- A method of a type, declared there or for a type that it embeds. -/
structure Method where
  /-- The package and the type that it is declared for. -/
  package : String
  type : String
  decl : FunctionDecl
  isGeneric : Bool
  isPromoted : Bool

namespace Method

/-- What tells a method from others. -/
def identity (m : Method) : String × String := nameWithin m.package m.decl.name

/-- The function that a call of the method runs. -/
def function (m : Method) : FunctionKey :=
  { package := m.package, type := some m.type, name := m.decl.name, isInstance := m.isGeneric }

end Method

/-- A type of a program, by its package and its name. -/
abbrev TypeKey := String × String

/-- The declaration of a type. -/
def findType? (ps : List Package) (t : TypeKey) : Option TypeDecl :=
  (ps.find? (·.path == t.1)).bind fun p => p.types.find? (·.name == t.2)

/-- The methods declared for a type. -/
def declaredMethods (ps : List Package) (isPromoted : Bool) (t : TypeKey) : List Method :=
  match ps.find? (·.path == t.1), findType? ps t with
  | some p, some decl =>
    (p.functions.filter fun f => f.receiver.any (·.type == t.2) && f.name != blankName).map fun f =>
      ⟨t.1, t.2, f, f.isGeneric || decl.isGeneric, isPromoted⟩
  | _, _ => []

/-- The types that a type embeds. -/
def embeddedIn (ps : List Package) (t : TypeKey) : List TypeKey :=
  ((findType? ps t).map fun d => d.embeds.filterMap (typePath? (ps.map (·.path)))).getD []

/-- The fields of a type: it has one for every type that it embeds, with the name of that. -/
def fieldNames (ps : List Package) (t : TypeKey) : List (String × String) :=
  (embeddedIn ps t).map fun e => nameWithin t.1 e.2

/-- The methods of the types of one depth and below, without those whose names are taken.
`seen` has the types of the depths above. -/
def methodsBelow (ps : List Package) :
    Nat → Bool → List TypeKey → List (String × String) → List TypeKey → List Method
  | 0, _, _, _, _ => []
  | fuel + 1, isPromoted, seen, taken, level =>
    if level.isEmpty then []
    else
      let here := level.flatMap (declaredMethods ps isPromoted)
      let names := here.map (·.identity) ++ level.flatMap (fieldNames ps)
      let found := here.filter fun m => !taken.contains m.identity && names.count m.identity == 1
      let seen := level ++ seen
      let next := (level.flatMap (embeddedIn ps)).filter fun t => !seen.contains t
      found ++ methodsBelow ps fuel true seen (names ++ taken) next

/-- The methods of a type, nearest first.  No more depths than types are of any use. -/
def methodsOf (ps : List Package) (t : TypeKey) : List Method :=
  methodsBelow ps ((ps.flatMap (·.types)).length + 1) false [] [] [t]

/-! ## Calls -/

/-- The function that a reference names when it is called. -/
def calledFunction? (ps : List Package) (reference : String) : Option FunctionKey :=
  match Reference.resolve? (ps.map (·.path)) reference with
  | none => none
  | some ⟨path, .function name⟩ =>
    (ps.find? (·.path == path)).bind fun p =>
      (p.functions.find? fun f => f.receiver.isNone && f.name == name).map fun f =>
        { package := path, name, isInstance := f.isGeneric }
  | some ⟨path, .method type name⟩ =>
    ((methodsOf ps (path, type)).find? (·.decl.name == name)).map (·.function)

/-- A function with the functions that it calls. -/
structure FunctionBody where
  key : FunctionKey
  callees : List FunctionKey
  deriving DecidableEq, Repr

mutual

/-- What a call inside `k` calls, the bodies of the closures in it, and the number of closures
of `k` by then, of which there were `n` before. -/
def callBodies (resolve : String → Option FunctionKey) (k : FunctionKey) (n : Nat) :
    Call → List FunctionKey × List FunctionBody × Nat
  | .function r => ((resolve r).toList, [], n)
  | .bound r => ((resolve r).toList, [], n)
  | .concurrent c => callBodies resolve k n c
  | .deferred c => callBodies resolve k n c
  | .closure calls =>
    let inner := k.closure (n + 1)
    let (callees, bodies, _) := listBodies resolve inner 0 calls
    ([inner], ⟨inner, callees⟩ :: bodies, n + 1)

def listBodies (resolve : String → Option FunctionKey) (k : FunctionKey) (n : Nat) :
    List Call → List FunctionKey × List FunctionBody × Nat
  | [] => ([], [], n)
  | c :: cs =>
    let (callees, bodies, n) := callBodies resolve k n c
    let (moreCallees, moreBodies, n) := listBodies resolve k n cs
    (callees ++ moreCallees, bodies ++ moreBodies, n)

end

/-- A function with its closures. -/
def bodiesOf (resolve : String → Option FunctionKey) (k : FunctionKey) (calls : List Call) :
    List FunctionBody :=
  match listBodies resolve k 0 calls with
  | (callees, bodies, _) => ⟨k, callees⟩ :: bodies

/-- Whether a declaration is an explicit initialization function, of which there may be many. -/
def isExplicitInit (f : FunctionDecl) : Bool := f.receiver.isNone && f.name == "init"

/-- Whether a declared name becomes known in its package. -/
def isFindable (name : String) : Bool := name != "init" && name != blankName

/-- Whether a declaration is generic, by itself or by its receiver. -/
def isGenericDecl (p : Package) (f : FunctionDecl) : Bool :=
  f.isGeneric || f.receiver.any fun r => p.types.any fun t => t.name == r.type && t.isGeneric

/-- The origin of a declared function. -/
def originOf (p : Package) (f : FunctionDecl) : FunctionKey :=
  { package := p.path, type := f.receiver.map (·.type), name := f.name }

/-- Declarations with their functions, after some explicit initialization functions and some
functions with the blank name. -/
def declaredFrom (p : Package) : Nat → Nat → List FunctionDecl → List (FunctionDecl × FunctionKey)
  | _, _, [] => []
  | inits, blanks, f :: fs =>
    if isExplicitInit f then
      (f, .explicitInit p.path (inits + 1)) :: declaredFrom p (inits + 1) blanks fs
    else if f.name == blankName then
      (f, { originOf p f with blank := blanks }) :: declaredFrom p inits (blanks + 1) fs
    else (f, originOf p f) :: declaredFrom p inits blanks fs

/-- The declarations of a package with their functions. -/
def declaredFunctions (p : Package) : List (FunctionDecl × FunctionKey) :=
  declaredFrom p 0 0 p.functions

/-- The functions of a package. -/
def packageBodies (resolve : String → Option FunctionKey) (p : Package) : List FunctionBody :=
  let declared := declaredFunctions p
  ⟨.initializer p.path, (declared.filter fun (f, _) => isExplicitInit f).map (·.2)⟩
    :: declared.flatMap fun (f, k) =>
      bodiesOf resolve k f.calls
        ++ (if isGenericDecl p f then bodiesOf resolve { k with isInstance := true } f.calls
            else [])

/-- All functions of a program. -/
def allBodies (ps : List Package) : List FunctionBody :=
  ps.flatMap (packageBodies (calledFunction? ps))

/-- What a function calls. -/
def calleesIn (bodies : List FunctionBody) (k : FunctionKey) : List FunctionKey :=
  ((bodies.find? (·.key == k)).map (·.callees)).getD []

/-! ## Functions that calls lead to -/

/-- Takes the functions that are pending, and what they call, out of those that remain. -/
def gather (bodies : List FunctionBody) (remaining pending : List FunctionKey) : List FunctionKey :=
  match _found : pending.find? remaining.contains with
  | none => []
  | some k => k :: gather bodies (remaining.erase k) (calleesIn bodies k ++ pending)
termination_by remaining.length
decreasing_by
  have inside : k ∈ remaining := List.contains_iff_mem.mp (List.find?_some _found)
  have shorter := List.length_erase_of_mem inside
  have nonempty := List.length_pos_of_mem inside
  omega

/-- The functions that calls lead to from some functions, with those. -/
def calledFrom (bodies : List FunctionBody) (starts : List FunctionKey) : List FunctionKey :=
  gather bodies (bodies.map (·.key)) starts

/-- The functions of all packages that a graph starts from: initializers, functions, and the
methods of the types that are not generic and that `counts` takes. -/
def packageStarts (ps : List Package) (counts : TypeDecl → Bool) : List FunctionKey :=
  ps.flatMap fun p =>
    .initializer p.path
      :: (p.functions.filter fun f => f.receiver.isNone && isFindable f.name).map (originOf p)
      ++ (p.types.filter fun t => !t.isGeneric && t.name != blankName && counts t).flatMap fun t =>
        (methodsOf ps (p.path, t.name)).map (·.function)

/-- The functions of all packages with the methods of all types. -/
def staticFunctions (ps : List Package) (bodies : List FunctionBody) : List FunctionKey :=
  calledFrom bodies (packageStarts ps fun _ => true)

/-- The functions of all packages with the methods of exported types. -/
def hierarchyFunctions (ps : List Package) (bodies : List FunctionBody) : List FunctionKey :=
  calledFrom bodies (packageStarts ps fun t => isExported t.name)

end Exposure.Program
