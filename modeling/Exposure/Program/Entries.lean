/-
# Program.Entries — where a program is entered

Entry points are either named, or they are the `main` and the initializer of the
application's packages, their tests, and what libraries export.  To those come
the functions that are called from outside the program's source.

A name is looked up among the functions of all packages with the methods of
exported types; initializers and instances are never found.
-/
import Exposure.Program.Assembly
import Exposure.Program.Functions
import Exposure.Program.Notes
import Exposure.Program.PackagePath

namespace Exposure.Program

set_option autoImplicit false

/-- An entry point: its construct, and the function that it runs. -/
structure Entry where
  construct : Construct
  function : FunctionKey
  /-- Entered through a method of a pointer or an outer type, which calls the function. -/
  isIndirect : Bool := false
  deriving DecidableEq, Repr

namespace Entry

/-- A function as an entry point. -/
def ofFunction (k : FunctionKey) : Entry := ⟨k.construct, k, false⟩

/-- A method of the type `t` as an entry point. -/
def ofMethod (t : TypeKey) (m : Method) : Entry :=
  ⟨({ m.function with type := some t.2 } : FunctionKey).construct, m.function,
    m.isPromoted || m.decl.receiver.any (!·.isPointer)⟩

end Entry

/-! ## Functions called from outside -/

/-- A function that is called from outside. -/
structure ExternalFunction where
  name : String
  function : FunctionKey
  reason : Reason
  deriving DecidableEq, Repr

/-- The functions that assembly calls, and whether a file could not be read to its end: that
file and the later ones count for nothing. -/
def assemblyNames : List String → List String × Bool
  | [] => ([], false)
  | text :: rest =>
    match assemblyCalls text with
    | ⟨_, true⟩ => ([], true)
    | ⟨called, false⟩ =>
      match assemblyNames rest with
      | (more, failed) => (called ++ more, failed)

/-- Adds the functions that are not listed yet. -/
def addExternal (found : List ExternalFunction) (e : ExternalFunction) : List ExternalFunction :=
  if found.any (·.function == e.function) then found else found ++ [e]

/-- The functions of a package that are called from outside, and whether an assembly file
could not be read. -/
def externalFunctions (p : Package) : List ExternalFunction × Bool :=
  let declared := declaredFunctions p
  let commented := (declared.zip (commentReasons p.functions)).filterMap fun ((f, k), reason) =>
    reason.map fun r => ⟨f.name, k, r⟩
  let (called, failed) := assemblyNames p.assembly
  let named := called.filterMap fun name =>
    (declared.find? fun (f, _) => f.receiver.isNone && f.name == name && isFindable name).map
      fun (f, k) => ⟨f.name, k, .assembly⟩
  ((commented ++ named).foldl addExternal [], failed)

/-! ## Default entry points -/

/-- The starts of the names of tests. -/
def testPrefixes : List String := ["Test", "Benchmark", "Fuzz", "Example"]

def isTestName (name : String) : Bool := testPrefixes.any (Text.startsWith · name)

/-- A library is entered through what it exports. -/
def Package.isLibrary (p : Package) : Bool := p.name != "main" && !PackagePath.isInternal p.path

/-- The entry points that a member of a package is or has. -/
def memberEntries (ps : List Package) (p : Package) : FunctionDecl ⊕ TypeDecl → List Entry
  | .inl f =>
    if isTestName f.name || (p.isLibrary && isExported f.name) then [.ofFunction (originOf p f)]
    else []
  | .inr t =>
    if p.isLibrary && isExported t.name && !t.isGeneric then
      ((methodsOf ps (p.path, t.name)).filter fun m => isExported m.decl.name).map
        (.ofMethod (p.path, t.name))
    else []

/-- The functions and types of a package by name. -/
def membersOf (p : Package) : List (FunctionDecl ⊕ TypeDecl) :=
  let functions : List (String × (FunctionDecl ⊕ TypeDecl)) :=
    (p.functions.filter (·.receiver.isNone)).map fun f => (f.name, .inl f)
  let types : List (String × (FunctionDecl ⊕ TypeDecl)) := p.types.map fun t => (t.name, .inr t)
  ((functions ++ types).mergeSort fun a b => decide (a.1 ≤ b.1)).map (·.2)

/-- The default entry points of a package. -/
def packageEntries (ps : List Package) (p : Package) : List Entry :=
  let main := (p.functions.filter fun f => f.receiver.isNone && f.name == "main").map
    fun f => Entry.ofFunction (originOf p f)
  main ++ .ofFunction (.initializer p.path) :: (membersOf p).flatMap (memberEntries ps p)

/-- Whether a package belongs to the application. -/
def Package.isOwn (p : Package) : Bool := p.isApplication PackagePath.isStandard

/-- The functions of the application that are called from outside. -/
def externalEntries (ps : List Package) : List Entry :=
  (ps.filter (·.isOwn)).flatMap fun p => (externalFunctions p).1.map (.ofFunction ·.function)

/-- The entry points of a program when none are named. -/
def defaultEntries (loaded : Loaded) : List Entry :=
  (loaded.roots.filter (·.isOwn)).flatMap (packageEntries loaded.packages)
    ++ externalEntries loaded.packages

/-! ## Named entry points -/

/-- Whether a function can be named as an entry point. -/
def isNameable (k : FunctionKey) : Bool := !k.isInitializer && (!k.isInstance || k.isDetached)

/-- The entry points of some names, by name, and the names of which there are none. -/
def namedEntries (names : List String) (functions : List FunctionKey) : List Entry × List String :=
  let wanted := (Dict.ofList (names.map fun n => (Text.trimmed n, ()))).keys
  let candidates := functions.filter isNameable
  let found := wanted.map fun n => (n, candidates.find? fun k => k.qualifiedName == n)
  (found.filterMap fun (_, k) => k.map .ofFunction,
    found.filterMap fun (n, k) => if k.isNone then some n else none)

end Exposure.Program
