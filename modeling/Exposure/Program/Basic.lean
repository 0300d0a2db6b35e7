/-
# Program.Basic — programs as far as calls go

A package declares types and functions; a function makes calls.  References are
written with the path of their package: `path.Function` or `path.Type.Method`.

Loading takes the root packages, and the test packages too when they are asked
for.  Of the packages with one path only one is kept, a test variant if there is
one; the main package that a test run makes up is dropped.
-/
import Exposure.Archive.Modules
import Exposure.Text.Cut

namespace Exposure.Program

set_option autoImplicit false

/-! ## Declarations -/

/-- A call that a function makes. -/
inductive Call where
  | function (reference : String)
  /-- A method taken as a value and called. -/
  | bound (reference : String)
  /-- A function without a name, called where it stands. -/
  | closure (calls : List Call)
  /-- A call that runs beside its caller. -/
  | concurrent (call : Call)
  /-- A call that runs when its caller ends. -/
  | deferred (call : Call)
  deriving Repr, Inhabited

/-- The receiver of a method. -/
structure Receiver where
  type : String
  isPointer : Bool
  deriving DecidableEq, Repr

/-- The declaration of a function or a method. -/
structure FunctionDecl where
  name : String
  receiver : Option Receiver := none
  isGeneric : Bool := false
  /-- The comment lines that stand apart above. -/
  above : List String := []
  /-- The comment lines right above. -/
  doc : List String := []
  /-- The comment on the same line. -/
  trailing : String := ""
  calls : List Call := []
  deriving Repr, Inhabited

/-- The declaration of a type, with the types that it embeds. -/
structure TypeDecl where
  name : String
  isGeneric : Bool := false
  embeds : List String := []
  deriving DecidableEq, Repr, Inhabited

/-- A package. -/
structure Package where
  id : String
  path : String
  name : String := ""
  isRoot : Bool := false
  isTest : Bool := false
  module : Option Module := none
  errors : List String := []
  types : List TypeDecl := []
  functions : List FunctionDecl := []
  /-- The texts of the assembly files. -/
  assembly : List String := []
  deriving Repr, Inhabited

/-! ## Loading -/

namespace Package

/-- A variant of a package for its tests has a bracket in its name. -/
def isTestVariant (p : Package) : Bool := p.id.toList.contains '['

/-- The main package that a test run makes up. -/
def isTestMain (p : Package) : Bool := Text.endsWith ".test" p.id && !p.isTestVariant

/-- Whether a package takes the place of another one with its path. -/
def isBetterThan (p other : Package) : Bool := p.isTestVariant && !other.isTestVariant

/-- One package for every path, by path: the first test variant, or else the first. -/
def deduplicated (packages : List Package) : List Package :=
  let best := (packages.filter (!·.isTestMain)).foldl (fun (d : Dict Package) p =>
    d.alter p.path fun
      | none => p
      | some known => if p.isBetterThan known then p else known) .empty
  best.values

/-- Whether a package belongs to the program under analysis and not to a library. -/
def isApplication (standard : String → Bool) (p : Package) : Bool :=
  !standard p.path && p.module.all (·.isMain)

end Package

/-! ## References -/

/-- What a reference names within a package. -/
inductive Member where
  | function (name : String)
  | method (type name : String)
  deriving DecidableEq, Repr

/-- A named member of a package. -/
structure Reference where
  path : String
  member : Member
  deriving DecidableEq, Repr

/-- What a text names in a package with a path. -/
def Reference.within? (path text : String) : Option Reference :=
  if !Text.startsWith (path ++ ".") text then none
  else
    match (Text.fields '.' (text.toList.drop (path.length + 1))).map String.ofList with
    | [name] => some ⟨path, .function name⟩
    | [type, name] => some ⟨path, .method type name⟩
    | _ => none

/-- What a text names, given the paths of all packages; the longest path counts. -/
def Reference.resolve? (paths : List String) (text : String) : Option Reference :=
  (paths.mergeSort fun a b => decide (b.length ≤ a.length)).findSome? fun p => within? p text

/-- The path of the package that a type's reference names. -/
def typePath? (paths : List String) (text : String) : Option (String × String) :=
  match Reference.resolve? paths text with
  | some ⟨path, .function name⟩ => some (path, name)
  | _ => none

mutual

/-- The references in a call. -/
def Call.references : Call → List String
  | .function r => [r]
  | .bound r => [r]
  | .closure calls => listReferences calls
  | .concurrent c => c.references
  | .deferred c => c.references

def listReferences : List Call → List String
  | [] => []
  | c :: cs => c.references ++ listReferences cs

end

/-- All texts in a package that name something. -/
def Package.references (p : Package) : List String :=
  p.types.flatMap (·.embeds) ++ p.functions.flatMap fun f => listReferences f.calls

/-! ## Programs -/

/-- Why packages are not loaded. -/
inductive LoadFailure where
  /-- There is nothing that loads packages. -/
  | noLoader
  | noPackages (patterns : List String)
  | broken (errors : List (String × String))
  deriving DecidableEq, Repr

namespace LoadFailure

def message : LoadFailure → String
  | .noLoader =>
    "loading packages: 'go list' driver requires 'go', but executable file not found in $PATH"
  | .noPackages patterns =>
    "no packages found matching patterns: [" ++ Text.joined " " patterns ++ "]"
  | .broken errors =>
    "package errors:\n" ++ Text.joined "\n"
      (errors.map fun (path, e) => "package " ++ path ++ ": -: " ++ e)

end LoadFailure

/-- The packages that are loaded, and all of their program, dependencies first. -/
structure Loaded where
  roots : List Package
  packages : List Package

/-- The patterns that stand for all packages. -/
def defaultPatterns : List String := ["./..."]

/-- The packages that a program may refer to: the loaded ones first, and of the others those
that are not tests. -/
def available (roots packages : List Package) : List Package :=
  roots ++ packages.filter fun p => !p.isTest && !roots.any (·.path == p.path)

/-- The packages that a package refers to, by path. -/
def importsOf (all : List Package) (p : Package) : List Nat :=
  let paths := all.map (·.path)
  let used := (p.references.filterMap fun r => (Reference.resolve? paths r).map (·.path)).filter
    (· != p.path)
  let sorted := (Dict.ofList (used.map (·, ()))).keys
  sorted.filterMap fun path => all.findIdx? (·.path == path)

/-- Loads the packages of a program. -/
def load (patterns : List String) (tests : Bool) (packages : List Package) :
    Except LoadFailure Loaded :=
  let roots := packages.filter fun p => p.isRoot || (tests && p.isTest)
  let errors := roots.flatMap fun p => p.errors.map (p.path, ·)
  if roots.isEmpty then
    .error (.noPackages (if patterns.isEmpty then defaultPatterns else patterns))
  else if !errors.isEmpty then .error (.broken errors)
  else
    let kept := Package.deduplicated roots
    let all := available kept packages
    let next (i : Nat) : List Nat := (all[i]?.map (importsOf all)).getD []
    .ok ⟨kept, (dependencyOrder all.length next (List.range kept.length)).filterMap (all[·]?)⟩

end Exposure.Program
