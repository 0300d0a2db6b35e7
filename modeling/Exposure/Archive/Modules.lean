/-
# Archive.Modules — modules as archives

A module provides packages.  Its locator is its path and its version, and its
digest is a hash over the hashes of its files.  A replacement with a directory
of its own lends that directory to the module it replaces.  The modules of the
program under analysis are no archives.

A digest that was computed once is kept, whatever happens to the files later.

Packages import each other, and those that a package imports come before it.  The
order is one of any graph: the nodes that can be reached from some roots, each
once and after all that it leads to, unless that would go round in a circle.
-/
import Exposure.Archive.Basic
import Exposure.Dict
import Exposure.Digest

namespace Exposure

set_option autoImplicit false

/-- A module: where its files are is the number of a directory. -/
structure Module where
  path : String
  version : String := ""
  isMain : Bool := false
  directory : Option Nat := none
  /-- The directory of the module that stands in for this one. -/
  replacement : Option Nat := none
  deriving DecidableEq, Repr

namespace Module

/-- The path and the version of a module; one without a version is under development. -/
def locator (m : Module) : String :=
  m.path ++ "@" ++ (if m.version == "" then "(devel)" else m.version)

/-- What the names of a module's files start with. -/
def fileRoot (m : Module) : String :=
  if m.version == "" then m.path else m.path ++ "@" ++ m.version

/-- The directory that counts. -/
def source (m : Module) : Option Nat := m.replacement.orElse fun _ => m.directory

end Module

/-- The files of a directory by their names. -/
abbrev Directory := Dict String

/-- The line of a file in the listing that is hashed. -/
def hashLine (name content : String) : String :=
  Digest.hexadecimal (Digest.sha256 (Digest.bytesOf content)) ++ "  " ++ name ++ "\n"

/-- The hash of a directory whose files are named below `root`.  There is none if a name has
more than one line. -/
def directoryHash (root : String) (d : Directory) : Option String :=
  if d.keys.any fun n => (root ++ "/" ++ n).toList.contains '\n' then none
  else
    let listing := String.join
      (d.entries.map fun (n, content) => hashLine (root ++ "/" ++ n) content)
    some ("h1:" ++ Digest.base64 (Digest.sha256 (Digest.bytesOf listing)))

/-! ## Dependencies first -/

/-- Visits a node: what it leads to comes before it.  The pair has the nodes seen and, in
order, those that are complete. -/
def visitNode (next : Nat → List Nat) : Nat → List Nat × List Nat → Nat → List Nat × List Nat
  | 0, state, _ => state
  | fuel + 1, (seen, complete), n =>
    if seen.contains n then (seen, complete)
    else
      match (next n).foldl (visitNode next fuel) (n :: seen, complete) with
      | (seen, complete) => (seen, complete ++ [n])

/-- The nodes below `roots`, dependencies first, in a graph of `size` nodes.  A visit nests no
deeper than there are nodes. -/
def dependencyOrder (size : Nat) (next : Nat → List Nat) (roots : List Nat) : List Nat :=
  (roots.foldl (visitNode next (size + 1)) ([], [])).2

/-! ## The modules of a program -/

/-- Modules by the packages they provide and by their locators, directories by their numbers,
and the digests computed so far. -/
structure Modules where
  byPackage : Dict Module := .empty
  byLocator : Dict Module := .empty
  directories : List (Option Directory) := []
  known : Dict String := .empty

namespace Modules

/-- One more package with its module; a later one counts. -/
def add (ms : Modules) (package : String) (m : Module) : Modules :=
  { ms with byPackage := ms.byPackage.insert package m,
            byLocator := ms.byLocator.insert m.locator m }

/-- The modules of packages; those without one are left out. -/
def ofPackages (packages : List (String × Option Module)) (directories : List (Option Directory)) :
    Modules :=
  packages.foldl (fun ms (p, m) => match m with
    | none => ms
    | some m => ms.add p m) { directories }

/-- The modules of packages and of those that they import, from the roots on.  A package comes
after its imports, and those come by path. -/
def ofImports (packages : List (String × Option Module × List Nat)) (roots : List Nat)
    (directories : List (Option Directory)) : Modules :=
  let byPath (is : List Nat) : List Nat :=
    (Dict.ofList (is.filterMap fun i => packages[i]?.map fun p => (p.1, i))).values
  let next (i : Nat) : List Nat := (packages[i]?.map fun p => byPath p.2.2).getD []
  let order := dependencyOrder packages.length next roots
  ofPackages (order.filterMap fun i => packages[i]?.map fun p => (p.1, p.2.1)) directories

/-- The locator of the archive that provides a package. -/
def locate (ms : Modules) (package : String) : Option String :=
  match ms.byPackage.get? package with
  | some m => if m.isMain then none else some m.locator
  | none => none

/-- The digest of a module, from its files as they are now. -/
def computed (ms : Modules) (locator : String) : Except ArchiveError String :=
  match ms.byLocator.get? locator with
  | none => .error (.unknownLocator unknownLocatorText)
  | some m =>
    match m.source with
    | none => .error (.noDirectory locator)
    | some i =>
      match ms.known.get? locator with
      | some digest => .ok digest
      | none =>
        match ms.directories[i]?.bind id with
        | none => .error (.unhashable locator)
        | some d =>
          match directoryHash m.fileRoot d with
          | some digest => .ok digest
          | none => .error (.unhashable locator)

/-- The digest of a module, kept for the next time. -/
def digest (ms : Modules) (locator : String) : Except ArchiveError String × Modules :=
  match ms.computed locator with
  | .ok digest => (.ok digest, { ms with known := ms.known.insert locator digest })
  | .error e => (.error e, ms)

/-- A changed directory. -/
def setDirectory (ms : Modules) (i : Nat) (change : Option Directory → Option Directory) :
    Modules :=
  { ms with directories := ms.directories.modify i change }

/-- Modules as a resolver. -/
def resolver (ms : Modules) : Resolver := { locate := ms.locate, digest := ms.computed }

end Modules

end Exposure
