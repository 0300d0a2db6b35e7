/-
# FileTree — a directory of files

A tree holds files and directories by their location.  Paths are resolved from
the working directory or, when they start with a slash, from the root, one
element after another: `.` and empty elements stay, `..` goes up, and every
element but the last has to be a directory.  An element has 255 bytes at most.
-/
import Exposure.Text.Cut

namespace Exposure

set_option autoImplicit false

/-- Why an operation on a file failed. -/
inductive FileFault where
  | missing
  | notDirectory
  | isDirectory
  | nameTooLong
  | badName
  deriving DecidableEq, Repr

namespace FileFault

def message : FileFault → String
  | .missing => "no such file or directory"
  | .notDirectory => "not a directory"
  | .isDirectory => "is a directory"
  | .nameTooLong => "file name too long"
  | .badName => "invalid argument"

end FileFault

/-- A failed operation: its name, its path and why it failed. -/
structure FileError where
  operation : String
  path : String
  fault : FileFault
  deriving DecidableEq, Repr

namespace FileError

def message (e : FileError) : String := e.operation ++ " " ++ e.path ++ ": " ++ e.fault.message

end FileError

/-! ## Paths -/

namespace FilePath

/-- The elements between the slashes of a path. -/
def elements (path : String) : List String := (Text.fields '/' path.toList).map String.ofList

def isAbsolute (path : String) : Bool := Text.startsWith "/" path

/-- One element onto the cleaned elements before it, the latest first. -/
def cleanStep (rooted : Bool) (done : List String) (e : String) : List String :=
  if e == "" || e == "." then done
  else if e == ".." then
    match done with
    | [] => if rooted then [] else [".."]
    | d :: rest => if d == ".." then ".." :: done else rest
  else e :: done

/-- The shortest path of the same meaning, by its text alone. -/
def clean (path : String) : String :=
  if path == "" then "."
  else
    let rooted := isAbsolute path
    let body := Text.joined "/" ((elements path).foldl (cleanStep rooted) []).reverse
    if rooted then "/" ++ body else if body == "" then "." else body

/-- The paths one below the other, cleaned; empty ones do not count. -/
def join (paths : List String) : String :=
  let paths := paths.filter (· != "")
  if paths.isEmpty then "" else clean (Text.joined "/" paths)

/-- The ending of a path's last element from its last point on. -/
def extension (path : String) : String :=
  let last := Text.afterLast '/' path.toList
  if last.contains '.' then "." ++ String.ofList (Text.afterLast '.' last) else ""

/-- The last element of a path. -/
def base (path : String) : String :=
  if path == "" then "."
  else
    let body := (path.toList.reverse.dropWhile (· == '/')).reverse
    if body.isEmpty then "/" else String.ofList (Text.afterLast '/' body)

/-- The path without its last element, cleaned. -/
def parent (path : String) : String := clean (String.ofList (Text.throughLast '/' path.toList))

/-- `path` seen from `base`, unless it is absolute or there is no base. -/
def resolve (base path : String) : String :=
  if base == "" || isAbsolute path then path else join [base, path]

/-- The largest number of bytes of an element. -/
def longestName : Nat := 255

end FilePath

/-! ## Trees -/

/-- The elements on the way from the root to a file. -/
abbrev Location := List String

/-- Files with their contents, directories, and the directory that paths start from. -/
structure FileTree where
  work : Location := ["work"]
  files : List (Location × String) := []
  directories : List Location := []
  deriving DecidableEq, Repr, Inhabited

namespace FileTree

/-- Whether `l` lies below `d`. -/
def isBelow (d l : Location) : Bool := d.length < l.length && d.isPrefixOf l

def isFile (t : FileTree) (l : Location) : Bool := t.files.any (·.1 == l)

/-- The working directory, the listed directories, and all above them and above files. -/
def isDirectory (t : FileTree) (l : Location) : Bool :=
  l.isPrefixOf t.work || t.directories.any l.isPrefixOf || t.files.any (isBelow l ·.1)

/-- The content of a file. -/
def content? (t : FileTree) (l : Location) : Option String := t.files.lookup l

/-- The tree with a file, in place of one at its location. -/
def put (t : FileTree) (l : Location) (content : String) : FileTree :=
  { t with files := t.files.filter (·.1 != l) ++ [(l, content)] }

/-- The tree with files at cleaned paths below the working directory. -/
def ofFiles (files : List (String × String)) : FileTree :=
  files.foldl (fun t (p, s) => t.put (t.work ++ FilePath.elements (FilePath.clean p)) s) {}

/-- The location that elements lead to from `l`.  All on the way have to be directories; only
the last may be missing or a file. -/
def walk (t : FileTree) : Location → List String → Except FileFault Location
  | l, [] => .ok l
  | l, e :: rest =>
    if !t.isDirectory l then .error (if t.isFile l then .notDirectory else .missing)
    else if e == "" || e == "." then walk t l rest
    else if e == ".." then walk t l.dropLast rest
    else if FilePath.longestName < e.utf8ByteSize then .error .nameTooLong
    else walk t (l ++ [e]) rest

/-- Where a path starts. -/
def start (t : FileTree) (path : String) : Location :=
  if FilePath.isAbsolute path then [] else t.work

/-- The location of a path. -/
def locate (t : FileTree) (path : String) : Except FileFault Location :=
  if path == "" then .error .missing
  else if path.toList.contains '\x00' then .error .badName
  else t.walk (t.start path) (FilePath.elements path)

/-- The location of a file or directory that is there. -/
def status (t : FileTree) (path : String) : Except FileError Location :=
  match t.locate path with
  | .error f => .error ⟨"stat", path, f⟩
  | .ok l => if t.isFile l || t.isDirectory l then .ok l else .error ⟨"stat", path, .missing⟩

/-- The content of the file at a path. -/
def read (t : FileTree) (path : String) : Except FileError String :=
  match t.locate path with
  | .error f => .error ⟨"open", path, f⟩
  | .ok l =>
    match t.content? l with
    | some s => .ok s
    | none =>
      if t.isDirectory l then .error ⟨"read", path, .isDirectory⟩
      else .error ⟨"open", path, .missing⟩

/-- The tree with a file written at a path, whose directory has to exist. -/
def write (t : FileTree) (path content : String) : Except FileError FileTree :=
  match t.locate path with
  | .error f => .error ⟨"open", path, f⟩
  | .ok l =>
    if t.isDirectory l then .error ⟨"open", path, .isDirectory⟩
    else if !t.isDirectory l.dropLast then .error ⟨"open", path, .missing⟩
    else .ok (t.put l content)

/-- The tree with the directories that elements lead to from `l`; `shown` is the path so far,
up to and with its last slash. -/
def makeFrom (t : FileTree) (shown : String) : Location → List String → Except FileError FileTree
  | _, [] => .ok t
  | l, e :: rest =>
    let path := shown ++ e
    let here := if e == "" || e == "." then l else if e == ".." then l.dropLast else l ++ [e]
    if t.isFile here then .error ⟨"mkdir", path, .notDirectory⟩
    else if FilePath.longestName < e.utf8ByteSize then .error ⟨"mkdir", path, .nameTooLong⟩
    else if e.toList.contains '\x00' then .error ⟨"mkdir", path, .badName⟩
    else
      let t := if t.isDirectory here then t else { t with directories := t.directories ++ [here] }
      makeFrom t (path ++ "/") here rest

/-- The tree with a directory at a cleaned path, and all above it. -/
def makeDirectories (t : FileTree) (path : String) : Except FileError FileTree :=
  t.makeFrom "" (t.start path) (FilePath.elements path)

/-- The files below the working directory by their paths. -/
def paths (t : FileTree) : List (String × String) :=
  (t.files.filter fun (l, _) => isBelow t.work l).map fun (l, s) =>
    (Text.joined "/" (l.drop t.work.length), s)

end FileTree

end Exposure
