/-
# Program.PackagePath — predicates on package paths

A package is internal when `internal` is an element of its path.  A package lies
below a path when it has that path or a longer one; one slash at the end of the
other path does not count.  What is left out of a graph is given by such paths
and by patterns.
-/
import Exposure.Glob

namespace Exposure.PackagePath

set_option autoImplicit false

open Text

/-- Whether a package is internal. -/
def isInternal (path : String) : Bool :=
  includes "/internal/" path || endsWith "/internal" path || startsWith "internal/" path
    || path == "internal"

/-- Whether a package has a path or lies below it. -/
def isAtOrBelow (root path : String) : Bool :=
  let root := String.ofList ((dropSuffix? ['/'] root.toList).getD root.toList)
  path == root || startsWith (root ++ "/") path

/-- Whether a package is one of those that an entry stands for: a pattern for whole paths, or a
path with all below it. -/
def isCovered (entry path : String) : Bool :=
  if Glob.isPattern entry then Glob.isMatch entry path else isAtOrBelow entry path

/-- Whether one of several entries covers a package. -/
def isExcluded (entries : List String) (path : String) : Bool := entries.any (isCovered · path)

/-- The packages of the standard library that programs refer to. -/
def standard : List String :=
  ["fmt", "os", "strings", "net/http", "internal/abi", "runtime", "unsafe"]

def isStandard (path : String) : Bool := standard.contains path

end Exposure.PackagePath
