/-
# Archive.Basic — where a compilation unit came from

An archive is a library artifact: a locator that names it, a digest of its
content, and the units that it holds.  A resolver answers two questions: which
archive a unit was loaded from, and what the digest of a located archive is.
-/

namespace Exposure

set_option autoImplicit false

/-- An archive as a document lists it; `units` are unit prefixes. -/
structure Archive where
  locator : String
  digest : String
  units : List String
  deriving DecidableEq, Repr, Inhabited

/-- Why an archive has no digest. -/
inductive ArchiveError where
  /-- The resolver never handed out this locator; `message` says so. -/
  | unknownLocator (message : String)
  /-- The located module is not on disk. -/
  | noDirectory (locator : String)
  /-- The module's files cannot be hashed. -/
  | unhashable (locator : String)
  /-- The resolver failed for a reason of its own. -/
  | failed (message : String)
  deriving DecidableEq, Repr

namespace ArchiveError

def message : ArchiveError → String
  | .unknownLocator m => m
  | .noDirectory locator => "module " ++ locator ++ " has no directory"
  | .unhashable locator => "hashing module " ++ locator
  | .failed m => m

/-- An unknown locator is an expected answer and worth no warning. -/
def isUnknown : ArchiveError → Bool
  | .unknownLocator _ => true
  | _ => false

end ArchiveError

/-- The words for a locator that the resolver did not hand out. -/
def unknownLocatorText : String := "unknown archive locator"

/-- A source of archives: the locator of a unit, the digest of a locator. -/
structure Resolver where
  locate : String → Option String
  digest : String → Except ArchiveError String

namespace Resolver

/-- The resolver that attributes nothing. -/
def nothing : Resolver where
  locate _ := none
  digest _ := .error (.unknownLocator unknownLocatorText)

end Resolver

end Exposure
