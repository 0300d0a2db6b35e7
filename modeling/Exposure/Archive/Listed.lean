/-
# Archive.Listed — resolution against a list of archives

Every archive of the list declares unit prefixes.  A prefix covers a unit when
it is the unit, or the unit goes on after it with `.`, `/` or `$`; so `com.lib`
covers `com.lib.Codec` and not `com.library.Codec`.  Of several covering
prefixes the longest one counts, and of equally long ones the first declared.
The digest of a locator is the one declared last for it.
-/
import Exposure.Archive.Basic
import Exposure.Text.Cut

namespace Exposure.Archive

set_option autoImplicit false

/-- The characters that end an element of a unit name. -/
def isUnitBoundary (c : Char) : Bool := c == '.' || c == '/' || c == '$'

/-- Whether `unit` is `stem` or nested below it. -/
def covers (stem unit : String) : Bool :=
  stem.toList.isPrefixOf unit.toList &&
    match unit.toList.drop stem.toList.length with
    | [] => true
    | c :: _ => isUnitBoundary c

/-- A unit prefix with the locator of the archive that declares it. -/
structure Declared where
  stem : String
  locator : String
  deriving DecidableEq, Repr

/-- The unit prefixes of the archives in the order of their declaration. -/
def declared (archives : List Archive) : List Declared :=
  archives.flatMap fun a => a.units.map fun u => ⟨u, a.locator⟩

/-- The declared prefixes, longest first; equally long ones keep their order. -/
def ranked (archives : List Archive) : List Declared :=
  (declared archives).mergeSort fun a b => b.stem.utf8ByteSize ≤ a.stem.utf8ByteSize

/-- The locator of the archive that holds `unit`. -/
def locate? (archives : List Archive) (unit : String) : Option String :=
  ((ranked archives).find? fun d => covers d.stem unit).map (·.locator)

/-- The digest declared last for `locator`. -/
def digest? (archives : List Archive) (locator : String) : Option String :=
  (archives.reverse.find? fun a => a.locator == locator).map (·.digest)

/-- The resolver of a fixed list of archives. -/
def resolver (archives : List Archive) : Resolver where
  locate := locate? archives
  digest locator :=
    match digest? archives locator with
    | some d => .ok d
    | none => .error (.unknownLocator unknownLocatorText)

end Exposure.Archive
