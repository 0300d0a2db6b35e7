/-
# Classification — application or library, blacklisted or not

A name belongs to the application when, cut at its first `$`, it is the
beginning of the name of some application construct; every other name is
library.  The application's names stand in a sorted index, so the question is
answered by looking at one place, the point where the name would be inserted.

A name is blacklisted when it starts with one of the blacklisted prefixes.
-/
import Exposure.Construct.Set
import Exposure.Text.Blank
import Exposure.Text.Cut

namespace Exposure

set_option autoImplicit false

open Text

/-! ## Application constructs -/

/-- The names of the application constructs in increasing order. -/
structure AppIndex where
  names : Array String
  deriving DecidableEq, Repr, Inhabited

/-- The first place from `low` to `high` where `holds` is true, when it stays true
from there on; `high` if there is none. -/
def firstPlace (holds : Nat → Bool) (low high : Nat) : Nat :=
  if low < high then
    let middle := (low + high) / 2
    if holds middle then firstPlace holds low middle
    else firstPlace holds (middle + 1) high
  else low
termination_by high - low

namespace AppIndex

/-- The index of a set of constructs. -/
def ofSet (apps : ConstructSet) : AppIndex := ⟨apps.names.toArray⟩

/-- The number of indexed names. -/
def size (index : AppIndex) : Nat := index.names.size

/-- The first place whose name is not below `text`. -/
def insertionPoint (index : AppIndex) (text : String) : Nat :=
  firstPlace (fun i => (index.names[i]?).all fun n => decide (text ≤ n)) 0 index.size

/-- Whether some indexed name starts with `text`. -/
def hasPrefixed (index : AppIndex) (text : String) : Bool :=
  match index.names[index.insertionPoint text]? with
  | some name => startsWith text name
  | none => false

/-- Whether `name` belongs to the application. -/
def isApp (index : AppIndex) (name : String) : Bool :=
  index.hasPrefixed (String.ofList (upTo '$' name.toList))

/-- Whether `name` belongs to a library. -/
def isLibrary (index : AppIndex) (name : String) : Bool := !index.isApp name

end AppIndex

/-! ## Blacklist -/

/-- The prefixes whose constructs are left out of a scan, sorted and without
repetition. -/
structure Blacklist where
  entries : List String
  deriving DecidableEq, Repr, Inhabited

/-- A sorted list without the repetitions of neighbours. -/
def withoutRepeats : List String → List String
  | [] => []
  | [s] => [s]
  | s :: t :: rest => if s = t then withoutRepeats (t :: rest) else s :: withoutRepeats (t :: rest)

namespace Blacklist

/-- The blacklist of two lists of prefixes; blank ones count for nothing. -/
def ofLists (platform custom : List String) : Blacklist :=
  let entries := ((platform ++ custom).map trimmed).filter (· != "")
  ⟨withoutRepeats (entries.mergeSort fun a b => decide (a ≤ b))⟩

/-- Whether `name` starts with a blacklisted prefix. -/
def covers (b : Blacklist) (name : String) : Bool := b.entries.any fun p => startsWith p name

end Blacklist

/-- The prefixes of a language's runtime. -/
def platformPrefixes (lang : Lang) : Option (List String) :=
  if lang = .java then
    some ["java.", "javax.", "jdk.", "sun.", "com.sun.", "org.w3c.dom.", "org.xml.sax."]
  else if lang = .go then
    some ["runtime.", "internal/", "reflect.", "sync.", "syscall.", "unsafe."]
  else none

end Exposure
