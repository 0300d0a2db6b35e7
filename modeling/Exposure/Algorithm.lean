/-
# Algorithm — ways to compute the call graph of a program

Three of them take the functions of all packages; `rta` takes only what can be
reached from the entry points.
-/

namespace Exposure

set_option autoImplicit false

/-- How a call graph is computed from a program. -/
inductive Algorithm where
  | static
  | cha
  | rta
  | vta
  deriving DecidableEq, Repr

namespace Algorithm

/-- The algorithm of a name; no name means `rta`. -/
def ofName? (name : String) : Option Algorithm :=
  if name == "static" then some .static
  else if name == "cha" then some .cha
  else if name == "rta" || name == "" then some .rta
  else if name == "vta" then some .vta
  else none

/-- The words for a name that is no algorithm. -/
def unknownText : String := "unknown call graph algorithm"

end Algorithm

end Exposure
