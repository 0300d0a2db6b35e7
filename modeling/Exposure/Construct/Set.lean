/-
# Construct.Set — sets of constructs

A set holds at most one construct for a name, the first one added.  Its
members are kept in the order in which they were added; `sorted` lists them by
name.
-/
import Exposure.Construct.Name

namespace Exposure

set_option autoImplicit false

/-- A set of constructs, one for a name. -/
structure ConstructSet where
  members : List Construct
  distinct : (members.map (·.name)).Nodup
  deriving DecidableEq

namespace ConstructSet

/-- The set without members. -/
def empty : ConstructSet := ⟨[], List.nodup_nil⟩

instance : Inhabited ConstructSet := ⟨empty⟩

/-- Whether a construct of this name is a member. -/
def hasName (s : ConstructSet) (name : String) : Bool := s.members.any (·.name == name)

/-- Whether a construct with the name of `c` is a member. -/
def has (s : ConstructSet) (c : Construct) : Bool := s.hasName c.name

theorem not_mem_names {s : ConstructSet} {name : String} (absent : s.hasName name = false) :
    name ∉ s.members.map (·.name) := by
  simpa [hasName] using absent

/-- The set with `c`, unless its name is taken. -/
def add (s : ConstructSet) (c : Construct) : ConstructSet :=
  if absent : s.has c then s
  else
    ⟨s.members ++ [c], by
      have fresh := not_mem_names (Bool.not_eq_true _ ▸ absent : s.hasName c.name = false)
      rw [List.map_append, List.nodup_append]
      refine ⟨s.distinct, List.nodup_cons.2 ⟨List.not_mem_nil, List.nodup_nil⟩, ?_⟩
      intro a ha b hb
      simp at hb
      rintro rfl
      exact fresh (hb ▸ ha)⟩

/-- The set of the listed constructs; the first of a name counts. -/
def ofList (cs : List Construct) : ConstructSet := cs.foldl add empty

/-- The set of the constructs that `names` denote in `lang`. -/
def ofNames (lang : Lang) (names : List String) : ConstructSet :=
  ofList (names.map (Construct.ofName lang))

/-- The number of members. -/
def size (s : ConstructSet) : Nat := s.members.length

/-- The members in the order of their names. -/
def sorted (s : ConstructSet) : List Construct := s.members.mergeSort Construct.nameLe

/-- The names of the members in order. -/
def names (s : ConstructSet) : List String := s.sorted.map (·.name)

end ConstructSet

end Exposure
