/-
# Dict — finite maps with their keys in order

A `Dict` maps texts to values.  Its entries stand in increasing order of their
keys, so two maps that answer every look-up alike are the same value, and
listing a map is listing it sorted.
-/

namespace Exposure

set_option autoImplicit false

universe u v

/-- A finite map from texts, sorted by key. -/
structure Dict (α : Type u) where
  entries : List (String × α)
  sorted : entries.Pairwise fun a b => a.1 < b.1

namespace Dict

variable {α : Type u} {β : Type v}

/-- The map without keys. -/
def empty : Dict α := ⟨[], .nil⟩

instance : Inhabited (Dict α) := ⟨empty⟩

instance [Repr α] : Repr (Dict α) := ⟨fun d p => reprPrec d.entries p⟩

instance [DecidableEq α] : DecidableEq (Dict α) := fun a b =>
  decidable_of_iff (a.entries = b.entries) (by cases a; cases b; simp)

/-- The value at a key of an entry list. -/
def lookup (key : String) : List (String × α) → Option α
  | [] => none
  | (k, v) :: rest => if k = key then some v else lookup key rest

/-- The value at `key`, if there is one. -/
def get? (d : Dict α) (key : String) : Option α := lookup key d.entries

/-- Whether `key` has a value. -/
def contains (d : Dict α) (key : String) : Bool := (d.get? key).isSome

/-- The entry list with the value at `key` replaced by `f` of the value there. -/
def alterEntries (key : String) (f : Option α → α) : List (String × α) → List (String × α)
  | [] => [(key, f none)]
  | (k, v) :: rest =>
    if key < k then (key, f none) :: (k, v) :: rest
    else if k = key then (key, f (some v)) :: rest
    else (k, v) :: alterEntries key f rest

theorem key_of_mem_alterEntries {key : String} {f : Option α → α} {e : String × α} :
    ∀ {es : List (String × α)}, e ∈ alterEntries key f es → e.1 = key ∨ e ∈ es
  | [], h => by simp [alterEntries] at h; exact .inl (by rw [h])
  | (k, v) :: rest, h => by
    unfold alterEntries at h
    split at h
    · rcases List.mem_cons.1 h with rfl | h
      · exact .inl rfl
      · exact .inr h
    · split at h
      · rcases List.mem_cons.1 h with rfl | h
        · exact .inl rfl
        · exact .inr (List.mem_cons_of_mem _ h)
      · rcases List.mem_cons.1 h with rfl | h
        · exact .inr List.mem_cons_self
        · rcases key_of_mem_alterEntries h with h | h
          · exact .inl h
          · exact .inr (List.mem_cons_of_mem _ h)

theorem sorted_alterEntries (key : String) (f : Option α → α) :
    ∀ {es : List (String × α)}, (es.Pairwise fun a b => a.1 < b.1) →
      (alterEntries key f es).Pairwise fun a b => a.1 < b.1
  | [], _ => by simp [alterEntries]
  | (k, v) :: rest, h => by
    have below := (List.pairwise_cons.1 h).1
    have restSorted := (List.pairwise_cons.1 h).2
    unfold alterEntries
    split
    · rename_i lt
      refine List.pairwise_cons.2 ⟨fun e he => ?_, h⟩
      rcases List.mem_cons.1 he with rfl | he
      · exact lt
      · exact String.lt_trans lt (below e he)
    · rename_i notLt
      split
      · rename_i eq
        exact List.pairwise_cons.2 ⟨fun e he => eq ▸ below e he, restSorted⟩
      · rename_i ne
        refine List.pairwise_cons.2 ⟨fun e he => ?_, sorted_alterEntries key f restSorted⟩
        rcases key_of_mem_alterEntries he with eq | mem
        · have le : k ≤ key := String.not_lt.1 notLt
          rw [eq]
          apply Decidable.byContradiction
          intro notLess
          exact ne (String.le_antisymm le (String.not_lt.1 notLess))
        · exact below e mem

/-- The map with the value at `key` replaced by `f` of the value there. -/
def alter (d : Dict α) (key : String) (f : Option α → α) : Dict α :=
  ⟨alterEntries key f d.entries, sorted_alterEntries key f d.sorted⟩

/-- The map with `value` at `key`. -/
def insert (d : Dict α) (key : String) (value : α) : Dict α := d.alter key fun _ => value

/-- The map without `key`. -/
def erase (d : Dict α) (key : String) : Dict α :=
  ⟨d.entries.filter (·.1 != key), d.sorted.filter _⟩

/-- The map of a list of entries; the last one of a key counts. -/
def ofList (es : List (String × α)) : Dict α := es.foldl (fun d e => d.insert e.1 e.2) empty

/-- The keys in increasing order. -/
def keys (d : Dict α) : List String := d.entries.map (·.1)

/-- The values in the order of their keys. -/
def values (d : Dict α) : List α := d.entries.map (·.2)

/-- The number of keys. -/
def size (d : Dict α) : Nat := d.entries.length

/-- Every value through `f`. -/
def mapValues (f : String → α → β) (d : Dict α) : Dict β :=
  ⟨d.entries.map fun e => (e.1, f e.1 e.2), by
    rw [List.pairwise_map]
    exact d.sorted⟩

/-- The entries of `d` put into `base`, a key of both resolved by `combine`. -/
def mergeWith (combine : α → α → α) (base d : Dict α) : Dict α :=
  d.entries.foldl (fun acc e => acc.alter e.1 fun
    | none => e.2
    | some old => combine old e.2) base

/-- The entries of `d` put over those of `base`. -/
def overlay (base d : Dict α) : Dict α := mergeWith (fun _ new => new) base d

end Dict

end Exposure
