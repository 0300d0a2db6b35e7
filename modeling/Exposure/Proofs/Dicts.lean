/-
# Proofs.Dicts — looking up in a map

A map holds at most one value for a key, so looking a key up and finding it
among the entries are the same, and a changed key changes no other answer.  Its
entries are sorted, so it is known by its answers (`ext_get?`).
-/
import Exposure.Dict
import Mathlib.Data.List.Induction

namespace Exposure

set_option autoImplicit false

universe u

namespace Dict

variable {α : Type u}

theorem lookup_eq_none {key : String} :
    ∀ {es : List (String × α)}, (∀ e ∈ es, e.1 ≠ key) → lookup key es = none
  | [], _ => rfl
  | (k, v) :: rest, other => by
      rw [lookup, if_neg (other (k, v) List.mem_cons_self)]
      exact lookup_eq_none fun e member => other e (List.mem_cons_of_mem _ member)

theorem mem_of_lookup {key : String} {value : α} :
    ∀ {es : List (String × α)}, lookup key es = some value → (key, value) ∈ es
  | [], found => by simp [lookup] at found
  | (k, v) :: rest, found => by
      rw [lookup] at found
      split at found
      · rename_i here
        obtain rfl := Option.some.inj found
        rw [here]
        exact List.mem_cons_self
      · exact List.mem_cons_of_mem _ (mem_of_lookup found)

theorem lookup_of_mem {key : String} {value : α} :
    ∀ {es : List (String × α)}, (es.Pairwise fun a b => a.1 < b.1) → (key, value) ∈ es →
      lookup key es = some value
  | (k, v) :: rest, sorted, member => by
      have below := (List.pairwise_cons.1 sorted).1
      rcases List.mem_cons.1 member with same | later
      · obtain ⟨rfl, rfl⟩ := Prod.mk.inj same
        simp [lookup]
      · have other : k ≠ key := String.ne_of_lt (below _ later)
        rw [lookup, if_neg other]
        exact lookup_of_mem (List.pairwise_cons.1 sorted).2 later

/-- Looking up is finding among the entries. -/
theorem get?_eq_some_iff {d : Dict α} {key : String} {value : α} :
    d.get? key = some value ↔ (key, value) ∈ d.entries :=
  ⟨mem_of_lookup, lookup_of_mem d.sorted⟩

@[simp] theorem get?_empty (key : String) : (empty : Dict α).get? key = none := rfl

theorem lookup_alterEntries {key other : String} {f : Option α → α} :
    ∀ {es : List (String × α)}, (es.Pairwise fun a b => a.1 < b.1) →
      lookup other (alterEntries key f es) =
        if key = other then some (f (lookup key es)) else lookup other es
  | [], _ => by simp [alterEntries, lookup]
  | (k, v) :: rest, sorted => by
      have below := (List.pairwise_cons.1 sorted).1
      have ih : lookup other (alterEntries key f rest) =
          if key = other then some (f (lookup key rest)) else lookup other rest :=
        lookup_alterEntries (List.pairwise_cons.1 sorted).2
      unfold alterEntries
      split
      · rename_i lt
        -- every key of the list comes after `key`
        have absent : lookup key ((k, v) :: rest) = none := by
          refine lookup_eq_none fun e member => (String.ne_of_lt ?_).symm
          rcases List.mem_cons.1 member with rfl | later
          · exact lt
          · exact String.lt_trans lt (below e later)
        rw [absent, lookup]
      · split
        · rename_i same
          subst same
          by_cases here : k = other <;> simp [lookup, here]
        · rename_i apart
          simp only [lookup, ih, if_neg apart]
          by_cases here : k = other
          · have : key ≠ other := fun same => apart (here.trans same.symm)
            simp [here, this]
          · simp [here]

theorem get?_alter (d : Dict α) (key other : String) (f : Option α → α) :
    (d.alter key f).get? other = if key = other then some (f (d.get? key)) else d.get? other :=
  lookup_alterEntries d.sorted

theorem get?_insert (d : Dict α) (key other : String) (value : α) :
    (d.insert key value).get? other = if key = other then some value else d.get? other :=
  get?_alter d key other _

@[simp] theorem get?_insert_self (d : Dict α) (key : String) (value : α) :
    (d.insert key value).get? key = some value := by
  simp [get?_insert]

theorem get?_insert_of_ne (d : Dict α) {key other : String} (apart : key ≠ other) (value : α) :
    (d.insert key value).get? other = d.get? other := by
  simp [get?_insert, apart]

theorem sorted_keys (d : Dict α) : d.keys.Pairwise (· < ·) := List.pairwise_map.2 d.sorted

/-- No key has two entries. -/
theorem nodup_keys (d : Dict α) : d.keys.Nodup :=
  List.nodup_iff_pairwise_ne.2 (d.sorted_keys.imp fun lt => String.ne_of_lt lt)

/-- The keys are what has a value. -/
theorem mem_keys {d : Dict α} {key : String} : key ∈ d.keys ↔ d.get? key ≠ none := by
  rw [Option.ne_none_iff_exists', keys, List.mem_map]
  constructor
  · rintro ⟨⟨_, value⟩, member, rfl⟩
    exact ⟨value, get?_eq_some_iff.2 member⟩
  · rintro ⟨value, found⟩
    exact ⟨(key, value), get?_eq_some_iff.1 found, rfl⟩

@[simp] theorem mapValues_id (d : Dict α) : d.mapValues (fun _ v => v) = d := by
  cases d
  simp [mapValues]

theorem get?_mapValues {β : Type u} (f : String → α → β) (d : Dict α) (key : String) :
    (d.mapValues f).get? key = (d.get? key).map (f key) := by
  simp only [get?, mapValues]
  induction d.entries with
  | nil => rfl
  | cons e rest ih =>
      rw [List.map_cons, lookup, ih, lookup]
      split
      · rename_i here
        rw [← here]
        rfl
      · rfl

theorem keys_mapValues {β : Type u} (f : String → α → β) (d : Dict α) :
    (d.mapValues f).keys = d.keys := by
  simp [keys, mapValues]

/-- Keys that are put in are added to those that are there. -/
theorem mem_keys_insertAll {key : String} {value : α} (keys : List String) (d : Dict α) :
    key ∈ (keys.foldl (fun (d : Dict α) k => d.insert k value) d).keys ↔ key ∈ d.keys ∨
      key ∈ keys := by
  induction keys generalizing d with
  | nil => simp
  | cons k keys ih =>
      rw [List.foldl_cons, ih, List.mem_cons, mem_keys, get?_insert, mem_keys]
      by_cases same : k = key
      · simp [same]
      · simp [same, Ne.symm same]

/-- Maps that answer every look-up alike are the same. -/
theorem ext_get? {d e : Dict α} (same : ∀ key, d.get? key = e.get? key) : d = e := by
  have distinct (d : Dict α) : d.entries.Nodup :=
    List.Pairwise.of_map _ (fun _ _ apart same => apart (congrArg _ same)) d.nodup_keys
  have members : ∀ entry, entry ∈ d.entries ↔ entry ∈ e.entries := fun entry => by
    rw [← get?_eq_some_iff, ← get?_eq_some_iff, same]
  have entries : d.entries = e.entries :=
    ((List.perm_ext_iff_of_nodup (distinct d) (distinct e)).2 members).eq_of_pairwise
      (fun _ _ _ _ lt gt => absurd gt (String.lt_asymm lt)) d.sorted e.sorted
  cases d
  cases e
  simpa using entries

/-! ## Maps of lists -/

theorem lookup_append (key : String) (first more : List (String × α)) :
    lookup key (first ++ more) = (lookup key first).or (lookup key more) := by
  induction first with
  | nil => rfl
  | cons e rest ih =>
      rw [List.cons_append, lookup, lookup, ih]
      split <;> rfl

theorem ofList_concat (es : List (String × α)) (key : String) (value : α) :
    ofList (es ++ [(key, value)]) = (ofList es).insert key value := List.foldl_append

/-- The last entry of a key counts. -/
theorem get?_ofList (es : List (String × α)) (key : String) :
    (ofList es).get? key = lookup key es.reverse := by
  induction es using List.reverseRecOn with
  | nil => rfl
  | append_singleton es e ih => rw [ofList_concat, get?_insert, ih, List.reverse_concat, lookup]

/-- The later entries answer first. -/
theorem get?_ofList_append (es later : List (String × α)) (key : String) :
    (ofList (es ++ later)).get? key = ((ofList later).get? key).or ((ofList es).get? key) := by
  simp only [get?_ofList, List.reverse_append, lookup_append]

theorem get?_ofList_eq_none {es : List (String × α)} {key : String} :
    (ofList es).get? key = none ↔ ∀ e ∈ es, e.1 ≠ key := by
  induction es using List.reverseRecOn with
  | nil => simp [get?_ofList, lookup]
  | append_singleton es e ih =>
      rw [ofList_concat, get?_insert]
      by_cases here : e.1 = key <;> simp [here, ih, or_imp, forall_and]

theorem get?_ofList_append_of_ne {es later : List (String × α)} {key : String}
    (apart : ∀ e ∈ later, e.1 ≠ key) :
    (ofList (es ++ later)).get? key = (ofList es).get? key := by
  rw [get?_ofList_append, get?_ofList_eq_none.2 apart, Option.none_or]

/-- A new entry may as well stand before those of other keys. -/
theorem insert_ofList_append {es later : List (String × α)} {key : String} (value : α)
    (apart : ∀ e ∈ later, e.1 ≠ key) :
    (ofList (es ++ later)).insert key value = ofList (es ++ [(key, value)] ++ later) := by
  apply ext_get?
  intro other
  simp only [get?_insert, get?_ofList_append, ofList_concat]
  split
  case isTrue same =>
      subst same
      simp [get?_ofList_eq_none.2 apart]
  case isFalse => rfl

/-! ## Maps put together -/

theorem mergeWith_cons (combine : α → α → α) (base : Dict α) {key : String} {value : α}
    {rest : List (String × α)} (sorted : ((key, value) :: rest).Pairwise fun a b => a.1 < b.1) :
    mergeWith combine base ⟨(key, value) :: rest, sorted⟩ =
      mergeWith combine (base.alter key fun old => old.elim value (combine · value))
        ⟨rest, (List.pairwise_cons.1 sorted).2⟩ := by
  simp only [mergeWith, List.foldl_cons]
  congr 2
  funext old
  cases old <;> rfl

/-- What two maps have at a key, put together. -/
theorem get?_mergeWith (combine : α → α → α) (base d : Dict α) (key : String) :
    (mergeWith combine base d).get? key = (base.get? key).merge combine (d.get? key) := by
  obtain ⟨entries, sorted⟩ := d
  induction entries generalizing base with
  | nil =>
      show base.get? key = (base.get? key).merge combine none
      cases base.get? key <;> rfl
  | cons entry rest ih =>
      obtain ⟨k, v⟩ := entry
      have below := (List.pairwise_cons.1 sorted).1
      rw [mergeWith_cons, ih, get?_alter]
      simp only [get?, lookup]
      by_cases here : k = key
      · subst here
        have absent : lookup k rest = none :=
          lookup_eq_none fun e member => (String.ne_of_lt (below e member)).symm
        cases lookup k base.entries <;> simp [absent]
      · simp [here]

/-- The upper map answers first. -/
theorem get?_overlay (base d : Dict α) (key : String) :
    (overlay base d).get? key = (d.get? key).or (base.get? key) := by
  rw [overlay, get?_mergeWith]
  cases base.get? key <;> cases d.get? key <;> rfl

theorem mergeWith_assoc {combine : α → α → α}
    (assoc : ∀ x y z, combine (combine x y) z = combine x (combine y z)) (d e f : Dict α) :
    (d.mergeWith combine e).mergeWith combine f = d.mergeWith combine (e.mergeWith combine f) := by
  apply ext_get?
  intro key
  simp only [get?_mergeWith]
  cases d.get? key <;> cases e.get? key <;> cases f.get? key <;> simp [assoc]

theorem overlay_assoc (d e f : Dict α) : (d.overlay e).overlay f = d.overlay (e.overlay f) := by
  apply ext_get?
  intro key
  simp only [get?_overlay, Option.or_assoc]

/-- Nothing comes of the map without keys. -/
theorem empty_mergeWith (combine : α → α → α) (d : Dict α) : empty.mergeWith combine d = d := by
  apply ext_get?
  intro key
  rw [get?_mergeWith, get?_empty]
  cases d.get? key <;> rfl

end Dict

end Exposure
