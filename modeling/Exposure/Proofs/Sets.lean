/-
# Proofs.Sets — what a set of constructs holds

A set of constructs is grown by `add`, which keeps the first construct of every
name.  The lemmas here say what a set grown from a list holds:

* its names are those of the list (`hasName_ofList`);
* its members stand in the order in which their names first appear
  (`firstMention_ofList`), and each is the first of its name
  (`find?_of_mem_ofList`);
* a search that looks at names only finds in the set what it finds in the list
  (`findSome?_ofList`);
* the set of the constructs that names denote has one for each of the names
  (`members_ofNames`).
-/
import Exposure.Construct.Set
import Mathlib.Data.List.Basic
import Mathlib.Data.List.Induction

namespace Exposure

set_option autoImplicit false

/-! ## Lists without what is repeated -/

theorem eraseDups_snoc {α : Type} [BEq α] [LawfulBEq α] (l : List α) (x : α) :
    (l ++ [x]).eraseDups = if x ∈ l then l.eraseDups else l.eraseDups ++ [x] := by
  rw [List.eraseDups_append]
  by_cases known : x ∈ l <;> simp [List.removeAll, List.eraseDups_cons, known]

theorem eraseDups_sublist {α : Type} [BEq α] [LawfulBEq α] (l : List α) :
    l.eraseDups.Sublist l := by
  induction l using List.reverseRecOn with
  | nil => exact List.Sublist.refl _
  | append_singleton l x ih =>
      rw [eraseDups_snoc]
      split
      · exact ih.trans (List.sublist_append_left l [x])
      · exact ih.append (List.Sublist.refl [x])

theorem nodup_eraseDups {α : Type} [BEq α] [LawfulBEq α] (l : List α) : l.eraseDups.Nodup := by
  induction l using List.reverseRecOn with
  | nil => exact List.nodup_nil
  | append_singleton l x ih =>
      rw [eraseDups_snoc]
      split
      · exact ih
      · rename_i fresh
        refine List.nodup_append.2 ⟨ih, by simp, fun y old z new => ?_⟩
        rintro rfl
        exact fresh (List.mem_singleton.1 new ▸ List.mem_eraseDups.1 old)

theorem eraseDups_map {α β : Type} [BEq α] [LawfulBEq α] [BEq β] [LawfulBEq β] {f : α → β}
    (injective : Function.Injective f) (l : List α) : (l.map f).eraseDups = l.eraseDups.map f := by
  induction l using List.reverseRecOn with
  | nil => rfl
  | append_singleton l x ih =>
      have same : f x ∈ l.map f ↔ x ∈ l := List.mem_map_of_injective injective
      rw [List.map_append, List.map_singleton, eraseDups_snoc, eraseDups_snoc, ih]
      by_cases known : x ∈ l
      · rw [if_pos (same.2 known), if_pos known]
      · rw [if_neg (mt same.1 known), if_neg known, List.map_append, List.map_singleton]

theorem filter_eraseDups {α : Type} [BEq α] [LawfulBEq α] (p : α → Bool) (l : List α) :
    (l.filter p).eraseDups = l.eraseDups.filter p := by
  induction l using List.reverseRecOn with
  | nil => rfl
  | append_singleton l x ih =>
      rw [List.filter_append, eraseDups_snoc]
      by_cases holds : p x = true
      · have same : x ∈ l.filter p ↔ x ∈ l := by simp [List.mem_filter, holds]
        rw [List.filter_singleton, holds, cond_true, eraseDups_snoc, ih]
        by_cases known : x ∈ l
        · rw [if_pos known, if_pos (same.2 known)]
        · rw [if_neg known, if_neg (mt same.1 known), List.filter_append, List.filter_singleton,
            holds, cond_true]
      · rw [List.filter_singleton, Bool.eq_false_iff.2 holds, cond_false, List.append_nil, ih]
        split
        · rfl
        · rw [List.filter_append, List.filter_singleton, Bool.eq_false_iff.2 holds, cond_false,
            List.append_nil]

/-- What is found first is found without the repetitions too. -/
theorem find?_eraseDups {α : Type} [BEq α] [LawfulBEq α] (p : α → Bool) (l : List α) :
    l.eraseDups.find? p = l.find? p := by
  induction l using List.reverseRecOn with
  | nil => rfl
  | append_singleton l x ih =>
      rw [eraseDups_snoc, List.find?_append]
      split
      · rename_i known
        rw [ih]
        cases found : l.find? p with
        | some y => rfl
        | none => simp [List.find?_eq_none.1 found x known]
      · rw [List.find?_append, ih]

/-! ## Sets grown from lists -/

namespace ConstructSet

theorem hasName_iff {s : ConstructSet} {name : String} :
    s.hasName name = true ↔ ∃ c ∈ s.members, c.name = name := by
  simp [hasName]

theorem members_add (s : ConstructSet) (c : Construct) :
    (s.add c).members = if s.hasName c.name then s.members else s.members ++ [c] := by
  unfold add has
  split <;> simp_all

@[simp] theorem ofList_nil : ofList [] = empty := rfl

theorem ofList_snoc (cs : List Construct) (c : Construct) :
    ofList (cs ++ [c]) = (ofList cs).add c := by
  simp [ofList, List.foldl_append]

/-- A member is one of the listed constructs. -/
theorem mem_of_mem_ofList {cs : List Construct} {c : Construct} (member : c ∈ (ofList cs).members) :
    c ∈ cs := by
  induction cs using List.reverseRecOn with
  | nil => simp [empty] at member
  | append_singleton cs d ih =>
      rw [ofList_snoc, members_add] at member
      split at member
      · exact List.mem_append_left _ (ih member)
      · rcases List.mem_append.1 member with old | new
        · exact List.mem_append_left _ (ih old)
        · exact List.mem_append_right _ new

theorem hasName_add (s : ConstructSet) (c : Construct) (name : String) :
    (s.add c).hasName name = true ↔ s.hasName name = true ∨ c.name = name := by
  rw [hasName_iff, members_add]
  split
  · rename_i taken
    rw [← hasName_iff]
    exact ⟨.inl, fun h => h.elim id fun same => same ▸ taken⟩
  · simp only [List.mem_append, List.mem_singleton, or_and_right, exists_or, exists_eq_left,
      hasName_iff]

/-- The names of the set are the names of the list. -/
theorem hasName_ofList {cs : List Construct} {name : String} :
    (ofList cs).hasName name = true ↔ ∃ c ∈ cs, c.name = name := by
  induction cs using List.reverseRecOn with
  | nil => simp [empty, hasName]
  | append_singleton cs d ih =>
      rw [ofList_snoc, hasName_add, ih]
      simp only [List.mem_append, List.mem_singleton, or_and_right, exists_or, exists_eq_left]

/-- Constructs of different names are all kept, as they are listed. -/
theorem members_ofList_of_nodup {cs : List Construct} (distinct : (cs.map (·.name)).Nodup) :
    (ofList cs).members = cs := by
  induction cs using List.reverseRecOn with
  | nil => rfl
  | append_singleton cs c ih =>
      rw [List.map_append, List.nodup_append] at distinct
      obtain ⟨before, -, apart⟩ := distinct
      have fresh : ¬ (ofList cs).hasName c.name = true := by
        rw [hasName_ofList]
        rintro ⟨d, member, same⟩
        exact apart d.name (List.mem_map_of_mem member) c.name (by simp) same
      rw [ofList_snoc, members_add, if_neg fresh, ih before]

/-- The set of named constructs has each of them once, in the order of the names. -/
theorem members_ofNames (lang : Lang) (names : List String) :
    (ofNames lang names).members = names.eraseDups.map (Construct.ofName lang) := by
  induction names using List.reverseRecOn with
  | nil => rfl
  | append_singleton names name ih =>
      have taken : (ofNames lang names).hasName (Construct.ofName lang name).name = true ↔
          name ∈ names := by
        simp [ofNames, hasName_ofList, Construct.ofName]
      have more : ofNames lang (names ++ [name]) =
          (ofNames lang names).add (.ofName lang name) := by
        simp [ofNames, ofList_snoc]
      rw [more, members_add, eraseDups_snoc, ih]
      by_cases known : name ∈ names
      · rw [if_pos known, if_pos (taken.2 known)]
      · rw [if_neg known, if_neg (mt taken.1 known), List.map_append, List.map_singleton]

/-- Where a name is first mentioned in a list; the length of the list if it is not. -/
def firstMention (cs : List Construct) (name : String) : Nat := cs.findIdx (·.name == name)

theorem firstMention_append_of_mem {cs : List Construct} (ds : List Construct) {name : String}
    (named : ∃ c ∈ cs, c.name = name) : firstMention (cs ++ ds) name = firstMention cs name := by
  obtain ⟨c, member, same⟩ := named
  have found : cs.findIdx (·.name == name) < cs.length :=
    List.findIdx_lt_length_of_exists ⟨c, member, by simp [same]⟩
  simp only [firstMention, List.findIdx_append, found, if_true]

/-- The members stand in the order in which their names first appear. -/
theorem firstMention_ofList (cs : List Construct) :
    ((ofList cs).members.map fun c => firstMention cs c.name).Pairwise (· < ·) := by
  induction cs using List.reverseRecOn with
  | nil => simp [empty]
  | append_singleton cs d ih =>
      have stable : ((ofList cs).members.map fun c => firstMention (cs ++ [d]) c.name)
          = (ofList cs).members.map fun c => firstMention cs c.name := by
        refine List.map_congr_left fun c member => ?_
        exact firstMention_append_of_mem [d] ⟨c, mem_of_mem_ofList member, rfl⟩
      rw [ofList_snoc, members_add]
      split
      · rwa [stable]
      · rename_i fresh
        have absent : ∀ c ∈ cs, ¬ c.name = d.name := fun c member same =>
          fresh (hasName_ofList.2 ⟨c, member, same⟩)
        rw [List.map_append, stable, List.pairwise_append]
        refine ⟨ih, by simp, ?_⟩
        intro early earlyMember late lateMember
        obtain ⟨c, member, rfl⟩ := List.mem_map.1 earlyMember
        simp only [List.map_cons, List.map_nil, List.mem_singleton] at lateMember
        subst lateMember
        have below : firstMention cs c.name < cs.length :=
          List.findIdx_lt_length_of_exists ⟨c, mem_of_mem_ofList member, by simp⟩
        have beyond : cs.length ≤ firstMention (cs ++ [d]) d.name := by
          simp only [firstMention]
          refine List.le_findIdx_of_not (by simp) fun i hi => ?_
          rw [List.getElem_append_left hi]
          simpa using absent _ (List.getElem_mem hi)
        omega

/-- Every member is the first construct of its name in the list. -/
theorem find?_of_mem_ofList {cs : List Construct} {c : Construct}
    (member : c ∈ (ofList cs).members) : cs.find? (·.name == c.name) = some c := by
  induction cs using List.reverseRecOn with
  | nil => simp [empty] at member
  | append_singleton cs d ih =>
      rw [ofList_snoc, members_add] at member
      rw [List.find?_append]
      split at member
      · rw [ih member, Option.some_or]
      · rename_i fresh
        rcases List.mem_append.1 member with old | new
        · rw [ih old, Option.some_or]
        · obtain rfl := List.mem_singleton.1 new
          have absent : cs.find? (·.name == c.name) = none := by
            refine List.find?_eq_none.2 fun e eMember same => ?_
            exact fresh (hasName_ofList.2 ⟨e, eMember, by simpa using same⟩)
          simp [absent]

/-- A search whose outcome at a construct depends on its name only. -/
theorem findSome?_ofList {α : Type} {cs : List Construct} (f : Construct → Option α)
    (byName : ∀ a ∈ cs, ∀ b ∈ cs, a.name = b.name → f a = f b) :
    (ofList cs).members.findSome? f = cs.findSome? f := by
  induction cs using List.reverseRecOn with
  | nil => rfl
  | append_singleton cs d ih =>
      have rest := ih fun a ha b hb =>
        byName a (List.mem_append_left _ ha) b (List.mem_append_left _ hb)
      rw [ofList_snoc, members_add, List.findSome?_append]
      split
      · rename_i taken
        obtain ⟨e, member, same⟩ := hasName_ofList.1 taken
        have agree : f e = f d :=
          byName e (List.mem_append_left _ member) d (by simp) same
        rw [rest]
        cases found : cs.findSome? f with
        | some x => rfl
        | none =>
            have nothing : f d = none := agree ▸ List.findSome?_eq_none_iff.1 found e member
            simp [nothing]
      · rw [List.findSome?_append, rest]

theorem mem_names {s : ConstructSet} {name : String} : name ∈ s.names ↔ s.hasName name = true := by
  simp [names, sorted, hasName_iff]

/-- Members that stand in the order of their names are listed as they stand. -/
theorem names_of_ordered {s : ConstructSet}
    (ordered : s.members.Pairwise fun c d => Construct.nameLe c d = true) :
    s.names = s.members.map (·.name) := by
  rw [names, sorted, List.mergeSort_of_pairwise ordered]

theorem nodup_names (s : ConstructSet) : s.names.Nodup :=
  ((List.mergeSort_perm _ _).map _).nodup_iff.2 s.distinct

end ConstructSet

end Exposure
