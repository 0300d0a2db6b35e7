/-
# Proofs.AppNames — which names belong to the application

The index of the application's names is searched by halving.  `firstPlace_spec`
says what halving finds: the first place where a test holds that stays true.  In
a sorted index the names that start with a text stand together, beginning where
the text would be inserted, so looking at that one place answers whether there
is such a name at all (`hasPrefixed_ofSet`).

A name is looked up by its part before the first `$`.  Removing the synthetic
parts of a name leaves that part alone (`upTo_normalize`): a wrapper suffix begins
with a `$`, and the constructor of a nested class has one before its parameters.
So a construct that was declared under its full name is recognized under the
name that is used for it downstream (`isApp_name`).
-/
import Exposure.Classification
import Exposure.Graph.Profile
import Exposure.Proofs.Sets
import Exposure.Proofs.SyntheticParts

namespace Exposure

set_option autoImplicit false

open Text

/-! ## Halving -/

/-- Halving ends at the first place where the test holds, if it stays true from there on. -/
theorem firstPlace_spec {holds : Nat → Bool}
    (stays : ∀ i j, i ≤ j → holds i = true → holds j = true) (low high : Nat) (order : low ≤ high) :
    firstPlace holds low high ≤ high ∧
      (∀ i, low ≤ i → i < firstPlace holds low high → holds i = false) ∧
      (firstPlace holds low high < high → holds (firstPlace holds low high) = true) := by
  fun_induction firstPlace holds low high with
  | case1 low high less middle here ih =>
      obtain ⟨within, before, after⟩ := ih (by omega)
      refine ⟨by omega, before, fun _ => ?_⟩
      rcases Nat.lt_or_eq_of_le within with inside | ends
      · exact after inside
      · rw [ends]
        exact here
  | case2 low high less middle missing ih =>
      obtain ⟨within, before, after⟩ := ih (by omega)
      refine ⟨within, fun i above below => ?_, after⟩
      by_cases later : middle + 1 ≤ i
      · exact before i later below
      · by_contra found
        exact missing (stays i middle (by omega) (by simpa using found))
  | case3 low high done =>
      exact ⟨order, fun i above below => by omega, fun less => absurd less done⟩

/-! ## Names that start with a text -/

/-- Whatever stands between a text and a longer one that starts with it starts with it too. -/
theorem isPrefixOf_of_between :
    ∀ {text middle longer : List Char}, text.isPrefixOf longer = true → ¬ middle < text →
      ¬ longer < middle → text.isPrefixOf middle = true
  | [], _, _, _, _, _ => rfl
  | c :: text, [], _, _, above, _ => absurd (List.nil_lt_cons c text) above
  | _ :: _, _ :: _, [], starts, _, _ => by simp at starts
  | c :: text, d :: middle, e :: longer, starts, above, below => by
      obtain ⟨rfl, rest⟩ : c = e ∧ text.isPrefixOf longer = true := by simpa using starts
      rw [List.cons_lt_cons_iff, not_or, not_and] at above below
      obtain rfl : c = d := Char.le_antisymm (Char.not_lt.1 above.1) (Char.not_lt.1 below.1)
      simpa using isPrefixOf_of_between rest (above.2 rfl) (below.2 rfl)

theorem not_lt_of_isPrefixOf :
    ∀ {text longer : List Char}, text.isPrefixOf longer = true → ¬ longer < text
  | [], _, _ => List.not_lt_nil _
  | _ :: _, [], starts => by simp at starts
  | c :: text, d :: longer, starts => by
      obtain ⟨rfl, rest⟩ : c = d ∧ text.isPrefixOf longer = true := by simpa using starts
      rw [List.cons_lt_cons_iff, not_or, not_and]
      exact ⟨Char.lt_irrefl c, fun _ => not_lt_of_isPrefixOf rest⟩

theorem le_of_startsWith {text name : String} (starts : startsWith text name = true) :
    text ≤ name := by
  rw [← String.not_lt, String.lt_iff]
  exact not_lt_of_isPrefixOf starts

theorem startsWith_of_between {text middle name : String} (starts : startsWith text name = true)
    (above : text ≤ middle) (below : middle ≤ name) : startsWith text middle = true := by
  rw [← String.not_lt, String.lt_iff] at above below
  exact isPrefixOf_of_between starts above below

namespace AppIndex

/-- The names of an index are in increasing order. -/
theorem sorted_ofSet (apps : ConstructSet) : (ofSet apps).names.toList.Pairwise (· ≤ ·) := by
  have sorted : apps.sorted.Pairwise fun a b => Construct.nameLe a b = true := by
    refine List.pairwise_mergeSort (fun a b c first second => ?_) (fun a b => ?_) apps.members
    · simp only [Construct.nameLe, decide_eq_true_eq] at first second ⊢
      exact String.le_trans first second
    · simpa [Construct.nameLe] using String.le_total a.name b.name
  rw [ofSet, ConstructSet.names, List.pairwise_map]
  exact sorted.imp fun order => by simpa [Construct.nameLe] using order

variable {index : AppIndex}

theorem le_of_getElem? (sorted : index.names.toList.Pairwise (· ≤ ·)) {i j : Nat} {n m : String}
    (order : i ≤ j) (first : index.names[i]? = some n) (second : index.names[j]? = some m) :
    n ≤ m := by
  rcases Nat.lt_or_eq_of_le order with less | rfl
  · rw [← Array.getElem?_toList] at first second
    obtain ⟨below, rfl⟩ := List.getElem?_eq_some_iff.1 first
    obtain ⟨below', rfl⟩ := List.getElem?_eq_some_iff.1 second
    exact List.pairwise_iff_getElem.1 sorted i j below below' less
  · obtain rfl := Option.some.inj (first.symm.trans second)
    exact String.le_refl n

/-- Every name from the insertion point on is at least `text`, and every name before it is below. -/
theorem insertionPoint_spec (sorted : index.names.toList.Pairwise (· ≤ ·)) (text : String) {i : Nat}
    {n : String} (here : index.names[i]? = some n) : text ≤ n ↔ index.insertionPoint text ≤ i := by
  have stays : ∀ i j : Nat, i ≤ j → ((index.names[i]?).all fun n => decide (text ≤ n)) = true →
      ((index.names[j]?).all fun n => decide (text ≤ n)) = true := by
    intro i j order holds
    cases second : index.names[j]? with
    | none => rfl
    | some m =>
        have below := (Array.getElem?_eq_some_iff.1 second).1
        have first : index.names[i]? = some (index.names[i]) := Array.getElem?_eq_getElem (by omega)
        have least : text ≤ index.names[i] := by simpa [first] using holds
        simpa using String.le_trans least (le_of_getElem? sorted order first second)
  obtain ⟨-, before, after⟩ := firstPlace_spec stays 0 index.size (Nat.zero_le _)
  constructor
  · intro least
    by_contra above
    simpa [here, least] using before i (Nat.zero_le i) (by simpa [insertionPoint] using above)
  · intro point
    have inside : i < index.size := (Array.getElem?_eq_some_iff.1 here).1
    have holds := stays _ i point (after (Nat.lt_of_le_of_lt point inside))
    simpa [here] using holds

/-- Looking at the insertion point tells whether some name starts with the text. -/
theorem hasPrefixed_iff (sorted : index.names.toList.Pairwise (· ≤ ·)) (text : String) :
    index.hasPrefixed text = true ↔ ∃ name ∈ index.names, startsWith text name = true := by
  unfold hasPrefixed
  constructor
  · intro found
    cases here : index.names[index.insertionPoint text]? with
    | none => simp [here] at found
    | some name => exact ⟨name, Array.mem_of_getElem? here, by simpa [here] using found⟩
  · rintro ⟨name, member, starts⟩
    obtain ⟨i, here⟩ := Array.getElem?_of_mem member
    have point := (insertionPoint_spec sorted text here).1 (le_of_startsWith starts)
    have inside : i < index.names.size := (Array.getElem?_eq_some_iff.1 here).1
    have first := Array.getElem?_eq_getElem (Nat.lt_of_le_of_lt point inside)
    rw [first]
    have least := (insertionPoint_spec sorted text first).2 (Nat.le_refl _)
    exact startsWith_of_between starts least (le_of_getElem? sorted point first here)

/-- **The index of a set answers whether a member's name starts with the text.** -/
theorem hasPrefixed_ofSet (apps : ConstructSet) (text : String) :
    (ofSet apps).hasPrefixed text = true ↔ ∃ name, apps.hasName name = true ∧
      startsWith text name = true := by
  rw [hasPrefixed_iff (sorted_ofSet apps)]
  simp [ofSet, ConstructSet.mem_names]

theorem isApp_ofSet (apps : ConstructSet) (name : String) :
    (ofSet apps).isApp name = true ↔
      ∃ declared, apps.hasName declared = true ∧ upTo '$' name.toList <+: declared.toList := by
  simp [isApp, hasPrefixed_ofSet, startsWith]

end AppIndex

/-! ## Synthetic parts -/

/-- The class of a nested class's constructor has a `$`, and stays. -/
theorem Name.Enclosed.upTo_eq {name stripped : List Char} (enclosed : Enclosed name stripped) :
    upTo '$' stripped = upTo '$' name := by
  obtain ⟨-, -, -, -, -⟩ := enclosed
  simp only [List.append_assoc, List.cons_append, upTo_append_cons]

/-- Removing the synthetic parts of a name leaves its part before the first `$` alone. -/
theorem Construct.upTo_normalize {c n : Construct} (found : c.normalize = some n) :
    upTo '$' n.name.toList = upTo '$' c.name.toList := by
  cases normalize_eq_some_iff.1 found with
  | @wrapper kind name suffix known =>
      have dollar : ∀ s ∈ Name.wrapperSuffixes, s.toList.head? = some '$' := by decide +kernel
      obtain ⟨tail, begins⟩ := List.head?_eq_some_iff.1 (dollar suffix known)
      rw [String.toList_append, begins, upTo_append_cons]
  | enclosing _ enclosed => exact enclosed.upTo_eq

/-- The effective name begins as the reported one, up to the first `$`. -/
theorem Profile.upTo_name {p : Profile}
    (described : p.normalized = Provenance.normalForm p.reported) :
    upTo '$' p.name.toList = upTo '$' p.reported.name.toList := by
  unfold Profile.name Profile.effective
  split
  · rfl
  · rename_i named
    rw [described] at named ⊢
    unfold Provenance.normalForm at named ⊢
    cases found : p.reported.normalize with
    | none =>
        rw [found] at named
        exact absurd rfl named
    | some n => exact Construct.upTo_normalize found

/-- **A declared construct belongs to the application under its effective name.** -/
theorem AppIndex.isApp_name {apps : ConstructSet} {p : Profile}
    (described : p.normalized = Provenance.normalForm p.reported)
    (declared : apps.hasName p.reported.name = true) : (ofSet apps).isApp p.name = true := by
  rw [isApp_ofSet]
  refine ⟨p.reported.name, declared, ?_⟩
  rw [Profile.upTo_name described]
  exact List.takeWhile_prefix _

end Exposure
