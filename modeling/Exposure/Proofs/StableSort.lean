/-
# Proofs.StableSort — sorting that keeps the order of equals

A list is stably sorted by a key when its keys do not decrease and the elements
of any one key stand as they stood before.  That fixes the list
(`StableSort.unique`), and sorting by merging produces it.

Sorting by merging is stable for every order of ranks: elements that rank alike
keep their order (`filter_mergeSort`).  So the first hit in a ranked list is the
one that ranks best, and of several such the one that was listed first
(`find?_mergeSort`).
-/
import Mathlib.Data.List.Basic

namespace Exposure

set_option autoImplicit false

section Ranked

variable {α : Type} {le : α → α → Bool}
  (trans : ∀ a b c : α, le a b = true → le b c = true → le a c = true)
  (total : ∀ a b : α, (le a b || le b a) = true)
include trans total

/-- Elements that rank alike keep their order. -/
theorem filter_mergeSort {xs : List α} {p : α → Bool}
    (alike : ∀ a ∈ xs, ∀ b ∈ xs, p a = true → p b = true → le a b = true) :
    (xs.mergeSort le).filter p = xs.filter p := by
  have ranked : (xs.filter p).Pairwise fun a b => le a b = true := by
    refine List.pairwise_of_forall_mem_list fun a aMember b bMember => ?_
    obtain ⟨aListed, aHolds⟩ := List.mem_filter.1 aMember
    obtain ⟨bListed, bHolds⟩ := List.mem_filter.1 bMember
    exact alike a aListed b bListed aHolds bHolds
  have inside : (xs.filter p).Sublist ((xs.mergeSort le).filter p) := by
    have kept := (List.sublist_mergeSort trans total ranked List.filter_sublist).filter p
    rwa [List.filter_filter, funext fun a => Bool.and_self (p a)] at kept
  refine (inside.eq_of_length ?_).symm
  exact ((List.mergeSort_perm xs le).filter p).length_eq.symm

/-- **The first hit in a ranked list ranks best among the hits, and is listed first among those that
rank so.** -/
theorem find?_mergeSort {xs : List α} {p : α → Bool} {d : α}
    (found : (xs.mergeSort le).find? p = some d) :
    (∀ e ∈ xs, p e = true → le d e = true) ∧ xs.find? (fun e => p e && le e d) = some d := by
  obtain ⟨holds, before, after, split, misses⟩ := List.find?_eq_some_iff_append.1 found
  have self : le d d = true := by simpa using total d d
  have best : ∀ e ∈ xs, p e = true → le d e = true := by
    intro e member hit
    have ordered := List.pairwise_mergeSort trans total xs
    rw [split] at ordered
    have place : e ∈ before ++ d :: after := split ▸ List.mem_mergeSort.2 member
    rcases List.mem_append.1 place with early | late
    · exact absurd hit (by simpa using misses e early)
    · rcases List.mem_cons.1 late with rfl | later
      · exact self
      · exact (List.pairwise_cons.1 (List.pairwise_append.1 ordered).2.1).1 e later
  refine ⟨best, ?_⟩
  have same : (xs.mergeSort le).filter (fun e => p e && le e d) =
      xs.filter (fun e => p e && le e d) := by
    refine filter_mergeSort trans total fun a _ b bMember aHit bHit => ?_
    simp only [Bool.and_eq_true] at aHit bHit
    exact trans a d b aHit.2 (best b bMember bHit.1)
  rw [← List.head?_filter, ← same, List.head?_filter, split]
  refine List.find?_eq_some_iff_append.2
    ⟨by simp [holds, self], before, after, rfl, fun a early => ?_⟩
  simp [misses a early]

end Ranked

/-! ## Keys -/

/-- `ys` has the elements of `xs` in the order of their keys, and those of one key in the order of
`xs`. -/
structure StableSort {α : Type} (key : α → Nat) (xs ys : List α) : Prop where
  ordered : ys.Pairwise fun a b => key a ≤ key b
  kept : ∀ k, ys.filter (key · == k) = xs.filter (key · == k)

namespace StableSort

variable {α : Type} {key : α → Nat} {xs ys zs : List α}

theorem mem_iff (sort : StableSort key xs ys) {a : α} : a ∈ ys ↔ a ∈ xs := by
  have same := congrArg (a ∈ ·) (sort.kept (key a))
  simpa [List.mem_filter] using same

/-- There is only one stable sort of a list. -/
theorem unique (first : StableSort key xs ys) (second : StableSort key xs zs) : ys = zs := by
  induction ys generalizing xs zs with
  | nil =>
      refine (List.eq_nil_iff_forall_not_mem.2 fun a member => ?_).symm
      exact absurd (first.mem_iff.2 (second.mem_iff.1 member)) List.not_mem_nil
  | cons a ys ih =>
      cases zs with
      | nil =>
          have member := second.mem_iff.2 (first.mem_iff.1 List.mem_cons_self)
          exact absurd member List.not_mem_nil
      | cons b zs =>
          have aOrdered := List.pairwise_cons.1 first.ordered
          have bOrdered := List.pairwise_cons.1 second.ordered
          -- both heads have the least key, and of that key both are the first
          have alike : key a = key b := by
            refine Nat.le_antisymm ?_ ?_
            · rcases List.mem_cons.1 (first.mem_iff.2 (second.mem_iff.1 List.mem_cons_self)) with
                rfl | later
              · exact Nat.le_refl _
              · exact aOrdered.1 b later
            · rcases List.mem_cons.1 (second.mem_iff.2 (first.mem_iff.1 List.mem_cons_self)) with
                rfl | later
              · exact Nat.le_refl _
              · exact bOrdered.1 a later
          have kept (k : Nat) : (a :: ys).filter (key · == k) = (b :: zs).filter (key · == k) := by
            rw [first.kept, second.kept]
          obtain rfl : a = b := by
            have heads := kept (key a)
            simp only [List.filter_cons, alike, beq_self_eq_true, if_true] at heads
            exact (List.cons.inj heads).1
          refine congrArg (a :: ·)
            (ih ⟨aOrdered.2, fun k => ?_⟩ (⟨bOrdered.2, fun _ => rfl⟩ : StableSort key zs zs))
          have tails := kept k
          by_cases here : key a == k
          · simpa [List.filter_cons, here] using tails
          · simpa [List.filter_cons, here] using tails

/-- Sorting by merging is stable. -/
theorem mergeSort (key : α → Nat) (xs : List α) :
    StableSort key xs (xs.mergeSort fun a b => decide (key a ≤ key b)) := by
  have trans : ∀ a b c : α, decide (key a ≤ key b) = true → decide (key b ≤ key c) = true →
      decide (key a ≤ key c) = true := by
    intro a b c
    simp only [decide_eq_true_eq]
    exact Nat.le_trans
  have total : ∀ a b : α, (decide (key a ≤ key b) || decide (key b ≤ key a)) = true := by
    intro a b
    simpa using Nat.le_total (key a) (key b)
  refine ⟨?_, fun k => ?_⟩
  · simpa using List.pairwise_mergeSort trans total xs
  · refine filter_mergeSort trans total fun a _ b _ aKey bKey => ?_
    simp only [beq_iff_eq] at aKey bKey
    simp [aKey, bKey]

end StableSort

end Exposure
