/-
# Proofs.PackageVariants — the one package that is kept for a path

A package may be loaded in several variants of one path: plain, with its tests, and
as the main package that a test run makes up.  For every path one of them is
preferred (`Package.preferred?`): the first test variant, or else the first package
that is no test main.  A package that comes later takes the place of the preferred
one only if it is a test variant and that is none, so the preferred one is known
after every package (`preferred?_concat`), in whatever order they come.

What is kept is the preferred package of every path, in the order of the paths, and
a second choice among the kept packages changes nothing (`deduplicated_exact`).
-/
import Exposure.Program.Basic
import Exposure.Proofs.Dicts

namespace Exposure.Program.Package

set_option autoImplicit false

/-! ## The preferred package -/

/-- The package that is kept for a path: the first test variant, or else the first one that is no
test main. -/
def preferred? (packages : List Package) (path : String) : Option Package :=
  (packages.find? fun p => p.path == path && p.isTestVariant).or
    (packages.find? fun p => p.path == path && !p.isTestMain)

/-- Of a package and the one that is known for its path, the better one. -/
def settle (p : Package) (known : Option Package) : Package :=
  known.elim p fun other => if p.isBetterThan other then p else other

theorem isTestMain_of_isTestVariant {p : Package} (variant : p.isTestVariant = true) :
    p.isTestMain = false := by
  simp [isTestMain, variant]

theorem of_preferred? {packages : List Package} {path : String} {p : Package}
    (preferred : preferred? packages path = some p) :
    p ∈ packages ∧ p.path = path ∧ p.isTestMain = false := by
  rcases Option.or_eq_some_iff.1 preferred with found | ⟨-, found⟩
  · have fits := List.find?_some found
    rw [Bool.and_eq_true, beq_iff_eq] at fits
    exact ⟨List.mem_of_find?_eq_some found, fits.1, isTestMain_of_isTestVariant fits.2⟩
  · have fits := List.find?_some found
    rw [Bool.and_eq_true, beq_iff_eq, Bool.not_eq_true'] at fits
    exact ⟨List.mem_of_find?_eq_some found, fits⟩

theorem isSome_preferred?_iff {packages : List Package} {path : String} :
    (preferred? packages path).isSome = true ↔ ∃ p ∈ packages, p.path = path ∧
      p.isTestMain = false := by
  constructor
  · intro some
    obtain ⟨p, preferred⟩ := Option.isSome_iff_exists.1 some
    exact ⟨p, of_preferred? preferred⟩
  · rintro ⟨p, member, here, other⟩
    have found : (packages.find? fun p => p.path == path && !p.isTestMain).isSome = true :=
      List.find?_isSome.2 ⟨p, member, by simp [here, other]⟩
    rw [preferred?, Option.isSome_or, found, Bool.or_true]

/-- One more package changes what is preferred for its own path only, and only if it is better. -/
theorem preferred?_concat (packages : List Package) (p : Package) (path : String) :
    preferred? (packages ++ [p]) path =
      if p.path = path ∧ p.isTestMain = false then some (settle p (preferred? packages path))
      else preferred? packages path := by
  simp only [preferred?, List.find?_append, List.find?_singleton]
  by_cases own : p.path = path ∧ p.isTestMain = false
  · rw [if_pos own]
    obtain ⟨rfl, other⟩ := own
    simp only [BEq.rfl, Bool.true_and, other, Bool.not_false, if_true]
    cases first : packages.find? fun q => q.path == p.path && q.isTestVariant with
    | some v =>
        -- a test variant is known already, and nothing is better
        have fits := List.find?_some first
        rw [Bool.and_eq_true] at fits
        simp [settle, isBetterThan, fits.2]
    | none =>
        cases plain : packages.find? fun q => q.path == p.path && !q.isTestMain with
        | none => cases p.isTestVariant <;> simp [settle]
        | some n =>
            have fits := List.find?_some plain
            rw [Bool.and_eq_true, beq_iff_eq] at fits
            have bare : n.isTestVariant = false := by
              have none := List.find?_eq_none.1 first n (List.mem_of_find?_eq_some plain)
              simpa [fits.1] using none
            cases variant : p.isTestVariant <;> simp [settle, isBetterThan, variant, bare]
  · rw [if_neg own]
    by_cases here : p.path = path
    · have made : p.isTestMain = true := by simpa [here] using own
      have bare : p.isTestVariant = false := by
        cases variant : p.isTestVariant with
        | false => rfl
        | true =>
            rw [isTestMain_of_isTestVariant variant] at made
            cases made
      simp [made, bare]
    · simp [here]

/-! ## Keeping the preferred packages -/

/-- The preferred packages by path, as they are found one after the other. -/
def best (packages : List Package) : Dict Package :=
  (packages.filter (!·.isTestMain)).foldl (fun d p => d.alter p.path p.settle) .empty

theorem deduplicated_eq (packages : List Package) :
    deduplicated packages = (best packages).values := by
  simp only [deduplicated, best]
  congr 2
  funext d p
  congr 1
  funext known
  cases known <;> rfl

theorem best_concat (packages : List Package) (p : Package) :
    best (packages ++ [p]) =
      if p.isTestMain = false then (best packages).alter p.path p.settle else best packages := by
  rw [best, List.filter_append, List.foldl_append]
  cases made : p.isTestMain <;> simp [made, best]

theorem get?_best (packages : List Package) (path : String) :
    (best packages).get? path = preferred? packages path := by
  induction packages using List.reverseRecOn with
  | nil => rfl
  | append_singleton packages p ih =>
      rw [best_concat, preferred?_concat]
      by_cases made : p.isTestMain = false
      · rw [if_pos made, Dict.get?_alter]
        by_cases here : p.path = path
        · subst here
          rw [if_pos rfl, if_pos ⟨rfl, made⟩, ih]
        · rw [if_neg here, if_neg (fun own => here own.1), ih]
      · rw [if_neg made, if_neg (fun own => made own.2), ih]

theorem mem_deduplicated {packages : List Package} {p : Package} :
    p ∈ deduplicated packages ↔ preferred? packages p.path = some p := by
  rw [deduplicated_eq, Dict.values, List.mem_map]
  constructor
  · rintro ⟨⟨path, q⟩, member, rfl⟩
    have preferred := Dict.get?_eq_some_iff.2 member
    rw [get?_best] at preferred
    rwa [(of_preferred? preferred).2.1]
  · intro preferred
    rw [← get?_best] at preferred
    exact ⟨(p.path, p), Dict.get?_eq_some_iff.1 preferred, rfl⟩

theorem sorted_deduplicated (packages : List Package) :
    (deduplicated packages).Pairwise fun p q => p.path < q.path := by
  have key : ∀ entry ∈ (best packages).entries, entry.2.path = entry.1 := by
    rintro ⟨path, p⟩ member
    have preferred := Dict.get?_eq_some_iff.2 member
    rw [get?_best] at preferred
    exact (of_preferred? preferred).2.1
  rw [deduplicated_eq, Dict.values, List.pairwise_map]
  refine (best packages).sorted.imp_of_mem ?_
  intro a b first second less
  rwa [key a first, key b second]

/-- One package is kept for a path that has a preferred one, and none for any other. -/
theorem filter_deduplicated (packages : List Package) (path : String) :
    (deduplicated packages).filter (·.path == path) = (preferred? packages path).toList := by
  have member : ∀ p, p ∈ (deduplicated packages).filter (·.path == path) ↔
      preferred? packages path = some p := by
    intro p
    rw [List.mem_filter, mem_deduplicated, beq_iff_eq]
    constructor
    · rintro ⟨preferred, rfl⟩
      exact preferred
    · intro preferred
      obtain ⟨-, rfl, -⟩ := of_preferred? preferred
      exact ⟨preferred, rfl⟩
  have sorted := (sorted_deduplicated packages).filter (·.path == path)
  cases kept : (deduplicated packages).filter (·.path == path) with
  | nil =>
      cases preferred : preferred? packages path with
      | none => rfl
      | some p =>
          have here := (member p).2 preferred
          simp [kept] at here
  | cons p rest =>
      rw [kept] at member sorted
      have preferred := (member p).1 List.mem_cons_self
      rw [preferred, Option.toList_some]
      cases rest with
      | nil => rfl
      | cons q rest =>
          -- another package of the path would be the preferred one too, and come after itself
          have again := (member q).1 (by simp)
          obtain rfl : p = q := Option.some.inj (preferred.symm.trans again)
          exact absurd ((List.pairwise_cons.1 sorted).1 p List.mem_cons_self) (String.lt_irrefl _)

/-- What is preferred among the kept packages is what was kept. -/
theorem preferred?_deduplicated (packages : List Package) (path : String) :
    preferred? (deduplicated packages) path = preferred? packages path := by
  have among : ∀ fits : Package → Bool, ((deduplicated packages).find? fun p =>
      p.path == path && fits p) =
      (preferred? packages path).toList.find? fits := by
    intro fits
    rw [← filter_deduplicated, List.find?_filter]
    congr 1
    funext p
    rw [Bool.decide_and, Bool.decide_eq_true, Bool.decide_eq_true]
  rw [preferred?, among, among]
  cases preferred : preferred? packages path with
  | none => rfl
  | some p =>
      have kept := (of_preferred? preferred).2.2
      cases variant : p.isTestVariant <;> simp [variant, kept]

theorem deduplicated_idem (packages : List Package) :
    deduplicated (deduplicated packages) = deduplicated packages := by
  have same : best (deduplicated packages) = best packages := by
    apply Dict.ext_get?
    intro path
    rw [get?_best, get?_best, preferred?_deduplicated]
  rw [deduplicated_eq (deduplicated packages), same, ← deduplicated_eq]

/-- **One package for every path, and the right one.**  The kept packages have increasing
paths.  Their paths are those of the packages that are no test mains, and each path has exactly one
of them: the first test variant if there is one, and else the first package that is no test
main.  To do it again changes nothing. -/
theorem deduplicated_exact (packages : List Package) :
    (deduplicated packages).Pairwise (fun p q => p.path < q.path) ∧
    (∀ path, (deduplicated packages).filter (·.path == path) = (preferred? packages path).toList) ∧
    (∀ path, (preferred? packages path).isSome = true ↔ ∃ p ∈ packages, p.path = path ∧
      p.isTestMain = false) ∧
    deduplicated (deduplicated packages) = deduplicated packages :=
  ⟨sorted_deduplicated packages, filter_deduplicated packages, fun _ => isSome_preferred?_iff,
    deduplicated_idem packages⟩

example :
    (deduplicated [{ id := "p.test", path := "p" }, { id := "p", path := "p" },
      { id := "o", path := "o" }, { id := "p [p.test]", path := "p" },
      { id := "p [q.test]", path := "p" }]).map (·.id) = ["o", "p [p.test]"] := by decide

end Exposure.Program.Package
