/-
# Proofs.Archives — which archive a unit is attributed to

A list of archives is consulted by a scan of its unit prefixes, the longest ones
first.  Read for itself the list says which prefixes enclose a unit
(`Encloses`), which of these is the longest (`Longest`), which archive declares
it first (`FirstDeclaring`) and which one has a locator last (`LastLocated`).

The scan answers accordingly (`longest_match`): it succeeds exactly if some
prefix encloses the unit, names the archive that declares the longest one first,
and the locator that it names always has a digest, the one declared last.
-/
import Exposure.Archive.Listed
import Exposure.Proofs.StableSort

namespace Exposure.Archive

set_option autoImplicit false

/-! ## What a list of archives says -/

/-- The unit is the prefix `stem`, or goes on after it with a dot, a slash or a dollar sign. -/
def Encloses (stem unit : String) : Prop :=
  unit = stem ∨ ∃ (c : Char) (rest : String), (c = '.' ∨ c = '/' ∨ c = '$') ∧
    unit = stem.push c ++ rest

/-- `stem` is the longest prefix that is declared and encloses the unit. -/
structure Longest (archives : List Archive) (unit stem : String) : Prop where
  declared : ∃ a ∈ archives, stem ∈ a.units
  encloses : Encloses stem unit
  longest : ∀ a ∈ archives, ∀ other ∈ a.units, Encloses other unit →
    other = stem ∨ other.utf8ByteSize < stem.utf8ByteSize

/-- `a` is the first archive that declares `stem`. -/
def FirstDeclaring (archives : List Archive) (stem : String) (a : Archive) : Prop :=
  ∃ before after, archives = before ++ a :: after ∧ stem ∈ a.units ∧ ∀ b ∈ before, stem ∉ b.units

/-- `a` is the last archive with this locator. -/
def LastLocated (archives : List Archive) (locator : String) (a : Archive) : Prop :=
  ∃ before after, archives = before ++ a :: after ∧ a.locator = locator ∧
    ∀ b ∈ after, b.locator ≠ locator

theorem firstDeclaring_iff {archives : List Archive} {stem : String} {a : Archive} :
    FirstDeclaring archives stem a ↔
      archives.find? (fun b => decide (stem ∈ b.units)) = some a := by
  rw [List.find?_eq_some_iff_append]
  simp only [decide_eq_true_eq, Bool.not_eq_true', decide_eq_false_iff_not]
  constructor
  · rintro ⟨before, after, split, declares, early⟩
    exact ⟨declares, before, after, split, early⟩
  · rintro ⟨declares, before, after, split, early⟩
    exact ⟨before, after, split, declares, early⟩

theorem lastLocated_iff {archives : List Archive} {locator : String} {a : Archive} :
    LastLocated archives locator a ↔
      archives.reverse.find? (fun b => b.locator == locator) = some a := by
  rw [List.find?_eq_some_iff_append]
  constructor
  · rintro ⟨before, after, rfl, same, late⟩
    refine ⟨by simp [same], after.reverse, before.reverse, by simp, fun b member => ?_⟩
    simpa using late b (List.mem_reverse.1 member)
  · rintro ⟨same, after, before, split, late⟩
    refine ⟨before.reverse, after.reverse, ?_, by simpa using same, fun b member => ?_⟩
    · rw [← List.reverse_reverse archives, split]
      simp
    · simpa using late b (List.mem_reverse.1 member)

/-! ## Prefixes of one unit -/

theorem isUnitBoundary_iff {c : Char} : isUnitBoundary c = true ↔ c = '.' ∨ c = '/' ∨ c = '$' := by
  simp [isUnitBoundary, or_assoc]

theorem covers_iff {stem unit : String} : covers stem unit = true ↔ Encloses stem unit := by
  constructor
  · intro covered
    obtain ⟨begins, ends⟩ := Bool.and_eq_true_iff.1 covered
    obtain ⟨rest, split⟩ := List.isPrefixOf_iff_prefix.1 begins
    rw [← split, List.drop_left] at ends
    cases rest with
    | nil =>
        left
        rw [← String.toList_inj, ← split, List.append_nil]
    | cons c rest =>
        right
        refine ⟨c, String.ofList rest, isUnitBoundary_iff.1 ends, ?_⟩
        rw [← String.toList_inj, ← split]
        simp
  · rintro (rfl | ⟨c, rest, boundary, rfl⟩)
    · simp [covers]
    · simp [covers, isUnitBoundary_iff.2 boundary]

theorem Encloses.isPrefix {stem unit : String} (encloses : Encloses stem unit) :
    stem.toList <+: unit.toList := by
  rcases encloses with rfl | ⟨c, rest, -, rfl⟩
  · exact List.prefix_rfl
  · simp

/-- A prefix of a text that is no shorter is the text. -/
theorem eq_of_isPrefix {s t : String} (begins : s.toList <+: t.toList)
    (long : t.utf8ByteSize ≤ s.utf8ByteSize) : s = t := by
  obtain ⟨rest, split⟩ := begins
  obtain rfl : t = s ++ String.ofList rest := by
    rw [← String.toList_inj, ← split]
    simp
  have nothing : (String.ofList rest).utf8ByteSize = 0 := by
    rw [String.utf8ByteSize_append] at long
    omega
  rw [String.utf8ByteSize_eq_zero_iff.1 nothing, String.append_empty]

/-- Two prefixes that enclose a unit are the same if they are equally long. -/
theorem Encloses.eq_or_lt {stem other unit : String} (encloses : Encloses stem unit)
    (also : Encloses other unit) (long : other.utf8ByteSize ≤ stem.utf8ByteSize) :
    other = stem ∨ other.utf8ByteSize < stem.utf8ByteSize := by
  by_cases equal : stem.utf8ByteSize ≤ other.utf8ByteSize
  · left
    rcases List.prefix_or_prefix_of_prefix also.isPrefix encloses.isPrefix with begins | begins
    · exact eq_of_isPrefix begins equal
    · exact (eq_of_isPrefix begins long).symm
  · exact .inr (Nat.lt_of_not_le equal)

/-! ## The scan -/

theorem mem_declared {archives : List Archive} {d : Declared} :
    d ∈ declared archives ↔ ∃ a ∈ archives, d.stem ∈ a.units ∧ d.locator = a.locator := by
  obtain ⟨stem, locator⟩ := d
  simp only [declared, List.mem_flatMap, List.mem_map, Declared.mk.injEq]
  constructor
  · rintro ⟨a, listed, u, member, rfl, rfl⟩
    exact ⟨a, listed, member, rfl⟩
  · rintro ⟨a, listed, member, rfl⟩
    exact ⟨a, listed, stem, member, rfl, rfl⟩

/-- What is declared first under a stem is declared by the first archive that declares it. -/
theorem firstDeclaring_of_find? {archives : List Archive} {p : String → Bool} {d : Declared}
    (found : (declared archives).find? (fun e => p e.stem) = some d) :
    ∃ a, FirstDeclaring archives d.stem a ∧ a.locator = d.locator := by
  have holds : p d.stem = true := by simpa using List.find?_some found
  rw [declared, List.find?_flatMap] at found
  obtain ⟨before, a, after, split, hit, misses⟩ := List.findSome?_eq_some_iff.1 found
  obtain ⟨u, unit, rfl⟩ : ∃ u ∈ a.units, (⟨u, a.locator⟩ : Declared) = d := by
    simpa using List.mem_of_find?_eq_some hit
  refine ⟨a, ⟨before, after, split, unit, fun b early again => ?_⟩, rfl⟩
  have missed := List.find?_eq_none.1 (misses b early) ⟨u, b.locator⟩ (List.mem_map_of_mem again)
  exact missed holds

/-- The scan stops at the longest prefix, as it is declared first. -/
theorem longest_of_find?_ranked {archives : List Archive} {unit : String} {d : Declared}
    (found : (ranked archives).find? (fun e => covers e.stem unit) = some d) :
    Longest archives unit d.stem ∧ ∃ a, FirstDeclaring archives d.stem a ∧
      a.locator = d.locator := by
  have trans : ∀ a b c : Declared, decide (b.stem.utf8ByteSize ≤ a.stem.utf8ByteSize) = true →
      decide (c.stem.utf8ByteSize ≤ b.stem.utf8ByteSize) = true →
      decide (c.stem.utf8ByteSize ≤ a.stem.utf8ByteSize) = true := by
    intro a b c
    simp only [decide_eq_true_eq]
    omega
  have total : ∀ a b : Declared, (decide (b.stem.utf8ByteSize ≤ a.stem.utf8ByteSize) ||
      decide (a.stem.utf8ByteSize ≤ b.stem.utf8ByteSize)) = true := by
    intro a b
    simpa using Nat.le_total b.stem.utf8ByteSize a.stem.utf8ByteSize
  obtain ⟨best, first⟩ := find?_mergeSort trans total found
  have encloses : Encloses d.stem unit := covers_iff.1 (by simpa using List.find?_some found)
  refine ⟨⟨?_, encloses, ?_⟩, firstDeclaring_of_find? (p := fun stem =>
    covers stem unit && decide (d.stem.utf8ByteSize ≤ stem.utf8ByteSize)) first⟩
  · obtain ⟨a, listed, member, -⟩ :=
      mem_declared.1 (List.mem_mergeSort.1 (List.mem_of_find?_eq_some found))
    exact ⟨a, listed, member⟩
  · intro a listed other member also
    have long := best ⟨other, a.locator⟩ (mem_declared.2 ⟨a, listed, member, rfl⟩)
      (covers_iff.2 also)
    exact encloses.eq_or_lt also (by simpa using long)

theorem isSome_locate? {archives : List Archive} {unit : String} :
    (locate? archives unit).isSome = true ↔
      ∃ a ∈ archives, ∃ stem ∈ a.units, Encloses stem unit := by
  rw [locate?, Option.isSome_map, List.find?_isSome]
  constructor
  · rintro ⟨d, member, covered⟩
    obtain ⟨a, listed, unit, -⟩ := mem_declared.1 (List.mem_mergeSort.1 member)
    exact ⟨a, listed, d.stem, unit, covers_iff.1 covered⟩
  · rintro ⟨a, listed, stem, member, encloses⟩
    exact ⟨⟨stem, a.locator⟩, List.mem_mergeSort.2 (mem_declared.2 ⟨a, listed, member, rfl⟩),
      covers_iff.2 encloses⟩

/-- The locator of a listed archive has the digest that is declared last for it. -/
theorem exists_digest {archives : List Archive} {locator : String}
    (listed : ∃ a ∈ archives, a.locator = locator) :
    ∃ a, LastLocated archives locator a ∧ (resolver archives).digest locator = .ok a.digest := by
  obtain ⟨b, member, same⟩ := listed
  have found : (archives.reverse.find? fun a => a.locator == locator).isSome = true := by
    rw [List.find?_isSome]
    exact ⟨b, List.mem_reverse.2 member, by simp [same]⟩
  obtain ⟨a, last⟩ := Option.isSome_iff_exists.1 found
  refine ⟨a, lastLocated_iff.2 last, ?_⟩
  simp [resolver, digest?, last]

/-- **Resolution against a list of archives is by the longest match.**  It succeeds exactly if a
declared prefix encloses the unit.  The locator is that of the first archive which declares the
longest such prefix, and its digest is the one of the last archive with that locator. -/
theorem longest_match (archives : List Archive) (unit : String) :
    (((resolver archives).locate unit).isSome = true ↔
      ∃ a ∈ archives, ∃ stem ∈ a.units, Encloses stem unit) ∧
    ∀ locator, (resolver archives).locate unit = some locator →
      (∃ stem a, Longest archives unit stem ∧ FirstDeclaring archives stem a ∧
        a.locator = locator) ∧
      ∃ a, LastLocated archives locator a ∧ (resolver archives).digest locator = .ok a.digest := by
  refine ⟨isSome_locate?, fun locator located => ?_⟩
  obtain ⟨d, found, rfl⟩ := Option.map_eq_some_iff.1 located
  obtain ⟨longest, a, first, same⟩ := longest_of_find?_ranked found
  refine ⟨⟨d.stem, a, longest, first, same⟩, exists_digest ⟨a, ?_, same⟩⟩
  obtain ⟨before, after, rfl, -⟩ := first
  simp

/-- Two archives that declare the same prefix, one of them twice under its locator. -/
def overlapping : List Archive :=
  [⟨"lib.jar", "3f2a", ["com.lib", "com.lib.ext"]⟩, ⟨"ext.jar", "77c1", ["", "com.lib.ext"]⟩,
    ⟨"lib.jar", "9b0e", ["com.lib.ex"]⟩]

theorem longest_match_overlapping :
    (resolver overlapping).locate "com.lib.ext.Codec" = some "lib.jar" ∧
      (resolver overlapping).digest "lib.jar" = .ok "9b0e" := by
  obtain ⟨succeeds, answers⟩ := longest_match overlapping "com.lib.ext.Codec"
  have encloses : Encloses "com.lib.ext" "com.lib.ext.Codec" := covers_iff.1 (by decide +kernel)
  have listed : ∃ a ∈ overlapping, ∃ stem ∈ a.units, Encloses stem "com.lib.ext.Codec" :=
    ⟨_, List.mem_cons_self, "com.lib.ext", by simp, encloses⟩
  obtain ⟨locator, located⟩ := Option.isSome_iff_exists.1 (succeeds.2 listed)
  obtain ⟨⟨stem, a, longest, first, rfl⟩, last, latest, digest⟩ := answers locator located
  -- no declared prefix is longer than `com.lib.ext`
  have known : ∀ a ∈ overlapping, ∀ s ∈ a.units, s = "com.lib.ext" ∨
      s.utf8ByteSize < "com.lib.ext".utf8ByteSize := by decide +kernel
  obtain rfl : stem = "com.lib.ext" := by
    obtain ⟨b, member, among⟩ := longest.declared
    rcases longest.longest _ List.mem_cons_self "com.lib.ext" (by simp) encloses with same | less
    · exact same.symm
    · rcases known b member stem among with same | more
      · exact same
      · exact absurd more (Nat.lt_asymm less)
  obtain rfl : ⟨"lib.jar", "3f2a", ["com.lib", "com.lib.ext"]⟩ = a := by
    simpa [overlapping] using firstDeclaring_iff.1 first
  obtain rfl : ⟨"lib.jar", "9b0e", ["com.lib.ex"]⟩ = last := by
    simpa [overlapping] using lastLocated_iff.1 latest
  exact ⟨located, digest⟩

end Exposure.Archive
