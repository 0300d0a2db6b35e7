/-
# Proofs.PathElements — package paths, element by element

The predicates on package paths look for texts with slashes in the right places.
What they mean is said by the elements of a path.  A text is an element of a path
exactly if it has no slash and stands between slashes or the ends of the path
(`Text.mem_fields_iff`).  The elements of one path are the first ones of another
exactly if the other path is the same or goes on with a slash
(`Text.fields_isPrefix_iff`).

So a package is internal exactly if `internal` is one of its elements, and it lies
at or below a path exactly if it starts with the elements of that path
(`PackagePath.decided_by_elements`).  Nothing is asked of the texts: they may be
empty, and have slashes at their ends or next to each other.
-/
import Exposure.Proofs.FunctionGraphs

namespace Exposure

set_option autoImplicit false

open Text

/-! ## Pieces and what stands around them -/

namespace Text

theorem intercalate_append {sep : Char} {fs gs : List (List Char)} (first : fs ≠ [])
    (more : gs ≠ []) :
    [sep].intercalate (fs ++ gs) = [sep].intercalate fs ++ sep :: [sep].intercalate gs := by
  induction fs with
  | nil => exact absurd rfl first
  | cons f fs ih =>
      cases fs with
      | nil =>
          obtain ⟨g, gs, rfl⟩ := List.exists_cons_of_ne_nil more
          simp [List.intercalate_cons_cons, List.intercalate_singleton]
      | cons f' fs =>
          have rest := ih (List.cons_ne_nil f' fs)
          rw [List.cons_append] at rest
          simp only [List.cons_append, List.intercalate_cons_cons, rest, List.append_assoc]

/-- A text that is empty or starts with a character. -/
def StartsAt (c : Char) (s : List Char) : Prop := s = [] ∨ ∃ after, s = c :: after

/-- A piece has no separator in it, and a separator or an end of the text on either side. -/
theorem mem_fields_iff {sep : Char} {s f : List Char} :
    f ∈ fields sep s ↔ sep ∉ f ∧ ∃ before after, s = before ++ f ++ after ∧ EndsAt sep before ∧
      StartsAt sep after := by
  constructor
  · intro member
    refine ⟨not_mem_of_mem_fields member, ?_⟩
    obtain ⟨fs, gs, pieces⟩ := List.append_of_mem member
    have whole : s = [sep].intercalate (fs ++ f :: gs) := by rw [← pieces, intercalate_fields]
    -- what stands after the piece, then what stands before it
    obtain ⟨after, last, starts⟩ : ∃ after, [sep].intercalate (f :: gs) = f ++ after ∧
        StartsAt sep after := by
      cases gs with
      | nil => exact ⟨[], by simp [List.intercalate_singleton], .inl rfl⟩
      | cons g gs =>
          refine ⟨sep :: [sep].intercalate (g :: gs), ?_, .inr ⟨_, rfl⟩⟩
          rw [List.intercalate_cons_cons, List.append_assoc, List.singleton_append]
    cases fs with
    | nil => exact ⟨[], after, by simpa [last] using whole, .inl rfl, starts⟩
    | cons g fs =>
        refine ⟨[sep].intercalate (g :: fs) ++ [sep], after, ?_, .inr ⟨_, rfl⟩, starts⟩
        rw [whole, intercalate_append (List.cons_ne_nil g fs) (List.cons_ne_nil f gs), last]
        simp
  · rintro ⟨absent, before, after, rfl, ends, starts⟩
    have last : f ∈ fields sep (f ++ after) := by
      rcases starts with rfl | ⟨after, rfl⟩
      · simp [fields_of_not_mem absent]
      · simp [fields_append, fields_of_not_mem absent]
    rcases ends with rfl | ⟨before, rfl⟩
    · exact last
    · have divided : before ++ [sep] ++ f ++ after = before ++ sep :: (f ++ after) := by simp
      rw [divided, fields_append]
      exact List.mem_append_right _ last

/-- The pieces of a text come first in those of another one exactly if that is the same or goes on
with a separator. -/
theorem fields_isPrefix_iff {sep : Char} {s t : List Char} :
    fields sep s <+: fields sep t ↔ t = s ∨ ∃ rest, t = s ++ sep :: rest := by
  constructor
  · rintro ⟨more, pieces⟩
    have whole : t = [sep].intercalate (fields sep s ++ more) := by rw [pieces, intercalate_fields]
    by_cases none : more = []
    · left
      rw [whole, none, List.append_nil, intercalate_fields]
    · right
      refine ⟨[sep].intercalate more, ?_⟩
      rw [whole, intercalate_append (fields_ne_nil sep s) none, intercalate_fields]
  · rintro (rfl | ⟨rest, rfl⟩)
    · exact List.prefix_refl _
    · rw [fields_append]
      exact List.prefix_append _ _

end Text

/-! ## Package paths -/

namespace PackagePath

theorem mem_elements {path e : String} :
    e ∈ FilePath.elements path ↔ e.toList ∈ fields '/' path.toList := by
  rw [FilePath.elements, List.mem_map]
  constructor
  · rintro ⟨f, member, rfl⟩
    rwa [String.toList_ofList]
  · intro member
    exact ⟨e.toList, member, String.ofList_toList⟩

theorem elements_isPrefix_iff {path root : String} :
    FilePath.elements root <+: FilePath.elements path ↔
      fields '/' root.toList <+: fields '/' path.toList :=
  List.prefix_map_iff_of_injective fun _ _ => String.ofList_injective

/-- A path without a slash at its end, if there is one; of several slashes one is dropped. -/
def stem (path : String) : String :=
  if path.toList.getLast? = some '/' then String.ofList path.toList.dropLast else path

theorem toList_stem (path : String) : path.toList = (stem path).toList ++ ['/'] ∨
    path.toList = (stem path).toList ∧ (stem path).toList.getLast? ≠ some '/' := by
  unfold stem
  split
  case isTrue slash =>
      left
      rw [String.toList_ofList, List.dropLast_append_getLast? '/' slash]
  case isFalse bare => exact .inr ⟨rfl, bare⟩

/-- **Internal packages.**  The four places where the word is looked for are the four that an
element can have. -/
theorem isInternal_iff_mem {path : String} :
    isInternal path = true ↔ "internal" ∈ FilePath.elements path := by
  have slash : '/' ∉ "internal".toList := by decide
  have middle : "/internal/".toList = '/' :: ("internal".toList ++ ['/']) := by decide
  have last : "/internal".toList = '/' :: "internal".toList := by decide
  have first : "internal/".toList = "internal".toList ++ ['/'] := by decide
  rw [mem_elements, mem_fields_iff, isInternal, includes, endsWith, startsWith, middle, last, first]
  simp only [Bool.or_eq_true, occurs_iff_isInfix, List.isSuffixOf_iff_suffix,
    List.isPrefixOf_iff_prefix, beq_iff_eq, ← String.toList_inj, slash, not_false_eq_true, true_and]
  constructor
  · rintro (((⟨before, after, whole⟩ | ⟨before, whole⟩) | ⟨after, whole⟩) | whole)
    · exact ⟨before ++ ['/'], '/' :: after, by simp [← whole], .inr ⟨_, rfl⟩, .inr ⟨_, rfl⟩⟩
    · exact ⟨before ++ ['/'], [], by simp [← whole], .inr ⟨_, rfl⟩, .inl rfl⟩
    · exact ⟨[], '/' :: after, by simp [← whole], .inl rfl, .inr ⟨_, rfl⟩⟩
    · exact ⟨[], [], by simp [whole], .inl rfl, .inl rfl⟩
  · rintro ⟨before, after, whole, rfl | ⟨before, rfl⟩, rfl | ⟨after, rfl⟩⟩
    · exact .inr (by simpa using whole)
    · exact .inl (.inr ⟨after, by simp [whole]⟩)
    · exact .inl (.inl (.inr ⟨before, by simp [whole]⟩))
    · exact .inl (.inl (.inl ⟨before, after, by simp [whole]⟩))

/-- **Packages at or below a path.** -/
theorem isAtOrBelow_iff_isPrefix {path root : String} :
    isAtOrBelow root path = true ↔ FilePath.elements (stem root) <+: FilePath.elements path := by
  rw [Program.isAtOrBelow_iff (toList_stem root), elements_isPrefix_iff, fields_isPrefix_iff]

/-- **The predicates on package paths mean whole elements.**  A package is internal exactly if one
of the elements of its path is the word `internal`.  It lies at or below another path exactly if the
elements of that path, without one slash at its end, are the first elements of its own. -/
theorem decided_by_elements (path root : String) :
    (isInternal path = true ↔ "internal" ∈ FilePath.elements path) ∧
    (isAtOrBelow root path = true ↔ FilePath.elements (stem root) <+: FilePath.elements path) :=
  ⟨isInternal_iff_mem, isAtOrBelow_iff_isPrefix⟩

end PackagePath

end Exposure
