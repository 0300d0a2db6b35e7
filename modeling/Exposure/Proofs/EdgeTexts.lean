/-
# Proofs.EdgeTexts — what is an edge, and which one

An edge is read from the text around its first arrow.  A text is an edge exactly if
it has an arrow and something other than blanks stands on either side of the first
one; its ends are the two sides without the blanks around them.

Whatever is written this way is read back.  The caller must have no arrow of its
own, but it may have dashes, even right before the arrow, and the callee may have
arrows: the first arrow of the text is always the one that was written between
them (`Edge.cut_arrow_append`), and blanks around the caller do not make another one
(`Text.isInfix_of_padded`).  `Edge.grammar` has both parts.
-/
import Exposure.Proofs.Cuts
import Exposure.Proofs.DocumentBuild

namespace Exposure

set_option autoImplicit false

namespace Text

/-- Something without blanks that occurs in a padded text occurs in what is padded. -/
theorem isInfix_of_padded {sep t s : List Char} (solid : ∀ c ∈ sep, isBlank c = false)
    (padded : Padded t s) (inside : sep <:+: s) : sep <:+: t := by
  obtain ⟨before, after, rfl, blankBefore, blankAfter⟩ := padded
  rw [allBlank, List.all_eq_true] at blankBefore blankAfter
  have nothing : ∀ part blanks : List Char, part ⊆ sep → part ⊆ blanks →
      (∀ c ∈ blanks, isBlank c = true) → part = [] := by
    intro part blanks ofSep ofBlanks blank
    rw [List.eq_nil_iff_forall_not_mem]
    intro c member
    have isSolid := solid c (ofSep member)
    rw [blank c (ofBlanks member)] at isSolid
    cases isSolid
  have start : sep <:+: t ++ after := by
    rw [List.append_assoc] at inside
    rcases List.infix_append_iff.1 inside with within | later | ⟨part, rest, rfl, ends, starts⟩
    · rw [nothing sep before (List.Subset.refl _) within.subset blankBefore]
      exact List.nil_infix
    · exact later
    · rw [nothing part before (List.subset_append_left _ _) ends.subset blankBefore]
      exact starts.isInfix
  rcases List.infix_append_iff.1 start with within | later | ⟨rest, part, rfl, ends, starts⟩
  · exact within
  · rw [nothing sep after (List.Subset.refl _) later.subset blankAfter]
    exact List.nil_infix
  · rw [nothing part after (List.subset_append_right _ _) starts.subset blankAfter, List.append_nil]
    exact ends.isInfix

end Text

namespace Edge

open Text

/-- The two sides of the first arrow of a text. -/
def Sides (s left right : String) : Prop :=
  s = left ++ "->" ++ right ∧ ∀ before after : String, s = before ++ "->" ++ after →
    left.length ≤ before.length

/-- A text in which something stands. -/
def Filled (s : String) : Prop := ∃ c ∈ s.toList, isBlank c = false

theorem filled_iff {s : String} : Filled s ↔ trimmed s ≠ "" := by
  have empty : trimmed s = "" ↔ trim s.toList = [] := by
    rw [trimmed, ← String.toList_inj, String.toList_ofList]
    rfl
  rw [Ne, empty, trim_eq_nil_iff, allBlank, List.all_eq_true]
  simp [Filled]

theorem read_eq_ok_iff {s caller callee : String} :
    read s = .ok (caller, callee) ↔ Writes s caller callee := by
  rw [← ofText?_eq_some_iff, read]
  cases ofText? s <;> simp

/-- What is read is what stands on the two sides. -/
theorem read_of_sides {s left right : String} (sides : Sides s left right) (caller : Filled left)
    (callee : Filled right) : read s = .ok (trimmed left, trimmed right) :=
  read_eq_ok_iff.2 ⟨⟨left, right, sides.1, sides.2, rfl, rfl⟩, filled_iff.1 caller,
    filled_iff.1 callee⟩

theorem exists_sides_of_read {s caller callee : String} (success : read s = .ok (caller, callee)) :
    ∃ left right, Sides s left right ∧ Filled left ∧ Filled right := by
  obtain ⟨⟨left, right, whole, least, rfl, rfl⟩, callerFilled, calleeFilled⟩ :=
    read_eq_ok_iff.1 success
  exact ⟨left, right, ⟨whole, least⟩, filled_iff.2 callerFilled, filled_iff.2 calleeFilled⟩

/-- An arrow after a text without one is the first arrow.  A dash at the end of the text does not
change this, since no arrow starts with two dashes. -/
theorem cut_arrow_append {left : List Char} (absent : ¬ arrow <:+: left) (right : List Char) :
    cut arrow (left ++ arrow ++ right) = some (left, right) := by
  induction left with
  | nil => simp [arrow, cut]
  | cons c left ih =>
      rw [List.infix_cons_iff, not_or] at absent
      have other : arrow.isPrefixOf (c :: (left ++ arrow ++ right)) = false := by
        cases left with
        | nil => simp [arrow, List.isPrefixOf]
        | cons d left =>
            have apart := absent.1
            simp only [arrow, List.cons_prefix_cons, List.nil_prefix, and_true] at apart
            simp only [arrow, List.cons_append, List.isPrefixOf, Bool.and_true,
              Bool.and_eq_false_iff, beq_eq_false_iff_ne]
            exact not_and_or.1 apart
      rw [List.cons_append, List.cons_append, cut_cons, other, ih absent.2]
      rfl

theorem solid_arrow : ∀ c ∈ arrow, isBlank c = false :=
  List.forall_mem_cons.2 ⟨by decide, List.forall_mem_singleton.2 (by decide)⟩

theorem trimmed_of_padded {t s : String} (same : trimmed t = t)
    (padded : Padded t.toList s.toList) : trimmed s = t := by
  have tight : Tight t.toList := by
    have chars := congrArg String.toList same
    rw [trimmed, String.toList_ofList] at chars
    exact (trim_eq_iff.1 chars).2
  rw [trimmed, padded.trim_eq tight, String.ofList_toList]

/-- An edge as it may be written: two names with an arrow between them, and any blanks around the
names. -/
structure Printed (s caller callee : String) : Prop where
  pads : ∃ before around between after : String,
    s = before ++ caller ++ around ++ "->" ++ (between ++ callee ++ after) ∧
    ∀ pad ∈ [before, around, between, after], allBlank pad.toList = true
  caller_filled : caller ≠ ""
  callee_filled : callee ≠ ""
  caller_trimmed : trimmed caller = caller
  callee_trimmed : trimmed callee = callee
  /-- The caller has no arrow in it. -/
  caller_plain : ∀ before after : String, caller ≠ before ++ "->" ++ after

theorem Printed.sides {s caller callee : String} (printed : Printed s caller callee) :
    ∃ left right, Sides s left right ∧ trimmed left = caller ∧ trimmed right = callee := by
  obtain ⟨before, around, between, after, rfl, blank⟩ := printed.pads
  have callerPadded : Padded caller.toList (before ++ caller ++ around).toList :=
    ⟨before.toList, around.toList, by simp, blank before (by simp), blank around (by simp)⟩
  have calleePadded : Padded callee.toList (between ++ callee ++ after).toList :=
    ⟨between.toList, after.toList, by simp, blank between (by simp), blank after (by simp)⟩
  have absent : ¬ arrow <:+: caller.toList := by
    rintro ⟨front, rest, whole⟩
    apply printed.caller_plain (String.ofList front) (String.ofList rest)
    rw [← String.toList_inj, toList_around, String.toList_ofList, String.toList_ofList, whole]
  have alone : ¬ arrow <:+: (before ++ caller ++ around).toList := by
    intro inside
    exact absent (isInfix_of_padded solid_arrow callerPadded inside)
  have first := cut_arrow_append alone (between ++ callee ++ after).toList
  rw [← toList_around] at first
  exact ⟨_, _, cut_arrow_iff.1 first, trimmed_of_padded printed.caller_trimmed callerPadded,
    trimmed_of_padded printed.callee_trimmed calleePadded⟩

/-- **An edge as it is written is read back.** -/
theorem read_of_printed {s caller callee : String} (printed : Printed s caller callee) :
    read s = .ok (caller, callee) := by
  obtain ⟨left, right, sides, rfl, rfl⟩ := printed.sides
  exact read_of_sides sides (filled_iff.2 printed.caller_filled)
    (filled_iff.2 printed.callee_filled)

/-- **Edges are read by their grammar, and reading inverts writing.**  A text is an edge exactly if
something stands on both sides of its first arrow, and its ends are the two sides without the blanks
around them.  A caller without an arrow and a callee are read back from every text that has an arrow
between them and blanks around them. -/
theorem grammar (s : String) :
    ((∃ ends, read s = .ok ends) ↔ ∃ left right, Sides s left right ∧ Filled left ∧ Filled right) ∧
    (∀ left right, Sides s left right → Filled left → Filled right →
      read s = .ok (trimmed left, trimmed right)) ∧
    (∀ caller callee, Printed s caller callee → read s = .ok (caller, callee)) := by
  refine ⟨⟨?_, ?_⟩, fun left right => read_of_sides, fun caller callee => read_of_printed⟩
  · rintro ⟨⟨caller, callee⟩, success⟩
    exact exists_sides_of_read success
  · rintro ⟨left, right, sides, callerFilled, calleeFilled⟩
    exact ⟨_, read_of_sides sides callerFilled calleeFilled⟩

/-- A caller that ends with a dash, a no-break space before it, none before the arrow, and an arrow
in the callee. -/
theorem grammar_dashes : read "\u00a0a-b --->\t>c -> d \n" = .ok ("a-b --", ">c -> d") := by
  refine (grammar "\u00a0a-b --->\t>c -> d \n").2.2 "a-b --" ">c -> d"
    ⟨?_, by decide, by decide, by decide, by decide, ?_⟩
  · exact ⟨"\u00a0", "", "\t", " \n", by decide, by decide⟩
  · intro before after same
    have inside : arrow <:+: "a-b --".toList := by
      rw [same, toList_around]
      exact List.infix_append _ _ _
    exact absurd (occurs_iff_isInfix.2 inside) (by decide)

end Edge

end Exposure
