/-
# Proofs.Cuts — texts that are cut and trimmed

A cut at the first occurrence of a character keeps what stands before it
(`Text.upTo_append_cons`), and a text occurs in another one exactly if it is a part
of it (`Text.occurs_iff_isInfix`).  A cut at the last occurrence divides a text in two, and
there is only one division whose second part lacks the character while the first
is empty or ends with it (`Text.cut_last`).  Both can be said by positions, where a
cut is nothing unless its positions are within the text (`Text.slice?_upTo`,
`Text.slice?_afterPosition`).  Trimming takes the blanks around a text away and
leaves what has no blank at either end (`Text.trim_eq_iff`).
-/
import Exposure.Text.Blank
import Exposure.Text.Cut
import Mathlib.Data.List.TakeWhile

namespace Exposure.Text

set_option autoImplicit false

/-! ## The first occurrence -/

theorem bne_of_not_mem {c : Char} {s : List Char} (absent : c ∉ s) : ∀ d ∈ s, (d != c) = true := by
  intro d member
  simpa using fun same : d = c => absent (same ▸ member)

theorem upTo_of_not_mem {c : Char} {s : List Char} (absent : c ∉ s) : upTo c s = s :=
  List.takeWhile_eq_self_iff.2 (bne_of_not_mem absent)

theorem not_mem_upTo (c : Char) (s : List Char) : c ∉ upTo c s := by
  intro member
  simpa using List.mem_takeWhile_imp member

theorem upTo_append_cons (c : Char) : ∀ s rest : List Char, upTo c (s ++ c :: rest) = upTo c s
  | [], rest => by simp [upTo]
  | d :: s, rest => by
      have ih := upTo_append_cons c s rest
      simp only [upTo] at ih
      by_cases same : d = c <;> simp [upTo, same, ih]

theorem upTo_eq_nil {c : Char} {s : List Char} (stops : s = [] ∨ s.head? = some c) :
    upTo c s = [] := by
  rcases stops with rfl | first
  · rfl
  · obtain ⟨rest, rfl⟩ := List.head?_eq_some_iff.1 first
    simp [upTo]

theorem append_cons_upTo_isPrefix (c d : Char) (s rest : List Char) :
    s ++ d :: upTo c rest <+: s ++ d :: rest := by
  rw [List.prefix_append_right_inj, List.cons_prefix_cons]
  exact ⟨rfl, List.takeWhile_prefix _⟩

theorem dropWhile_append_cons {c : Char} {s : List Char} (absent : c ∉ s) (rest : List Char) :
    (s ++ c :: rest).dropWhile (· != c) = c :: rest := by
  rw [List.dropWhile_append_of_pos (bne_of_not_mem absent)]
  simp

theorem occurs_iff_isInfix {sep s : List Char} : occurs sep s = true ↔ sep <:+: s := by
  induction s with
  | nil => cases sep <;> simp [occurs, cut]
  | cons c s ih =>
      rw [occurs] at ih
      rw [List.infix_cons_iff, ← ih, ← List.isPrefixOf_iff_prefix, occurs, cut]
      split
      case isTrue here => simp [here]
      case isFalse other => simp [other]

/-! ## The last occurrence -/

/-- A text that is empty or ends with a character. -/
def EndsAt (c : Char) (s : List Char) : Prop := s = [] ∨ ∃ before, s = before ++ [c]

theorem throughLast_append_afterLast (c : Char) (s : List Char) :
    throughLast c s ++ afterLast c s = s := by
  rw [throughLast, afterLast, ← List.reverse_append, List.takeWhile_append_dropWhile,
    List.reverse_reverse]

theorem not_mem_afterLast (c : Char) (s : List Char) : c ∉ afterLast c s := by
  intro member
  simpa using List.mem_takeWhile_imp (List.mem_reverse.1 member)

theorem endsAt_throughLast (c : Char) (s : List Char) : EndsAt c (throughLast c s) := by
  rw [EndsAt, throughLast]
  cases rest : s.reverse.dropWhile (· != c) with
  | nil => exact .inl rfl
  | cons d before =>
      have stop := List.head?_dropWhile_not (· != c) s.reverse
      rw [rest] at stop
      obtain rfl : d = c := by simpa using stop
      exact .inr ⟨before.reverse, by simp⟩

/-- There is only one such cut. -/
theorem cut_last {c : Char} {first last : List Char} (ends : EndsAt c first) (absent : c ∉ last) :
    throughLast c (first ++ last) = first ∧ afterLast c (first ++ last) = last := by
  have back := bne_of_not_mem (mt List.mem_reverse.1 absent)
  rw [throughLast, afterLast, List.reverse_append, List.dropWhile_append_of_pos back,
    List.takeWhile_append_of_pos back]
  rcases ends with rfl | ⟨before, rfl⟩ <;> simp

theorem throughLast_isPrefix (c : Char) (s : List Char) : throughLast c s <+: s :=
  ⟨afterLast c s, throughLast_append_afterLast c s⟩

theorem beforeLast?_isPrefix (c : Char) (s : List Char) : (beforeLast? c s).getD s <+: s := by
  rw [beforeLast?]
  split
  · exact (List.dropLast_prefix _).trans (throughLast_isPrefix c s)
  · exact List.prefix_refl s

/-! ## Cuts by position -/

/-- The part of a text from one position to another.  There is none unless the positions are in
order and within the text. -/
def slice? (s : List Char) (i j : Nat) : Option (List Char) :=
  if i ≤ j ∧ j ≤ s.length then some ((s.take j).drop i) else none

/-- The position after the last `c`, which is the start if there is none. -/
def afterPosition (c : Char) (s : List Char) : Nat := s.length - s.reverse.findIdx (· == c)

theorem slice?_start {s t : List Char} (isPrefix : t <+: s) : slice? s 0 t.length = some t := by
  rw [slice?, if_pos ⟨Nat.zero_le _, isPrefix.length_le⟩, List.drop_zero,
    ← List.prefix_iff_eq_take.1 isPrefix]

theorem slice?_end (first last : List Char) :
    slice? (first ++ last) first.length (first ++ last).length = some last := by
  have length : first.length ≤ (first ++ last).length := by simp
  rw [slice?, if_pos ⟨length, Nat.le_refl _⟩, List.take_length, List.drop_left]

theorem slice?_takeWhile {p q : Char → Bool} (stops : ∀ c, q c = !p c) (s : List Char) :
    slice? s 0 (s.findIdx q) = some (s.takeWhile p) := by
  obtain rfl : q = fun c => !p c := funext stops
  rw [List.takeWhile_eq_take_findIdx_not, slice?, if_pos ⟨Nat.zero_le _, List.findIdx_le_length⟩,
    List.drop_zero]

theorem slice?_upTo (c : Char) (s : List Char) :
    slice? s 0 (s.findIdx (· == c)) = some (upTo c s) :=
  slice?_takeWhile (fun d => by simp [bne]) s

theorem length_upTo (c : Char) (s : List Char) : (upTo c s).length = s.findIdx (· == c) := by
  have stops : (fun d => !(d != c)) = (· == c) := funext fun d => by simp [bne]
  rw [upTo, List.takeWhile_eq_take_findIdx_not, stops,
    List.length_take_of_le List.findIdx_le_length]

theorem afterPosition_eq (c : Char) (s : List Char) :
    afterPosition c s = (throughLast c s).length := by
  have stops : (fun d => !(d != c)) = (· == c) := funext fun d => by simp [bne]
  rw [throughLast, List.length_reverse, List.dropWhile_eq_drop_findIdx_not, List.length_drop,
    List.length_reverse, stops, afterPosition]

theorem slice?_afterPosition (c : Char) (s : List Char) :
    slice? s (afterPosition c s) s.length = some (afterLast c s) := by
  have cut := slice?_end (throughLast c s) (afterLast c s)
  rwa [throughLast_append_afterLast, ← afterPosition_eq] at cut

/-! ## Trimming -/

/-- What does not start with a blank keeps its start. -/
theorem dropWhile_isBlank {s : List Char} (first : ∀ c, s.head? = some c → isBlank c = false) :
    s.dropWhile isBlank = s := by
  cases s with
  | nil => rfl
  | cons c rest => rw [List.dropWhile_cons, first c rfl, if_neg (by decide)]

/-- A text with nothing but blanks around it. -/
def Padded (t s : List Char) : Prop :=
  ∃ before after, s = before ++ t ++ after ∧ allBlank before = true ∧ allBlank after = true

/-- A text without a blank at either end. -/
structure Tight (t : List Char) : Prop where
  first : ∀ c, t.head? = some c → isBlank c = false
  last : ∀ c, t.getLast? = some c → isBlank c = false

theorem head?_dropWhile_isBlank (s : List Char) :
    ∀ c, (s.dropWhile isBlank).head? = some c → isBlank c = false := by
  intro c first
  have stop := List.head?_dropWhile_not isBlank s
  rw [first] at stop
  exact stop

theorem padded_trim (s : List Char) : Padded (trim s) s := by
  refine ⟨s.takeWhile isBlank, ((trimStart s).reverse.takeWhile isBlank).reverse, ?_, ?_, ?_⟩
  · rw [List.append_assoc, trim, trimEnd, ← List.reverse_append, List.takeWhile_append_dropWhile,
      List.reverse_reverse, trimStart, List.takeWhile_append_dropWhile]
  · exact List.all_takeWhile
  · rw [allBlank, List.all_reverse]
    exact List.all_takeWhile

theorem tight_trim (s : List Char) : Tight (trim s) := by
  constructor
  · intro c first
    -- dropping at the end leaves a prefix, so the first character is that of `trimStart s`
    have front : trim s <+: trimStart s := by
      rw [trim, trimEnd, ← List.reverse_suffix, List.reverse_reverse]
      exact List.dropWhile_suffix _
    obtain ⟨rest, whole⟩ := front
    apply head?_dropWhile_isBlank s
    show (trimStart s).head? = some c
    rw [← whole, List.head?_append, first, Option.some_or]
  · intro c last
    rw [trim, trimEnd, List.getLast?_reverse] at last
    exact head?_dropWhile_isBlank _ c last

theorem Padded.trim_eq {t s : List Char} (padded : Padded t s) (tight : Tight t) : trim s = t := by
  obtain ⟨before, after, rfl, blankBefore, blankAfter⟩ := padded
  rw [allBlank, List.all_eq_true] at blankBefore blankAfter
  have back : ∀ c ∈ after.reverse, isBlank c = true := by
    intro c member
    exact blankAfter c (List.mem_reverse.1 member)
  cases t with
  | nil =>
      have nothing : after.dropWhile isBlank = [] := List.dropWhile_eq_nil_iff.2 blankAfter
      rw [List.append_nil, trim, trimStart, List.dropWhile_append_of_pos blankBefore, nothing]
      rfl
  | cons c t =>
      have front : ((c :: t) ++ after).dropWhile isBlank = (c :: t) ++ after :=
        dropWhile_isBlank fun d first => tight.first d (by simpa using first)
      have rear : (c :: t).reverse.dropWhile isBlank = (c :: t).reverse :=
        dropWhile_isBlank fun d first => tight.last d (by rwa [List.head?_reverse] at first)
      rw [trim, trimStart, List.append_assoc, List.dropWhile_append_of_pos blankBefore,
        front, trimEnd,
        List.reverse_append, List.dropWhile_append_of_pos back, rear, List.reverse_reverse]

/-- Trimming takes away the blanks around a text, and all of them. -/
theorem trim_eq_iff {s t : List Char} : trim s = t ↔ Padded t s ∧ Tight t := by
  constructor
  · rintro rfl
    exact ⟨padded_trim s, tight_trim s⟩
  · rintro ⟨padded, tight⟩
    exact padded.trim_eq tight

theorem trim_eq_self {s : List Char} (first : ∀ c, s.head? = some c → isBlank c = false)
    (last : ∀ c, s.getLast? = some c → isBlank c = false) : trim s = s :=
  trim_eq_iff.2 ⟨⟨[], [], by simp, rfl, rfl⟩, first, last⟩

theorem trim_eq_nil_iff {s : List Char} : trim s = [] ↔ allBlank s = true := by
  constructor
  · intro nothing
    obtain ⟨before, after, whole, blankBefore, blankAfter⟩ := nothing ▸ padded_trim s
    rw [allBlank] at blankBefore blankAfter
    rw [whole, allBlank, List.append_nil, List.all_append, blankBefore, blankAfter]
    rfl
  · intro blank
    exact trim_eq_iff.2 ⟨⟨s, [], by simp, blank, rfl⟩, by simp, by simp⟩

theorem isBlank_of_isDigit {c : Char} (digit : c.isDigit = true) : isBlank c = false := by
  have range : 48 ≤ c.toNat ∧ c.toNat ≤ 57 := Char.isDigit_iff_toNat.1 digit
  unfold isBlank
  simp only [Bool.or_eq_false_iff, Bool.and_eq_false_iff, decide_eq_false_iff_not,
    beq_eq_false_iff_ne]
  omega

end Exposure.Text
