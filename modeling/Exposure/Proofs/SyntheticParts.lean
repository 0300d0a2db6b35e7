/-
# Proofs.SyntheticParts — what normalization takes away

A compiler adds two kinds of parts to names.  A Go function may have the suffix of
a wrapper; in other languages the constructor of a nested class has the enclosing
instance as its first parameter (`Name.Enclosed`).  `Construct.Strips` relates a
construct to the one without such a part, and a construct is normalized exactly if
it is so related to another (`normalize_eq_some_iff`).

So whatever is normalized has lost characters and gained none, and otherwise is
what it was: language, kind and unit stay, and so does everything before the
parameters.  `normalize_strips` puts this together, with the cuts stated once more
by positions (`normalizeAt?`), each of them refused unless it is within the name.
-/
import Exposure.Proofs.Files
import Exposure.Proofs.Units
import Mathlib.Logic.Function.Iterate

namespace Exposure

set_option autoImplicit false

/-! ## Cuts -/

namespace Text

theorem intercalate_fields (sep : Char) (s : List Char) : [sep].intercalate (fields sep s) = s := by
  induction s with
  | nil => rfl
  | cons c s ih =>
      obtain ⟨first, others, pieces⟩ := List.exists_cons_of_ne_nil (fields_ne_nil sep s)
      rw [pieces] at ih
      rw [fields, pieces]
      split
      · rename_i same
        obtain rfl : c = sep := by simpa using same
        simpa [List.intercalate] using ih
      · cases others <;> simpa [List.intercalate] using ih

/-- The first piece ends before the first separator, and the others are what stands after it. -/
theorem fields_eq_cons {sep : Char} {s first : List Char} {others : List (List Char)}
    (pieces : fields sep s = first :: others) :
    first = upTo sep s ∧ [sep].intercalate others = s.drop (first.length + 1) := by
  by_cases divided : sep ∈ s
  · obtain ⟨before, after, rfl, absent⟩ := List.eq_append_cons_of_mem divided
    rw [fields_append, fields_of_not_mem absent, List.singleton_append] at pieces
    obtain ⟨rfl, rfl⟩ := List.cons.inj pieces
    rw [upTo_append_cons, upTo_of_not_mem absent, intercalate_fields]
    simp
  · rw [fields_of_not_mem divided] at pieces
    obtain ⟨rfl, rfl⟩ := List.cons.inj pieces
    rw [upTo_of_not_mem divided]
    simp [List.intercalate]

theorem beforeLast?_eq_some_iff {c : Char} {s before : List Char} :
    beforeLast? c s = some before ↔ ∃ after, c ∉ after ∧ s = before ++ c :: after := by
  constructor
  · intro found
    unfold beforeLast? at found
    split at found
    · rename_i present
      have divided := throughLast_append_afterLast c s
      rcases endsAt_throughLast c s with empty | ⟨front, eq⟩
      · rw [empty, List.nil_append] at divided
        exact absurd (by simpa [divided] using present) (not_mem_afterLast c s)
      · rw [eq, List.dropLast_concat] at found
        obtain rfl := Option.some.inj found
        rw [eq, List.append_assoc, List.singleton_append] at divided
        exact ⟨afterLast c s, not_mem_afterLast c s, divided.symm⟩
    · cases found
  · rintro ⟨after, absent, rfl⟩
    have cut := (cut_last (.inr ⟨before, rfl⟩ : EndsAt c (before ++ [c])) absent).1
    rw [List.append_assoc, List.singleton_append] at cut
    rw [beforeLast?, if_pos (by simp), cut, List.dropLast_concat]

theorem dropSuffix?_eq_some_iff {suffix s rest : List Char} :
    dropSuffix? suffix s = some rest ↔ s = rest ++ suffix := by
  unfold dropSuffix?
  constructor
  · intro found
    split at found
    · rename_i ends
      obtain ⟨front, rfl⟩ := List.isSuffixOf_iff_suffix.1 ends
      obtain rfl : front = rest := by simpa using found
      rfl
    · cases found
  · rintro rfl
    rw [if_pos (List.isSuffixOf_iff_suffix.2 (List.suffix_append _ _))]
    simp

theorem trim_sublist (s : List Char) : (trim s).Sublist s := by
  obtain ⟨before, after, whole, -, -⟩ := padded_trim s
  conv_rhs => rw [whole]
  exact (List.sublist_append_right before (trim s)).trans (List.sublist_append_left _ after)

theorem slice?_middle (before middle after : List Char) :
    slice? (before ++ middle ++ after) before.length (before.length + middle.length) =
      some middle := by
  rw [slice?, if_pos (by simp), ← List.length_append, List.take_left, List.drop_left]

end Text

open Text

/-! ## Names -/

namespace Name

/-- The name of a nested class's constructor that has the enclosing instance as its first parameter,
and the name without that parameter.  The class ends at the first parenthesis, the enclosing class
at the last `$` in it. -/
inductive Enclosed : List Char → List Char → Prop where
  | constructor {outer inner parameters first : List Char} {others : List (List Char)}
      (bare : '(' ∉ outer ++ '$' :: inner) (innermost : '$' ∉ inner) (filled : parameters ≠ [])
      (pieces : fields ',' parameters = first :: others) (enclosing : trim first = outer) :
      Enclosed ((outer ++ '$' :: inner) ++ '(' :: (parameters ++ [')']))
        ((outer ++ '$' :: inner) ++ '(' :: (trim ([','].intercalate others) ++ [')']))

/-- A name with parameters, in which the last character closes them. -/
theorem closed_iff {name : List Char} : (name.contains '(' && name.getLast? == some ')') = true ↔
    ∃ owner parameters, '(' ∉ owner ∧ name = owner ++ '(' :: (parameters ++ [')']) := by
  rw [Bool.and_eq_true, List.contains_iff_mem, beq_iff_eq]
  constructor
  · rintro ⟨called, closed⟩
    obtain ⟨owner, tail, rfl, absent⟩ := List.eq_append_cons_of_mem called
    rcases List.eq_nil_or_concat tail with rfl | ⟨parameters, last, rfl⟩
    · simp at closed
    · rw [List.concat_eq_append, ← List.cons_append, ← List.append_assoc,
        List.getLast?_concat] at closed
      exact ⟨owner, parameters, absent, by rw [List.concat_eq_append, Option.some.inj closed]⟩
  · rintro ⟨owner, parameters, -, rfl⟩
    rw [← List.cons_append, ← List.append_assoc, List.getLast?_concat]
    simp

/-- What becomes of such a name. -/
theorem withoutEnclosing?_closed {owner : List Char} (absent : '(' ∉ owner)
    (parameters : List Char) :
    withoutEnclosing? (owner ++ '(' :: (parameters ++ [')'])) =
      (beforeLast? '$' owner).bind fun outer =>
      if parameters = [] ∨ trim (upTo ',' parameters) ≠ outer then none
      else some
        (owner ++ '(' :: (trim (parameters.drop ((upTo ',' parameters).length + 1)) ++ [')'])) := by
  have stem : withoutParameters (owner ++ '(' :: (parameters ++ [')'])) = owner := by
    rw [withoutParameters, upTo_append_cons, upTo_of_not_mem absent]
  have between : ((owner ++ '(' :: (parameters ++ [')'])).drop (owner.length + 1)).dropLast =
      parameters := by
    simp
  rw [withoutEnclosing?, if_pos (closed_iff.2 ⟨owner, parameters, absent, rfl⟩), stem]
  simp only [between, List.isEmpty_iff]
  cases beforeLast? '$' owner with
  | none => rfl
  | some outer =>
      simp only [Option.bind_some, beq_iff_eq]
      by_cases none : parameters = []
      · simp [none]
      · by_cases same : trim (upTo ',' parameters) = outer <;> simp [none, same]

/-- **The constructors whose enclosing instance is taken away.** -/
theorem withoutEnclosing?_eq_some_iff {name stripped : List Char} :
    withoutEnclosing? name = some stripped ↔ Enclosed name stripped := by
  constructor
  · intro found
    by_cases closed : (name.contains '(' && name.getLast? == some ')') = true
    · obtain ⟨owner, parameters, absent, rfl⟩ := closed_iff.1 closed
      rw [withoutEnclosing?_closed absent, Option.bind_eq_some_iff] at found
      obtain ⟨outer, nested, found⟩ := found
      obtain ⟨inner, innermost, rfl⟩ := beforeLast?_eq_some_iff.1 nested
      obtain ⟨first, others, pieces⟩ := List.exists_cons_of_ne_nil (fields_ne_nil ',' parameters)
      obtain ⟨isFirst, rest⟩ := fields_eq_cons pieces
      split at found
      · cases found
      · rename_i given
        rw [not_or, not_not, ← isFirst] at given
        rw [← isFirst, ← rest] at found
        obtain rfl := Option.some.inj found
        exact .constructor absent innermost given.1 pieces given.2
    · rw [withoutEnclosing?, if_neg closed] at found
      cases found
  · rintro ⟨bare, innermost, filled, pieces, enclosing⟩
    obtain ⟨rfl, rest⟩ := fields_eq_cons pieces
    rw [withoutEnclosing?_closed bare, beforeLast?_eq_some_iff.2 ⟨_, innermost, rfl⟩,
      Option.bind_some, rest, if_neg (by simp [filled, enclosing])]

/-- **The functions whose wrapper suffix is taken away.** -/
theorem unwrapped?_eq_some_iff {name rest : List Char} :
    unwrapped? name = some rest ↔ ∃ suffix ∈ wrapperSuffixes, name = rest ++ suffix.toList := by
  constructor
  · intro found
    obtain ⟨suffix, known, dropped⟩ := List.exists_of_findSome?_eq_some found
    exact ⟨suffix, known, dropSuffix?_eq_some_iff.1 dropped⟩
  · rintro ⟨suffix, known, rfl⟩
    have wrapped : dropSuffix? suffix.toList (rest ++ suffix.toList) = some rest :=
      dropSuffix?_eq_some_iff.2 rfl
    cases found : unwrapped? (rest ++ suffix.toList) with
    | none =>
        rw [List.findSome?_eq_none_iff.1 found suffix known] at wrapped
        cases wrapped
    | some other =>
        obtain ⟨suffix', known', dropped⟩ := List.exists_of_findSome?_eq_some found
        have same := dropSuffix?_eq_some_iff.1 dropped
        -- both suffixes have six characters, so both cuts are at one place
        have long : ∀ s ∈ wrapperSuffixes, s.toList.length = 6 := by decide +kernel
        have lengths : suffix.toList.length = suffix'.toList.length := by
          rw [long _ known, long _ known']
        rw [(List.append_inj' same lengths).1]

namespace Enclosed

variable {name stripped : List Char}

theorem withoutParameters_eq (enclosed : Enclosed name stripped) :
    withoutParameters stripped = withoutParameters name := by
  obtain ⟨bare, -, -, -, -⟩ := enclosed
  simp only [withoutParameters, upTo_append_cons]

theorem sublist (enclosed : Enclosed name stripped) : stripped.Sublist name := by
  obtain ⟨-, -, -, pieces, -⟩ := enclosed
  rw [(fields_eq_cons pieces).2]
  refine List.Sublist.append_left (List.Sublist.cons_cons _ (List.Sublist.append_right ?_ _)) _
  exact (trim_sublist _).trans (List.drop_sublist _ _)

theorem length_lt (enclosed : Enclosed name stripped) : stripped.length < name.length := by
  obtain ⟨-, -, filled, pieces, -⟩ := enclosed
  rename_i outer inner parameters first others
  have less : ([','].intercalate others).length < parameters.length := by
    rw [(fields_eq_cons pieces).2, List.length_drop]
    have := List.length_pos_iff.2 filled
    omega
  have trimmed := (trim_sublist ([','].intercalate others)).length_le
  simp only [List.length_append, List.length_cons, List.length_nil]
  omega

end Enclosed

/-! ## Names cut by position -/

/-- A Go name without its wrapper suffix, if it has one, cut by positions. -/
def unwrappedAt? (name : List Char) : List String → Option (Option (List Char))
  | [] => some none
  | suffix :: more =>
    if suffix.toList.isSuffixOf name then
      (slice? name 0 (name.length - suffix.toList.length)).map some
    else unwrappedAt? name more

/-- The parameters after the first one, cut by positions. -/
def remainingAt? (parameters : List Char) : Option (List Char) :=
  if parameters.contains ',' then slice? parameters (parameters.findIdx (· == ',') + 1)
    parameters.length else some []

/-- The constructor of a nested class without the enclosing instance, if it has one, cut by
positions. -/
def withoutEnclosingAt? (name : List Char) : Option (Option (List Char)) :=
  if name.contains '(' && name.getLast? == some ')' then do
    let opening := name.findIdx (· == '(')
    let owner ← slice? name 0 opening
    if !owner.contains '$' then return none
    let outer ← slice? owner 0 (afterPosition '$' owner - 1)
    let parameters ← slice? name (opening + 1) (name.length - 1)
    if parameters.isEmpty then return none
    let first ← slice? parameters 0 (parameters.findIdx (· == ','))
    let rest ← remainingAt? parameters
    return if trim first == outer then some (owner ++ '(' :: (trim rest ++ [')'])) else none
  else some none

theorem unwrappedAt?_eq (name : List Char) (suffixes : List String) :
    unwrappedAt? name suffixes = some
      (suffixes.findSome? fun suffix => dropSuffix? suffix.toList name) := by
  induction suffixes with
  | nil => rfl
  | cons suffix more ih =>
      rw [unwrappedAt?, List.findSome?_cons, dropSuffix?]
      split
      · have cut := slice?_start (List.take_prefix (name.length - suffix.toList.length) name)
        rw [List.length_take_of_le (Nat.sub_le _ _)] at cut
        rw [cut]
        rfl
      · exact ih

theorem remainingAt?_eq (parameters : List Char) :
    remainingAt? parameters = some (parameters.drop ((upTo ',' parameters).length + 1)) := by
  rw [remainingAt?, ← length_upTo]
  by_cases divided : ',' ∈ parameters
  · obtain ⟨before, after, rfl, absent⟩ := List.eq_append_cons_of_mem divided
    have cut := slice?_end (before ++ [',']) after
    rw [List.append_assoc, List.singleton_append, List.length_append, List.length_singleton] at cut
    rw [if_pos (by simp), upTo_append_cons, upTo_of_not_mem absent, cut]
    simp
  · rw [if_neg (by simpa using divided), upTo_of_not_mem divided]
    simp

theorem withoutEnclosingAt?_eq (name : List Char) :
    withoutEnclosingAt? name = some (withoutEnclosing? name) := by
  by_cases closed : (name.contains '(' && name.getLast? == some ')') = true
  · rw [withoutEnclosingAt?, if_pos closed]
    obtain ⟨owner, parameters, absent, rfl⟩ := closed_iff.1 closed
    have stem : upTo '(' (owner ++ '(' :: (parameters ++ [')'])) = owner := by
      rw [upTo_append_cons, upTo_of_not_mem absent]
    have opening : (owner ++ '(' :: (parameters ++ [')'])).findIdx (· == '(') = owner.length := by
      rw [← length_upTo, stem]
    have before : slice? (owner ++ '(' :: (parameters ++ [')'])) 0 owner.length = some owner :=
      slice?_start (List.prefix_append _ _)
    have between : slice? (owner ++ '(' :: (parameters ++ [')'])) (owner.length + 1)
        ((owner ++ '(' :: (parameters ++ [')'])).length - 1) = some parameters := by
      have cut := slice?_middle (owner ++ ['(']) parameters [')']
      simpa [Nat.add_assoc, Nat.add_comm 1] using cut
    simp only [opening, before, between, slice?_upTo, remainingAt?_eq,
      withoutEnclosing?_closed absent, Option.bind_eq_bind, Option.bind_some, beforeLast?]
    by_cases nested : '$' ∈ owner
    · have outer := slice?_start ((List.dropLast_prefix _).trans (throughLast_isPrefix '$' owner))
      rw [List.length_dropLast, ← afterPosition_eq] at outer
      by_cases none : parameters = []
      · simp [nested, outer, none]
      · by_cases same : trim (upTo ',' parameters) = (throughLast '$' owner).dropLast <;>
          simp [nested, outer, none, same]
    · simp [nested]
  · rw [withoutEnclosingAt?, if_neg closed, withoutEnclosing?, if_neg closed]

end Name

/-! ## Constructs -/

namespace Construct

/-- A construct with a synthetic part, and the construct without it. -/
inductive Strips : Construct → Construct → Prop where
  | wrapper {kind : Kind} {name suffix : String} (known : suffix ∈ Name.wrapperSuffixes) :
      Strips ⟨.go, kind, name ++ suffix⟩ ⟨.go, kind, name⟩
  | enclosing {lang : Lang} {name stripped : String} (other : lang ≠ .go)
      (enclosed : Name.Enclosed name.toList stripped.toList) :
      Strips ⟨lang, .constructor, name⟩ ⟨lang, .constructor, stripped⟩

/-- **A construct is normalized exactly if it has a synthetic part.** -/
theorem normalize_eq_some_iff {c d : Construct} : c.normalize = some d ↔ Strips c d := by
  constructor
  · intro found
    obtain ⟨stripped, removed, rfl⟩ := Option.map_eq_some_iff.1 found
    obtain ⟨lang, kind, name⟩ := c
    split at removed
    · rename_i go
      obtain rfl : lang = .go := go
      obtain ⟨suffix, known, eq⟩ := Name.unwrapped?_eq_some_iff.1 removed
      have whole : name = String.ofList stripped ++ suffix := by
        rw [← String.toList_inj, String.toList_append, String.toList_ofList]
        exact eq
      rw [whole]
      exact .wrapper known
    · rename_i other
      split at removed
      · rename_i isConstructor
        obtain rfl : kind = .constructor := isConstructor
        refine .enclosing other ?_
        rw [String.toList_ofList]
        exact Name.withoutEnclosing?_eq_some_iff.1 removed
      · cases removed
  · rintro (@⟨kind, name, suffix, known⟩ | @⟨lang, name, stripped, other, enclosed⟩)
    · have removed : Name.unwrapped? (name ++ suffix).toList = some name.toList :=
        Name.unwrapped?_eq_some_iff.2 ⟨suffix, known, String.toList_append⟩
      simp only [normalize, if_true, removed, Option.map_some, String.ofList_toList]
    · have removed := Name.withoutEnclosing?_eq_some_iff.2 enclosed
      simp only [normalize, if_neg other, if_true, removed, Option.map_some, String.ofList_toList]

namespace Strips

variable {c d : Construct}

theorem lang_eq (strips : Strips c d) : d.lang = c.lang := by cases strips <;> rfl

theorem kind_eq (strips : Strips c d) : d.kind = c.kind := by cases strips <;> rfl

/-- Nothing is added to a name. -/
theorem sublist (strips : Strips c d) : d.name.toList.Sublist c.name.toList := by
  cases strips with
  | wrapper known =>
      rw [String.toList_append]
      exact List.sublist_append_left _ _
  | enclosing other enclosed => exact enclosed.sublist

theorem length_lt (strips : Strips c d) : d.name.length < c.name.length := by
  rw [← String.length_toList, ← String.length_toList]
  cases strips with
  | wrapper known =>
      have filled : ∀ s ∈ Name.wrapperSuffixes, 0 < s.toList.length := by decide +kernel
      rw [String.toList_append, List.length_append]
      exact Nat.lt_add_of_pos_right (filled _ known)
  | enclosing other enclosed => exact enclosed.length_lt

theorem wrapped (strips : Strips c d) (go : c.lang = .go) :
    ∃ suffix ∈ Name.wrapperSuffixes, c.name = d.name ++ suffix := by
  cases strips with
  | wrapper known => exact ⟨_, known, rfl⟩
  | enclosing other enclosed => exact absurd go other

theorem enclosed (strips : Strips c d) (other : c.lang ≠ .go) :
    Name.Enclosed c.name.toList d.name.toList := by
  cases strips with
  | wrapper known => exact absurd rfl other
  | enclosing _ enclosed => exact enclosed

theorem unit_eq (strips : Strips c d) (other : c.lang ≠ .go) : d.unit = c.unit := by
  cases strips with
  | wrapper known => exact absurd rfl other
  | enclosing _ enclosed =>
      have callable : ¬ (Kind.constructor = .package ∨ Kind.constructor = .class) := by decide
      simp only [unit, if_neg other, if_neg callable, enclosed.withoutParameters_eq]

end Strips

/-- The construct without the parts that a compiler added, and itself if there are none. -/
def stripped (c : Construct) : Construct := c.normalize.getD c

/-- A construct has no synthetic part left after as many rounds as its name has characters. -/
theorem normalize_iterate (n : Nat) {c : Construct} (short : c.name.length ≤ n) :
    (stripped^[n] c).normalize = none := by
  induction n generalizing c with
  | zero =>
      cases found : c.normalize with
      | none => simpa using found
      | some d => exact absurd (normalize_eq_some_iff.1 found).length_lt (by omega)
  | succ n ih =>
      rw [Function.iterate_succ_apply]
      cases found : c.normalize with
      | none =>
          have still : c.stripped = c := by rw [stripped, found, Option.getD_none]
          rw [still, Function.iterate_fixed still]
          exact found
      | some d =>
          rw [stripped, found, Option.getD_some]
          have := (normalize_eq_some_iff.1 found).length_lt
          exact ih (by omega)

/-- The name without synthetic parts, if there are any, cut by positions. -/
def strippedNameAt? (c : Construct) : Option (Option (List Char)) :=
  if c.lang = .go then Name.unwrappedAt? c.name.toList Name.wrapperSuffixes
  else if c.kind = .constructor then Name.withoutEnclosingAt? c.name.toList
  else some none

/-- The construct without synthetic parts and whether it had any, cut by positions. -/
def normalizeAt? (c : Construct) : Option (Construct × Bool) :=
  c.strippedNameAt?.map fun
    | some name => ({ c with name := String.ofList name }, true)
    | none => (c, false)

theorem normalizeAt?_eq (c : Construct) :
    c.normalizeAt? = some (c.stripped, c.normalize.isSome) := by
  have cuts : c.strippedNameAt? = some (c.normalize.map (·.name.toList)) := by
    unfold strippedNameAt? normalize
    split
    · rw [Name.unwrappedAt?_eq]
      simp [Name.unwrapped?, Function.comp_def]
    split
    · rw [Name.withoutEnclosingAt?_eq]
      simp [Function.comp_def]
    · rfl
  rw [normalizeAt?, cuts, stripped]
  cases found : c.normalize with
  | none => rfl
  | some d =>
      have strips := normalize_eq_some_iff.1 found
      simp [← strips.lang_eq, ← strips.kind_eq]

/-- **Normalization only removes a synthetic part.**  Its cuts are all within the name, and it says
whether it has changed anything, which is exactly if the construct had a synthetic part.  Without a
change the construct is the same. With one, language and kind are the same, and the name has lost
characters and gained none; outside of Go the unit is the same, and all that the name has lost is
its first parameter and blanks around the others.  Repeated normalization ends. -/
theorem normalize_strips (c : Construct) :
    c.normalizeAt? = some (c.stripped, c.normalize.isSome) ∧
    (c.normalize.isSome = true ↔ ∃ d, Strips c d) ∧
    (c.normalize.isSome = false → c.stripped = c) ∧
    (c.normalize.isSome = true → c.stripped.lang = c.lang ∧ c.stripped.kind = c.kind ∧
      c.stripped.name.toList.Sublist c.name.toList ∧ c.stripped.name.length < c.name.length ∧
      (c.lang = .go → ∃ suffix ∈ Name.wrapperSuffixes, c.name = c.stripped.name ++ suffix) ∧
      (c.lang ≠ .go → c.stripped.unit = c.unit ∧
        Name.Enclosed c.name.toList c.stripped.name.toList)) ∧
    (stripped^[c.name.length] c).normalize = none := by
  refine ⟨normalizeAt?_eq c, ?_, fun unchanged => ?_, fun changed => ?_,
    normalize_iterate _ (Nat.le_refl _)⟩
  · simp only [← normalize_eq_some_iff, Option.isSome_iff_exists]
  · rw [stripped, Option.isNone_iff_eq_none.1 (Option.isSome_eq_false_iff.1 unchanged)]
    rfl
  · obtain ⟨d, found⟩ := Option.isSome_iff_exists.1 changed
    obtain rfl : c.stripped = d := by rw [stripped, found, Option.getD_some]
    have strips := normalize_eq_some_iff.1 found
    refine ⟨strips.lang_eq, strips.kind_eq, strips.sublist, strips.length_lt, strips.wrapped,
      fun other => ?_⟩
    exact ⟨strips.unit_eq other, strips.enclosed other⟩

example : normalize ⟨.java, .constructor, "a.Outer$Inner( a.Outer , f(x,y))"⟩ =
    some ⟨.java, .constructor, "a.Outer$Inner(f(x,y))"⟩ := by
  decide +kernel

end Construct

end Exposure
