/-
# Proofs.AssemblyCalls — which calls of an assembly file are listed

A call stands at a place of a text, given by its line and its position there
(`Assembly.CallAt`); comment lines have none.  Of each line only the leading call
is noted, the one with no other before it (`Assembly.LeadAt`).  So reading a file
lists the names of the leading calls, each once and in the order of their first
leading calls.

A line may have more than one call, and then a name can be missing or come too
late.  The list is that of all calls exactly if every name that is called leads a
line before any name leads one that was not called by then
(`assemblyCalls_lists`).  It is so if no line has a second call, but not in
general (`second_call_is_missed`).
-/
import Exposure.Program.Assembly
import Exposure.Proofs.Cuts
import Mathlib.Data.List.Induction
import Mathlib.Data.Prod.Lex
import Mathlib.Order.WellFounded

namespace Exposure.Program

set_option autoImplicit false

open Text

namespace Assembly

/-! ## Calls in a line -/

/-- A name: a character that names start with, and any characters of names. -/
inductive IsName : List Char → Prop where
  | mk {c : Char} {rest : List Char} (first : isNameStart c = true)
      (others : ∀ d ∈ rest, isNameChar d = true) :
      IsName (c :: rest)

/-- The text of a call. -/
def callText (blanks name : List Char) : List Char :=
  "CALL".toList ++ (blanks ++ '·' :: (name ++ "(SB)".toList))

/-- A text that starts with the call of a function. -/
inductive Calls : List Char → String → Prop where
  | mk {blanks name : List Char} (apart : blanks ≠ [])
      (blank : ∀ b ∈ blanks, isMarkerBlank b = true)
      (isName : IsName name) (rest : List Char) :
      Calls (callText blanks name ++ rest) (String.ofList name)

theorem dropStart?_eq_some_iff {start s rest : List Char} :
    dropStart? start s = some rest ↔ s = start ++ rest := by
  induction start generalizing s with
  | nil => simp [dropStart?, eq_comm]
  | cons p start ih =>
      cases s with
      | nil => simp [dropStart?]
      | cons c s =>
          rw [dropStart?]
          by_cases same : p = c
          · subst same
            simp [ih]
          · simp [same, Ne.symm same]

theorem isSome_dropStart?_iff {start s : List Char} :
    (dropStart? start s).isSome = true ↔ start <+: s := by
  rw [Option.isSome_iff_exists]
  refine exists_congr fun rest => ?_
  rw [dropStart?_eq_some_iff, eq_comm]

/-- A run of characters up to one that is not among them. -/
theorem run_append {among : Char → Bool} {run : List Char} (inside : ∀ c ∈ run, among c = true)
    {stop : Char} (outside : among stop = false) (rest : List Char) :
    (run ++ stop :: rest).takeWhile among = run ∧
      (run ++ stop :: rest).dropWhile among = stop :: rest := by
  rw [List.takeWhile_append_of_pos inside, List.dropWhile_append_of_pos inside]
  simp [outside]

theorem Calls.calledHere? {s : List Char} {f : String} (calls : Calls s f) :
    calledHere? s = some f := by
  obtain ⟨apart, blank, ⟨first, others⟩, rest⟩ := calls
  rename_i blanks c name
  obtain ⟨b, blanks, rfl⟩ := List.exists_cons_of_ne_nil apart
  rw [List.forall_mem_cons] at blank
  have start : dropStart? "CALL".toList (callText (b :: blanks) (c :: name) ++ rest) =
      some (b :: (blanks ++ '·' :: c :: (name ++ '(' :: ("SB)".toList ++ rest)))) := by
    rw [dropStart?_eq_some_iff]
    simp [callText]
  have blanksRun := (run_append blank.2 (by decide : isMarkerBlank '·' = false)
    (c :: (name ++ '(' :: ("SB)".toList ++ rest)))).2
  have nameRun := run_append others (by decide : isNameChar '(' = false) ("SB)".toList ++ rest)
  have closed : (dropStart? "(SB)".toList ('(' :: ("SB)".toList ++ rest))).isSome = true :=
    isSome_dropStart?_iff.2 ⟨rest, by simp⟩
  simp only [Program.calledHere?, start, blank.1, blanksRun, nameRun, first, closed]
  rfl

theorem calls_of_calledHere? {s : List Char} {f : String} (found : calledHere? s = some f) :
    Calls s f := by
  unfold Program.calledHere? at found
  split at found
  case h_1 b rest start =>
      split at found
      case isTrue => cases found
      case isFalse blank =>
          split at found
          case h_1 c tail shape =>
              simp only [Option.ite_none_right_eq_some, Bool.and_eq_true,
                Option.some.injEq] at found
              obtain ⟨⟨first, closed⟩, rfl⟩ := found
              obtain ⟨after, closed⟩ := isSome_dropStart?_iff.1 closed
              have whole : s = callText (b :: rest.takeWhile isMarkerBlank)
                  (c :: tail.takeWhile isNameChar) ++ after := by
                calc s = "CALL".toList ++ b :: rest := dropStart?_eq_some_iff.1 start
                  _ = "CALL".toList ++ b :: (rest.takeWhile isMarkerBlank ++ '·' :: c :: tail) := by
                    rw [← shape, List.takeWhile_append_dropWhile]
                  _ = "CALL".toList ++ b :: (rest.takeWhile isMarkerBlank ++
                      '·' :: c :: (tail.takeWhile isNameChar ++ ("(SB)".toList ++ after))) := by
                    rw [closed, List.takeWhile_append_dropWhile]
                  _ = _ := by simp [callText]
              rw [whole]
              refine .mk (List.cons_ne_nil _ _) ?_ (.mk first ?_) after
              · rw [List.forall_mem_cons]
                exact ⟨by simpa using blank, fun d member => List.mem_takeWhile_imp member⟩
              · exact fun d member => List.mem_takeWhile_imp member
          case h_2 => cases found
  case h_2 => cases found

/-- The function that is called at the start of a text is found there. -/
theorem calledHere?_eq_some_iff {s : List Char} {f : String} : calledHere? s = some f ↔ Calls s f :=
  ⟨calls_of_calledHere?, Calls.calledHere?⟩

theorem Calls.unique {s : List Char} {f g : String} (one : Calls s f) (other : Calls s g) : f = g :=
  Option.some.inj (one.calledHere?.symm.trans other.calledHere?)

theorem Calls.head {s : List Char} {f : String} (calls : Calls s f) : s.head? = some 'C' := by
  obtain ⟨-, -, -, rest⟩ := calls
  simp [callText]

/-- Blanks at the end of a text neither make a call nor spoil one: a call ends with a
parenthesis. -/
theorem calls_append_iff {s after : List Char} (blank : allBlank after = true) {f : String} :
    Calls (s ++ after) f ↔ Calls s f := by
  constructor
  · intro calls
    generalize whole : s ++ after = t at calls
    obtain ⟨apart, marks, isName, rest⟩ := calls
    rename_i blanks name
    rcases List.append_eq_append_iff.1 whole with ⟨part, call, tail⟩ | ⟨part, call, -⟩
    · rcases List.eq_nil_or_concat part with rfl | ⟨front, last, rfl⟩
      · rw [List.append_nil] at call
        rw [← call, ← List.append_nil (callText blanks name)]
        exact .mk apart marks isName []
      · -- the last character of the call would be a blank
        have closing : (callText blanks name).getLast? = some ')' := by
          have split : callText blanks name = "CALL".toList ++
              (blanks ++ '·' :: (name ++ "(SB".toList)) ++ [')'] := by
            simp [callText]
          rw [split, List.getLast?_concat]
        rw [call, List.concat_eq_append, ← List.append_assoc, List.getLast?_concat,
          Option.some.injEq] at closing
        rw [allBlank, List.all_eq_true] at blank
        have isBlank := blank last (by simp [tail])
        rw [closing] at isBlank
        exact absurd isBlank (by decide)
    · rw [call]
      exact .mk apart marks isName part
  · intro calls
    obtain ⟨apart, marks, isName, rest⟩ := calls
    rw [List.append_assoc]
    exact .mk apart marks isName (rest ++ after)

/-- The first call of a text: its position and its name. -/
def Leads (s : List Char) (j : Nat) (f : String) : Prop :=
  Calls (s.drop j) f ∧ ∀ i g, Calls (s.drop i) g → j ≤ i

theorem firstCall?_eq_some_iff {s : List Char} {f : String} :
    firstCall? s = some f ↔ ∃ j, Leads s j f := by
  induction s with
  | nil =>
      constructor
      · intro found
        cases found
      · rintro ⟨j, calls, -⟩
        have head := calls.head
        simp at head
  | cons c s ih =>
      rw [firstCall?]
      cases here : calledHere? (c :: s) with
      | some g =>
          have calls := calledHere?_eq_some_iff.1 here
          constructor
          · intro same
            obtain rfl : g = f := by simpa using same
            exact ⟨0, calls, fun i g _ => Nat.zero_le i⟩
          · rintro ⟨j, later, least⟩
            obtain rfl : j = 0 := Nat.le_zero.1 (least 0 g calls)
            simp [calls.unique later]
      | none =>
          have nothing : ∀ g, ¬ Calls (c :: s) g := by
            intro g calls
            rw [calls.calledHere?] at here
            cases here
          have rest : (∃ j, Leads (c :: s) j f) ↔ ∃ j, Leads s j f := by
            constructor
            · rintro ⟨_ | j, calls, least⟩
              · exact absurd calls (nothing f)
              · exact ⟨j, calls, fun i g other => Nat.le_of_succ_le_succ (least (i + 1) g other)⟩
            · rintro ⟨j, calls, least⟩
              refine ⟨j + 1, calls, fun i g other => ?_⟩
              cases i with
              | zero => exact absurd other (nothing g)
              | succ i => exact Nat.succ_le_succ (least i g other)
          rw [rest, ← ih]
          rfl

theorem firstCall?_append_left {before : List Char} (blank : allBlank before = true)
    (s : List Char) : firstCall? (before ++ s) = firstCall? s := by
  induction before with
  | nil => rfl
  | cons b before ih =>
      rw [allBlank, List.all_cons, Bool.and_eq_true] at blank
      have nothing : calledHere? (b :: (before ++ s)) = none := by
        cases here : calledHere? (b :: (before ++ s)) with
        | none => rfl
        | some f =>
            obtain rfl : b = 'C' := by simpa using (calledHere?_eq_some_iff.1 here).head
            exact absurd blank.1 (by decide)
      rw [List.cons_append, firstCall?, nothing]
      exact ih blank.2

theorem firstCall?_append_right (s : List Char) {after : List Char}
    (blank : allBlank after = true) : firstCall? (s ++ after) = firstCall? s := by
  induction s with
  | nil =>
      have nothing := firstCall?_append_left blank []
      rwa [List.append_nil] at nothing
  | cons c s ih =>
      have same : calledHere? (c :: (s ++ after)) = calledHere? (c :: s) := by
        apply Option.ext
        intro f
        rw [calledHere?_eq_some_iff, calledHere?_eq_some_iff, ← List.cons_append,
          calls_append_iff blank]
      rw [List.cons_append, firstCall?, firstCall?, same, ih]

theorem firstCall?_trim (s : List Char) : firstCall? (trim s) = firstCall? s := by
  obtain ⟨before, after, whole, blankBefore, blankAfter⟩ := padded_trim s
  conv_rhs => rw [whole, firstCall?_append_right _ blankAfter, firstCall?_append_left blankBefore]

/-! ## Calls in a text -/

/-- A call at a position of a line that is no comment. -/
def CallIn (line : List Char) (j : Nat) (f : String) : Prop :=
  ¬ slashes <+: trim line ∧ Calls (line.drop j) f

/-- The first call of a line that is no comment. -/
def LeadIn (line : List Char) (j : Nat) (f : String) : Prop :=
  ¬ slashes <+: trim line ∧ Leads line j f

theorem lineCall?_eq_some_iff {line : List Char} {f : String} :
    lineCall? line = some f ↔ ∃ j, LeadIn line j f := by
  simp only [lineCall?, isSome_dropStart?_iff, firstCall?_trim]
  by_cases comment : slashes <+: trim line
  · simp [comment, LeadIn]
  · simp [comment, LeadIn, firstCall?_eq_some_iff]

/-- A place in a text: the number of a line, and then that of a character in it. -/
abbrev Place := Nat ×ₗ Nat

/-- What stands at a place of a text, if it is known what stands at a position of a line. -/
def At (inLine : List Char → Nat → String → Prop) (lines : List (List Char)) (p : Place)
    (f : String) : Prop :=
  ∃ line, lines[(ofLex p).1]? = some line ∧ inLine line (ofLex p).2 f

/-- A function is called at a place. -/
abbrev CallAt : List (List Char) → Place → String → Prop := At CallIn

/-- A function is called at a place, and nothing is called before in its line. -/
abbrev LeadAt : List (List Char) → Place → String → Prop := At LeadIn

theorem at_concat {inLine : List Char → Nat → String → Prop} {lines : List (List Char)}
    {line : List Char} {p : Place} {f : String} : At inLine (lines ++ [line]) p f ↔
      At inLine lines p f ∨ (ofLex p).1 = lines.length ∧ inLine line (ofLex p).2 f := by
  constructor
  · rintro ⟨other, there, stands⟩
    rcases Nat.lt_trichotomy (ofLex p).1 lines.length with before | last | beyond
    · rw [List.getElem?_append_left before] at there
      exact .inl ⟨other, there, stands⟩
    · rw [last, List.getElem?_concat_length, Option.some.injEq] at there
      exact .inr ⟨last, there ▸ stands⟩
    · rw [List.getElem?_eq_none (by simp; omega)] at there
      cases there
  · rintro (⟨other, there, stands⟩ | ⟨last, stands⟩)
    · have before : (ofLex p).1 < lines.length := (List.getElem?_eq_some_iff.1 there).1
      exact ⟨other, by rw [List.getElem?_append_left before, there], stands⟩
    · exact ⟨line, by rw [last, List.getElem?_concat_length], stands⟩

theorem callAt_of_leadAt {lines : List (List Char)} {p : Place} {f : String}
    (leads : LeadAt lines p f) : CallAt lines p f := by
  obtain ⟨line, there, code, calls, -⟩ := leads
  exact ⟨line, there, code, calls⟩

theorem callAt_unique {lines : List (List Char)} {p : Place} {f g : String} (one : CallAt lines p f)
    (other : CallAt lines p g) : f = g := by
  obtain ⟨line, there, -, calls⟩ := one
  obtain ⟨line', there', -, calls'⟩ := other
  obtain rfl : line = line' := Option.some.inj (there.symm.trans there')
  exact calls.unique calls'

/-! ## Lists in the order of first occurrence -/

/-- A name occurs somewhere before all occurrences of another one. -/
def Before (occurs : Place → String → Prop) (f g : String) : Prop :=
  ∃ p, occurs p f ∧ ∀ q, occurs q g → p < q

theorem Before.ne {occurs : Place → String → Prop} {f g : String} (before : Before occurs f g) :
    f ≠ g := by
  obtain ⟨p, there, less⟩ := before
  rintro rfl
  exact lt_irrefl p (less p there)

/-- A list of the names that occur somewhere, without repetition and in the order of their first
occurrences. -/
structure Lists (occurs : Place → String → Prop) (names : List String) : Prop where
  distinct : names.Nodup
  mem_iff : ∀ f, f ∈ names ↔ ∃ p, occurs p f
  ordered : names.Pairwise (Before occurs)

/-- The list with one more occurrence noted. -/
def note (names : List String) (f : String) : List String :=
  if names.contains f then names else names ++ [f]

namespace Lists

variable {occurs : Place → String → Prop} {names : List String}

theorem congr {occurs' : Place → String → Prop} (lists : Lists occurs names)
    (same : ∀ p f, occurs' p f ↔ occurs p f) : Lists occurs' names := by
  obtain rfl : occurs' = occurs := by
    funext p f
    exact propext (same p f)
  exact lists

variable {here : Place} {name : String}

/-- A later occurrence of a known name changes nothing. -/
theorem again (lists : Lists occurs names) (last : ∀ p f, occurs p f → p < here)
    (known : name ∈ names) : Lists (fun p f => occurs p f ∨ p = here ∧ f = name) names := by
  obtain ⟨first, early⟩ := (lists.mem_iff name).1 known
  refine ⟨lists.distinct, fun f => ?_, ?_⟩
  · rw [lists.mem_iff]
    constructor
    · rintro ⟨p, there⟩
      exact ⟨p, .inl there⟩
    · rintro ⟨p, there | ⟨-, rfl⟩⟩
      · exact ⟨p, there⟩
      · exact ⟨first, early⟩
  · refine lists.ordered.imp ?_
    rintro f g ⟨p, there, before⟩
    refine ⟨p, .inl there, ?_⟩
    rintro q (later | ⟨rfl, -⟩)
    · exact before q later
    · exact last p f there

/-- A name that first occurs after all others comes to the end. -/
theorem snoc (lists : Lists occurs names) (last : ∀ p f, occurs p f → p < here)
    (new : name ∉ names) :
    Lists (fun p f => occurs p f ∨ p = here ∧ f = name) (names ++ [name]) := by
  refine ⟨?_, fun f => ?_, ?_⟩
  · rw [List.nodup_append]
    refine ⟨lists.distinct, by simp, ?_⟩
    rintro f member g single rfl
    exact new (List.mem_singleton.1 single ▸ member)
  · rw [List.mem_append, List.mem_singleton, lists.mem_iff]
    constructor
    · rintro (⟨p, there⟩ | rfl)
      · exact ⟨p, .inl there⟩
      · exact ⟨here, .inr ⟨rfl, rfl⟩⟩
    · rintro ⟨p, there | ⟨-, rfl⟩⟩
      · exact .inl ⟨p, there⟩
      · exact .inr rfl
  · refine List.pairwise_append.2 ⟨lists.ordered.imp_of_mem ?_, List.pairwise_singleton _ _, ?_⟩
    · rintro f g - member ⟨p, there, before⟩
      refine ⟨p, .inl there, ?_⟩
      rintro q (later | ⟨rfl, rfl⟩)
      · exact before q later
      · exact absurd member new
    · intro f member g single
      obtain rfl := List.mem_singleton.1 single
      obtain ⟨p, there⟩ := (lists.mem_iff f).1 member
      refine ⟨p, .inl there, ?_⟩
      rintro q (later | ⟨rfl, -⟩)
      · exact absurd ((lists.mem_iff g).2 ⟨q, later⟩) new
      · exact last p f there

theorem noted (lists : Lists occurs names) (last : ∀ p f, occurs p f → p < here) :
    Lists (fun p f => occurs p f ∨ p = here ∧ f = name) (note names name) := by
  rw [note]
  by_cases known : name ∈ names
  · rw [if_pos (List.contains_iff_mem.2 known)]
    exact lists.again last known
  · rw [if_neg (mt List.contains_iff_mem.1 known)]
    exact lists.snoc last known

variable {all : Place → String → Prop}

/-- Where something occurs, there is a first occurrence. -/
theorem exists_first {f : String} {p : Place} (there : occurs p f) :
    ∃ first, occurs first f ∧ ∀ q, occurs q f → first ≤ q := by
  obtain ⟨first, early, least⟩ := wellFounded_lt.has_min {q | occurs q f} ⟨p, there⟩
  exact ⟨first, early, fun q later => not_lt.1 (least q later)⟩

/-- Two names of a list that is in order for two kinds of occurrences come in the same order for
both. -/
theorem before_or_after (lists : Lists occurs names) (listsAll : Lists all names) {f g : String}
    (first : f ∈ names) (second : g ∈ names) (apart : f ≠ g) :
    Before occurs f g ∧ Before all f g ∨ Before occurs g f ∧ Before all g f := by
  have both := List.pairwise_iff_getElem.1 (List.Pairwise.and lists.ordered listsAll.ordered)
  obtain ⟨i, inside, rfl⟩ := List.getElem_of_mem first
  obtain ⟨j, inside', rfl⟩ := List.getElem_of_mem second
  rcases Nat.lt_trichotomy i j with less | rfl | more
  · exact .inl (both i j inside inside' less)
  · exact absurd rfl apart
  · exact .inr (both j i inside' inside more)

/-- **When the list of some occurrences is that of all.**  This is so exactly if each name that
occurs is among the chosen occurrences before any chosen name that did not occur by then. -/
theorem all_iff (lists : Lists occurs names) (chosen : ∀ p f, occurs p f → all p f)
    (one : ∀ p f g, all p f → all p g → f = g) :
    Lists all names ↔ ∀ p f, all p f →
      ∃ q, occurs q f ∧ ∀ r g, occurs r g → r < q → ∃ earlier ≤ p, all earlier g := by
  constructor
  · intro listsAll p f there
    obtain ⟨some, occursThere⟩ := (lists.mem_iff f).1 ((listsAll.mem_iff f).2 ⟨p, there⟩)
    obtain ⟨q, early, least⟩ := exists_first occursThere
    refine ⟨q, early, fun r g stands before => ?_⟩
    have apart : g ≠ f := by
      rintro rfl
      exact absurd before (not_lt.2 (least r stands))
    have known : g ∈ names := (lists.mem_iff g).2 ⟨r, stands⟩
    rcases before_or_after lists listsAll known ((lists.mem_iff f).2 ⟨q, early⟩) apart with
      ⟨-, earlier, stood, less⟩ | ⟨⟨first, stood, less⟩, -⟩
    · exact ⟨earlier, (less p there).le, stood⟩
    · -- then `f` would be chosen before `g`, and so before its own first occurrence
      exact absurd ((less r stands).trans before) (not_lt.2 (least first stood))
  · intro soon
    refine ⟨lists.distinct, fun f => ?_, ?_⟩
    · rw [lists.mem_iff]
      constructor
      · rintro ⟨p, stands⟩
        exact ⟨p, chosen p f stands⟩
      · rintro ⟨p, there⟩
        obtain ⟨q, stands, -⟩ := soon p f there
        exact ⟨q, stands⟩
    · refine lists.ordered.imp ?_
      rintro f g before
      have apart := before.ne
      obtain ⟨p, stands, before⟩ := before
      obtain ⟨first, there, least⟩ := exists_first (chosen p f stands)
      refine ⟨first, there, fun q other => ?_⟩
      obtain ⟨q', stands', early⟩ := soon q g other
      obtain ⟨earlier, le, stood⟩ := early p f stands (before q' stands')
      refine lt_of_le_of_ne ((least earlier stood).trans le) ?_
      rintro rfl
      exact apart (one first f g there other)

end Lists

/-! ## Reading a text -/

theorem LeadIn.unique {line : List Char} {i j : Nat} {f g : String} (one : LeadIn line i f)
    (other : LeadIn line j g) : i = j ∧ f = g := by
  obtain ⟨-, calls, least⟩ := one
  obtain ⟨-, calls', least'⟩ := other
  obtain rfl : i = j := Nat.le_antisymm (least j g calls') (least' i f calls)
  exact ⟨rfl, calls.unique calls'⟩

theorem readLines_eq {lines : List (List Char)}
    (short : ∀ line ∈ lines, (String.ofList line).utf8ByteSize < lineLimit) (called : List String) :
    readLines called lines = ⟨(lines.filterMap lineCall?).foldl note called, false⟩ := by
  induction lines generalizing called with
  | nil => rfl
  | cons line lines ih =>
      rw [List.forall_mem_cons] at short
      rw [readLines, if_neg (Nat.not_le.2 short.1)]
      cases here : lineCall? line with
      | none => rw [List.filterMap_cons_none here, ih short.2]
      | some f =>
          show readLines (note called f) lines = _
          rw [List.filterMap_cons_some here, List.foldl_cons, ih short.2]

/-- What is noted line by line lists the leading calls. -/
theorem lists_leadAt (lines : List (List Char)) :
    Lists (LeadAt lines) ((lines.filterMap lineCall?).foldl note []) := by
  induction lines using List.reverseRecOn with
  | nil =>
      refine ⟨List.nodup_nil, fun f => ?_, .nil⟩
      constructor
      · intro member
        cases member
      · rintro ⟨p, line, there, -⟩
        simp at there
  | append_singleton lines line ih =>
      rw [List.filterMap_append, List.foldl_append]
      cases here : lineCall? line with
      | none =>
          rw [List.filterMap_cons_none here, List.filterMap_nil, List.foldl_nil]
          refine ih.congr fun p f => ?_
          have nothing : ¬ LeadIn line (ofLex p).2 f := by
            intro leads
            rw [lineCall?_eq_some_iff.2 ⟨_, leads⟩] at here
            cases here
          refine at_concat.trans ?_
          simp [nothing]
      | some name =>
          rw [List.filterMap_cons_some here, List.filterMap_nil, List.foldl_cons, List.foldl_nil]
          obtain ⟨j, leads⟩ := lineCall?_eq_some_iff.1 here
          have last : ∀ p f, LeadAt lines p f → p < toLex (lines.length, j) := by
            rintro p f ⟨other, there, -⟩
            exact Prod.Lex.lt_iff.2 (.inl (List.getElem?_eq_some_iff.1 there).1)
          refine (ih.noted last).congr fun p f => ?_
          refine at_concat.trans (or_congr Iff.rfl ⟨?_, ?_⟩)
          · rintro ⟨own, stands⟩
            obtain ⟨column, rfl⟩ := stands.unique leads
            refine ⟨?_, rfl⟩
            rw [← own, ← column]
            rfl
          · rintro ⟨rfl, rfl⟩
            exact ⟨rfl, leads⟩

/-- The lines of a text. -/
def linesOf (text : String) : List (List Char) := fields '\n' text.toList

/-- Every name that is called leads a line before any name leads one that was not called by then. -/
def LedInTime (lines : List (List Char)) : Prop :=
  ∀ p f, CallAt lines p f → ∃ q, LeadAt lines q f ∧ ∀ r g, LeadAt lines r g → r < q →
    ∃ earlier ≤ p, CallAt lines earlier g

theorem ledInTime_of_leading {lines : List (List Char)}
    (single : ∀ p f, CallAt lines p f → LeadAt lines p f) : LedInTime lines := by
  intro p f calls
  refine ⟨p, single p f calls, fun r g leads before => ?_⟩
  exact ⟨r, before.le, callAt_of_leadAt leads⟩

end Assembly

open Assembly

/-- **What reading an assembly file lists.**  If no line is too long, reading comes to the end, and
lists the names of the leading calls, without repetition and in the order of their first leading
calls.  This is the list of all calls exactly if every name that is called leads a line in time; and
so it is if no line has a second call. -/
theorem assemblyCalls_lists (text : String)
    (short : ∀ line ∈ linesOf text, (String.ofList line).utf8ByteSize < lineLimit) :
    ∃ called, assemblyCalls text = ⟨called, false⟩ ∧ Lists (LeadAt (linesOf text)) called ∧
      (Lists (CallAt (linesOf text)) called ↔ LedInTime (linesOf text)) ∧
      ((∀ p f, CallAt (linesOf text) p f → LeadAt (linesOf text) p f) →
        Lists (CallAt (linesOf text)) called) := by
  have lists := lists_leadAt (linesOf text)
  have whole := lists.all_iff (fun p f => callAt_of_leadAt) (fun p f g => callAt_unique)
  refine ⟨_, readLines_eq short [], lists, whole, fun single => ?_⟩
  exact whole.2 (ledInTime_of_leading single)

/-- A second call in a line leads a later line, where nothing new was called in between. -/
theorem assemblyCalls_lists_later :
    Lists (LeadAt (linesOf "CALL ·a(SB); CALL ·b(SB)\n // CALL ·c(SB)\nCALL\t·b(SB)\nCALL ·a(SB)"))
      ["a", "b"] ∧
    (Lists (CallAt (linesOf "CALL ·a(SB); CALL ·b(SB)\n // CALL ·c(SB)\nCALL\t·b(SB)\nCALL ·a(SB)"))
        ["a", "b"] ↔
      LedInTime
        (linesOf "CALL ·a(SB); CALL ·b(SB)\n // CALL ·c(SB)\nCALL\t·b(SB)\nCALL ·a(SB)")) := by
  obtain ⟨called, read, lists, whole, -⟩ := assemblyCalls_lists
    "CALL ·a(SB); CALL ·b(SB)\n // CALL ·c(SB)\nCALL\t·b(SB)\nCALL ·a(SB)" (by decide +kernel)
  have known : assemblyCalls
      "CALL ·a(SB); CALL ·b(SB)\n // CALL ·c(SB)\nCALL\t·b(SB)\nCALL ·a(SB)" =
      ⟨["a", "b"], false⟩ := by decide +kernel
  rw [known] at read
  cases read
  exact ⟨lists, whole⟩

/-- Of two calls in one line the second one is not listed, although its function is called nowhere
else. -/
theorem second_call_is_missed :
    assemblyCalls "CALL ·a(SB); CALL ·b(SB)\n" = ⟨["a"], false⟩ ∧
    CallAt (linesOf "CALL ·a(SB); CALL ·b(SB)\n") (toLex (0, 13)) "b" ∧
    ¬ Lists (CallAt (linesOf "CALL ·a(SB); CALL ·b(SB)\n")) ["a"] := by
  have second : CallAt (linesOf "CALL ·a(SB); CALL ·b(SB)\n") (toLex (0, 13)) "b" := by
    refine ⟨"CALL ·a(SB); CALL ·b(SB)".toList, by decide +kernel, by decide +kernel, ?_⟩
    exact calledHere?_eq_some_iff.1 (by decide +kernel)
  refine ⟨by decide +kernel, second, fun lists => ?_⟩
  have listed := (lists.mem_iff "b").2 ⟨_, second⟩
  exact absurd listed (by decide)

end Exposure.Program
