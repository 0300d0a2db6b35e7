/-
# Proofs.JsonReader — the texts of values can be read back

`JsonText.read` takes a text apart that `JsonText.ofTree` has put together, with
whatever blanks there are between the parts.  What it gives is the value that was
written (`read_ofTree`), except that a byte that belongs to no character has been
written as the replacement character: `Tree.shown` is the value with all texts as
they are shown.

Values are read from the front of a list of characters.  The statements about
the parts have any rest after them; only after a number must the rest not go on
with a digit.
-/
import Exposure.JsonText

namespace Exposure

set_option autoImplicit false

/-! ## Texts as they are shown -/

theorem Text.shownChar_of_lt {c : Char} (low : c.toNat < 0x10E080) : shownChar c = c := by
  have own : strayByte? c = none := by
    rw [strayByte?, if_neg]
    simp only [Bool.and_eq_true, decide_eq_true_eq]
    omega
  simp [shownChar, own]

namespace JsonText

mutual

/-- A value with its texts as they are shown. -/
def Tree.shown : Tree → Tree
  | .null => .null
  | .flag b => .flag b
  | .number n => .number n
  | .text s => .text (Text.shown s)
  | .list ts => .list (shownItems ts)
  | .object fs => .object (shownFields fs)

def shownItems : List Tree → List Tree
  | [] => []
  | t :: ts => t.shown :: shownItems ts

def shownFields : List (String × Tree) → List (String × Tree)
  | [] => []
  | f :: fs => (Text.shown f.1, f.2.shown) :: shownFields fs

end

theorem shownItems_eq_map : ∀ ts : List Tree, shownItems ts = ts.map Tree.shown
  | [] => by rw [shownItems, List.map_nil]
  | t :: ts => by rw [shownItems, List.map_cons, shownItems_eq_map ts]

/-! ## The reader -/

/-- The number that hexadecimal digits in lower case stand for. -/
def hexNumber (digits : List Char) : Nat :=
  digits.foldl (fun n d => 16 * n + if d.isDigit then d.toNat - 48 else d.toNat - 87) 0

/-- The character that a letter after a backslash stands for. -/
def unescaped : Char → Char
  | 'b' => '\x08'
  | 'f' => '\x0c'
  | 'n' => '\n'
  | 'r' => '\r'
  | 't' => '\t'
  | c => c

/-- The rest of a quoted text, and what comes after the closing quote. -/
def readText : List Char → Option (List Char × List Char)
  | [] => none
  | '"' :: rest => some ([], rest)
  | '\\' :: 'u' :: a :: b :: c :: d :: rest =>
    (readText rest).map fun r => (Char.ofNat (hexNumber [a, b, c, d]) :: r.1, r.2)
  | '\\' :: c :: rest => (readText rest).map fun r => (unescaped c :: r.1, r.2)
  | c :: rest => (readText rest).map fun r => (c :: r.1, r.2)

/-- The number that a text starts with. -/
def readDigits (cs : List Char) : Option (Nat × List Char) :=
  match cs.takeWhile Char.isDigit with
  | [] => none
  | digits => some (Nat.ofDigitChars 10 digits 0, cs.dropWhile Char.isDigit)

def readNumber : List Char → Option (Tree × List Char)
  | '-' :: rest => (readDigits rest).map fun r => (.number (-r.1), r.2)
  | cs => (readDigits cs).map fun r => (.number r.1, r.2)

def skipBlanks (cs : List Char) : List Char := cs.dropWhile fun c => c == ' ' || c == '\n'

mutual

/-- The value that a text starts with, and the rest of the text. -/
def readTree : Nat → List Char → Option (Tree × List Char)
  | 0, _ => none
  | fuel + 1, cs =>
    let cs := skipBlanks cs
    (readNumber cs).orElse fun _ =>
      match cs with
      | 'n' :: 'u' :: 'l' :: 'l' :: rest => some (.null, rest)
      | 't' :: 'r' :: 'u' :: 'e' :: rest => some (.flag true, rest)
      | 'f' :: 'a' :: 'l' :: 's' :: 'e' :: rest => some (.flag false, rest)
      | '"' :: rest => (readText rest).map fun r => (.text (String.ofList r.1), r.2)
      | '[' :: rest =>
        match readTree fuel rest with
        | some (t, rest) => (readItems fuel rest).map fun r => (.list (t :: r.1), r.2)
        | none =>
          match skipBlanks rest with
          | ']' :: rest => some (.list [], rest)
          | _ => none
      | '\x7b' :: rest =>
        match readField fuel rest with
        | some (f, rest) => (readFields fuel rest).map fun r => (.object (f :: r.1), r.2)
        | none =>
          match skipBlanks rest with
          | '\x7d' :: rest => some (.object [], rest)
          | _ => none
      | _ => none

/-- The items after the first, and what comes after the closing bracket. -/
def readItems : Nat → List Char → Option (List Tree × List Char)
  | 0, _ => none
  | fuel + 1, cs =>
    match skipBlanks cs with
    | ']' :: rest => some ([], rest)
    | ',' :: rest =>
      (readTree fuel rest).bind fun t => (readItems fuel t.2).map fun r => (t.1 :: r.1, r.2)
    | _ => none

/-- A name and its value. -/
def readField : Nat → List Char → Option ((String × Tree) × List Char)
  | 0, _ => none
  | fuel + 1, cs =>
    match skipBlanks cs with
    | '"' :: rest =>
      (readText rest).bind fun name =>
        match skipBlanks name.2 with
        | ':' :: rest => (readTree fuel rest).map fun r => ((String.ofList name.1, r.1), r.2)
        | _ => none
    | _ => none

/-- The fields after the first, and what comes after the closing brace. -/
def readFields : Nat → List Char → Option (List (String × Tree) × List Char)
  | 0, _ => none
  | fuel + 1, cs =>
    match skipBlanks cs with
    | '\x7d' :: rest => some ([], rest)
    | ',' :: rest =>
      (readField fuel rest).bind fun f => (readFields fuel f.2).map fun r => (f.1 :: r.1, r.2)
    | _ => none

end

/-- The value that a text is the text of. -/
def read (s : String) : Option Tree :=
  match readTree (s.length + 1) s.toList with
  | some (t, []) => some t
  | _ => none

/-! ## Quoted texts -/

/-- A control character is read back from its number. -/
theorem readText_control {n : Nat} (small : n < 32) (rest : List Char) :
    readText (['\\', 'u'] ++ Text.hexPadded 4 n ++ rest) =
      (readText rest).map fun r => (Char.ofNat n :: r.1, r.2) := by
  have all : ∀ n < 32, (Text.hexPadded 4 n).length = 4 ∧
      hexNumber (Text.hexPadded 4 n) = n := by decide
  obtain ⟨length, number⟩ := all n small
  match digits : Text.hexPadded 4 n, length with
  | [a, b, c, d], _ =>
      rw [← number, digits]
      rfl

theorem readText_plain {c : Char} (rest : List Char) (quote : c ≠ '"') (backslash : c ≠ '\\') :
    readText (c :: rest) = (readText rest).map fun r => (c :: r.1, r.2) := by
  rw [readText.eq_def]
  split <;> simp_all

/-- **What is written for a character is read back as the character that is shown for it.** -/
theorem readText_charText (c : Char) (rest : List Char) :
    readText ((charText c).toList ++ rest) =
      (readText rest).map fun r => (Text.shownChar c :: r.1, r.2) := by
  unfold charText
  split
  case h_13 quote backslash _ _ _ _ _ _ _ _ _ _ =>
      split
      case isTrue control =>
          have written : ("\\u" ++ String.ofList (Text.hexPadded 4 c.toNat)).toList =
              ['\\', 'u'] ++ Text.hexPadded 4 c.toNat := by simp
          rw [written, readText_control control, Char.ofNat_toNat, Text.shownChar_of_lt (by omega)]
      case isFalse =>
          have shown : Text.shownChar c ≠ '"' ∧ Text.shownChar c ≠ '\\' := by
            unfold Text.shownChar
            split
            · decide
            · exact ⟨quote, backslash⟩
          simpa using readText_plain rest shown.1 shown.2
  all_goals rfl

theorem toList_quoted (s : String) :
    (quoted s).toList = '"' :: s.toList.flatMap (fun c => (charText c).toList) ++ ['"'] := by
  simp [quoted, String.toList_join, List.flatMap_map]

theorem readText_charTexts (s rest : List Char) :
    readText (s.flatMap (fun c => (charText c).toList) ++ '"' :: rest) =
      some (s.map Text.shownChar, rest) := by
  induction s with
  | nil => rfl
  | cons c s ih => rw [List.flatMap_cons, List.append_assoc, readText_charText, ih]; rfl

theorem readText_quoted (s : String) (rest : List Char) :
    ∃ cs, (quoted s).toList ++ rest = '"' :: cs ∧
      readText cs = some ((Text.shown s).toList, rest) := by
  refine ⟨s.toList.flatMap (fun c => (charText c).toList) ++ '"' :: rest,
    by simp [toList_quoted], ?_⟩
  rw [readText_charTexts, Text.shown, String.toList_ofList]

/-! ## Numbers -/

/-- The rest of a text does not go on with a digit. -/
def Stops (rest : List Char) : Prop := ∀ c ∈ rest.head?, c.isDigit = false

theorem readDigits_repr (n : Nat) {rest : List Char} (stops : Stops rest) :
    readDigits ((Nat.repr n).toList ++ rest) = some (n, rest) := by
  have digits : ∀ c ∈ Nat.toDigits 10 n, c.isDigit = true := fun c =>
    Nat.isDigit_of_mem_toDigits (by decide) (by decide)
  have ends : rest.takeWhile Char.isDigit = [] ∧ rest.dropWhile Char.isDigit = rest := by
    cases rest with
    | nil => exact ⟨rfl, rfl⟩
    | cons c rest => simp [stops c rfl]
  rw [Nat.repr_eq_ofList_toDigits, String.toList_ofList, readDigits,
    List.takeWhile_append_of_pos digits, List.dropWhile_append_of_pos digits, ends.1, ends.2,
    List.append_nil]
  split
  · exact absurd ‹_› Nat.toDigits_ne_nil
  · rw [Nat.ofDigitChars_ten_toDigits]

theorem readNumber_of_readDigits {cs : List Char} {r : Nat × List Char}
    (digits : readDigits cs = some r) : readNumber cs = some (.number r.1, r.2) := by
  unfold readNumber
  split
  · cases digits
  · rw [digits]
    rfl

theorem readNumber_intText (n : Int) {rest : List Char} (stops : Stops rest) :
    readNumber ((Text.intText n).toList ++ rest) = some (.number n, rest) := by
  cases n with
  | negSucc k =>
      have written : (Text.intText (.negSucc k)).toList = '-' :: (Nat.repr (k + 1)).toList := by
        simp [Text.intText]
      rw [written, List.cons_append, readNumber, readDigits_repr (k + 1) stops]
      rfl
  | ofNat k => exact readNumber_of_readDigits (readDigits_repr k stops)

/-! ## Blanks -/

theorem skipBlanks_newLine (level : Nat) (cs : List Char) :
    skipBlanks ((newLine level).toList ++ cs) = skipBlanks cs := by
  refine List.dropWhile_append_of_pos fun c member => ?_
  simp only [newLine, String.toList_append, String.toList_ofList, List.mem_append,
    List.mem_replicate] at member
  rcases member with first | ⟨-, rfl⟩
  · obtain rfl : c = '\n' := by simpa using first
    rfl
  · rfl

/-- A number does not start with a blank. -/
theorem skipBlanks_of_readNumber {cs : List Char} {r : Tree × List Char}
    (number : readNumber cs = some r) : skipBlanks cs = cs := by
  cases cs with
  | nil => rfl
  | cons c cs =>
      refine List.dropWhile_cons_of_neg fun blank => ?_
      obtain rfl | rfl : c = ' ' ∨ c = '\n' := by simpa using blank
      all_goals cases number

theorem readTree_newLine (fuel level : Nat) (cs : List Char) :
    readTree fuel ((newLine level).toList ++ cs) = readTree fuel cs := by
  cases fuel <;> simp only [readTree, skipBlanks_newLine]

theorem readField_newLine (fuel level : Nat) (cs : List Char) :
    readField fuel ((newLine level).toList ++ cs) = readField fuel cs := by
  cases fuel <;> simp only [readField, skipBlanks_newLine]

/-! ## Values -/

theorem stops_newLine (level : Nat) (cs : List Char) : Stops ((newLine level).toList ++ cs) := by
  simp [Stops, newLine]

theorem stops_renderItems (level : Nat) (ts : List Tree) {cs : List Char} (stops : Stops cs) :
    Stops ((renderItems level ts).toList ++ cs) := by
  cases ts with
  | nil => simpa [renderItems] using stops
  | cons t ts => simp [Stops, renderItems]

theorem stops_renderFields (level : Nat) (fs : List (String × Tree)) {cs : List Char}
    (stops : Stops cs) : Stops ((renderFields level fs).toList ++ cs) := by
  cases fs with
  | nil => simpa [renderFields] using stops
  | cons f fs => simp [Stops, renderFields]

/-- A field is read back if its value is. -/
theorem readField_quoted {fuel : Nat} {cs rest : List Char} {t : Tree} (name : String)
    (value : readTree fuel cs = some (t, rest)) :
    readField (fuel + 1) ((quoted name).toList ++ ':' :: ' ' :: cs) =
      some ((Text.shown name, t), rest) := by
  obtain ⟨inside, written, named⟩ := readText_quoted name (':' :: ' ' :: cs)
  have blank : readTree fuel (' ' :: cs) = readTree fuel cs := by cases fuel <;> rfl
  rw [written, readField]
  simp [skipBlanks, named, blank, value]

/-! ### One layer of a value -/

section Layers

variable (fuel : Nat) (cs rest : List Char)

theorem readTree_null : readTree (fuel + 1) ("null".toList ++ rest) = some (.null, rest) := by
  simp [readTree, skipBlanks, readNumber, readDigits]

theorem readTree_flag (b : Bool) :
    readTree (fuel + 1) ((if b then "true" else "false").toList ++ rest) =
      some (.flag b, rest) := by
  cases b <;> simp [readTree, skipBlanks, readNumber, readDigits]

theorem readTree_of_readNumber {r : Tree × List Char} (number : readNumber cs = some r) :
    readTree (fuel + 1) cs = some r := by
  rw [readTree, skipBlanks_of_readNumber number, number]
  rfl

theorem readTree_quoted (s : String) :
    readTree (fuel + 1) ((quoted s).toList ++ rest) = some (.text (Text.shown s), rest) := by
  obtain ⟨inside, written, read⟩ := readText_quoted s rest
  rw [written]
  simp [readTree, skipBlanks, readNumber, readDigits, read]

theorem readTree_bracket : readTree (fuel + 1) ('[' :: cs) =
    match readTree fuel cs with
    | some (t, rest) => (readItems fuel rest).map fun r => (.list (t :: r.1), r.2)
    | none =>
      match skipBlanks cs with
      | ']' :: rest => some (.list [], rest)
      | _ => none := by
  simp [readTree, skipBlanks, readNumber, readDigits]

theorem readTree_brace : readTree (fuel + 1) ('\x7b' :: cs) =
    match readField fuel cs with
    | some (f, rest) => (readFields fuel rest).map fun r => (.object (f :: r.1), r.2)
    | none =>
      match skipBlanks cs with
      | '\x7d' :: rest => some (.object [], rest)
      | _ => none := by
  simp [readTree, skipBlanks, readNumber, readDigits]

end Layers

theorem length_newLine (level : Nat) : (newLine level).length = 2 * level + 1 := by
  have one : "\n".length = 1 := rfl
  simp [newLine, one, Nat.add_comm]

mutual

/-- **A value is read back**, and nothing of what comes after it. -/
theorem readTree_render (level fuel : Nat) (rest : List Char) : ∀ t : Tree,
    (render level t).length ≤ fuel → Stops rest →
      readTree (fuel + 1) ((render level t).toList ++ rest) = some (t.shown, rest)
  | .null => fun _ _ => by rw [render, Tree.shown, readTree_null]
  | .flag b => fun _ _ => by rw [render, Tree.shown, readTree_flag]
  | .number n => fun _ stops => by
      rw [render, Tree.shown, readTree_of_readNumber fuel _ (readNumber_intText n stops)]
  | .text s => fun _ _ => by rw [render, Tree.shown, readTree_quoted]
  | .list [] => fun _ _ => by
      rw [render, Tree.shown, shownItems]
      cases fuel <;> simp [readTree, skipBlanks, readNumber, readDigits]
  | .list (t :: ts) => fun enough _ => by
      simp only [render, String.length_append, length_newLine] at enough
      obtain ⟨fuel, rfl⟩ : ∃ k, fuel = k + 1 := ⟨fuel - 1, by omega⟩
      have first := readTree_render (level + 1) fuel
        ((renderItems (level + 1) ts).toList ++ ((newLine level).toList ++ ']' :: rest)) t
        (by omega) (stops_renderItems _ ts (stops_newLine level _))
      have others := readItems_render (level + 1) level fuel rest ts (by omega)
      have written : (render level (.list (t :: ts))).toList ++ rest =
          '[' :: ((newLine (level + 1)).toList ++ ((render (level + 1) t).toList ++
            ((renderItems (level + 1) ts).toList ++ ((newLine level).toList ++ ']' :: rest)))) := by
        simp [render]
      rw [written, readTree_bracket, readTree_newLine, first, Tree.shown, shownItems]
      simp only [others, Option.map_some]
  | .object [] => fun _ _ => by
      rw [render, Tree.shown, shownFields]
      cases fuel <;> simp [readTree_brace, readField, skipBlanks]
  | .object (f :: fs) => fun enough _ => by
      simp only [render, String.length_append, length_newLine] at enough
      obtain ⟨fuel, rfl⟩ : ∃ k, fuel = k + 1 + 1 := ⟨fuel - 2, by omega⟩
      have value := readTree_render (level + 1) fuel
        ((renderFields (level + 1) fs).toList ++ ((newLine level).toList ++ '\x7d' :: rest)) f.2
        (by omega) (stops_renderFields _ fs (stops_newLine level _))
      have others := readFields_render (level + 1) level (fuel + 1) rest fs (by omega)
      have written : (render level (.object (f :: fs))).toList ++ rest =
          '\x7b' :: ((newLine (level + 1)).toList ++
            ((quoted f.1).toList ++ ':' :: ' ' :: ((render (level + 1) f.2).toList ++
              ((renderFields (level + 1) fs).toList ++
                ((newLine level).toList ++ '\x7d' :: rest))))) := by
        simp [render]
      rw [written, readTree_brace, readField_newLine, readField_quoted f.1 value,
        Tree.shown, shownFields]
      simp only [others, Option.map_some]

theorem readItems_render (level outer fuel : Nat) (rest : List Char) : ∀ ts : List Tree,
    (renderItems level ts).length ≤ fuel →
      readItems (fuel + 1)
        ((renderItems level ts).toList ++ ((newLine outer).toList ++ ']' :: rest)) =
        some (shownItems ts, rest)
  | [] => fun _ => by
      rw [renderItems, shownItems, String.toList_empty, List.nil_append, readItems,
        skipBlanks_newLine]
      rfl
  | t :: ts => fun enough => by
      simp only [renderItems, String.length_append, length_newLine] at enough
      obtain ⟨fuel, rfl⟩ : ∃ k, fuel = k + 1 := ⟨fuel - 1, by omega⟩
      have first := readTree_render level fuel
        ((renderItems level ts).toList ++ ((newLine outer).toList ++ ']' :: rest)) t (by omega)
        (stops_renderItems _ ts (stops_newLine outer _))
      have others := readItems_render level outer fuel rest ts (by omega)
      have written : (renderItems level (t :: ts)).toList ++
          ((newLine outer).toList ++ ']' :: rest) =
          ',' :: ((newLine level).toList ++ ((render level t).toList ++
            ((renderItems level ts).toList ++ ((newLine outer).toList ++ ']' :: rest)))) := by
        simp [renderItems]
      rw [written, readItems, shownItems]
      simp [skipBlanks, readTree_newLine, first, others]

theorem readFields_render (level outer fuel : Nat) (rest : List Char) : ∀ fs : List (String × Tree),
    (renderFields level fs).length ≤ fuel →
      readFields (fuel + 1)
        ((renderFields level fs).toList ++ ((newLine outer).toList ++ '\x7d' :: rest)) =
        some (shownFields fs, rest)
  | [] => fun _ => by
      rw [renderFields, shownFields, String.toList_empty, List.nil_append, readFields,
        skipBlanks_newLine]
      rfl
  | f :: fs => fun enough => by
      simp only [renderFields, String.length_append, length_newLine] at enough
      have comma : ",".length = 1 := rfl
      obtain ⟨fuel, rfl⟩ : ∃ k, fuel = k + 1 + 1 := ⟨fuel - 2, by omega⟩
      have value := readTree_render level fuel
        ((renderFields level fs).toList ++ ((newLine outer).toList ++ '\x7d' :: rest)) f.2
        (by omega) (stops_renderFields _ fs (stops_newLine outer _))
      have others := readFields_render level outer (fuel + 1) rest fs (by omega)
      have written : (renderFields level (f :: fs)).toList ++
          ((newLine outer).toList ++ '\x7d' :: rest) =
          ',' :: ((newLine level).toList ++
            ((quoted f.1).toList ++ ':' :: ' ' :: ((render level f.2).toList ++
            ((renderFields level fs).toList ++ ((newLine outer).toList ++ '\x7d' :: rest))))) := by
        simp [renderFields]
      rw [written, readFields, shownFields]
      simp [skipBlanks, readField_newLine, readField_quoted f.1 value, others]

end

/-- **The text of a value is read back as the value**, with texts as they are shown. -/
theorem read_ofTree (t : Tree) : read (ofTree t) = some t.shown := by
  have whole := readTree_render 0 (render 0 t).length [] t (Nat.le_refl _) (by simp [Stops])
  rw [List.append_nil] at whole
  rw [read, ofTree, whole]

end JsonText

end Exposure
