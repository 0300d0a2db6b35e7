/-
# Regex.Pattern — the notation of regular expressions

Groups `(…)`, `(?:…)`, `(?P<name>…)` and flags `(?i)`, classes in brackets, by escapes and by the
properties of characters, anchors, and the repetitions `*`, `+`, `?` and `{n,m}`, each with a `?`
behind it for a preference that makes no difference to whether a text matches. Repetitions do not
stack, count to a thousand at most, also when they are nested, and need something to repeat. There
are no back references and no look around. An expression has a greatest depth and a greatest size,
and its pattern has no byte that belongs to no character.
-/
import Exposure.Regex.Basic
import Exposure.Text.Property

namespace Exposure.Regex

set_option autoImplicit false

open Text

/-- What is wrong with a pattern, with the part of it that is. -/
inductive Fault where
  | range (part : String)
  | escape (part : String)
  | groupName (part : String)
  | group (part : String)
  | stackedRepetition (part : String)
  | count (part : String)
  | openClass (part : String)
  | openGroup (part : String)
  | nothingToRepeat (part : String)
  | loneBackslash
  | closedGroup (part : String)
  | strayByte (part : String)
  | tooDeep (part : String)
  | tooLarge (part : String)
  deriving DecidableEq, Repr

namespace Fault

def parts : Fault → String × String
  | .range s => ("invalid character class range", s)
  | .escape s => ("invalid escape sequence", s)
  | .groupName s => ("invalid named capture", s)
  | .group s => ("invalid or unsupported Perl syntax", s)
  | .stackedRepetition s => ("invalid nested repetition operator", s)
  | .count s => ("invalid repeat count", s)
  | .openClass s => ("missing closing ]", s)
  | .openGroup s => ("missing closing )", s)
  | .nothingToRepeat s => ("missing argument to repetition operator", s)
  | .loneBackslash => ("trailing backslash at end of expression", "")
  | .closedGroup s => ("unexpected )", s)
  | .strayByte s => ("invalid UTF-8", s)
  | .tooDeep s => ("expression nests too deeply", s)
  | .tooLarge s => ("expression too large", s)

def message (f : Fault) : String :=
  "error parsing regexp: " ++ f.parts.1 ++ ": `" ++ f.parts.2 ++ "`"

end Fault

/-- The part of a text before its rest `after`. -/
def upToRest (whole after : List Char) : String :=
  String.ofList (whole.take (whole.length - after.length))

/-- A text without stray bytes; otherwise it ends at the first of them, `after` the rest. -/
def wellFormed (t after : List Char) : Except Fault Unit :=
  match t.dropWhile fun c => (strayByte? c).isNone with
  | [] => .ok ()
  | rest => .error (.strayByte (String.ofList (rest ++ after)))

/-- The first character of a text, which is no stray byte. -/
def nextChar (t : List Char) : Except Fault Unit :=
  match t with
  | c :: _ => if (strayByte? c).isSome then .error (.strayByte (String.ofList t)) else .ok ()
  | [] => .ok ()

/-! ## Escapes -/

def isOctal (c : Char) : Bool := '0' ≤ c && c ≤ '7'

/-- Up to `n` octal digits onto `acc`. -/
def octalDigits : Nat → Nat → List Char → Nat × List Char
  | 0, acc, t => (acc, t)
  | _, acc, [] => (acc, [])
  | n + 1, acc, c :: r =>
    if isOctal c then octalDigits n (acc * 8 + digitValue c) r else (acc, c :: r)

/-- The hexadecimal digits up to a closing brace, of the escape `s`. -/
def bracedCode (s : List Char) : Nat → Nat → List Char → Except Fault (Nat × List Char)
  | _, _, [] => .error (.escape (String.ofList s))
  | count, acc, c :: r => do
    nextChar (c :: r)
    let bad : Except Fault (Nat × List Char) := .error (.escape (upToRest s r))
    if c == '\x7d' then if count == 0 then bad else .ok (acc, r)
    else if digitValue c < 16 then
      let acc := acc * 16 + digitValue c
      if 0x10FFFF < acc then bad else bracedCode s (count + 1) acc r
    else bad

/-- The code point of an escape that starts with a backslash. -/
def escape (s : List Char) : Except Fault (Nat × List Char) :=
  match s.tail with
  | [] => .error .loneBackslash
  | c :: t => do
    nextChar (c :: t)
    let bad (t : List Char) : Except Fault (Nat × List Char) := .error (.escape (upToRest s t))
    if c == '0' || (isOctal c && t.head?.any isOctal) then .ok (octalDigits 2 (digitValue c) t)
    else if c == 'x' then do
      nextChar t
      match t with
      | [] => bad []
      | '\x7b' :: t => bracedCode s 0 0 t
      | a :: b :: t => do
        nextChar (b :: t)
        if digitValue a < 16 && digitValue b < 16 then .ok (digitValue a * 16 + digitValue b, t)
        else bad t
      | [_] => bad []
    else if c == 'a' then .ok (7, t)
    else if c == 'f' then .ok (12, t)
    else if c == 'n' then .ok (10, t)
    else if c == 'r' then .ok (13, t)
    else if c == 't' then .ok (9, t)
    else if c == 'v' then .ok (11, t)
    else if c.toNat < 128 && !(isDigit c || isUpper c || isLower c) then .ok (c.toNat, t)
    else bad t

/-! ## Classes -/

/-- The class that a letter after a backslash stands for. -/
def letterClass? (c : Char) : Option CharItem :=
  let digits := [(48, 57)]
  let spaces := [(9, 10), (12, 13), (32, 32)]
  let words := [(48, 57), (65, 90), (95, 95), (97, 122)]
  match c with
  | 'd' => some { ranges := digits }
  | 'D' => some { negated := true, ranges := digits }
  | 's' => some { ranges := spaces }
  | 'S' => some { negated := true, ranges := spaces }
  | 'w' => some { ranges := words }
  | 'W' => some { negated := true, ranges := words }
  | _ => none

/-- The ranges of a class with a name. -/
def namedRanges? (name : String) : Option (List (Nat × Nat)) :=
  match name with
  | "alnum" => some [(48, 57), (65, 90), (97, 122)]
  | "alpha" => some [(65, 90), (97, 122)]
  | "ascii" => some [(0, 127)]
  | "blank" => some [(9, 9), (32, 32)]
  | "cntrl" => some [(0, 31), (127, 127)]
  | "digit" => some [(48, 57)]
  | "graph" => some [(33, 126)]
  | "lower" => some [(97, 122)]
  | "print" => some [(32, 126)]
  | "punct" => some [(33, 47), (58, 64), (91, 96), (123, 126)]
  | "space" => some [(9, 13), (32, 32)]
  | "upper" => some [(65, 90)]
  | "word" => some [(48, 57), (65, 90), (95, 95), (97, 122)]
  | "xdigit" => some [(48, 57), (65, 70), (97, 102)]
  | _ => none

/-- A class `[:name:]` at the front of a text; none when the text has no such form. -/
def namedClass? (t : List Char) : Option (Except Fault (CharItem × List Char)) :=
  match t with
  | '[' :: ':' :: r =>
    match cut [':', ']'] r with
    | none => none
    | some (name, after) =>
      let (negated, bare) := match name with
        | '^' :: n => (true, n)
        | n => (false, n)
      match namedRanges? (String.ofList bare) with
      | some ranges => some (.ok ({ negated, ranges }, after))
      | none => some (.error (.range (upToRest t after)))
  | _ => none

/-- The class of a property, or of all else when `flipped`; `part` is its notation. -/
def propertyItem (name : List Char) (flipped : Bool) (part : String) : Except Fault CharItem :=
  let (flipped, name) := match name with
    | '^' :: n => (!flipped, n)
    | n => (flipped, n)
  match Property.ofName? (String.ofList name) with
  | some p => .ok { negated := p.negated != flipped, ranges := p.ranges }
  | none => .error (.range part)

/-- A class `\p`, or `\P` for all others, of a property at the front of a text: the property
has one letter or stands in braces. -/
def propertyClass? (t : List Char) : Option (Except Fault (CharItem × List Char)) :=
  match t with
  | '\\' :: p :: r =>
    if p != 'p' && p != 'P' then none
    else
      match r with
      | '\x7b' :: braced =>
        match cut ['\x7d'] braced with
        | none => some do
          wellFormed braced []
          .error (.range (String.ofList t))
        | some (name, after) => some do
          wellFormed name []
          return (← propertyItem name (p == 'P') (upToRest t after), after)
      | c :: after => some do
        nextChar (c :: after)
        return (← propertyItem [c] (p == 'P') (upToRest t after), after)
      | [] => some (.error (.range (String.ofList t)))
  | _ => none

/-- A class by an escape at the front of a text. -/
def escapedClass? (t : List Char) : Option (Except Fault (CharItem × List Char)) :=
  match propertyClass? t with
  | some r => some r
  | none =>
    match t with
    | '\\' :: c :: r => (letterClass? c).map fun i => .ok (i, r)
    | _ => none

/-- One character within brackets. -/
def classChar (whole t : List Char) : Except Fault (Nat × List Char) :=
  match t with
  | [] => .error (.openClass (String.ofList whole))
  | '\\' :: _ => escape t
  | c :: r => do
    nextChar (c :: r)
    .ok (c.toNat, r)

/-- A character or a range within brackets. -/
def classRange (whole t : List Char) : Except Fault (CharItem × List Char) := do
  let (low, r) ← classChar whole t
  match r with
  | '-' :: c :: r' =>
    if c == ']' then return ({ ranges := [(low, low)] }, r)
    let (high, r) ← classChar whole (c :: r')
    if high < low then .error (.range (upToRest t r))
    else return ({ ranges := [(low, high)] }, r)
  | _ => return ({ ranges := [(low, low)] }, r)

/-- The items of a class up to its closing bracket; a bracket may be the first item. -/
def classItems (whole : List Char) :
    Nat → Bool → List CharItem → List Char → Except Fault (List CharItem × List Char)
  | 0, _, _, _ => .error (.openClass (String.ofList whole))
  | fuel + 1, first, items, t =>
    if t.head? == some ']' && !first then .ok (items.reverse, t.tail)
    else do
      let (item, t) ← match namedClass? t with
        | some r => r
        | none =>
          match escapedClass? t with
          | some r => r
          | none => classRange whole t
      classItems whole fuel false (item :: items) t

/-- A class in brackets. -/
def bracketClass (fold : Bool) (s : List Char) : Except Fault (CharClass × List Char) := do
  let (negated, t) := match s.tail with
    | '^' :: t => (true, t)
    | t => (false, t)
  let (items, t) ← classItems s (s.length + 1) true [] t
  return ({ negated, fold, items }, t)

/-! ## Repetitions -/

/-- A count without leading zeros; none inside when it is far too large. -/
def readCount (t : List Char) : Option (Option Nat × List Char) :=
  let digits := t.takeWhile isDigit
  if digits.isEmpty || (digits.head? == some '0' && 1 < digits.length) then none
  else
    let n := digitsValue 10 (digits.map digitValue)
    some (if n < 1000000000 then some n else none, t.drop digits.length)

/-- The bounds in braces, after the opening one: the least and the most, each none when it is
far too large; no upper bound is none altogether. -/
def readBounds (t : List Char) : Option (Option Nat × Option (Option Nat) × List Char) :=
  match readCount t with
  | none => none
  | some (least, '\x7d' :: r) => some (least, some least, r)
  | some (least, ',' :: '\x7d' :: r) => some (least, none, r)
  | some (least, ',' :: r) =>
    match readCount r with
    | some (most, '\x7d' :: r) => some (least, some most, r)
    | _ => none
  | _ => none

/-- Whether nested counts multiply to `n` at most. -/
def countsWithin : Regex → Nat → Bool
  | .group r, n => countsWithin r n
  | .sequence r s, n => countsWithin r n && countsWithin s n
  | .choice r s, n => countsWithin r n && countsWithin s n
  | .star r, n => countsWithin r n
  | .plus r, n => countsWithin r n
  | .optional r, n => countsWithin r n
  | .counted r least most, n =>
    let m := most.getD least
    if most == some 0 then true
    else if n < m then false
    else countsWithin r (if m == 0 then n else n / m)
  | _, _ => true

/-! ## Expressions -/

/-- What the flags of a group say. -/
structure Flags where
  fold : Bool := false
  multiline : Bool := false
  dotAll : Bool := false
  deriving DecidableEq, Repr

/-- A group that is open: its flags to come back to, whether it is one of its own, and what
stands before it. -/
structure Frame where
  flags : Flags
  counts : Bool
  choices : List Regex
  items : List Regex

/-- The state of reading a pattern: the open group's alternatives and items, the latest
first, and the groups around it. -/
structure Reading where
  flags : Flags := {}
  choices : List Regex := []
  items : List Regex := []
  outer : List Frame := []

/-- The expressions one after another, given the latest first. -/
def chain : List Regex → Regex
  | [] => .empty
  | r :: rest => rest.foldl (fun acc r => .sequence r acc) r

namespace Reading

/-- The expression of the open group. -/
def group (p : Reading) : Regex := p.choices.foldl (fun acc r => .choice r acc) (chain p.items)

def push (p : Reading) (r : Regex) : Reading := { p with items := r :: p.items }

def literal (p : Reading) (n : Nat) : Reading :=
  p.push (.one (.single p.flags.fold n))

/-- Opens a group. -/
def enter (p : Reading) (flags : Flags) (counts : Bool) : Reading :=
  { flags, outer := { flags := p.flags, counts, choices := p.choices, items := p.items } ::
    p.outer }

/-- An expression that is neither too large nor too deep. -/
def limited (whole : List Char) (r : Regex) : Except Fault Regex :=
  if 3355443 < r.size then .error (.tooLarge (String.ofList whole))
  else if 1000 < r.extent.depth then .error (.tooDeep (String.ofList whole))
  else .ok r

/-- The state with the last item repeated. -/
def repeatLast (whole : List Char) (p : Reading) (wrap : Regex → Regex) (isCount : Bool)
    (before after last : List Char) : Except Fault (Reading × List Char) :=
  let after := match after with
    | '?' :: r => r
    | r => r
  if !last.isEmpty then .error (.stackedRepetition (upToRest last after))
  else match p.items with
    | [] => .error (.nothingToRepeat (upToRest before after))
    | r :: rest => do
      let r ← limited whole (wrap r)
      if isCount && !countsWithin r 1000 then .error (.count (upToRest before after))
      else .ok ({ p with items := r :: rest }, after)

end Reading

/-- Flags being read: those to set and whether a minus turned them into those to clear. -/
def readFlags (s : List Char) (old : Flags) :
    Flags → Bool → Bool → List Char → Except Fault (Flags × Bool × List Char)
  | _, _, _, [] => .error (.group (String.ofList s))
  | flags, clearing, seen, c :: t => do
    nextChar (c :: t)
    let bad : Except Fault (Flags × Bool × List Char) := .error (.group (upToRest s t))
    if c == 'i' then readFlags s old { flags with fold := !clearing } clearing true t
    else if c == 'm' then readFlags s old { flags with multiline := !clearing } clearing true t
    else if c == 's' then readFlags s old { flags with dotAll := !clearing } clearing true t
    else if c == 'U' then readFlags s old flags clearing true t
    else if c == '-' then if clearing then bad else readFlags s old flags true false t
    else if c == ':' || c == ')' then
      if clearing && !seen then bad else .ok (flags, c == ':', t)
    else bad

/-- A group that starts with `(?`. -/
def specialGroup (p : Reading) (s : List Char) : Except Fault (Reading × List Char) :=
  let named (skip : Nat) : Except Fault (Reading × List Char) :=
    match cut ['>'] s with
    | none => do
      wellFormed s []
      .error (.groupName (String.ofList s))
    | some (before, after) => do
      let name := before.drop skip
      wellFormed name []
      if name.isEmpty || !name.all isWordChar then .error (.groupName (upToRest s after))
      else .ok (p.enter p.flags true, after)
  match s with
  | '(' :: '?' :: 'P' :: '<' :: _ :: _ => named 4
  | '(' :: '?' :: '<' :: _ :: _ => named 3
  | _ => do
    let (flags, opens, t) ← readFlags s p.flags p.flags false false (s.drop 2)
    if opens then return (p.enter flags false, t) else return ({ p with flags }, t)

/-- One step of reading: the state, the rest and the start of a repetition just read. -/
def step (whole : List Char) (p : Reading) (last t : List Char) :
    Except Fault (Reading × List Char × List Char) :=
  let done (p : Reading) (t : List Char) : Except Fault (Reading × List Char × List Char) :=
    .ok (p, [], t)
  let repeated (wrap : Regex → Regex) (isCount : Bool) (after : List Char) := do
    let (p, after) ← p.repeatLast whole wrap isCount t after last
    return (p, t, after)
  match t with
  | [] => done p []
  | '(' :: '?' :: _ => do
    let (p, t) ← specialGroup p t
    done p t
  | '(' :: r => done (p.enter p.flags true) r
  | '|' :: r => do
    let items ← Reading.limited whole (chain p.items)
    done { p with choices := items :: p.choices, items := [] } r
  | ')' :: r =>
    match p.outer with
    | [] => .error (.closedGroup (String.ofList whole))
    | f :: outer => do
      let inner ← Reading.limited whole (if f.counts then .group p.group else p.group)
      done { flags := f.flags, choices := f.choices, items := inner :: f.items, outer } r
  | '^' :: r => done (p.push (if p.flags.multiline then .lineStart else .textStart)) r
  | '$' :: r => done (p.push (if p.flags.multiline then .lineEnd else .textEnd)) r
  | '.' :: r => done (p.push (.one (if p.flags.dotAll then .any else .anyInLine))) r
  | '[' :: _ => do
    let (k, r) ← bracketClass p.flags.fold t
    done (p.push (.one k)) r
  | '*' :: r => repeated .star false r
  | '+' :: r => repeated .plus false r
  | '?' :: r => repeated .optional false r
  | '\x7b' :: r =>
    match readBounds r with
    | none => done (p.literal 0x7b) r
    | some (least, most, after) =>
      let ok := match least, most with
        | some a, none => decide (a ≤ 1000)
        | some a, some (some b) => decide (a ≤ b ∧ b ≤ 1000)
        | _, _ => false
      if ok then
        repeated (fun r => .counted r (least.getD 0) (most.map (·.getD 0)))
          (decide (2 ≤ least.getD 0) || decide (2 ≤ (most.bind id).getD 0)) after
      else .error (.count (upToRest t after))
  | '\\' :: 'A' :: r => done (p.push .textStart) r
  | '\\' :: 'b' :: r => done (p.push (.wordEdge false)) r
  | '\\' :: 'B' :: r => done (p.push (.wordEdge true)) r
  | '\\' :: 'C' :: r => .error (.escape (upToRest t r))
  | '\\' :: 'z' :: r => done (p.push .textEnd) r
  | '\\' :: 'Q' :: r => do
    let (quoted, after) := (cut ['\\', 'E'] r).getD (r, [])
    wellFormed quoted []
    done (quoted.foldl (fun p c => p.literal c.toNat) p) after
  | '\\' :: _ =>
    match escapedClass? t with
    | some found => do
      let (item, r) ← found
      done (p.push (.one { fold := p.flags.fold, items := [item] })) r
    | none => do
      let (n, r) ← escape t
      done (p.literal n) r
  | c :: r => do
    nextChar (c :: r)
    done (p.literal c.toNat) r

/-- The expression that the rest of a pattern makes of a state. -/
def readFrom (whole : List Char) : Nat → Reading → List Char → List Char → Except Fault Regex
  | 0, p, _, _ => .ok p.group
  | _, p, _, [] => do
    let r ← Reading.limited whole p.group
    if p.outer.isEmpty then .ok r else .error (.openGroup (String.ofList whole))
  | fuel + 1, p, last, t =>
    match step whole p last t with
    | .error f => .error f
    | .ok (p, last, t) => readFrom whole fuel p last t

/-- The expression that a pattern denotes. -/
def ofPattern (pattern : String) : Except Fault Regex :=
  readFrom pattern.toList (pattern.length + 1) {} [] pattern.toList

end Exposure.Regex
