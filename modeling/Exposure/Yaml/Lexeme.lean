/-
# Yaml.Lexeme — scalars, anchors, tags and directives

Each reader takes the cursor at the first character of its lexeme and gives the
text it stands for and the place behind it, or the fault of a malformed lexeme.

Lines of a scalar are joined: one break between two lines becomes a space, and
each further one a line feed.  A quoted scalar keeps blanks within a line, a
block scalar is cut at an indentation, and a plain scalar ends where an
indicator or a smaller indentation follows.
-/
import Exposure.Text.Octets
import Exposure.Yaml.Cursor
import Exposure.Yaml.Fault

namespace Exposure.Yaml

set_option autoImplicit false

/-- A fault here in a lexeme that starts on line `start`. -/
def Cursor.fault {α : Type} (c : Cursor) (start : Nat) (cause : Fault.Cause) : Except Fault α :=
  .error (.lexical start c.line cause)

/-! ## Joining lines -/

/-- Text with the blanks and breaks that follow it and are not joined yet. -/
structure Joined where
  text : String := ""
  blanks : String := ""
  /-- The first break after the text. -/
  first : String := ""
  /-- The breaks after the first. -/
  later : String := ""
  /-- Whether a break was seen. -/
  broken : Bool := false
  deriving Repr

namespace Joined

/-- The text with what follows it joined on. -/
def settle (j : Joined) : Joined :=
  if j.broken then
    if j.first == "\n" then { text := if j.later.isEmpty then j.text ++ " " else j.text ++ j.later }
    else { text := j.text ++ j.first ++ j.later }
  else { text := j.text ++ j.blanks }

/-- Blanks and breaks read onto the text of a scalar that starts on line `start`.  A tab before
column `limit` of a new line is refused. -/
def gaps (start : Nat) (limit : Int) : Nat → Joined → Cursor → Except Fault (Joined × Cursor)
  | 0, j, c => .ok (j, c)
  | fuel + 1, j, c =>
    match c.head? with
    | none => .ok (j, c)
    | some x =>
      if isGap x then
        if j.broken then
          if (c.column : Int) < limit && x == '\t' then c.fault start .tabInIndentation
          else gaps start limit fuel j c.skip
        else gaps start limit fuel { j with blanks := j.blanks.push x } c.skip
      else if isBreak x then
        let (br, c) := c.readBreak
        if j.broken then gaps start limit fuel { j with later := j.later ++ br } c
        else gaps start limit fuel { j with blanks := "", first := br, broken := true } c
      else .ok (j, c)

end Joined

/-! ## Plain scalars -/

/-- Whether a plain scalar ends before this character. -/
def endsPlain (flow : Bool) (x : Char) (c : Cursor) : Bool :=
  (x == ':' && c.isSpaceAt 1) ||
    (flow && (x == ',' || x == '?' || x == '[' || x == ']' || x == '\x7b' || x == '\x7d'))

/-- The characters of a plain scalar up to a blank or its end. -/
def plainWord (flow : Bool) : Nat → Joined → Cursor → Joined × Cursor
  | 0, j, c => (j, c)
  | fuel + 1, j, c =>
    match c.head? with
    | none => (j, c)
    | some x =>
      if isGap x || isBreak x || endsPlain flow x c then (j, c)
      else
        let j := j.settle
        plainWord flow fuel { j with text := j.text.push x } c.skip

/-- A plain scalar that starts on line `start`; its other lines start at column `indent` or
behind it. -/
def plainLines (start : Nat) (flow : Bool) (indent : Int) :
    Nat → Joined → Cursor → Except Fault (Joined × Cursor)
  | 0, j, c => .ok (j, c)
  | fuel + 1, j, c =>
    if c.atDocumentMark || c.sees 0 '#' then .ok (j, c)
    else
      let (j, c) := plainWord flow (c.rest.length + 1) j c
      if c.atGap || c.atBreak then
        match Joined.gaps start indent (c.rest.length + 1) j c with
        | .error e => .error e
        | .ok (j, c) =>
          if !flow && (c.column : Int) < indent then .ok (j, c)
          else plainLines start flow indent fuel j c
      else .ok (j, c)

/-- A plain scalar, the place behind it and whether that is on a later line. -/
def plainScalar (flow : Bool) (indent : Int) (c : Cursor) : Except Fault (String × Cursor × Bool) :=
  (plainLines c.line flow indent (c.rest.length + 1) {} c).map fun (j, c) => (j.text, c, j.broken)

/-! ## Quoted scalars -/

/-- The character that a letter stands for after a backslash. -/
def escaped? (x : Char) : Option Char :=
  match x with
  | '0' => some '\x00'
  | 'a' => some '\x07'
  | 'b' => some '\x08'
  | 't' => some '\t'
  | '\t' => some '\t'
  | 'n' => some '\n'
  | 'v' => some '\x0b'
  | 'f' => some '\x0c'
  | 'r' => some '\r'
  | 'e' => some '\x1b'
  | ' ' => some ' '
  | '"' => some '"'
  | '\'' => some '\''
  | '\\' => some '\\'
  | 'N' => some '\u0085'
  | '_' => some '\u00a0'
  | 'L' => some '\u2028'
  | 'P' => some '\u2029'
  | _ => none

/-- How many hexadecimal digits follow a letter after a backslash. -/
def codeLength (x : Char) : Nat :=
  if x == 'x' then 2 else if x == 'u' then 4 else if x == 'U' then 8 else 0

/-- The character with a number written in hexadecimal digits. -/
def codePoint (digits : List Char) : Except Fault.Cause Char :=
  if digits.all (Text.digitValue · < 16) then
    let n := Text.digitsValue 16 (digits.map Text.digitValue)
    if (0xD800 ≤ n && n ≤ 0xDFFF) || 0x10FFFF < n then .error .invalidCodePoint
    else .ok (Char.ofNat n)
  else .error .missingHexadecimal

/-- What an escape stands for, after its backslash, and how many characters that takes. -/
def escape (x : Char) (r : List Char) : Except Fault.Cause (Char × Nat) :=
  let n := codeLength x
  if n == 0 then
    match escaped? x with
    | some y => .ok (y, 1)
    | none => .error .unknownEscape
  else if r.length < n then .error .missingHexadecimal
  else (codePoint (r.take n)).map (·, n + 1)

/-- The characters of a quoted scalar up to a blank, its end or an escaped break. -/
def quotedWord (start : Nat) (single : Bool) :
    Nat → Joined → Cursor → Except Fault (Joined × Cursor)
  | 0, j, c => .ok (j, c)
  | fuel + 1, j, c =>
    match c.rest with
    | [] => .ok (j, c)
    | x :: r =>
      let plus (y : Char) : Joined := { j with text := j.text.push y }
      if isGap x || isBreak x then .ok (j, c)
      else if single then
        if x == '\'' then
          if r.head? == some '\'' then quotedWord start single fuel (plus '\'') (c.skipN 2)
          else .ok (j, c)
        else quotedWord start single fuel (plus x) c.skip
      else if x == '"' then .ok (j, c)
      else if x == '\\' then
        match r with
        | [] => c.fault start .unknownEscape
        | y :: digits =>
          if isBreak y then .ok ({ j with broken := true }, c.skip.skipBreak)
          else match escape y digits with
            | .error cause => c.fault start cause
            | .ok (z, width) => quotedWord start single fuel (plus z) (c.skipN (width + 1))
      else quotedWord start single fuel (plus x) c.skip

/-- The inside of a quoted scalar and the place behind its closing quote. -/
def quotedLines (start : Nat) (single : Bool) :
    Nat → Joined → Cursor → Except Fault (String × Cursor)
  | 0, _, c => c.fault start .unclosedQuote
  | fuel + 1, j, c =>
    if c.atDocumentMark then c.fault start .documentMark
    else if c.atEnd then c.fault start .unclosedQuote
    else match quotedWord start single (c.rest.length + 1) j c with
      | .error e => .error e
      | .ok (j, c) =>
        if c.sees 0 (if single then '\'' else '"') then .ok (j.text, c.skip)
        else match Joined.gaps start 0 (c.rest.length + 1) j c with
          | .error e => .error e
          | .ok (j, c) => quotedLines start single fuel j.settle c

/-- A quoted scalar. -/
def quotedScalar (single : Bool) (c : Cursor) : Except Fault (String × Cursor) :=
  quotedLines c.line single (c.rest.length + 1) {} c.skip

/-! ## Block scalars -/

/-- What becomes of the breaks at the end of a block scalar. -/
inductive Chomp where
  | strip
  | clip
  | keep
  deriving DecidableEq

/-- The chomping and indentation indicators of a block scalar, in either order. -/
def blockIndicators (c : Cursor) : Except Fault (Chomp × Nat × Cursor) :=
  let chomp? (c : Cursor) : Option (Chomp × Cursor) :=
    if c.sees 0 '+' then some (.keep, c.skip)
    else if c.sees 0 '-' then some (.strip, c.skip) else none
  let digit? (c : Cursor) : Option (Nat × Cursor) :=
    match c.head? with
    | some x => if Text.isDigit x then some (Text.digitValue x, c.skip) else none
    | none => none
  let zero : Except Fault (Chomp × Nat × Cursor) := c.fault c.line .zeroIndentation
  match chomp? c with
  | some (chomp, c) =>
    match digit? c with
    | some (n, c) => if n == 0 then zero else .ok (chomp, n, c)
    | none => .ok (chomp, 0, c)
  | none =>
    match digit? c with
    | some (n, c) =>
      if n == 0 then zero
      else match chomp? c with
        | some (chomp, c) => .ok (chomp, n, c)
        | none => .ok (.clip, n, c)
    | none => .ok (.clip, 0, c)

/-- Empty lines and the indentation of the next line, in front of column `indent` or, when
that is zero, anywhere; with the breaks read and the largest column reached. -/
def blockBreaks (start indent : Nat) :
    Nat → Nat → String → Cursor → Except Fault (String × Nat × Cursor)
  | 0, reached, breaks, c => .ok (breaks, reached, c)
  | fuel + 1, reached, breaks, c =>
    let spaces := (c.rest.takeWhile (· == ' ')).length
    let c := c.skipN (if indent == 0 then spaces else min spaces (indent - c.column))
    let reached := max reached c.column
    if (indent == 0 || c.column < indent) && c.sees 0 '\t' then c.fault start .tabForSpace
    else if c.atBreak then
      let (br, c) := c.readBreak
      blockBreaks start indent fuel reached (breaks ++ br) c
    else .ok (breaks, reached, c)

/-- The lines of a block scalar at column `indent`; `lead` is the break before the line and
`later` the breaks after that one. -/
def blockLines (start : Nat) (literal : Bool) (indent : Nat) :
    Nat → String → String → String → Bool → Cursor →
      Except Fault (String × String × String × Cursor)
  | 0, text, lead, later, _, c => .ok (text, lead, later, c)
  | fuel + 1, text, lead, later, wasBlank, c =>
    if c.column != indent || c.atEnd then .ok (text, lead, later, c)
    else
      let blank := c.atGap
      let text :=
        if !literal && !wasBlank && !blank && lead == "\n" then
          if later.isEmpty then text ++ " " else text
        else text ++ lead
      let text := text ++ later
      let (words, c) := c.readWhile (!isBreak ·)
      let (lead, c) := c.readBreak
      match blockBreaks start indent (c.rest.length + 1) 0 "" c with
      | .error e => .error e
      | .ok (later, _, c) =>
        blockLines start literal indent fuel (text ++ words) lead later blank c

/-- Past the blanks and the comment at the end of a line. -/
def lineEnd (start : Nat) (c : Cursor) : Except Fault Cursor :=
  let c := c.skipGaps
  let c := if c.sees 0 '#' then c.skipToLineEnd else c
  if c.atLineEnd then .ok c.skipBreak else c.fault start .missingLineEnd

/-- A block scalar under the indentation `parent`. -/
def blockScalar (literal : Bool) (parent : Int) (c : Cursor) : Except Fault (String × Cursor) := do
  let start := c.line
  let (chomp, increment, c) ← blockIndicators c.skip
  let c ← lineEnd start c
  let indent := if increment == 0 then 0 else (max parent 0).toNat + increment
  let (later, reached, c) ← blockBreaks start indent (c.rest.length + 1) 0 "" c
  let indent := if indent == 0 then max 1 (max reached (parent + 1).toNat) else indent
  let (text, lead, later, c) ←
    blockLines start literal indent (c.rest.length + 1) "" "" later false c
  let text := if chomp == .strip then text else text ++ lead
  return (if chomp == .keep then text ++ later else text, c)

/-! ## Anchors, tags and directives -/

/-- The name of an anchor or an alias, after its indicator. -/
def anchorName (c : Cursor) : Except Fault (String × Cursor) :=
  let (name, c) := c.skip.readWhile isWord
  let ends := c.isSpaceAt 0 ||
    c.head?.any (fun x => x == '?' || x == ':' || x == ',' || x == ']' || x == '\x7d' || x == '%'
      || x == '@' || x == '\x60')
  if name.isEmpty || !ends then c.fault c.line .anchorName else .ok (name, c)

/-- A character of a tag's address that needs no escape. -/
def isAddress (c : Char) : Bool := isWord c || ";/?:@&=+$,.!~*'()[]".toList.contains c

/-- How many bytes a character has that starts with the byte `n`; zero when none does. -/
def octetCount (n : Nat) : Nat :=
  if n < 0x80 then 1 else if n < 0xC0 then 0 else if n < 0xE0 then 2 else if n < 0xF0 then 3
  else if n < 0xF8 then 4 else 0

/-- A byte that a percent sign and two hexadecimal digits write. -/
def octet (c : Cursor) : Except Fault (Nat × Cursor) :=
  match c.rest with
  | '%' :: a :: b :: _ =>
    if Text.digitValue a < 16 && Text.digitValue b < 16 then
      .ok (Text.digitValue a * 16 + Text.digitValue b, c.skipN 3)
    else c.fault c.line .missingOctet
  | _ => c.fault c.line .missingOctet

/-- The `n` bytes of a character after its first. -/
def trailingOctets : Nat → Cursor → Except Fault (List Nat × Cursor)
  | 0, c => .ok ([], c)
  | n + 1, c => do
    let (b, c') ← octet c
    if b < 0x80 || 0xC0 ≤ b then c.fault c.line .trailingOctet
    let (bs, c') ← trailingOctets n c'
    return (b :: bs, c')

/-- The text that escaped bytes write: as many as the first of them asks for. -/
def escapedChar (c : Cursor) : Except Fault (String × Cursor) := do
  let (b, c') ← octet c
  if octetCount b = 0 then c.fault c.line .leadingOctet
  let (bs, c') ← trailingOctets (octetCount b - 1) c'
  return (Text.ofOctets ((b :: bs).map Nat.toUInt8), c')

/-- The address of a tag onto `acc`. -/
def address : Nat → String → Cursor → Except Fault (String × Cursor)
  | 0, acc, c => .ok (acc, c)
  | fuel + 1, acc, c =>
    match c.head? with
    | some '%' =>
      match escapedChar c with
      | .error e => .error e
      | .ok (s, c) => address fuel (acc ++ s) c
    | some x => if isAddress x then address fuel (acc.push x) c.skip else .ok (acc, c)
    | none => .ok (acc, c)

/-- The address of a tag, which is not empty. -/
def wholeAddress (c : Cursor) : Except Fault (String × Cursor) := do
  let (a, c) ← address (c.rest.length + 1) "" c
  if a.isEmpty then c.fault c.line .missingAddress else return (a, c)

/-- A tag: its handle, which is empty for a full address and for a lone exclamation mark, and
what follows the handle. -/
def tagParts (c : Cursor) : Except Fault (String × String × Cursor) := do
  let ended (handle suffix : String) (c : Cursor) : Except Fault (String × String × Cursor) :=
    if c.isSpaceAt 0 then .ok (handle, suffix, c) else c.fault c.line .unendedTag
  if c.sees 1 '<' then
    let (suffix, c) ← wholeAddress (c.skipN 2)
    if c.sees 0 '>' then ended "" suffix c.skip else c.fault c.line .unclosedAddress
  else
    let (word, after) := c.skip.readWhile isWord
    if after.sees 0 '!' then
      let (suffix, c) ← wholeAddress after.skip
      ended ("!" ++ word ++ "!") suffix c
    else
      let (suffix, c) ← address (c.rest.length + 1) word after
      if suffix.isEmpty then ended "" "!" c else ended "!" suffix c

/-- What a directive says. -/
inductive Directive where
  | version (major minor : Nat)
  | tagHandle (handle stem : String)

/-- A number of at most two digits. -/
def shortNumber (c : Cursor) : Except Fault (Nat × Cursor) :=
  let (digits, c) := c.readWhile Text.isDigit
  if digits.isEmpty then c.fault c.line .missingNumber
  else if 2 < digits.length then c.fault c.line .longNumber
  else .ok (Text.digitsValue 10 (digits.toList.map Text.digitValue), c)

/-- What the directive of a version says. -/
def versionDirective (c : Cursor) : Except Fault (Directive × Cursor) := do
  let (major, c) ← shortNumber c.skipGaps
  if !c.sees 0 '.' then c.fault c.line .missingPoint
  let (minor, c) ← shortNumber c.skip
  return (.version major minor, c)

/-- What the directive of a tag's handle says. -/
def handleDirective (c : Cursor) : Except Fault (Directive × Cursor) := do
  let c := c.skipGaps
  if !c.sees 0 '!' then c.fault c.line .missingHandle
  let (word, c) := c.skip.readWhile isWord
  let closed := c.sees 0 '!'
  if !closed && word != "" then c.fault c.line .missingHandle
  let c := if closed then c.skip else c
  if !c.atGap then c.fault c.line .missingBlank
  let (stem, c) ← wholeAddress c.skipGaps
  if !c.isSpaceAt 0 then c.fault c.line .unendedTag
  return (.tagHandle ("!" ++ word ++ (if closed then "!" else "")) stem, c)

/-- A directive with the rest of its line. -/
def directive (c : Cursor) : Except Fault (Directive × Cursor) := do
  let (name, c) := c.skip.readWhile isWord
  if name.isEmpty then c.fault c.line .missingDirectiveName
  if !c.isSpaceAt 0 then c.fault c.line .directiveName
  let (d, c) ←
    if name == "YAML" then versionDirective c
    else if name == "TAG" then handleDirective c
    else c.fault c.line .unknownDirective
  return (d, ← lineEnd c.line c)

end Exposure.Yaml
