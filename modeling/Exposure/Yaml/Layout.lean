/-
# Yaml.Layout — tokens from text

Outside brackets the indentation of a line opens and closes sequences and
mappings.  A scalar, an alias or an opening bracket may turn out to be the key
of a mapping when a colon follows it on the same line within 1024 characters;
the tokens that announce the key then stand in front of it.  Such a key is
required where a line starts at the indentation of an open mapping.

A reader of tokens always looks two tokens ahead, and past a token that may
start a key as far as it takes to know whether it does.  So it meets a fault
before it gets the tokens that stand that near to it.  The text comes in pieces
of 512 bytes, and a character that no document may hold is a fault as soon as
something of its piece is looked at.
-/
import Exposure.Yaml.Lexeme
import Exposure.Yaml.Token

namespace Exposure.Yaml

set_option autoImplicit false

/-- A place where a key may have started. -/
structure PossibleKey where
  required : Bool
  /-- How many tokens stood before it. -/
  number : Nat
  index : Nat
  line : Nat
  column : Nat
  deriving Repr

/-- The state of reading tokens. -/
structure Layout where
  cursor : Cursor
  /-- How many brackets are open. -/
  depth : Nat := 0
  /-- The indentation of the innermost open block; -1 when none is. -/
  indent : Int := -1
  outer : List Int := []
  /-- The possible key at each depth, the innermost first. -/
  keys : List (Option PossibleKey) := [none]
  /-- The line of the last possible key outside brackets. -/
  keyLine : Nat := 0
  keyAllowed : Bool := true
  tokens : Array Token := #[]
  deriving Inhabited

namespace Layout

/-- A character that a document may hold. -/
def isAllowed (c : Char) : Bool :=
  let n := c.toNat
  n == 0x09 || n == 0x0A || n == 0x0D || (0x20 ≤ n && n ≤ 0x7E) || n == 0x85 ||
    (0xA0 ≤ n && n ≤ 0xD7FF) || (0xE000 ≤ n && n ≤ 0xFFFD) || 0x10000 ≤ n

def inFlow (s : Layout) : Bool := s.depth != 0

/-- The state with a token at its end. -/
def push (s : Layout) (kind : Token.Kind) (line : Nat) : Layout :=
  { s with tokens := s.tokens.push ⟨kind, line⟩ }

/-- The state with a token put before the one with the number `k`. -/
def insertAt (s : Layout) (k : Nat) (kind : Token.Kind) (line : Nat) : Layout :=
  { s with tokens := s.tokens.insertIdxIfInBounds k ⟨kind, line⟩ }

/-! ## Keys -/

/-- The fault here of a cause of its own. -/
def fault {α : Type} (s : Layout) (cause : Fault.Cause) : Except Fault α :=
  s.cursor.fault s.cursor.line cause

/-- The fault of a required key without its colon. -/
def keyFault (s : Layout) (k : PossibleKey) : Fault := .lexical k.line s.cursor.line .missingColon

/-- Gives up the possible key of this depth; a fault when it is required. -/
def dropKey (s : Layout) : Except Fault Layout :=
  match s.keys with
  | some k :: rest =>
      if k.required then .error (s.keyFault k) else .ok { s with keys := none :: rest }
  | _ => .ok s

/-- Notes that a key may start here. -/
def saveKey (s : Layout) : Except Fault Layout :=
  if !s.keyAllowed then .ok s
  else
    (s.dropKey).map fun s =>
      let k : PossibleKey :=
        { required := !s.inFlow && s.indent == (s.cursor.column : Int), number := s.tokens.size,
          index := s.cursor.index, line := s.cursor.line, column := s.cursor.column }
      { s with keys := some k :: s.keys.tail, keyLine := if s.inFlow then s.keyLine else k.line }

/-- Whether a key that started at `k` may still end here. -/
def keyLives (s : Layout) (k : PossibleKey) : Bool :=
  s.cursor.line ≤ k.line && s.cursor.index ≤ k.index + 1024

/-! ## Indentation -/

/-- How deep brackets nest, and blocks. -/
def greatestDepth : Nat := 10000

/-- Opens a block at `column` if that is behind the current indentation; its token stands
before the one with the number `at?`, or at the end. -/
def roll (s : Layout) (column : Nat) (at? : Option Nat) (kind : Token.Kind) (line : Nat) :
    Except Fault Layout :=
  if s.inFlow || (column : Int) ≤ s.indent then .ok s
  else
    let s := { s with outer := s.indent :: s.outer, indent := column }
    if greatestDepth < s.outer.length then s.cursor.fault s.keyLine .tooDeep
    else match at? with
      | some k => .ok (s.insertAt k kind line)
      | none => .ok (s.push kind line)

/-- Closes the blocks behind `column`, on `line`. -/
def unrollBy (column : Int) (line : Nat) : List Int → Layout → Layout
  | [], s => s
  | i :: rest, s =>
    if column < s.indent then
      unrollBy column line rest ({ s with indent := i, outer := rest }.push .blockEnd line)
    else s

/-- Closes the blocks behind `column`; brackets suspend the indentation. -/
def unroll (s : Layout) (column : Int) (line : Nat) : Layout :=
  if s.inFlow then s else unrollBy column line s.outer s

/-! ## Blanks and comments -/

/-- How far ahead the next comment starts, if only blanks and line breaks stand before it. -/
def commentAhead? : Nat → Nat → List Char → Option Nat
  | 0, _, _ => none
  | _, _, [] => none
  | fuel + 1, k, c :: r =>
    if c == '#' then some k
    else if isGap c || c == '\n' || c == '\r' then commentAhead? fuel (k + 1) r
    else none

/-- Past a comment and the comments that follow it with only blank lines between. -/
def skipComments : Nat → Cursor → Cursor
  | 0, c => c
  | fuel + 1, c =>
    let c := c.skipToLineEnd
    match c.rest with
    | x :: r =>
      if x == '\n' || x == '\r' then
        match commentAhead? 511 1 r with
        | some k => skipComments fuel (c.advanceTo (c.index + k) (c.rest.length + 1))
        | none => c
      else c
    | [] => c

/-- Past a comment on the line of the last token, and the last character that is looked at for
it. -/
def skipLineComment (c : Cursor) : Cursor × Nat :=
  if c.breaks != 0 then (c, c.index)
  else
    let ahead := (c.rest.takeWhile isGap).length
    if ahead < 512 && c.sees ahead '#' then
      let c := c.skipToLineEnd
      (c, c.index)
    else (c, c.index + min ahead 511)

/-- To the next token: past blanks, comments and line breaks.  A line break lets a key start
outside brackets. -/
def toNextToken : Nat → Layout → Layout
  | 0, s => s
  | fuel + 1, s =>
    let c := s.cursor
    let c := if c.column == 0 && c.sees 0 '\uFEFF' then c.skip else c
    let tabs := s.inFlow || !s.keyAllowed
    let c := c.skipN (c.rest.takeWhile (fun x => x == ' ' || (tabs && x == '\t'))).length
    let c := if c.sees 0 '#' then skipComments (c.rest.length + 1) c else c
    if c.atBreak then
      toNextToken fuel { s with cursor := c.skipBreak, keyAllowed := s.keyAllowed || !s.inFlow }
    else { s with cursor := c }

/-! ## One token -/

/-- The state with a token of `width` characters that starts here, after `s`. -/
def indicator (s : Layout) (kind : Token.Kind) (width : Nat) : Layout :=
  { s with cursor := s.cursor.skipN width }.push kind s.cursor.line

/-- A bracket that opens. -/
def opening (s : Layout) (kind : Token.Kind) : Except Fault Layout := do
  let s ← s.saveKey
  if greatestDepth ≤ s.depth then s.fault .tooDeep
  return { s with keys := none :: s.keys, depth := s.depth + 1, keyAllowed := true }.indicator
    kind 1

/-- A bracket that closes. -/
def closing (s : Layout) (kind : Token.Kind) : Except Fault Layout :=
  (s.dropKey).map fun s =>
    let s := if s.inFlow then { s with depth := s.depth - 1, keys := s.keys.tail } else s
    { s with keyAllowed := false }.indicator kind 1

/-- A dash that starts an entry. -/
def entry (s : Layout) : Except Fault Layout := do
  if !s.inFlow && !s.keyAllowed then s.fault .strayDash
  let s ← s.roll s.cursor.column none .sequenceStart s.cursor.line
  let s ← s.dropKey
  return { s with keyAllowed := true }.indicator .dash 1

/-- A question mark that starts a key. -/
def explicitKey (s : Layout) : Except Fault Layout := do
  if !s.inFlow && !s.keyAllowed then s.fault .strayKey
  let s ← s.roll s.cursor.column none .mappingStart s.cursor.line
  let s ← s.dropKey
  return { s with keyAllowed := !s.inFlow }.indicator .key 1

/-- A colon that starts a value. -/
def valueMark (s : Layout) : Except Fault Layout :=
  let complex (s : Layout) : Except Fault Layout := do
    if !s.inFlow && !s.keyAllowed then s.fault .strayValue
    let s ← s.roll s.cursor.column none .mappingStart s.cursor.line
    return { s with keyAllowed := !s.inFlow }.indicator .value 1
  match s.keys with
  | some k :: rest =>
    if s.keyLives k then do
      let s ← (s.insertAt k.number .key k.line).roll k.column (some k.number) .mappingStart k.line
      return { s with keys := none :: rest, keyAllowed := false }.indicator .value 1
    else if k.required then .error (s.keyFault k)
    else complex { s with keys := none :: rest }
  | _ => complex s

/-- A scalar, an anchor, an alias or a tag that may start a key. -/
def lexeme (s : Layout) (read : Cursor → Except Fault (Token.Kind × Cursor)) :
    Except Fault Layout := do
  let s ← s.saveKey
  let (kind, c) ← read s.cursor
  return { s with cursor := c, keyAllowed := false }.push kind s.cursor.line

/-- A plain scalar; when it ends on a later line a key may start there. -/
def plain (s : Layout) : Except Fault Layout := do
  let s ← s.saveKey
  let (text, c, broken) ← plainScalar s.inFlow (s.indent + 1) s.cursor
  return { s with cursor := c, keyAllowed := broken }.push (.scalar text .plain) s.cursor.line

/-- A block scalar, after which a key may start. -/
def block (s : Layout) (literal : Bool) : Except Fault Layout := do
  let s ← s.dropKey
  let (text, c) ← blockScalar literal s.indent s.cursor
  return { s with cursor := c, keyAllowed := true }.push (.scalar text .block) s.cursor.line

/-- A directive or a document mark, which closes every block. -/
def boundary (s : Layout) (read : Cursor → Except Fault (Token.Kind × Cursor)) :
    Except Fault Layout := do
  let s ← (s.unroll (-1) s.cursor.line).dropKey
  let (kind, c) ← read s.cursor
  return { s with cursor := c, keyAllowed := false }.push kind s.cursor.line

/-- The characters that start no plain scalar on their own. -/
def isIndicator (c : Char) : Bool := "-?:,[]\x7b\x7d#&*!|>'\"%@\x60".toList.contains c

/-- The token that starts at the character `x`. -/
def token (s : Layout) (x : Char) : Except Fault Layout :=
  let c := s.cursor
  if x == '[' then s.opening .openBracket
  else if x == '\x7b' then s.opening .openBrace
  else if x == ']' then s.closing .closeBracket
  else if x == '\x7d' then s.closing .closeBrace
  else if x == ',' then
    (s.dropKey).map fun s => { s with keyAllowed := true }.indicator .comma 1
  else if x == '-' && c.isSpaceAt 1 then s.entry
  else if x == '?' && (s.inFlow || c.isSpaceAt 1) then s.explicitKey
  else if x == ':' && (s.inFlow || c.isSpaceAt 1) then s.valueMark
  else if x == '*' then s.lexeme fun c => (anchorName c).map fun (n, c) => (.alias n, c)
  else if x == '&' then s.lexeme fun c => (anchorName c).map fun (n, c) => (.anchor n, c)
  else if x == '!' then s.lexeme fun c => (tagParts c).map fun (h, t, c) => (.tag h t, c)
  else if x == '|' && !s.inFlow then s.block true
  else if x == '>' && !s.inFlow then s.block false
  else if x == '\'' then
    s.lexeme fun c => (quotedScalar true c).map fun (t, c) => (.scalar t .quoted, c)
  else if x == '"' then
    s.lexeme fun c => (quotedScalar false c).map fun (t, c) => (.scalar t .quoted, c)
  else if !(isGap x || isIndicator x) || (x == '-' && !(c.ahead? 1).any isGap) ||
      (!s.inFlow && (x == '?' || x == ':') && !c.isSpaceAt 1) then s.plain
  else s.fault .strayCharacter

/-- A fault if the character with the number `index` is looked at where it is not to be: `limit`
is the number of the first such. -/
def look (limit : Option Nat) (index : Nat) : Except Fault Unit :=
  if limit.any (· ≤ index) then .error { cause := .controlCharacter } else .ok ()

/-- The state after one more token, and whether that ends the text. -/
def step (limit : Option Nat) (s : Layout) : Except Fault (Layout × Bool) := do
  let before := s.cursor.line
  let s := toNextToken (s.cursor.rest.length + 1) s
  look limit (s.cursor.index + 3)
  let s := s.unroll s.cursor.column before
  let c := s.cursor
  match c.head? with
  | none =>
    let c := if c.column == 0 then c else { c with column := 0, line := c.line + 1 }
    let s ← ({ s with cursor := c }.unroll (-1) c.line).dropKey
    return (s.push .streamEnd c.line, true)
  | some x =>
    if c.column == 0 && x == '%' then
      let s ← s.boundary fun c => (directive c).map fun
        | (.version a b, c) => (.version a b, c)
        | (.tagHandle h t, c) => (.tagHandle h t, c)
      look limit s.cursor.index
      return (s, false)
    else if c.atDocumentMark then
      let s ← s.boundary fun c =>
        .ok (if x == '-' then .documentStart else .documentEnd, c.skipN 3)
      return (s, false)
    else
      let s ← s.token x
      look limit s.cursor.index
      match s.tokens.back? with
      | some ⟨.dash, _⟩ => return (s, false)
      | _ =>
        let (c, last) := skipLineComment s.cursor
        look limit last
        return ({ s with cursor := c }, false)

/-! ## All tokens -/

/-- The possible key that starts at the token with the number `n`. -/
def keyAt? (s : Layout) (n : Nat) : Option PossibleKey :=
  (s.keys.filterMap id).find? (·.number == n)

/-- How many tokens a reader can have by now, after the first `n`: those with two behind
them that start no undecided key.  A required key that is none stops it for good. -/
def ready (s : Layout) : Nat → Nat → Nat × Option Fault
  | 0, n => (n, none)
  | fuel + 1, n =>
    if s.tokens.size ≤ n + 2 then (n, none)
    else match s.keyAt? n with
      | none => ready s fuel (n + 1)
      | some k =>
        if s.keyLives k then (n, none)
        else if k.required then (n, some (s.keyFault k))
        else ready s fuel (n + 1)

/-- The tokens from a state on of which a reader has the first `n`, as far as it gets, and the
fault it meets there. -/
def scan (limit : Option Nat) : Nat → Nat → Layout → List Token × Option Fault
  | 0, _, s => (s.tokens.toList, none)
  | fuel + 1, n, s =>
    match s.ready s.tokens.size n with
    | (n, some e) => (s.tokens.toList.take n, some e)
    | (n, none) =>
      match s.step limit with
      | .error e => (s.tokens.toList.take n, some e)
      | .ok (s, true) =>
        -- nothing follows the end, so that every key is decided there
        let line := s.cursor.line
        match ((s.push .streamEnd line).push .streamEnd line).ready (s.tokens.size + 2) n with
        | (n, some e) => (s.tokens.toList.take n, some e)
        | _ => (s.tokens.toList, none)
      | .ok (s, false) => scan limit fuel n s

/-- The number of the first character of the piece that holds the first character that is not
allowed.  A piece ends before the character that does not fit into its 512 bytes. -/
def firstForbidden? : Nat → Nat → Nat → List Char → Option Nat
  | _, _, _, [] => none
  | start, used, index, c :: r =>
    let fits := used + c.utf8Size ≤ 512
    let start := if fits then start else index
    if isAllowed c then
      firstForbidden? start (if fits then used + c.utf8Size else c.utf8Size) (index + 1) r
    else some start

end Layout

/-- The tokens of a text, and the fault behind them if there is one.  A byte order mark at the
front does not count. -/
def tokens (text : String) : List Token × Option Fault :=
  let (cs, used) := match text.toList with
    | '\uFEFF' :: r => (r, 3)
    | cs => (cs, 0)
  Layout.scan (Layout.firstForbidden? 0 used 0 cs) (cs.length + 2) 0 { cursor := { rest := cs } }

end Exposure.Yaml
