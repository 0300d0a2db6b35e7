/-
# Toml.Document — a document as a table

A document is read line by line: pairs of a key and a value, and headers that
name the table the next pairs belong to.  A table that only a longer key
mentions is implied, and a header may still define it once; any other key is
defined once only, except that an array may be replaced.  A table in braces
makes its pairs under its own key, as a header would.  `Document.keys` are the
keys in the order in which the document mentions them.
-/
import Exposure.Toml.Scalar

namespace Exposure.Toml

set_option autoImplicit false

open Text

/-- A document that is being read. -/
structure Document where
  root : Table := []
  /-- The tables that are implied and not defined yet. -/
  implied : List Key := []
  /-- The keys of arrays. -/
  arrays : List Key := []
  /-- The keys mentioned, the latest first. -/
  mentioned : List Key := []
  /-- The table that pairs belong to. -/
  context : Key := []
  /-- The last name of the key that is being read, or nothing. -/
  name : String := ""
  /-- The line of the latest key. -/
  keyLine : Nat := 1
  /-- The lines on which keys get their values, the latest first. -/
  lines : List (Key × Nat) := []
  /-- How many line breaks the text has. -/
  breaks : Nat := 0
  deriving Inhabited

namespace Document

/-- The keys in the order of their mention. -/
def keys (d : Document) : List Key := d.mentioned.reverse

/-- The number of the line before `rest`. -/
def lineOf (d : Document) (rest : List Char) : Nat := 1 + (d.breaks - rest.count '\n')

/-- The key that was read last: the table, and the name in it. -/
def lastKey (d : Document) : String :=
  if d.name == "" then Key.text d.context
  else if d.context.isEmpty then d.name
  else Key.text d.context ++ "." ++ d.name

/-- The fault that the latest key is. -/
def fault (d : Document) (cause : Fault.Cause) : Fault :=
  { cause, line := d.keyLine, key := d.lastKey }

/-- The fault of a lexeme. -/
def faultOf (d : Document) (endsInBreak : Bool) (s : Slip) : Fault :=
  let line := d.lineOf s.rest
  { cause := s.cause, key := d.lastKey,
    line := if s.earlier || (s.atEnd && endsInBreak) then line - 1 else line }

/-! ## Tables -/

/-- The part of a key up to the first name that is there and no table. -/
def blockedAt? : Key → Key → Table → Option Key
  | _, [], _ => none
  | before, k :: rest, t =>
    match t.get? k with
    | some (.table inner) => blockedAt? (before ++ [k]) rest inner
    | some (.tables each) => blockedAt? (before ++ [k]) rest (each.getLast?.getD [])
    | _ => some (before ++ [k])

/-- The document with a value for `name` in the table at `context`. -/
def define (d : Document) (context : Key) (name : String) (v : Value) : Except Fault Document :=
  let key := context ++ [name]
  let twice (k : Key) : Except Fault Document := .error (d.fault (.definedTwice (Key.text k)))
  match blockedAt? [] context d.root, d.root.at? context with
  | some k, _ => twice k
  | none, none => twice context
  | none, some t =>
    let stored : Document :=
      { d with root := (d.root.modifyAt? (fun t => some (t.put name v)) context).getD d.root }
    if (t.get? name).isNone then .ok stored
    else if d.arrays.contains key then
      .ok { stored with implied := d.implied.filter (· != key) }
    else if d.implied.contains key then
      .ok { d with implied := d.implied.filter (· != key) }
    else twice key

/-- The document with the tables on the way to `key` made where they are missing. -/
def implyParents : Key → Key → Document → Except Fault Document
  | _, [], d => .ok d
  | context, k :: rest, d =>
    let key := context ++ [k]
    let refused : Except Fault Document := .error (d.fault (.noTable (Key.text key)))
    match d.root.at? context with
    | none => refused
    | some t =>
      match t.get? k with
      | none =>
        match d.root.modifyAt? (fun t => some (t.put k (.table []))) context with
        | none => refused
        | some root => implyParents key rest { d with root, implied := key :: d.implied }
      | some (.table _) => implyParents key rest d
      | some (.tables _) => implyParents key rest d
      | some _ => refused

/-- The document with a table at `key`: nothing is missing where one is there. -/
def ensureTable (d : Document) (key : Key) : Except Fault Document :=
  if (d.root.at? key).isSome then .ok d else implyParents [] key d

/-- The document with the table at a key as its context. -/
def enter (d : Document) (key : Key) : Except Fault Document := do
  let parents := key.dropLast
  let d ← d.ensureTable parents
  let d := { d with context := parents }
  let d ← d.define parents (key.getLast?.getD "") (.table [])
  return { d with context := key }

/-- The document with one more table in the list at a key as its context. -/
def enterListed (d : Document) (key : Key) : Except Fault Document := do
  let parents := key.dropLast
  let name := key.getLast?.getD ""
  let d ← d.ensureTable parents
  let d := { d with context := parents }
  let append (t : Table) : Option Table :=
    match t.get? name with
    | none => some (t.put name (.tables [[]]))
    | some (.tables each) => some (t.put name (.tables (each ++ [[]])))
    | some _ => none
  match d.root.modifyAt? append parents with
  | some root => return { d with root, context := key }
  | none => throw (d.fault (.noList (Key.text key)))

/-- The document that is in the table of `name`, which it implies. -/
def enterImplied (d : Document) (name : String) : Except Fault Document :=
  let key := d.context ++ [name]
  { d with implied := key :: d.implied }.enter key

/-- The document with a note of what kind of value a name in a table has got, and on which line.
An empty name stands for the table itself, unless that is the whole document. -/
def note (d : Document) (table : Key) (name : String) (isArray : Bool) (line : Nat) : Document :=
  let key := if name == "" && !table.isEmpty then table else table ++ [name]
  { d with
    arrays := if isArray then key :: d.arrays else d.arrays.filter (· != key)
    lines := (key, line) :: d.lines }

end Document

/-! ## Reading -/

/-- What is read, whether the text ends in a line break, and the character behind its end that
no document may hold, if there is one. -/
structure Progress where
  document : Document
  endsInBreak : Bool
  stray : Option Char := none

/-- A step of reading. -/
abbrev Step (α : Type) := StateT Progress (Except Fault) α

namespace Step

def document : Step Document := return (← get).document

def change (f : Document → Document) : Step Unit :=
  modify fun p => { p with document := f p.document }

/-- Changes the document, or stops with its fault. -/
def attempt (f : Document → Except Fault Document) : Step Unit := do
  let d ← liftM (f (← document))
  change fun _ => d

/-- Looks at the end of the text: a stray character there is a fault. -/
def lookAtEnd : Step Unit := do
  let p ← get
  match p.stray with
  | some c =>
    let d := p.document
    throw { cause := .controlCharacter c, line := d.lineOf [], key := d.lastKey }
  | none => pure ()

/-- Goes on with a lexeme, or stops with its fault. -/
def lexed {α : Type} (r : Except Slip α) : Step α := do
  match r with
  | .ok a => pure a
  | .error s =>
    if s.sawEnd then lookAtEnd
    let p ← get
    throw (p.document.faultOf p.endsInBreak s)

end Step

/-- Past blanks. -/
def skipBlanks (s : List Char) : List Char := s.dropWhile fun c => c == ' ' || c == '\t'

/-- Past a comment, if one stands here. -/
def skipComment : List Char → List Char
  | '#' :: r => r.dropWhile fun c => c != '\n' && c != '\r'
  | s => s

/-- Past white space, line breaks and comments. -/
def skipLines : Nat → List Char → List Char
  | 0, s => s
  | fuel + 1, s =>
    match s.dropWhile isSpace with
    | '#' :: r => skipLines fuel (skipComment ('#' :: r))
    | s => s

/-- How the names of a key are separated and ended, and the faults in them. -/
structure KeyForm where
  closing : Char
  missing : Fault.Cause
  separator : Fault.Cause
  unended : {α : Type} → List Char → Except Slip α

/-- The key of a pair. -/
def pairKey : KeyForm where
  closing := '='
  missing := .missingName
  separator := .straySeparator
  unended := slipAtBreak fun
    | none => .missingEquals
    | found => .unendedKey found

/-- The key of a header. -/
def headerKey : KeyForm where
  closing := ']'
  missing := .missingTableName
  separator := .strayTableSeparator
  unended := slipAt .unendedTableName

/-- A name of a key; a name without a character shows by what stands in its place. -/
def keyName (form : KeyForm) (s : List Char) : Lexed String :=
  match s with
  | [] => slipPeeking form.missing []
  | '.' :: _ => slip form.separator s
  | '"' :: r => basicText r (s.length + 1) [] r
  | '\'' :: r => literalText "" r
  | s =>
    if s.head? == some form.closing then slip form.missing s
    else .ok (String.ofList (s.takeWhile Key.isBare), s.dropWhile Key.isBare)

/-- The names of a key and the rest behind the character that ends it. -/
def keyNames (form : KeyForm) : Nat → List Char → Step (Key × List Char)
  | 0, _ => Step.lexed (slip form.missing [])
  | fuel + 1, s => do
    let (name, r) ← Step.lexed (keyName form (skipBlanks s))
    match skipBlanks r with
    | '.' :: r =>
      let (key, r) ← keyNames form fuel r
      return (name :: key, r)
    | r =>
      if r.head? == some form.closing then return ([name], r.tail)
      else Step.lexed (form.unended r)

/-- A key with the line of its first name noted. -/
def key (form : KeyForm) (s : List Char) : Step (Key × List Char) := do
  Step.change fun d => { d with keyLine := d.lineOf s }
  keyNames form (s.length + 1) s

/-- Whether the end of a scalar shows only by what follows it: that of a number and of a word, of
an empty text, and of one over several lines. -/
def needsNext (s : List Char) : Bool :=
  match s with
  | [q, q'] => (q == '"' && q' == '"') || (q == '\'' && q' == '\'') || !(q == '"' || q == '\'')
  | '"' :: '"' :: '"' :: _ => true
  | '\'' :: '\'' :: '\'' :: _ => true
  | '"' :: _ => false
  | '\'' :: _ => false
  | s => !(["inf", "+inf", "-inf", "nan", "+nan", "-nan"].contains (String.ofList s))

mutual

/-- A value in the document; `listed` is one in an array. -/
def value (fuel : Nat) (listed : Bool) (s : List Char) : Step (Value × List Char) := do
  match fuel with
  | 0 => Step.lexed (slipAtEnd .missingValue)
  | fuel + 1 =>
    match skipBlanks s with
    | [] => Step.lexed (slipAtEnd .missingValue)
    | '[' :: r =>
      let d ← Step.document
      Step.change (·.note d.context d.name true (d.lineOf r))
      let (vs, r) ← items fuel r
      return (.array vs, r)
    | '\x7b' :: r =>
      let outer ← Step.document
      let key := outer.context ++ [outer.name]
      Step.change fun d => { d with context := key, name := "", implied := key :: d.implied }
      Step.attempt (if listed then (·.enterListed key) else (·.enter key))
      let (t, r) ← pairs fuel true [] r
      Step.change fun d => { d with context := outer.context, name := outer.name }
      return (.table t, r)
    | c :: r =>
      let (v, rest) ← Step.lexed <|
        if c == '"' || c == '\'' then (quotedText (c :: r)).map fun (t, r) => (.text t, r)
        else if isDigit c then numberOrDate (c :: r)
        else if c == '-' || c == '+' then signed (c :: r)
        else if c == 'i' || c == 'n' then realWord c r
        else if c == '.' then slip .leadingPoint r
        else if isLetter c then truth (c :: r)
        else slipAtBreak (fun c => .strayCharacter (c.getD '\x00')) (c :: r)
      if rest.isEmpty && needsNext (c :: r) then Step.lookAtEnd
      return (v, rest)

/-- The items of an array, after its bracket or a comma. -/
def items (fuel : Nat) (s : List Char) : Step (List Value × List Char) := do
  match fuel with
  | 0 => Step.lexed (slipAtEnd .missingValue)
  | fuel + 1 =>
    match skipLines (s.length + 1) s with
    | ']' :: r => return ([], r)
    | ',' :: r => Step.lexed (slip .strayComma r)
    | s =>
      let (v, r) ← value fuel true s
      match skipLines (r.length + 1) r with
      | ',' :: r =>
        let (vs, r) ← items fuel r
        return (v :: vs, r)
      | ']' :: r => return ([v], r)
      | r => Step.lexed (slipAt .unendedItem r)

/-- The pairs of a table in braces onto `acc`, after its brace or a comma; only after the brace
may there be none. -/
def pairs (fuel : Nat) (first : Bool) (acc : Table) (s : List Char) :
    Step (Table × List Char) := do
  match fuel with
  | 0 => Step.lexed (slipAtEnd .missingValue)
  | fuel + 1 =>
    match skipComment (skipBlanks s) with
    | '\x7d' :: r =>
      if first then return (acc, r) else Step.lexed (slip .trailingComma ('\x7d' :: r))
    | ',' :: r => Step.lexed (slip .strayComma r)
    | '\n' :: r => Step.lexed (slipBack .breakInTable r)
    | '\r' :: r => Step.lexed (slipBack .breakInTable r.tail)
    | s =>
      let outer ← Step.document
      let line := outer.lineOf s
      let (key, v, r) ← pair fuel line s
      Step.change fun d => { d with context := outer.context }
      let acc := acc.putAt key.dropLast (key.getLast?.getD "") v
      match skipComment (skipBlanks r) with
      | ',' :: r => pairs fuel false acc r
      | '\x7d' :: r => return (acc, r)
      | '\n' :: r => Step.lexed (slipBack .breakInTable r)
      | '\r' :: r => Step.lexed (slipBack .breakInTable r.tail)
      | r => Step.lexed (slipAt .unendedPair r)

/-- A key and its value in the document's context, which the names before the last become part
of.  The value is noted for `line`, or for its own when that is zero. -/
def pair (fuel : Nat) (line : Nat) (s : List Char) : Step (Key × Value × List Char) := do
  match fuel with
  | 0 => Step.lexed (slipAtEnd .missingValue)
  | fuel + 1 =>
    match s with
    | [] => Step.lexed (slipPeeking .blankKey [])
    | '=' :: _ => Step.lexed (slip .blankKey s)
    | '.' :: _ => Step.lexed (slip .leadingSeparator s)
    | s =>
      let (key, r) ← key pairKey s
      let name := key.getLast?.getD ""
      Step.change fun d => { d with name }
      for part in key.dropLast do
        Step.attempt (·.enterImplied part)
      Step.change fun d => { d with mentioned := (d.context ++ [name]) :: d.mentioned }
      let (v, r') ← value fuel false r
      Step.attempt fun d => d.define d.context name v
      let d ← Step.document
      let isArray := match v with
        | .array _ => true
        | _ => false
      let line := if line != 0 then line else match v with
        | .array _ => d.lineOf (skipBlanks r)
        | .table _ => d.lineOf (skipBlanks r)
        | _ => d.lineOf r'
      Step.change (·.note d.context name isArray line)
      return (key, v, r')

end

/-- Past the end of a line: blanks and a comment. -/
def lineEnd (s : List Char) : Step (List Char) :=
  match skipComment (skipBlanks s) with
  | [] => return []
  | '\n' :: r => return r
  | '\r' :: r => return r.tail
  | s => Step.lexed (slipAt .unendedLine s)

/-- A header, after its first bracket. -/
def header (s : List Char) : Step (List Char) := do
  let line := (← Step.document).lineOf s
  let named (key : Key) (d : Document) : Document :=
    { d.note key "" false line with mentioned := key :: d.mentioned }
  match s with
  | '[' :: r =>
    let (key, r) ← key headerKey r
    match r with
    | ']' :: r =>
      Step.attempt (·.enterListed key)
      Step.change (named key)
      return r
    | r => Step.lexed (slipAt .unendedListName r)
  | r =>
    let (key, r) ← key headerKey r
    Step.attempt (·.enter key)
    Step.change (named key)
    return r

/-- The lines of a document. -/
def readLines : Nat → List Char → Step Unit
  | 0, _ => pure ()
  | fuel + 1, s =>
    match skipLines (s.length + 1) s with
    | [] => pure ()
    | '[' :: r => do
      let r ← header r
      readLines fuel (← lineEnd r)
    | s => do
      let outer ← Step.document
      let (_, _, r) ← pair (4 * s.length + 8) 0 s
      Step.change fun d => { d with context := outer.context, name := "" }
      readLines fuel (← lineEnd r)

/-- Whether a character may not stand before `rest`: a control, or a carriage return without
its line feed. -/
def isStray (c : Char) (rest : List Char) : Bool :=
  isControl c || (c == '\r' && rest.head? != some '\n')

/-- The text before the first stray character, that character and the rest. -/
def cutAtStray : List Char → List Char × Option (Char × List Char)
  | [] => ([], none)
  | c :: r =>
    if isStray c r then ([], some (c, r))
    else
      let (before, stray) := cutAtStray r
      (c :: before, stray)

namespace Document

/-- The document of a text without stray characters, before the character `stray`. -/
def ofClean (s : List Char) (stray : Option Char) : Except Fault Document :=
  let start : Progress :=
    { document := { breaks := s.count '\n' }, endsInBreak := s.getLast? == some '\n', stray }
  let read : Step Unit := do
    readLines (s.length + 1) s
    Step.lookAtEnd
  (read.run start).map (·.2.document)

/-- The first characters of a text, of at most `n` bytes. -/
def firstBytes : Nat → List Char → List Char
  | _, [] => []
  | n, c :: r => if c.utf8Size ≤ n then c :: firstBytes (n - c.utf8Size) r else []

/-- The document of a text.  A byte order mark at its front does not count.  What comes before
a stray character is looked at first. -/
def ofText (text : String) : Except Fault Document :=
  let s := match text.toList with
    | '\uFEFF' :: r => r
    | s => s
  if (firstBytes 6 s).contains '\x00' then .error { cause := .nullBytes, line := 1, key := "" }
  else
    let (before, stray) := cutAtStray s
    ofClean before (stray.map (·.1))

end Document

end Exposure.Toml
