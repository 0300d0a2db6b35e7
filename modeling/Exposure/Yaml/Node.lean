/-
# Yaml.Node — the tree of a document

A document is a tree of scalars, sequences and mappings.  A node keeps the line
on which it starts, counted from one, and its short tag: the one the document
gives it, or the kind of its value.  Anchors have numbers, in the order of the
text, and an alias names the node that bears its anchor by that number; so an
alias may stand inside the node that it names.

Only the first document of a text is read.
-/
import Exposure.Yaml.Layout
import Exposure.Yaml.Value

namespace Exposure.Yaml

set_option autoImplicit false

/-- Where a node starts, its short tag, whether the document gives that tag, and the number of
its anchor. -/
structure Mark where
  line : Nat
  tag : String
  tagged : Bool := false
  anchor : Option Nat := none
  deriving Repr, Inhabited

/-- A node of a document.  `flow` tells of a collection in brackets; `serial` is the number of an
alias among the aliases of its document. -/
inductive Node where
  | scalar (mark : Mark) (text : String) (style : Style)
  | sequence (mark : Mark) (flow : Bool) (items : List Node)
  | mapping (mark : Mark) (flow : Bool) (pairs : List (Node × Node))
  | alias (line : Nat) (name : String) (serial anchor : Nat)
  deriving Repr, Inhabited

namespace Node

def line : Node → Nat
  | .scalar m _ _ => m.line
  | .sequence m _ _ => m.line
  | .mapping m _ _ => m.line
  | .alias n _ _ _ => n

/-- Whether two keys of one mapping are the same key: nodes of one kind with one text. -/
def sameKey : Node → Node → Bool
  | .scalar _ s _, .scalar _ t _ => s == t
  | .alias _ s _ _, .alias _ t _ _ => s == t
  | .sequence .., .sequence .. => true
  | .mapping .., .mapping .. => true
  | _, _ => false

/-- The text of a key; empty for a collection. -/
def keyText : Node → String
  | .scalar _ s _ => s
  | .alias _ s _ _ => s
  | _ => ""

/-- Whether a node is a mapping. -/
def isMapping : Node → Bool
  | .mapping .. => true
  | _ => false

/-- A node with what it bears: the nodes with anchors, by the numbers of those, the numbers that
aliases name, and how many nodes there are. -/
structure Survey where
  anchored : List (Nat × Node) := []
  named : List Nat := []
  size : Nat := 0

namespace Survey

/-- The survey with one more node that may bear an anchor. -/
def add (s : Survey) (n : Node) (m : Mark) : Survey :=
  let anchored := match m.anchor with
    | some k => (k, n) :: s.anchored
    | none => s.anchored
  { s with anchored, size := s.size + 1 }

end Survey

mutual

/-- What a node bears, onto a survey. -/
def surveyed (s : Survey) : Node → Survey
  | .scalar m text style => s.add (.scalar m text style) m
  | .sequence m flow items => listSurveyed (s.add (.sequence m flow items) m) items
  | .mapping m flow pairs => pairsSurveyed (s.add (.mapping m flow pairs) m) pairs
  | .alias _ _ _ anchor => { s with named := anchor :: s.named, size := s.size + 1 }

def listSurveyed (s : Survey) : List Node → Survey
  | [] => s
  | n :: ns => listSurveyed (n.surveyed s) ns

def pairsSurveyed (s : Survey) : List (Node × Node) → Survey
  | [] => s
  | (k, v) :: ps => pairsSurveyed (v.surveyed (k.surveyed s)) ps

end

mutual

/-- A node as it is read again when it has been written out.  `bare` tells that an empty scalar
cannot stand as it is, which makes it a quoted text: within brackets and as a key. -/
def writtenOut (flow bare : Bool) : Node → Node
  | .scalar m text style =>
    if bare && text.isEmpty && style == .plain && !m.tagged then
      .scalar { m with tag := "!!str" } "" .quoted
    else .scalar m text style
  | .sequence m f items => .sequence m f (listWrittenOut (flow || f) items)
  | .mapping m f pairs => .mapping m f (pairsWrittenOut (flow || f) pairs)
  | .alias line name serial anchor => .alias line name serial anchor

def listWrittenOut (flow : Bool) : List Node → List Node
  | [] => []
  | n :: ns => n.writtenOut flow flow :: listWrittenOut flow ns

def pairsWrittenOut (flow : Bool) : List (Node × Node) → List (Node × Node)
  | [] => []
  | (k, v) :: ps => (k.writtenOut flow true, v.writtenOut flow flow) :: pairsWrittenOut flow ps

end

end Node

/-- A document: its root and the nodes with anchors, by number. -/
structure Document where
  root : Node
  anchored : Array (Option Node)
  size : Nat

namespace Document

/-- The document with a root, given what that bears. -/
def ofSurvey (root : Node) (s : Node.Survey) : Document :=
  let room := s.anchored.foldl (fun n (k, _) => max n (k + 1)) 0
  let table := s.anchored.foldl (fun (t : Array (Option Node)) (k, n) => t.setIfInBounds k (some n))
    (Array.replicate room none)
  { root, anchored := table, size := s.size }

/-- The document with a root. -/
def ofRoot (root : Node) : Document := ofSurvey root (root.surveyed {})

/-- A node of a document as a document of its own, if every alias in it names a node in it. -/
def ofPart? (n : Node) : Option Document :=
  let n := n.writtenOut false false
  let s := n.surveyed {}
  if s.named.all fun k => s.anchored.any (·.1 == k) then some (ofSurvey n s) else none

/-- The node with the anchor `k`. -/
def target? (d : Document) (k : Nat) : Option Node := d.anchored[k]?.join

end Document

/-! ## From tokens -/

/-- The full address of the tags that two exclamation marks abbreviate. -/
def coreTags : String := "tag:yaml.org,2002:"

/-- A tag in its short form. -/
def shortTag (tag : String) : String :=
  if Text.startsWith coreTags tag then
    "!!" ++ String.ofList (tag.toList.drop coreTags.length)
  else tag

/-- The state of reading a tree: the tokens left, the handles of tags, the anchors with their
numbers, the latest first, and how many aliases there were. -/
structure TreeState where
  tokens : List Token
  /-- The fault behind the tokens. -/
  fault : Option Fault := none
  handles : List (String × String) := []
  anchors : List (String × Nat) := []
  aliases : Nat := 0

namespace TreeState

/-- A step of reading a tree. -/
abbrev Step (α : Type) := StateT TreeState (Except Fault) α

/-- A fault at a token on line `here` within what starts on line `start`. -/
def fail {α : Type} (start here : Nat) (cause : Fault.Cause) : Step α :=
  throw (.structural start here cause)

/-- The next token, or the fault in its place. -/
def peek : Step Token := do
  let s ← get
  match s.tokens with
  | t :: _ => pure t
  | [] => throw (s.fault.getD { cause := .missingContent })

/-- Past the next token. -/
def skip : Step Unit := modify fun c => { c with tokens := c.tokens.tail }

/-- What stands in front of a node: an anchor, a tag and the line they start on. -/
structure Properties where
  anchor : Option String := none
  tag : String := ""
  line : Nat

/-- The tag that a handle and its suffix abbreviate, in a tag on line `here`. -/
def fullTag (start here : Nat) (handle suffix : String) : Step String := do
  if handle.isEmpty then pure suffix
  else match (← get).handles.find? (·.1 == handle) with
    | some (_, stem) => pure (stem ++ suffix)
    | none => fail start here .unknownHandle

/-- The anchor and the tag in front of a node, in either order. -/
def properties : Step Properties := do
  let t ← peek
  let line := t.line
  match t.kind with
  | .anchor a =>
    skip
    let u ← peek
    match u.kind with
    | .tag h s =>
      skip
      let _ ← peek
      pure { anchor := some a, tag := ← fullTag line u.line h s, line }
    | _ => pure { anchor := some a, line }
  | .tag h s =>
    skip
    match (← peek).kind with
    | .anchor a =>
      skip
      let _ ← peek
      pure { anchor := some a, tag := ← fullTag line line h s, line }
    | _ => pure { tag := ← fullTag line line h s, line }
  | _ => pure { line }

/-- The mark of a node with a tag by default; its anchor gets the next number. -/
def mark (p : Properties) (defaultTag : String) : Step Mark := do
  let tagged := !(p.tag.isEmpty || p.tag == "!")
  let tag := if tagged then shortTag p.tag else defaultTag
  match p.anchor with
  | none => pure { line := p.line + 1, tag, tagged }
  | some name =>
    let k := (← get).anchors.length
    modify fun c => { c with anchors := (name, k) :: c.anchors }
    pure { line := p.line + 1, tag, tagged, anchor := some k }

/-- A scalar node. -/
def scalarNode (p : Properties) (text : String) (style : Style) : Step Node := do
  let defaultTag :=
    if style != .plain then "!!str"
    else if text == "<<" then "!!merge"
    else (Value.ofPlain true text).tag
  pure (.scalar (← mark p defaultTag) text style)

/-- An empty scalar on a line. -/
def emptyNode (line : Nat) : Node := .scalar { line := line + 1, tag := "!!null" } "" .plain

mutual

/-- A node.  `inBlock` lets it be a block, `loose` a sequence without an indentation of its
own. -/
def node (fuel : Nat) (inBlock loose : Bool) : Step Node := do
  match fuel with
  | 0 => fail 0 0 .missingContent
  | fuel + 1 =>
    let t ← peek
    match t.kind with
    | .alias name =>
      skip
      let s ← get
      match s.anchors.find? (·.1 == name) with
      | some (_, k) =>
        set { s with aliases := s.aliases + 1 }
        pure (.alias (t.line + 1) name s.aliases k)
      | none => throw { cause := .unknownAnchor name }
    | _ =>
      let p ← properties
      let t ← peek
      let absent : Step Node :=
        if p.anchor.isSome || !p.tag.isEmpty then scalarNode p "" .plain
        else fail p.line t.line .missingContent
      match t.kind with
      | .scalar text style => skip; scalarNode p text style
      | .openBracket =>
        skip
        pure (.sequence (← mark p "!!seq") true (← bracketed fuel t.line true []))
      | .openBrace =>
        skip
        pure (.mapping (← mark p "!!map") true (← braced fuel t.line true []))
      | .dash =>
        if loose then pure (.sequence (← mark p "!!seq") false (← looseEntries fuel []))
        else absent
      | .sequenceStart =>
        if inBlock then
          skip
          pure (.sequence (← mark p "!!seq") false (← entries fuel t.line []))
        else absent
      | .mappingStart =>
        if inBlock then
          skip
          pure (.mapping (← mark p "!!map") false (← pairs fuel t.line []))
        else absent
      | _ => absent

/-- The entries of a block sequence that starts on line `start`, up to its end, after those of
`done`, the latest first. -/
def entries (fuel start : Nat) (done : List Node) : Step (List Node) := do
  match fuel with
  | 0 => fail 0 0 .missingContent
  | fuel + 1 =>
    let t ← peek
    match t.kind with
    | .dash =>
      skip
      let item ← match (← peek).kind with
        | .dash => pure (emptyNode t.line)
        | .blockEnd => pure (emptyNode t.line)
        | _ => node fuel true false
      entries fuel start (item :: done)
    | .blockEnd => skip; pure done.reverse
    | _ => fail start t.line .missingDash

/-- The entries of a sequence that has no indentation of its own. -/
def looseEntries (fuel : Nat) (done : List Node) : Step (List Node) := do
  match fuel with
  | 0 => fail 0 0 .missingContent
  | fuel + 1 =>
    let t ← peek
    match t.kind with
    | .dash =>
      skip
      let item ← match (← peek).kind with
        | .dash => pure (emptyNode t.line)
        | .key => pure (emptyNode t.line)
        | .value => pure (emptyNode t.line)
        | .blockEnd => pure (emptyNode t.line)
        | _ => node fuel true false
      looseEntries fuel (item :: done)
    | _ => pure done.reverse

/-- A key or a value of a block mapping, after its mark on `line`. -/
def blockSide (fuel : Nat) (line : Nat) : Step Node := do
  match fuel with
  | 0 => fail 0 0 .missingContent
  | fuel + 1 =>
    match (← peek).kind with
    | .key => pure (emptyNode line)
    | .value => pure (emptyNode line)
    | .blockEnd => pure (emptyNode line)
    | _ => node fuel true true

/-- The pairs of a block mapping that starts on line `start`, up to its end. -/
def pairs (fuel start : Nat) (done : List (Node × Node)) : Step (List (Node × Node)) := do
  match fuel with
  | 0 => fail 0 0 .missingContent
  | fuel + 1 =>
    let t ← peek
    match t.kind with
    | .key =>
      skip
      let k ← blockSide fuel t.line
      let t ← peek
      let v ← match t.kind with
        | .value => skip; blockSide fuel t.line
        | _ => pure (emptyNode t.line)
      pairs fuel start ((k, v) :: done)
    | .blockEnd => skip; pure done.reverse
    | _ => fail start t.line .missingKey

/-- The value of a pair between brackets, if a colon stands here. -/
def flowValue (fuel : Nat) (close : Token.Kind) : Step Node := do
  match fuel with
  | 0 => fail 0 0 .missingContent
  | fuel + 1 =>
    let t ← peek
    if t.kind == .value then
      skip
      let t ← peek
      if t.kind == .comma || t.kind == close then pure (emptyNode t.line)
      else node fuel false false
    else pure (emptyNode t.line)

/-- The items between brackets that open on line `start`; a key among them starts a mapping of
one pair. -/
def bracketed (fuel start : Nat) (first : Bool) (done : List Node) : Step (List Node) := do
  match fuel with
  | 0 => fail 0 0 .missingContent
  | fuel + 1 =>
    if (← peek).kind == .closeBracket then skip; pure done.reverse
    else
      if !first then
        let t ← peek
        if t.kind == .comma then skip else fail start t.line .missingBracket
      let t ← peek
      if t.kind == .key then
        skip
        let k ← peek
        let key ←
          if k.kind == .value || k.kind == .comma || k.kind == .closeBracket then
            -- an absent key takes the mark that shows its absence with it
            do skip; pure (emptyNode k.line)
          else node fuel false false
        let value ← flowValue fuel .closeBracket
        let item := .mapping { line := t.line + 1, tag := "!!map" } true [(key, value)]
        bracketed fuel start false (item :: done)
      else if t.kind == .closeBracket then skip; pure done.reverse
      else
        let item ← node fuel false false
        bracketed fuel start false (item :: done)

/-- The pairs between braces that open on line `start`; a node without a mark of a key is a key
without a value. -/
def braced (fuel start : Nat) (first : Bool) (done : List (Node × Node)) :
    Step (List (Node × Node)) := do
  match fuel with
  | 0 => fail 0 0 .missingContent
  | fuel + 1 =>
    if (← peek).kind == .closeBrace then skip; pure done.reverse
    else
      if !first then
        let t ← peek
        if t.kind == .comma then skip else fail start t.line .missingBrace
      let t ← peek
      if t.kind == .key then
        skip
        let k ← peek
        let key ←
          if k.kind == .value || k.kind == .comma || k.kind == .closeBrace then
            pure (emptyNode k.line)
          else node fuel false false
        let value ← flowValue fuel .closeBrace
        braced fuel start false ((key, value) :: done)
      else if t.kind == .closeBrace then skip; pure done.reverse
      else
        let key ← node fuel false false
        let t ← peek
        braced fuel start false ((key, emptyNode t.line) :: done)

end

/-- The directives in front of a document: at most one version, which must be 1.1, and no
handle of tags twice. -/
def directives : Nat → Bool → List (String × String) → Step (List (String × String))
  | 0, _, _ => fail 0 0 .missingDocumentStart
  | fuel + 1, versioned, handles => do
    let t ← peek
    match t.kind with
    | .version major minor =>
      if versioned then fail 0 t.line .repeatedVersion
      else if major != 1 || minor != 1 then fail 0 t.line .foreignVersion
      else skip; directives fuel true handles
    | .tagHandle h s =>
      if handles.any (·.1 == h) then fail 0 t.line .repeatedHandle
      else skip; directives fuel versioned (handles ++ [(h, s)])
    | _ => pure handles

/-- The handles that every document knows. -/
def defaultHandles : List (String × String) := [("!", "!"), ("!!", coreTags)]

/-- The first document: none when there is none. -/
def document (fuel : Nat) : Step (Option Node) := do
  let t ← peek
  let isDirective := match t.kind with
    | .version .. => true
    | .tagHandle .. => true
    | _ => false
  if t.kind == .streamEnd then pure none
  else if t.kind == .documentStart || isDirective then
    let handles ← directives fuel false []
    let t ← peek
    if t.kind != .documentStart then fail 0 t.line .missingDocumentStart
    skip
    modify fun c =>
      { c with handles := handles ++ defaultHandles.filter fun d => !handles.any (·.1 == d.1) }
    let t ← peek
    let root ← match t.kind with
      | .version .. => pure (emptyNode t.line)
      | .tagHandle .. => pure (emptyNode t.line)
      | .documentStart => pure (emptyNode t.line)
      | .documentEnd => pure (emptyNode t.line)
      | .streamEnd => pure (emptyNode t.line)
      | _ => node fuel true false
    let _ ← peek
    pure (some root)
  else
    modify fun c => { c with handles := defaultHandles }
    let root ← node fuel true false
    -- what follows must at least be readable
    let _ ← peek
    pure (some root)

end TreeState

namespace Document

/-- The first document of a text, if it holds any. -/
def ofText (text : String) : Except Fault (Option Document) :=
  let (ts, fault) := tokens text
  ((TreeState.document (4 * ts.length + 8)).run { tokens := ts, fault }).map fun (root, _) =>
    root.map Document.ofRoot

end Document

end Exposure.Yaml
