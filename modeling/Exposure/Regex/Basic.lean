/-
# Regex.Basic — regular expressions

An expression describes which stretches of a text it matches.  `ends t r ps` are
the places of `t` where a match of `r` may end that starts at one of the places
`ps`; there is one equation for each form of expression.  `isMatch` asks for a
match that starts anywhere.  A byte that belongs to no character is matched as a
replacement character.
-/
import Exposure.Text.Fold
import Exposure.Text.Octets

namespace Exposure

set_option autoImplicit false

/-- A set of characters by their code points, or all the others. -/
structure CharItem where
  negated : Bool := false
  ranges : List (Nat × Nat)
  deriving DecidableEq, Repr

/-- A class of characters: a union of items, or all the others; `fold` ignores case. -/
structure CharClass where
  negated : Bool := false
  fold : Bool := false
  items : List CharItem
  deriving DecidableEq, Repr

/-- A regular expression. -/
inductive Regex where
  | empty
  | one (c : CharClass)
  | textStart
  | textEnd
  | lineStart
  | lineEnd
  | wordEdge (inside : Bool)
  | group (r : Regex)
  | sequence (r s : Regex)
  | choice (r s : Regex)
  | star (r : Regex)
  | plus (r : Regex)
  | optional (r : Regex)
  | counted (r : Regex) (least : Nat) (most : Option Nat)
  deriving DecidableEq, Repr

namespace CharItem

def has (i : CharItem) (variants : List Nat) : Bool :=
  (i.ranges.any fun (a, b) => variants.any fun n => a ≤ n && n ≤ b) != i.negated

end CharItem

namespace CharClass

def has (k : CharClass) (c : Char) : Bool :=
  let variants := if k.fold then Text.caseVariants c.toNat else [c.toNat]
  (k.items.any (·.has variants)) != k.negated

/-- The class of one code point. -/
def single (fold : Bool) (n : Nat) : CharClass := { fold, items := [{ ranges := [(n, n)] }] }

/-- Whether the class names one code point. -/
def isSingle (k : CharClass) : Bool :=
  match k.negated, k.items with
  | false, [{ negated := false, ranges := [(a, b)] }] => a == b
  | _, _ => false

/-- All characters. -/
def any : CharClass := { negated := true, items := [] }

/-- All characters but the line feed. -/
def anyInLine : CharClass := { negated := true, items := [{ ranges := [(10, 10)] }] }

end CharClass

namespace Regex

/-- A letter, a digit or an underscore. -/
def isWordChar (c : Char) : Bool :=
  Text.isDigit c || Text.isUpper c || Text.isLower c || c == '_'

/-- Whether one side of a place is within a word and the other is not. -/
def atWordEdge (t : Array Char) (i : Nat) : Bool :=
  let before := i != 0 && (t[i - 1]?).any isWordChar
  let after := (t[i]?).any isWordChar
  before != after

/-- Places of a text as one number: bit `i` says whether place `i` is one of them. -/
abbrev Places := Nat

/-- The places `0` to `n` at which `p` holds. -/
def placesWhere (n : Nat) (p : Nat → Bool) : Places :=
  n.fold (fun i _ ps => if p (i + 1) then ps ||| (1 <<< (i + 1)) else ps) (if p 0 then 1 else 0)

/-- The places that at most `n` rounds of `f` lead to from `ps`, those of `ps` with them.
A round that adds none is the last. -/
def closure (f : Places → Places) : Nat → Places → Places
  | 0, ps => ps
  | n + 1, ps =>
    let more := ps ||| f ps
    if more == ps then ps else closure f n more

/-- The places that exactly `n` rounds of `f` lead to.  A round that changes nothing is the
last. -/
def rounds (f : Places → Places) : Nat → Places → Places
  | 0, ps => ps
  | n + 1, ps =>
    let next := f ps
    if next == ps then ps else rounds f n next

/-- The places of `t` where a match may end that starts at one of `ps`.  As many rounds as the
text has places reach all that a star reaches. -/
def ends (t : Array Char) : Regex → Places → Places
  | .empty, ps => ps
  | .one k, ps => (ps &&& placesWhere t.size fun i => (t[i]?).any k.has) <<< 1
  | .textStart, ps => ps &&& 1
  | .textEnd, ps => ps &&& (1 <<< t.size)
  | .lineStart, ps => ps &&& placesWhere t.size fun i => i == 0 || t[i - 1]? == some '\n'
  | .lineEnd, ps => ps &&& placesWhere t.size fun i => i == t.size || t[i]? == some '\n'
  | .wordEdge inside, ps => ps &&& placesWhere t.size fun i => atWordEdge t i != inside
  | .group r, ps => ends t r ps
  | .sequence r s, ps => ends t s (ends t r ps)
  | .choice r s, ps => ends t r ps ||| ends t s ps
  | .star r, ps => closure (ends t r) (t.size + 1) ps
  | .plus r, ps => closure (ends t r) (t.size + 1) (ends t r ps)
  | .optional r, ps => ps ||| ends t r ps
  | .counted r least most, ps =>
    let reached := rounds (ends t r) least ps
    match most with
    | none => closure (ends t r) (t.size + 1) reached
    | some m => closure (ends t r) (m - least) reached

/-- Whether some stretch of a text matches: a match may start at every place. -/
def isMatch (r : Regex) (text : String) : Bool :=
  let t := (Text.shown text).toList.toArray
  ends t r (placesWhere t.size fun _ => true) != 0

/-! ## How large an expression is -/

/-- How deep an expression is: as it stands, and as a member of a sequence or an alternative
of a choice, which take up their own kind; whether it is a stretch of characters, and whether
it is a choice of characters. -/
structure Extent where
  depth : Nat
  inSequence : Nat := depth
  inChoice : Nat := depth
  literal : Bool := false
  chars : Bool := false

/-- The extent of an expression: a stretch or a choice of characters has no parts. -/
def extent : Regex → Extent
  | .one k => { depth := 1, literal := k.isSingle, chars := true }
  | .group r => { depth := 1 + (extent r).depth }
  | .star r => { depth := 1 + (extent r).depth }
  | .plus r => { depth := 1 + (extent r).depth }
  | .optional r => { depth := 1 + (extent r).depth }
  | .counted r _ _ => { depth := 1 + (extent r).depth }
  | .sequence r s =>
    let a := extent r
    let b := extent s
    if a.literal && b.literal then { depth := 1, literal := true }
    else
      let inner := max a.inSequence b.inSequence
      { depth := 1 + inner, inSequence := inner }
  | .choice r s =>
    let a := extent r
    let b := extent s
    if a.chars && b.chars then { depth := 1, chars := true }
    else
      let inner := max a.inChoice b.inChoice
      { depth := 1 + inner, inChoice := inner }
  | _ => { depth := 1 }

/-- How many steps a machine for the expression has. -/
def size : Regex → Nat
  | .group r => 2 + size r
  | .star r => 2 + size r
  | .plus r => 1 + size r
  | .optional r => 1 + size r
  | .sequence r s => size r + size s
  | .choice r s => size r + size s + 1
  | .counted r least none => if least == 0 then 2 + size r else 1 + least * size r
  | .counted r least (some most) => max 1 (most * size r + (most - least))
  | _ => 1

end Regex

end Exposure
