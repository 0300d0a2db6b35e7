/-
# Glob — patterns for slash-separated paths

`*` matches any run of characters within an element of a path, `?` one of them,
`**` standing alone as an element any number of elements, also none; brackets
match one character of a class, braces one of several alternatives, and a
backslash takes the next character literally.  A pattern that ends in `/**` or
`**/` also matches the path before it.

Matching finds out that a pattern is malformed only where it has to look; a
malformed pattern is no match.  `isValid` looks at the whole of it.
-/
import Exposure.Text.Cut

namespace Exposure.Glob

set_option autoImplicit false

/-- The characters that make a text a pattern. -/
def isPattern (s : String) : Bool :=
  s.toList.any fun c => c == '*' || c == '?' || c == '[' || c == '\x7b'

/-- What matching finds. -/
inductive Verdict where
  | yes
  | no
  | malformed
  deriving DecidableEq, Repr

/-! ## Form -/

/-- Whether a class ends in a text; the rest behind it. -/
def classEnd? : List Char → Option (List Char)
  | [] => none
  | '\\' :: _ :: r => classEnd? r
  | c :: r => if c == ']' then some r else classEnd? r

/-- Past a class, after its opening bracket; none when it is empty or does not end. -/
def skipClass? (t : List Char) : Option (List Char) :=
  let t := match t with
    | '^' :: r => r
    | '!' :: r => r
    | t => t
  match t with
  | [] => none
  | ']' :: _ => none
  | t => classEnd? t

/-- Whether a pattern with `depth` open braces is well formed. -/
def validFrom : Nat → Nat → List Char → Bool
  | 0, _, _ => false
  | _, depth, [] => depth == 0
  | fuel + 1, depth, c :: r =>
    if c == '\\' then
      match r with
      | [] => false
      | _ :: r => validFrom fuel depth r
    else if c == '[' then
      match skipClass? r with
      | none => false
      | some r => validFrom fuel depth r
    else if c == '\x7b' then validFrom fuel (depth + 1) r
    else if c == '\x7d' then depth != 0 && validFrom fuel (depth - 1) r
    else validFrom fuel depth r

/-- Whether a pattern is well formed. -/
def validChars (p : List Char) : Bool := validFrom (p.length + 1) 0 p

/-- Whether a pattern is well formed. -/
def isValid (p : String) : Bool := validChars p.toList

/-! ## Alternatives -/

/-- The text up to the brace that closes `depth` open ones, and the rest behind it. -/
def closing? : Nat → List Char → Option (List Char × List Char)
  | _, [] => none
  | depth, '\\' :: c :: r => (closing? depth r).map fun (a, b) => ('\\' :: c :: a, b)
  | depth, c :: r =>
    if c == '\x7d' then
      if depth ≤ 1 then some ([], r) else (closing? (depth - 1) r).map fun (a, b) => (c :: a, b)
    else
      (closing? (if c == '\x7b' then depth + 1 else depth) r).map fun (a, b) => (c :: a, b)

/-- The alternatives between two braces: the pieces between commas outside inner braces. -/
def alternatives (depth : Nat) : List Char → List (List Char)
  | [] => [[]]
  | ['\\'] => [['\\']]
  | '\\' :: c :: r =>
    match alternatives depth r with
    | [] => [['\\', c]]
    | a :: rest => ('\\' :: c :: a) :: rest
  | c :: r =>
    if c == ',' && depth == 0 then [] :: alternatives depth r
    else
      let depth := if c == '\x7b' then depth + 1 else if c == '\x7d' then depth - 1 else depth
      match alternatives depth r with
      | [] => [[c]]
      | a :: rest => (c :: a) :: rest

/-- The first verdict of `f` on the alternatives that is not a plain no. -/
def firstVerdict (f : List Char → Verdict) : List (List Char) → Verdict
  | [] => .no
  | a :: rest =>
    match f a with
    | .no => firstVerdict f rest
    | v => v

/-! ## The end of the path -/

/-- Whether what is left of a pattern matches nothing at all. -/
def matchesEmpty : Nat → List Char → Verdict
  | 0, _ => .no
  | fuel + 1, p =>
    if ["", "*", "**", "/**", "**/", "/**/"].contains (String.ofList p) then .yes
    else
      match p with
      | '\x7b' :: r =>
        match closing? 1 r with
        | none => .malformed
        | some (inside, after) =>
          firstVerdict (fun a => matchesEmpty fuel (a ++ after)) (alternatives 0 inside)
      | p => if validChars p then .no else .malformed

/-! ## Classes -/

/-- Whether a character is in a class, and the rest from where the search stopped: at the
item that has it, or at the closing bracket.  `low` is the character that may start a range,
which the last of all code points may not. -/
def searchClass (x : Char) : Nat → Option Char → List Char → Bool × List Char
  | 0, _, t => (false, t)
  | _, _, [] => (false, [])
  | fuel + 1, low, c :: r =>
    if c == ']' then (false, c :: r)
    else
      match low, c, r with
      | some a, '-', d :: r' =>
        if d == ']' then single fuel c r
        else
          let (high, after) := match d, r' with
            | '\\', e :: r'' => (e, r'')
            | '\\', [] => ('�', [])
            | d, r' => (d, r')
          if a ≤ x && x ≤ high then (true, after) else searchClass x fuel none after
      | _, _, _ => single fuel c r
where
  /-- A character that stands for itself. -/
  single (fuel : Nat) (c : Char) (r : List Char) : Bool × List Char :=
    let (c, r) := match c, r with
      | '\\', d :: r => (d, r)
      | '\\', [] => ('�', [])
      | c, r => (c, r)
    if c == x then (true, r)
    else searchClass x fuel (if c.toNat == 0x10FFFF then none else some c) r

/-! ## Matching -/

/-- A place to return to: a place in the pattern and a place in the path. -/
structure Mark where
  pattern : Nat
  path : List Char

/-- The state of a match: places in the pattern and the path, whether an element starts
here, and the latest `*` and `**`. -/
structure Place where
  place : Nat
  path : List Char
  starts : Bool := true
  star : Option Mark := none
  deep : Option Mark := none

/-- The path behind its next slash. -/
def pastSlash : List Char → Option (List Char)
  | [] => none
  | c :: r => if c == '/' then some r else pastSlash r

/-- Where a match goes on after a mismatch: one character further under the latest `*`, or
one element further under the latest `**`. -/
def fallBack (s : Place) : Option Place :=
  let deeper : Option Place :=
    match s.deep with
    | none => none
    | some m =>
      (pastSlash m.path).map fun rest =>
        { s with
          place := m.pattern, path := rest, starts := true, deep := some { m with path := rest } }
  match s.star with
  | some m =>
    match m.path with
    | c :: rest =>
      if c == '/' then deeper
      else some { s with place := m.pattern, path := rest, starts := false,
                         star := some { m with path := rest } }
    | [] => deeper
  | none => deeper

/-- Matching from a place on. -/
def matchFrom : Nat → List Char → Place → Verdict
  | 0, _, _ => .no
  | fuel + 1, pattern, s =>
    let rest := pattern.drop s.place
    match s.path with
    | [] => matchesEmpty (pattern.length + 1) rest
    | x :: path =>
      let mismatch (place : Nat) : Verdict :=
        match fallBack s with
        | some s => matchFrom fuel pattern s
        | none =>
          let rest := pattern.drop place
          if rest.isEmpty || validChars rest then .no else .malformed
      let after (r : List Char) : Nat := pattern.length - r.length
      let literal (c : Char) (r : List Char) (back : Nat) : Verdict :=
        if c == x then
          matchFrom fuel pattern { s with place := after r, path, starts := c == '/' }
        else mismatch back
      -- behind a backslash, whatever that does, the form is looked at from the backslash on
      let back := if (pattern.take s.place).getLast? == some '\\' then s.place - 1 else s.place
      match rest with
      | [] => mismatch s.place
      | '*' :: '*' :: r =>
        if s.starts && r.isEmpty then .yes
        else
          match s.starts, r with
          | true, '/' :: r =>
            matchFrom fuel pattern
              { s with place := after r, star := none, deep := some ⟨after r, s.path⟩ }
          | _, r =>
            matchFrom fuel pattern
              { s with place := after r, starts := false, star := some ⟨after r, s.path⟩ }
      | '*' :: r =>
        matchFrom fuel pattern
          { s with place := after r, starts := false, star := some ⟨after r, s.path⟩ }
      | '?' :: r =>
        if x == '/' then mismatch s.place
        else matchFrom fuel pattern { s with place := after r, path, starts := false }
      | '[' :: r =>
        let (negated, items) := match r with
          | '!' :: t => (true, t)
          | '^' :: t => (true, t)
          | t => (false, t)
        match items with
        | [] => .malformed
        | ']' :: _ => .malformed
        | items =>
          let (found, stopped) := searchClass x (items.length + 1) none items
          if found == negated then
            if stopped.isEmpty then .malformed else mismatch (after stopped)
          else
            match classEnd? stopped with
            | none => .malformed
            | some r => matchFrom fuel pattern { s with place := after r, path, starts := false }
      | '\x7b' :: r =>
        match closing? 1 r with
        | none => .malformed
        | some (inside, behind) =>
          firstVerdict
            (fun a => matchFrom fuel (pattern.take s.place ++ a ++ behind)
              { s with starts := true })
            (alternatives 0 inside)
      | '\\' :: r =>
        match r with
        | [] => .malformed
        | c :: r => literal c r s.place
      | c :: r => literal c r back

/-- The steps that a match can take: the places of the pattern and the path, with both
returns, for each pair of braces. -/
def stepBound (pattern path : List Char) : Nat :=
  (pattern.count '\x7b' + 1) * (pattern.length + 2) * (path.length + 2) * (path.length + 2)

/-- Whether a pattern matches a path. -/
def verdict (pattern path : String) : Verdict :=
  matchFrom (stepBound pattern.toList path.toList) pattern.toList
    { place := 0, path := path.toList }

/-- Whether a pattern matches a path; a malformed pattern matches none. -/
def isMatch (pattern path : String) : Bool := verdict pattern path == .yes

end Exposure.Glob
