/-
# Text.Cut — finding and cutting in text

Texts are lists of characters here, so that every cut is a statement about
append.  `cut sep s` divides `s` at the first occurrence of `sep`, and nothing
but that occurrence is lost; `throughLast` and `afterLast` divide at the last
occurrence of one character, `fields` at all of them.
-/

namespace Exposure.Text

set_option autoImplicit false

/-- The text before and after the first occurrence of `sep`, if there is one. -/
def cut (sep : List Char) : List Char → Option (List Char × List Char)
  | [] => if sep.isEmpty then some ([], []) else none
  | c :: r =>
    if sep.isPrefixOf (c :: r) then some ([], (c :: r).drop sep.length)
    else (cut sep r).map fun (before, after) => (c :: before, after)

/-- Whether `sep` occurs in the text. -/
def occurs (sep s : List Char) : Bool := (cut sep s).isSome

/-- Everything before the first `c`; all of the text when there is none. -/
def upTo (c : Char) (s : List Char) : List Char := s.takeWhile (· != c)

/-- Everything up to and with the last `c`; nothing when there is none. -/
def throughLast (c : Char) (s : List Char) : List Char := (s.reverse.dropWhile (· != c)).reverse

/-- Everything after the last `c`; all of the text when there is none. -/
def afterLast (c : Char) (s : List Char) : List Char := (s.reverse.takeWhile (· != c)).reverse

/-- Everything before the last `c`, if there is one. -/
def beforeLast? (c : Char) (s : List Char) : Option (List Char) :=
  if s.contains c then some (throughLast c s).dropLast else none

/-- The text without `suffix`, if it ends so. -/
def dropSuffix? (suffix s : List Char) : Option (List Char) :=
  if suffix.isSuffixOf s then some (s.take (s.length - suffix.length)) else none

/-- The pieces between the occurrences of `sep`; always at least one. -/
def fields (sep : Char) : List Char → List (List Char)
  | [] => [[]]
  | c :: r =>
    if c == sep then [] :: fields sep r
    else match fields sep r with
      | [] => [[c]]
      | f :: fs => (c :: f) :: fs

/-- The pieces with `sep` between neighbours. -/
def joined (sep : String) : List String → String
  | [] => ""
  | [s] => s
  | s :: rest => s ++ sep ++ joined sep rest

/-- Whether `s` starts with `p`. -/
def startsWith (p s : String) : Bool := p.toList.isPrefixOf s.toList

/-- Whether `s` ends with `p`. -/
def endsWith (p s : String) : Bool := p.toList.isSuffixOf s.toList

/-- Whether `p` occurs in `s`. -/
def includes (p s : String) : Bool := occurs p.toList s.toList

/-- An ASCII digit. -/
def isDigit (c : Char) : Bool := '0' ≤ c && c ≤ '9'

/-- An ASCII capital letter. -/
def isUpper (c : Char) : Bool := 'A' ≤ c && c ≤ 'Z'

/-- An ASCII small letter. -/
def isLower (c : Char) : Bool := 'a' ≤ c && c ≤ 'z'

/-- The value of a run of decimal digits. -/
def digitsValue (base : Nat) (ds : List Nat) : Nat := ds.foldl (fun n d => n * base + d) 0

/-- The value of a digit in any base up to thirty-six, in either letter case. -/
def digitValue (c : Char) : Nat :=
  if isDigit c then c.toNat - 48
  else if isLower c then c.toNat - 97 + 10
  else if isUpper c then c.toNat - 65 + 10
  else 36

/-- The decimal text of an integer. -/
def intText (n : Int) : String :=
  match n with
  | .ofNat k => Nat.repr k
  | .negSucc k => "-" ++ Nat.repr (k + 1)

end Exposure.Text
