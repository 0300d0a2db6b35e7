/-
# Text.Quoted — double quoted text in messages

A text is shown between double quotes.  The quote and the backslash are
escaped by a backslash, seven controls have letters of their own, any other
ASCII control is `\x` and two hexadecimal digits, and every other character
that is not printable is `\u` and four digits or `\U` and eight.  A byte that
belongs to no character is `\x` and its digits.  A single character is shown
between single quotes by the same rules.

A character is printable when it is a letter, a mark, a number, a punctuation
mark or a symbol, or the plain space.  Controls, format characters, unassigned
code points and every other space are not.
-/
import Exposure.Text.Category
import Exposure.Text.Octets

namespace Exposure.Text

set_option autoImplicit false

/-- The printable code points but the plain space. -/
def visibleRanges : CodeRanges :=
  Category.letters ++ Category.marks ++ Category.numbers ++ Category.punctuation ++ Category.symbols

/-- A printable character stands for itself in quoted text. -/
def isPrintable (c : Char) : Bool :=
  if c.toNat < 0x7F then 0x20 ≤ c.toNat else visibleRanges.has c.toNat

/-- The lower case hexadecimal digit of a number below sixteen. -/
def hexDigit (n : Nat) : Char := Nat.digitChar n

/-- The last `width` hexadecimal digits of `n`, with leading zeros. -/
def hexPadded : Nat → Nat → List Char
  | 0, _ => []
  | width + 1, n => hexPadded width (n / 16) ++ [hexDigit (n % 16)]

/-- One character as it stands between double quotes. -/
def quoteChar (c : Char) : List Char :=
  if c == '"' then ['\\', '"']
  else if c == '\\' then ['\\', '\\']
  else if isPrintable c then [c]
  else match c.toNat with
    | 7 => ['\\', 'a']
    | 8 => ['\\', 'b']
    | 12 => ['\\', 'f']
    | 10 => ['\\', 'n']
    | 13 => ['\\', 'r']
    | 9 => ['\\', 't']
    | 11 => ['\\', 'v']
    | n =>
      if n < 0x20 || n == 0x7F then '\\' :: 'x' :: hexPadded 2 n
      else if let some b := strayByte? c then '\\' :: 'x' :: hexPadded 2 b
      else if n < 0x10000 then '\\' :: 'u' :: hexPadded 4 n
      else '\\' :: 'U' :: hexPadded 8 n

/-- The text between double quotes. -/
def quoted (s : String) : String :=
  String.ofList ('"' :: s.toList.flatMap quoteChar ++ ['"'])

/-- A character between single quotes, of which it may be one. -/
def quotedChar (c : Char) : String :=
  let inner := if c == '\'' then ['\\', '\''] else if c == '"' then ['"'] else quoteChar c
  String.ofList ('\'' :: inner ++ ['\''])

end Exposure.Text
