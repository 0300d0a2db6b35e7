/-
# Text.Blank — white space and trimming

A blank is a character of the Unicode property White_Space: the six ASCII
spaces and controls, next line, the no-break space, and the typographic spaces
and separators.  The zero width space is not one of them.

`trim` removes the blanks at both ends of a text and nothing between them.
-/

namespace Exposure.Text

set_option autoImplicit false

/-- White space in the sense of the Unicode property. -/
def isBlank (c : Char) : Bool :=
  let n := c.toNat
  (9 ≤ n && n ≤ 13) || n == 0x20 || n == 0x85 || n == 0xA0 || n == 0x1680 ||
    (0x2000 ≤ n && n ≤ 0x200A) || n == 0x2028 || n == 0x2029 || n == 0x202F ||
    n == 0x205F || n == 0x3000

/-- The text without its leading blanks. -/
def trimStart (s : List Char) : List Char := s.dropWhile isBlank

/-- The text without its trailing blanks. -/
def trimEnd (s : List Char) : List Char := (s.reverse.dropWhile isBlank).reverse

/-- The text without the blanks at either end. -/
def trim (s : List Char) : List Char := trimEnd (trimStart s)

/-- `trim` on strings. -/
def trimmed (s : String) : String := String.ofList (trim s.toList)

/-- A text of blanks only, or of nothing. -/
def allBlank (s : List Char) : Bool := s.all isBlank

end Exposure.Text
