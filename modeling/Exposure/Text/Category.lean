/-
# Text.Category — the general category of a character

Every code point has one general category: a kind of letter, mark, number,
punctuation, symbol, separator or control, or none of them when it is not
assigned.  A category is known by two letters, of which the first names its
group.
-/
import Exposure.Text.Category.Letter
import Exposure.Text.Category.Mark
import Exposure.Text.Category.Number
import Exposure.Text.Category.Punctuation
import Exposure.Text.Category.Symbol

namespace Exposure.Text

set_option autoImplicit false

/-- A set of code points, as ranges with both ends. -/
abbrev CodeRanges := List (Nat × Nat)

namespace CodeRanges

/-- Whether a code point is in one of the ranges. -/
def has (rs : CodeRanges) (n : Nat) : Bool := rs.any fun r => r.1 ≤ n && n ≤ r.2

/-- Every second code point of the ranges, from the first on. -/
def everySecond (rs : CodeRanges) : CodeRanges :=
  rs.flatMap fun r => (List.range ((r.2 - r.1) / 2 + 1)).map fun i => (r.1 + 2 * i, r.1 + 2 * i)

end CodeRanges

namespace Category

def capitals : CodeRanges := capitalRuns ++ CodeRanges.everySecond capitalSteps

def smallLetters : CodeRanges := smallRuns ++ CodeRanges.everySecond smallSteps

def otherLetters : CodeRanges := otherLetterRuns ++ CodeRanges.everySecond otherLetterSteps

/-- The letters that have a case. -/
def casedLetters : CodeRanges := capitals ++ smallLetters ++ titleRuns

def letters : CodeRanges := casedLetters ++ modifierLetterRuns ++ otherLetters

def nonspacingMarks : CodeRanges := nonspacingRuns ++ CodeRanges.everySecond nonspacingSteps

def marks : CodeRanges := nonspacingMarks ++ spacingRuns ++ enclosingRuns

def numbers : CodeRanges := decimalRuns ++ letterNumberRuns ++ otherNumberRuns

def openings : CodeRanges := openingRuns ++ CodeRanges.everySecond openingSteps

def closings : CodeRanges := closingRuns ++ CodeRanges.everySecond closingSteps

def punctuation : CodeRanges :=
  connectorRuns ++ dashRuns ++ openings ++ closings ++ initialQuoteRuns ++ finalQuoteRuns
    ++ otherPunctuationRuns

def otherSymbols : CodeRanges := otherSymbolRuns ++ CodeRanges.everySecond otherSymbolSteps

def symbols : CodeRanges := mathematicalRuns ++ currencyRuns ++ modifierSymbolRuns ++ otherSymbols

def spaces : CodeRanges :=
  [(0x20, 0x20), (0xA0, 0xA0), (0x1680, 0x1680), (0x2000, 0x200A), (0x202F, 0x202F),
   (0x205F, 0x205F), (0x3000, 0x3000)]

def lineSeparators : CodeRanges := [(0x2028, 0x2028)]

def paragraphSeparators : CodeRanges := [(0x2029, 0x2029)]

def separators : CodeRanges := spaces ++ lineSeparators ++ paragraphSeparators

def controls : CodeRanges := [(0x00, 0x1F), (0x7F, 0x9F)]

def formats : CodeRanges :=
  [(0xAD, 0xAD), (0x600, 0x605), (0x61C, 0x61C), (0x6DD, 0x6DD), (0x70F, 0x70F), (0x890, 0x891),
   (0x8E2, 0x8E2), (0x180E, 0x180E), (0x200B, 0x200F), (0x202A, 0x202E), (0x2060, 0x2064),
   (0x2066, 0x206F), (0xFEFF, 0xFEFF), (0xFFF9, 0xFFFB), (0x110BD, 0x110BD), (0x110CD, 0x110CD),
   (0x13430, 0x1343F), (0x1BCA0, 0x1BCA3), (0x1D173, 0x1D17A), (0xE0001, 0xE0001),
   (0xE0020, 0xE007F)]

def surrogates : CodeRanges := [(0xD800, 0xDFFF)]

def privateUse : CodeRanges := [(0xE000, 0xF8FF), (0xF0000, 0xFFFFD), (0x100000, 0x10FFFD)]

/-- The code points that are assigned. -/
def assigned : CodeRanges :=
  letters ++ marks ++ numbers ++ punctuation ++ symbols ++ separators ++ controls ++ formats
    ++ surrogates ++ privateUse

end Category

/-- A letter of any script. -/
def isLetter (c : Char) : Bool := Category.letters.has c.toNat

/-- A capital letter of any script. -/
def isCapital (c : Char) : Bool := Category.capitals.has c.toNat

end Exposure.Text
