/-
# Text.Property — sets of characters by name

A set is named after a general category, by its letters or in words, or after
a script; three more names stand for all code points, the assigned ones and
the ASCII ones.  Case, blanks, hyphens and underscores in a name do not count.
-/
import Exposure.Text.Category
import Exposure.Text.Cut
import Exposure.Text.Script.AToG
import Exposure.Text.Script.HToM
import Exposure.Text.Script.NToZ

namespace Exposure.Text

set_option autoImplicit false

/-- Code points that have a property, or all the others. -/
structure Property where
  ranges : CodeRanges
  negated : Bool := false
  deriving DecidableEq, Repr

namespace Property

/-- What counts of a name. -/
def nameKey (name : String) : String :=
  let kept := name.toList.filter fun c => c != '_' && c != '-' && c != ' '
  String.ofList (kept.map fun c => if isUpper c then Char.ofNat (c.toNat + 32) else c)

/-- The categories and their groups, each with its names. -/
def categories : List (List String × CodeRanges) :=
  [(["L", "Letter"], Category.letters),
   (["LC", "Cased_Letter"], Category.casedLetters),
   (["Lu", "Uppercase_Letter"], Category.capitals),
   (["Ll", "Lowercase_Letter"], Category.smallLetters),
   (["Lt", "Titlecase_Letter"], Category.titleRuns),
   (["Lm", "Modifier_Letter"], Category.modifierLetterRuns),
   (["Lo", "Other_Letter"], Category.otherLetters),
   (["M", "Mark", "Combining_Mark"], Category.marks),
   (["Mn", "Nonspacing_Mark"], Category.nonspacingMarks),
   (["Mc", "Spacing_Mark"], Category.spacingRuns),
   (["Me", "Enclosing_Mark"], Category.enclosingRuns),
   (["N", "Number"], Category.numbers),
   (["Nd", "Decimal_Number", "digit"], Category.decimalRuns),
   (["Nl", "Letter_Number"], Category.letterNumberRuns),
   (["No", "Other_Number"], Category.otherNumberRuns),
   (["P", "Punctuation", "punct"], Category.punctuation),
   (["Pc", "Connector_Punctuation"], Category.connectorRuns),
   (["Pd", "Dash_Punctuation"], Category.dashRuns),
   (["Ps", "Open_Punctuation"], Category.openings),
   (["Pe", "Close_Punctuation"], Category.closings),
   (["Pi", "Initial_Punctuation"], Category.initialQuoteRuns),
   (["Pf", "Final_Punctuation"], Category.finalQuoteRuns),
   (["Po", "Other_Punctuation"], Category.otherPunctuationRuns),
   (["S", "Symbol"], Category.symbols),
   (["Sm", "Math_Symbol"], Category.mathematicalRuns),
   (["Sc", "Currency_Symbol"], Category.currencyRuns),
   (["Sk", "Modifier_Symbol"], Category.modifierSymbolRuns),
   (["So", "Other_Symbol"], Category.otherSymbols),
   (["Z", "Separator"], Category.separators),
   (["Zs", "Space_Separator"], Category.spaces),
   (["Zl", "Line_Separator"], Category.lineSeparators),
   (["Zp", "Paragraph_Separator"], Category.paragraphSeparators),
   (["Cc", "Control", "cntrl"], Category.controls),
   (["Cf", "Format"], Category.formats),
   (["Cs", "Surrogate"], Category.surrogates),
   (["Co", "Private_Use"], Category.privateUse)]

/-- The code points of letters, marks, numbers, punctuation, symbols and separators. -/
def ordinary : CodeRanges :=
  Category.letters ++ Category.marks ++ Category.numbers ++ Category.punctuation
    ++ Category.symbols ++ Category.separators

/-- The names of the other sets. -/
def others : List (List String × Property) :=
  [(["Any"], { ranges := [(0, 0x10FFFF)] }),
   (["ASCII"], { ranges := [(0, 0x7F)] }),
   (["Assigned"], { ranges := Category.assigned }),
   (["Cn", "Unassigned"], { ranges := Category.assigned, negated := true }),
   (["C", "Other"], { ranges := ordinary, negated := true })]

/-- The scripts. -/
def scripts : List (String × CodeRanges) :=
  Script.scriptsAToG ++ Script.scriptsHToM ++ Script.scriptsNToZ

/-- The property with a name. -/
def ofName? (name : String) : Option Property :=
  let key := nameKey name
  let isNamed (names : List String) : Bool := names.any (nameKey · == key)
  match others.find? (isNamed ·.1) with
  | some (_, p) => some p
  | none =>
    match categories.find? (isNamed ·.1) with
    | some (_, ranges) => some { ranges }
    | none => (scripts.find? fun s => nameKey s.1 == key).map fun s => { ranges := s.2 }

end Property

end Exposure.Text
