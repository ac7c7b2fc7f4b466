import Flowgraph.Text.Case
import Flowgraph.Text.CategoryTable
import Flowgraph.Text.CombiningTable
import Flowgraph.Text.PropertyTable

/-! Sets of characters that follow from their categories and from the tables of properties. -/

namespace Flowgraph.Text

open Category

def ofCategories (categories : List Category) : List (Nat × Nat) := normalRanges (categories.flatMap Category.ranges)

def letters : List Category := [upperLetter, lowerLetter, titleLetter, modifierLetter, otherLetter]
def marks : List Category := [nonspacingMark, spacingMark, enclosingMark]
def numbers : List Category := [decimalDigit, letterNumber, otherNumber]
def punctuation : List Category := [connector, dash, opening, closing, initialQuote, finalQuote, otherPunctuation]
def signs : List Category := [mathSign, currencySign, modifierSign, otherSign]
def separators : List Category := [space, lineEnd, paragraphEnd]
def others : List Category := [control, format, privateUse]

def assignedRanges : List (Nat × Nat) :=
  ofCategories (letters ++ marks ++ numbers ++ punctuation ++ signs ++ separators ++ others)

def unassignedRanges : List (Nat × Nat) := complRanges (unionRanges assignedRanges [(0xd800, 0xdfff)])

def digitRanges : List (Nat × Nat) := ofCategories [decimalDigit]
def numberRanges : List (Nat × Nat) := ofCategories numbers

/-- Letters, letter-like numbers, and the marks that vowels are written with. -/
def alphabeticRanges : List (Nat × Nat) :=
  unionRanges (unionRanges (ofCategories (letterNumber :: letters)) circledLetterRanges)
    (diffRanges (ofCategories marks) plainMarkRanges)

def joinerRanges : List (Nat × Nat) := [(0x200c, 0x200d)]

/-- A word character is alphabetic, a mark, a decimal digit, connector punctuation or a joiner. -/
def wordRanges : List (Nat × Nat) :=
  unionRanges alphabeticRanges (unionRanges (ofCategories (decimalDigit :: connector :: marks)) joinerRanges)

def lowercaseRanges : List (Nat × Nat) := unionRanges (ofCategories [lowerLetter]) smallSignRanges
def uppercaseRanges : List (Nat × Nat) := unionRanges (ofCategories [upperLetter]) capitalSignRanges
def letterCaseRanges : List (Nat × Nat) := unionRanges (unionRanges lowercaseRanges uppercaseRanges) (ofCategories [titleLetter])
def mathRanges : List (Nat × Nat) := unionRanges (ofCategories [mathSign]) furtherMathRanges

/-- Characters that join the one before them into one sign. -/
def graphemeExtenderRanges : List (Nat × Nat) :=
  unionRanges (ofCategories [nonspacingMark, enclosingMark]) furtherExtenderRanges

def graphemeBaseRanges : List (Nat × Nat) :=
  diffRanges (diffRanges assignedRanges (ofCategories (lineEnd :: paragraphEnd :: others))) graphemeExtenderRanges

def furtherStartRanges : List (Nat × Nat) := [(0x1885, 0x1886), (0x2118, 0x2118), (0x212e, 0x212e), (0x309b, 0x309c)]

def furtherNameRanges : List (Nat × Nat) :=
  [(0xb7, 0xb7), (0x387, 0x387), (0x1369, 0x1371), (0x19da, 0x19da), (0x200c, 0x200d), (0x30fb, 0x30fb), (0xff65, 0xff65)]

def nameStartRanges : List (Nat × Nat) :=
  diffRanges (unionRanges (ofCategories (letterNumber :: letters)) furtherStartRanges) [(0x2e2f, 0x2e2f)]

def nameRanges : List (Nat × Nat) :=
  unionRanges nameStartRanges
    (unionRanges (ofCategories [nonspacingMark, spacingMark, decimalDigit, connector]) furtherNameRanges)

/-- What case ignores inside of a word. -/
def passedRanges : List (Nat × Nat) :=
  unionRanges (ofCategories [nonspacingMark, enclosingMark, format, modifierLetter, modifierSign]) innerSignRanges

/-- The assigned characters that the mappings of a case change into assigned ones. -/
def changedRanges (ascii : Nat × Nat) (runs : List Run) (long : List (Nat × List Nat)) : List (Nat × Nat) :=
  let moved := (runs.flatMap Run.pairs).filter fun (n, m) => within assignedRanges n && within assignedRanges m
  normalRanges (ascii :: (moved.map (·.1) ++ long.map (·.1)).map fun n => (n, n))

def loweredRanges : List (Nat × Nat) := changedRanges (0x41, 0x5a) lowerRuns lowerLong
def upperedRanges : List (Nat × Nat) := changedRanges (0x61, 0x7a) upperRuns upperLong

/-- What the case of titles changes: of the letters with a capital, not those that are in it already. -/
def titledRanges : List (Nat × Nat) :=
  unionRanges [(0x1c4, 0x1c4), (0x1c7, 0x1c7), (0x1ca, 0x1ca), (0x1f1, 0x1f1)]
    (diffRanges upperedRanges (unionRanges (ofCategories [titleLetter]) [(0x10d0, 0x10fa), (0x10fd, 0x10ff)]))

def caseFoldedRanges : List (Nat × Nat) := diffRanges (unionRanges loweredRanges foldedRanges) [(0x13a0, 0x13f5)]

/-- Marks that drop the vowel of a letter and link it to the next one. -/
def linkRanges : List (Nat × Nat) :=
  interRanges ((combiningRanges.filter fun (_, _, k) => k = 9).map fun (m, n, _) => (m, n)) assignedRanges

def variationRanges : List (Nat × Nat) := [(0x180b, 0x180d), (0x180f, 0x180f), (0xfe00, 0xfe0f), (0xe0100, 0xe01ef)]

/-- What may be ignored, beside format characters and variation selectors. -/
def furtherIgnorableRanges : List (Nat × Nat) :=
  diffRanges defaultIgnorableRanges (unionRanges (ofCategories [format]) variationRanges)

def mathNameStartRanges : List (Nat × Nat) :=
  [(0x2202, 0x2202), (0x2207, 0x2207), (0x221e, 0x221e), (0x1d6c1, 0x1d6c1), (0x1d6db, 0x1d6db), (0x1d6fb, 0x1d6fb),
    (0x1d715, 0x1d715), (0x1d735, 0x1d735), (0x1d74f, 0x1d74f), (0x1d76f, 0x1d76f), (0x1d789, 0x1d789),
    (0x1d7a9, 0x1d7a9), (0x1d7c3, 0x1d7c3)]

def mathNameRanges : List (Nat × Nat) :=
  unionRanges mathNameStartRanges
    [(0xb2, 0xb3), (0xb9, 0xb9), (0x2070, 0x2070), (0x2074, 0x207e), (0x2080, 0x208e)]

/-- Marks that change a letter rather than mark a vowel. -/
def modifierMarkRanges : List (Nat × Nat) :=
  [(0x654, 0x655), (0x658, 0x658), (0x6dc, 0x6dc), (0x6e3, 0x6e3), (0x6e7, 0x6e8), (0x8ca, 0x8cb), (0x8cd, 0x8cf),
    (0x8d3, 0x8d3), (0x8f3, 0x8f3)]

/-- The code points set aside for no character: the last two of each plane, and 32 more. -/
def nonCharacterRanges : List (Nat × Nat) :=
  (0xfdd0, 0xfdef) :: (List.range 17).map fun plane => (plane * 0x10000 + 0xfffe, plane * 0x10000 + 0xffff)

end Flowgraph.Text
