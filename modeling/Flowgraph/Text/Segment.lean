import Flowgraph.Text.Blank
import Flowgraph.Text.Property
import Flowgraph.Text.ScriptTable

/-! The parts that characters play where text is cut into signs, words and sentences. In each of
the three ways a character plays at most one part. -/

namespace Flowgraph.Text.Segment

open Category

/-- The characters of a script that are its own. -/
def ofScript (code : String) : List (Nat × Nat) :=
  interRanges ((scripts.filter (·.code = code)).flatMap (·.ranges)) assignedRanges

def regionalRanges : List (Nat × Nat) := [(0x1f1e6, 0x1f1ff)]
def emojiModifierRanges : List (Nat × Nat) := [(0x1f3fb, 0x1f3ff)]

/-- Signs that stand before a number, and one before an abbreviation. -/
def leadingSignRanges : List (Nat × Nat) :=
  [(0x600, 0x605), (0x6dd, 0x6dd), (0x70f, 0x70f), (0x890, 0x891), (0x8e2, 0x8e2), (0x110bd, 0x110bd), (0x110cd, 0x110cd)]

namespace Sign

/-- What joins the character after it. -/
def opener : List (Nat × Nat) :=
  unionRanges leadingSignRanges
    [(0xd4e, 0xd4e), (0x111c2, 0x111c3), (0x113d1, 0x113d1), (0x1193f, 0x1193f), (0x11941, 0x11941), (0x11a3a, 0x11a3a),
      (0x11a84, 0x11a89), (0x11d46, 0x11d46), (0x11f02, 0x11f02)]

def extender : List (Nat × Nat) := unionRanges graphemeExtenderRanges emojiModifierRanges

def control : List (Nat × Nat) :=
  diffRanges
    (unionRanges (ofCategories [lineEnd, paragraphEnd, Category.control, format])
      (interRanges unassignedRanges defaultIgnorableRanges))
    (unionRanges (unionRanges opener extender) [(0xa, 0xa), (0xd, 0xd), (0x200c, 0x200d)])

def spacing : List (Nat × Nat) :=
  diffRanges (unionRanges (ofCategories [spacingMark]) [(0xe33, 0xe33), (0xeb3, 0xeb3)])
    (unionRanges extender
      [(0x102b, 0x102c), (0x1038, 0x1038), (0x1062, 0x1064), (0x1067, 0x106d), (0x1083, 0x1083), (0x1087, 0x108c),
        (0x108f, 0x108f), (0x109a, 0x109c), (0x1a61, 0x1a61), (0x1a63, 0x1a64), (0xaa7b, 0xaa7b), (0xaa7d, 0xaa7d),
        (0x11720, 0x11721)])

def leadingConsonant : List (Nat × Nat) := [(0x1100, 0x115f), (0xa960, 0xa97c)]
def vowel : List (Nat × Nat) := [(0x1160, 0x11a7), (0xd7b0, 0xd7c6), (0x16d63, 0x16d63), (0x16d67, 0x16d6a)]
def trailingConsonant : List (Nat × Nat) := [(0x11a8, 0x11ff), (0xd7cb, 0xd7fb)]

/-- Syllables without a trailing consonant: every 28th of the block. -/
def openSyllable : List (Nat × Nat) := (List.range 399).map fun i => (0xac00 + 28 * i, 0xac00 + 28 * i)

def closedSyllable : List (Nat × Nat) := diffRanges [(0xac00, 0xd7a3)] openSyllable

end Sign

namespace Word

def extender : List (Nat × Nat) :=
  diffRanges (unionRanges Sign.extender (ofCategories [spacingMark])) [(0x200d, 0x200d)]

def format : List (Nat × Nat) :=
  diffRanges (ofCategories [Category.format]) (unionRanges (unionRanges Sign.opener extender) [(0x200b, 0x200d)])

def katakana : List (Nat × Nat) :=
  unionRanges (ofScript "kana") [(0x3031, 0x3035), (0x309b, 0x309c), (0x30a0, 0x30a0), (0x30fc, 0x30fc), (0xff70, 0xff70)]

def hebrewLetter : List (Nat × Nat) := interRanges (ofScript "hebr") (ofCategories [otherLetter])

/-- The scripts that put no blanks between words. -/
def unspacedRanges : List (Nat × Nat) :=
  [(0xe01, 0xedf), (0x1000, 0x108e), (0x1780, 0x17dc), (0x1950, 0x19c9), (0x1a20, 0x1aa7), (0xa9e0, 0xa9fe),
    (0xaa60, 0xaadd), (0x11700, 0x11746)]

/-- Signs that count as letters. -/
def letterSignRanges : List (Nat × Nat) :=
  [(0xb8, 0xb8), (0x2c2, 0x2c5), (0x2d2, 0x2d7), (0x2de, 0x2df), (0x2e5, 0x2eb), (0x2ed, 0x2ed), (0x2ef, 0x2ff),
    (0x55a, 0x55c), (0x55e, 0x55e), (0x58a, 0x58a), (0x5f3, 0x5f3), (0x70f, 0x70f), (0xa708, 0xa716), (0xa720, 0xa721),
    (0xa789, 0xa78a), (0xab5b, 0xab5b)]

def letter : List (Nat × Nat) :=
  [unifiedIdeographRanges, furtherIdeographRanges, katakana, unspacedRanges, ofScript "hira", extender, hebrewLetter].foldl
    diffRanges (unionRanges alphabeticRanges letterSignRanges)

def numeric : List (Nat × Nat) :=
  unionRanges (unionRanges digitRanges [(0x66b, 0x66b)]) (diffRanges leadingSignRanges [(0x70f, 0x70f)])

def connector : List (Nat × Nat) := unionRanges (ofCategories [Category.connector]) [(0x202f, 0x202f)]

def blank : List (Nat × Nat) := diffRanges (ofCategories [space]) [(0xa0, 0xa0), (0x2007, 0x2007), (0x202f, 0x202f)]

def insideLetters : List (Nat × Nat) :=
  [(0x3a, 0x3a), (0xb7, 0xb7), (0x387, 0x387), (0x55f, 0x55f), (0x5f4, 0x5f4), (0x2027, 0x2027), (0xfe13, 0xfe13),
    (0xfe55, 0xfe55), (0xff1a, 0xff1a)]

def insideNumbers : List (Nat × Nat) :=
  [(0x2c, 0x2c), (0x3b, 0x3b), (0x37e, 0x37e), (0x589, 0x589), (0x60c, 0x60d), (0x66c, 0x66c), (0x7f8, 0x7f8),
    (0x2044, 0x2044), (0xfe10, 0xfe10), (0xfe14, 0xfe14), (0xfe50, 0xfe50), (0xfe54, 0xfe54), (0xff0c, 0xff0c),
    (0xff1b, 0xff1b)]

def insideBoth : List (Nat × Nat) :=
  [(0x2e, 0x2e), (0x2018, 0x2019), (0x2024, 0x2024), (0xfe52, 0xfe52), (0xff07, 0xff07), (0xff0e, 0xff0e)]

def lineBreak : List (Nat × Nat) := [(0xb, 0xc), (0x85, 0x85), (0x2028, 0x2029)]

end Word

namespace Sentence

def extender : List (Nat × Nat) :=
  unionRanges (unionRanges graphemeExtenderRanges (ofCategories [spacingMark])) [(0x200d, 0x200d)]

def separator : List (Nat × Nat) := [(0x85, 0x85), (0x2028, 0x2029)]

def format : List (Nat × Nat) :=
  diffRanges (ofCategories [Category.format]) (unionRanges extender [(0x200c, 0x200d)])

def blank : List (Nat × Nat) := diffRanges blankRanges (unionRanges separator [(0xa, 0xa), (0xd, 0xd)])

def lower : List (Nat × Nat) :=
  diffRanges (diffRanges lowercaseRanges graphemeExtenderRanges) [(0x10d0, 0x10fa), (0x10fd, 0x10ff)]

def upper : List (Nat × Nat) := diffRanges (unionRanges (ofCategories [titleLetter]) uppercaseRanges) [(0x1c90, 0x1cbf)]

def otherLetter : List (Nat × Nat) :=
  [lower, upper, extender].foldl diffRanges (unionRanges alphabeticRanges [(0x5f3, 0x5f3)])

def numeric : List (Nat × Nat) := unionRanges digitRanges [(0x66b, 0x66c)]

/-- A point that may end a sentence. -/
def point : List (Nat × Nat) := [(0x2e, 0x2e), (0x2024, 0x2024), (0xfe52, 0xfe52), (0xff0e, 0xff0e)]

def terminal : List (Nat × Nat) := diffRanges sentenceTerminalRanges point

/-- What goes on with a sentence. -/
def pause : List (Nat × Nat) :=
  [(0x2c, 0x2d), (0x3a, 0x3b), (0x37e, 0x37e), (0x55d, 0x55d), (0x60c, 0x60d), (0x7f8, 0x7f8), (0x1802, 0x1802),
    (0x1808, 0x1808), (0x2013, 0x2014), (0x3001, 0x3001), (0xfe10, 0xfe11), (0xfe13, 0xfe14), (0xfe31, 0xfe32),
    (0xfe50, 0xfe51), (0xfe54, 0xfe55), (0xfe58, 0xfe58), (0xfe63, 0xfe63), (0xff0c, 0xff0d), (0xff1a, 0xff1b),
    (0xff64, 0xff64)]

def closing : List (Nat × Nat) :=
  unionRanges (ofCategories [opening, Category.closing, initialQuote, finalQuote])
    [(0x22, 0x22), (0x27, 0x27), (0x275b, 0x2760), (0x2e00, 0x2e01), (0x2e06, 0x2e08), (0x2e0b, 0x2e0b), (0x1f676, 0x1f678)]

end Sentence
end Flowgraph.Text.Segment
