import Flowgraph.Text.AgeTable
import Flowgraph.Text.Segment

/-! Character properties by their names: categories, scripts, editions, parts in signs, words and
sentences, and sets of characters.
A name may be written long or short; its case, blanks, underscores, hyphens and a leading "is" do
not count. -/

namespace Flowgraph.Pattern.Property

open Text Text.Category

/-- The plain form of a name. An "is" before the name of the category "c" is kept, because "isc"
names something else. -/
def plainName (s : List Char) : String :=
  let plain (s : List Char) := (s.filter fun c => c.toNat < 0x80 && c != ' ' && c != '_' && c != '-').map Char.toLower
  match s with
  | a :: b :: rest =>
    if a.toLower == 'i' && b.toLower == 's' then
      if plain rest == ['c'] then "isc" else .ofList (plain rest)
    else .ofList (plain s)
  | _ => .ofList (plain s)

def categories? : String → Option (List Category)
  | "l" | "letter" => some letters
  | "lc" | "casedletter" => some [upperLetter, lowerLetter, titleLetter]
  | "lu" | "uppercaseletter" => some [upperLetter]
  | "ll" | "lowercaseletter" => some [lowerLetter]
  | "lt" | "titlecaseletter" => some [titleLetter]
  | "lm" | "modifierletter" => some [modifierLetter]
  | "lo" | "otherletter" => some [otherLetter]
  | "m" | "mark" | "combiningmark" => some marks
  | "mn" | "nonspacingmark" => some [nonspacingMark]
  | "mc" | "spacingmark" => some [spacingMark]
  | "me" | "enclosingmark" => some [enclosingMark]
  | "n" | "number" => some numbers
  | "nd" | "decimalnumber" | "digit" => some [decimalDigit]
  | "nl" | "letternumber" => some [letterNumber]
  | "no" | "othernumber" => some [otherNumber]
  | "p" | "punctuation" | "punct" => some punctuation
  | "pc" | "connectorpunctuation" => some [connector]
  | "pd" | "dashpunctuation" => some [dash]
  | "ps" | "openpunctuation" => some [opening]
  | "pe" | "closepunctuation" => some [closing]
  | "pi" | "initialpunctuation" => some [initialQuote]
  | "pf" | "finalpunctuation" => some [finalQuote]
  | "po" | "otherpunctuation" => some [otherPunctuation]
  | "s" | "symbol" => some signs
  | "sm" | "mathsymbol" => some [mathSign]
  | "sc" | "currencysymbol" => some [currencySign]
  | "sk" | "modifiersymbol" => some [modifierSign]
  | "so" | "othersymbol" => some [otherSign]
  | "z" | "separator" => some separators
  | "zs" | "spaceseparator" => some [space]
  | "zl" | "lineseparator" => some [lineEnd]
  | "zp" | "paragraphseparator" => some [paragraphEnd]
  | "cc" | "control" | "cntrl" => some [control]
  | "cf" | "format" => some [format]
  | "co" | "privateuse" => some [privateUse]
  | _ => none

/-- The characters of a category, of a group of categories, or of all of them. -/
def category? : String → Option (List (Nat × Nat))
  | "any" => some [(0, 0x10ffff)]
  | "ascii" => some [(0, 0x7f)]
  | "assigned" => some assignedRanges
  | "cn" | "unassigned" => some unassignedRanges
  | "c" | "other" => some (unionRanges unassignedRanges (ofCategories others))
  | name => (categories? name).map ofCategories

/-- The script of a name, of which two have an old code too. -/
def findScript? (name : String) : Option Script :=
  let name := if name = "qaac" then "copt" else if name = "qaai" then "zinh" else name
  scripts.find? fun s => s.code = name || s.name = name

def script? (name : String) : Option (List (Nat × Nat)) :=
  (findScript? name).map fun s => interRanges s.ranges assignedRanges

/-- The characters that a script uses, its own or not. -/
def scriptExtension? (name : String) : Option (List (Nat × Nat)) := do
  let s ← findScript? name
  let shared := normalRanges (sharedRanges.map fun (m, n, _) => (m, n))
  let used := (sharedRanges.filter fun (_, _, codes) => codes.contains s.code).map fun (m, n, _) => (m, n)
  return unionRanges (diffRanges (interRanges s.ranges assignedRanges) shared) used

/-- The edition that a name gives with a point, or after a "v" without one. -/
def editionNames (major minor : Nat) : List String := [s!"{major}.{minor}", s!"v{major}{minor}"]

/-- What was assigned up to an edition, code points for no character included. -/
def age? (name : String) : Option (List (Nat × Nat)) :=
  let lasting := unionRanges assignedRanges nonCharacterRanges
  let upTo := ageRanges.takeWhile fun (major, minor, _) => !(editionNames major minor).contains name
  match ageRanges.drop upTo.length with
  | (_, _, last) :: _ => some (interRanges (normalRanges ((upTo.flatMap fun (_, _, r) => r) ++ last)) lasting)
  | [] => none

def binary? : String → Option (List (Nat × Nat))
  | "ahex" | "asciihexdigit" => some [(0x30, 0x39), (0x41, 0x46), (0x61, 0x66)]
  | "alpha" | "alphabetic" => some alphabeticRanges
  | "bidic" | "bidicontrol" => some [(0x61c, 0x61c), (0x200e, 0x200f), (0x202a, 0x202e), (0x2066, 0x2069)]
  | "ci" | "caseignorable" => some passedRanges
  | "cased" => some letterCaseRanges
  | "cwcf" | "changeswhencasefolded" => some caseFoldedRanges
  | "cwcm" | "changeswhencasemapped" => some (unionRanges (unionRanges loweredRanges upperedRanges) titledRanges)
  | "cwl" | "changeswhenlowercased" => some loweredRanges
  | "cwt" | "changeswhentitlecased" => some titledRanges
  | "cwu" | "changeswhenuppercased" => some upperedRanges
  | "dash" =>
    some (unionRanges (ofCategories [dash]) [(0x2053, 0x2053), (0x207b, 0x207b), (0x208b, 0x208b), (0x2212, 0x2212)])
  | "di" | "defaultignorablecodepoint" => some defaultIgnorableRanges
  | "dep" | "deprecated" =>
    some [(0x149, 0x149), (0x673, 0x673), (0xf77, 0xf77), (0xf79, 0xf79), (0x17a3, 0x17a4), (0x206a, 0x206f),
      (0x2329, 0x232a), (0xe0001, 0xe0001)]
  | "dia" | "diacritic" => some diacriticRanges
  | "emoji" => some emojiRanges
  | "ecomp" | "emojicomponent" => some emojiComponentRanges
  | "emod" | "emojimodifier" => some Segment.emojiModifierRanges
  | "ebase" | "emojimodifierbase" => some emojiModifierBaseRanges
  | "epres" | "emojipresentation" => some emojiPresentationRanges
  | "extpict" | "extendedpictographic" => some extendedPictographicRanges
  | "ext" | "extender" => some extenderRanges
  | "grbase" | "graphemebase" => some graphemeBaseRanges
  | "grext" | "graphemeextend" => some graphemeExtenderRanges
  | "grlink" | "graphemelink" => some linkRanges
  | "hex" | "hexdigit" =>
    some [(0x30, 0x39), (0x41, 0x46), (0x61, 0x66), (0xff10, 0xff19), (0xff21, 0xff26), (0xff41, 0xff46)]
  | "hyphen" =>
    some [(0x2d, 0x2d), (0xad, 0xad), (0x58a, 0x58a), (0x1806, 0x1806), (0x2010, 0x2011), (0x2e17, 0x2e17),
      (0x30fb, 0x30fb), (0xfe63, 0xfe63), (0xff0d, 0xff0d), (0xff65, 0xff65)]
  | "idsb" | "idsbinaryoperator" => some [(0x2ff0, 0x2ff1), (0x2ff4, 0x2ffd), (0x31ef, 0x31ef)]
  | "idst" | "idstrinaryoperator" => some [(0x2ff2, 0x2ff3)]
  | "idsu" | "idsunaryoperator" => some [(0x2ffe, 0x2fff)]
  | "idc" | "idcontinue" => some nameRanges
  | "idcompatmathcontinue" => some mathNameRanges
  | "idcompatmathstart" => some mathNameStartRanges
  | "ids" | "idstart" => some nameStartRanges
  | "ideo" | "ideographic" => some (unionRanges unifiedIdeographRanges furtherIdeographRanges)
  | "joinc" | "joincontrol" => some joinerRanges
  | "loe" | "logicalorderexception" =>
    some [(0xe40, 0xe44), (0xec0, 0xec4), (0x19b5, 0x19b7), (0x19ba, 0x19ba), (0xaab5, 0xaab6), (0xaab9, 0xaab9),
      (0xaabb, 0xaabc)]
  | "lower" | "lowercase" => some lowercaseRanges
  | "math" => some mathRanges
  | "mcm" | "modifiercombiningmark" => some modifierMarkRanges
  | "nchar" | "noncharactercodepoint" => some nonCharacterRanges
  | "oalpha" | "otheralphabetic" => some (diffRanges alphabeticRanges (ofCategories (letterNumber :: letters)))
  | "odi" | "otherdefaultignorablecodepoint" => some furtherIgnorableRanges
  | "ogrext" | "othergraphemeextend" => some furtherExtenderRanges
  | "oidc" | "otheridcontinue" => some furtherNameRanges
  | "oids" | "otheridstart" => some furtherStartRanges
  | "olower" | "otherlowercase" => some smallSignRanges
  | "omath" | "othermath" => some furtherMathRanges
  | "oupper" | "otheruppercase" => some capitalSignRanges
  | "patsyn" | "patternsyntax" => some patternSyntaxRanges
  | "patws" | "patternwhitespace" => some [(0x9, 0xd), (0x20, 0x20), (0x85, 0x85), (0x200e, 0x200f), (0x2028, 0x2029)]
  | "pcm" | "prependedconcatenationmark" => some Segment.leadingSignRanges
  | "qmark" | "quotationmark" => some quotationMarkRanges
  | "radical" => some [(0x2e80, 0x2e99), (0x2e9b, 0x2ef3), (0x2f00, 0x2fd5)]
  | "ri" | "regionalindicator" => some Segment.regionalRanges
  | "sterm" | "sentenceterminal" => some sentenceTerminalRanges
  | "sd" | "softdotted" => some softDottedRanges
  | "term" | "terminalpunctuation" => some terminalPunctuationRanges
  | "uideo" | "unifiedideograph" => some unifiedIdeographRanges
  | "upper" | "uppercase" => some uppercaseRanges
  | "vs" | "variationselector" => some variationRanges
  | "wspace" | "whitespace" | "space" => some blankRanges
  | "xidc" | "xidcontinue" => some (diffRanges nameRanges unstableNameRanges)
  | "xids" | "xidstart" => some (diffRanges nameStartRanges unstableStartRanges)
  | _ => none

/-- The part in a sign. -/
def signPart? : String → Option (List (Nat × Nat))
  | "cr" => some [(0xd, 0xd)]
  | "lf" => some [(0xa, 0xa)]
  | "cn" | "control" => some Segment.Sign.control
  | "ex" | "extend" => some Segment.Sign.extender
  | "l" => some Segment.Sign.leadingConsonant
  | "lv" => some Segment.Sign.openSyllable
  | "lvt" => some Segment.Sign.closedSyllable
  | "pp" | "prepend" => some Segment.Sign.opener
  | "ri" | "regionalindicator" => some Segment.regionalRanges
  | "sm" | "spacingmark" => some Segment.Sign.spacing
  | "t" => some Segment.Sign.trailingConsonant
  | "v" => some Segment.Sign.vowel
  | "zwj" => some [(0x200d, 0x200d)]
  | _ => none

/-- The part in a word. -/
def wordPart? : String → Option (List (Nat × Nat))
  | "cr" => some [(0xd, 0xd)]
  | "lf" => some [(0xa, 0xa)]
  | "nl" | "newline" => some Segment.Word.lineBreak
  | "dq" | "doublequote" => some [(0x22, 0x22)]
  | "sq" | "singlequote" => some [(0x27, 0x27)]
  | "ex" | "extendnumlet" => some Segment.Word.connector
  | "extend" => some Segment.Word.extender
  | "fo" | "format" => some Segment.Word.format
  | "hl" | "hebrewletter" => some Segment.Word.hebrewLetter
  | "ka" | "katakana" => some Segment.Word.katakana
  | "le" | "aletter" => some Segment.Word.letter
  | "mb" | "midnumlet" => some Segment.Word.insideBoth
  | "ml" | "midletter" => some Segment.Word.insideLetters
  | "mn" | "midnum" => some Segment.Word.insideNumbers
  | "nu" | "numeric" => some Segment.Word.numeric
  | "ri" | "regionalindicator" => some Segment.regionalRanges
  | "wsegspace" => some Segment.Word.blank
  | "zwj" => some [(0x200d, 0x200d)]
  | _ => none

/-- The part in a sentence. -/
def sentencePart? : String → Option (List (Nat × Nat))
  | "cr" => some [(0xd, 0xd)]
  | "lf" => some [(0xa, 0xa)]
  | "at" | "aterm" => some Segment.Sentence.point
  | "cl" | "close" => some Segment.Sentence.closing
  | "ex" | "extend" => some Segment.Sentence.extender
  | "fo" | "format" => some Segment.Sentence.format
  | "le" | "oletter" => some Segment.Sentence.otherLetter
  | "lo" | "lower" => some Segment.Sentence.lower
  | "nu" | "numeric" => some Segment.Sentence.numeric
  | "sc" | "scontinue" => some Segment.Sentence.pause
  | "se" | "sep" => some Segment.Sentence.separator
  | "sp" => some Segment.Sentence.blank
  | "st" | "sterm" => some Segment.Sentence.terminal
  | "up" | "upper" => some Segment.Sentence.upper
  | _ => none

/-- What a name without a value stands for: a set of characters, else a category, else a script. -/
def named? (name : List Char) : Option (List (Nat × Nat)) :=
  let name := plainName name
  binary? name <|> category? name <|> script? name

def valued? (name value : List Char) : Option (List (Nat × Nat)) :=
  match plainName name with
  | "gc" | "generalcategory" => category? (plainName value)
  | "sc" | "script" => script? (plainName value)
  | "scx" | "scriptextensions" => scriptExtension? (plainName value)
  | "age" => age? (plainName value)
  | "gcb" | "graphemeclusterbreak" => signPart? (plainName value)
  | "wb" | "wordbreak" => wordPart? (plainName value)
  | "sb" | "sentencebreak" => sentencePart? (plainName value)
  | _ => none

end Flowgraph.Pattern.Property
