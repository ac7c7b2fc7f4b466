import Flowgraph.Http.NameTable
import Flowgraph.Text.Case
import Flowgraph.Text.Composed
import Flowgraph.Text.Direction
import Flowgraph.Text.Joining
import Flowgraph.Text.Pieces
import Flowgraph.Text.PrintTable
import Flowgraph.Text.Punycode

/-! Names of hosts. Every character is replaced by what it stands for, the text is composed and cut
at its points, and the labels that are not in ASCII are encoded. -/

namespace Flowgraph.HostName

/-- Characters of ASCII that no name has. -/
def isForbidden (c : Char) : Bool := c.toNat ≤ 0x20 || c.toNat = 0x7f || "#%/:<>?@[\\]^|".contains c

def isPlain (c : Char) : Bool := c.toNat < 0x80

def isJoiner (c : Char) : Bool := c == '\u200c' || c == '\u200d'

def listed? (n : Nat) : Option (List Char) :=
  (textForms.findSome? fun (first, texts) => if first ≤ n then (texts[n - first]?).map String.toList else none) <|>
  (letterForms.findSome? fun (first, letters) => if first ≤ n then (letters.toList[n - first]?).map ([·]) else none) <|>
  (letterRuns.findSome? (·.image? n)).map fun m => [.ofNat m]

/-- What a character stands for in a name. -/
def form? (c : Char) : Option (List Char) :=
  if isPlain c then some [c.toLower]
  else if isJoiner c || Text.inRanges keptRanges c then some [c]
  else if Text.inRanges ignoredRanges c then some []
  else if Text.inRanges refusedRanges c then none
  else listed? c.toNat <|> if Text.inRanges Text.hiddenRanges c then none else some (Text.lowerChar c)

def markRanges : List (Nat × Nat) :=
  Text.unionRanges (Text.ofCategories Text.marks) (Text.unionRanges Text.laterMarkRanges Text.laterSpacingMarkRanges)

/-- Whether a joiner may stand between two texts, the first of them given in reverse: after the sign
that drops a vowel, and, if it parts letters, between letters that would connect. -/
def mayJoin (before : List Char) (c : Char) (after : List Char) : Bool :=
  let next (s : List Char) : Text.Joining := ((s.map Text.Joining.of).dropWhile (· = .through)).headD .none
  before.head?.any (Text.combiningClass · = 9) ||
    c == '\u200c' && [Text.Joining.left, .both].contains (next before) && [Text.Joining.right, .both].contains (next after)

def joinersFit (before : List Char) : List Char → Bool
  | [] => true
  | c :: rest => (!isJoiner c || mayJoin before c rest) && joinersFit (c :: before) rest

/-- Whether a label beyond ASCII is in order: no mark begins it, and its joiners have something to join. -/
def isSound (label : List Char) : Bool :=
  !label.head?.any (Text.inRanges markRanges) && joinersFit [] label

/-- Whether the directions in a label agree, those of the marks at its end aside. -/
def directionsAgree (label : List Char) : Bool :=
  match label.map Text.Direction.of with
  | [] => true
  | first :: rest =>
    let within := (rest.reverse.dropWhile (· = .mark)).reverse
    let last := within.getLast?.getD first
    match first with
    | .left => [Text.Direction.left, .number].contains last && within.all [Text.Direction.left, .number, .neutral, .mark].contains
    | .right => [Text.Direction.right, .number, .arabicNumber].contains last && !within.contains .left &&
      !(within.contains .number && within.contains .arabicNumber)
    | _ => false

/-- What a label stands for: itself, or the text that is encoded in it. -/
def decoded? : List Char → Option (List Char)
  | 'x' :: 'n' :: '-' :: '-' :: code => do
    let label ← if 2000 < code.length then none else Text.Punycode.decode? code
    let stable := label.all fun c => c != '.' && !isForbidden c && form? c = some [c]
    if label.all isPlain || !stable || Text.composed label != label || !isSound label then none else some label
  | label => if label.all isPlain || isSound label then some label else none

def encoded? (label : List Char) : Option (List Char) :=
  if label.all isPlain then some label
  else if 1000 < label.length then none
  else some ("xn--".toList ++ Text.Punycode.encode label)

/-- A name in small letters and ASCII. Where a label is written from right to left, in no label may
the directions disagree. -/
def ascii? (s : List Char) : Option (List Char) := do
  let text := Text.composed (← s.mapM form?).flatten
  if text.any isForbidden then none
  let labels ← (Text.pieces '.' text).mapM decoded?
  let mixed := labels.any (·.any fun c => [Text.Direction.right, .arabicNumber].contains (Text.Direction.of c))
  if mixed && !labels.all directionsAgree then none
  return ((← labels.mapM encoded?).intersperse ['.']).flatten

end Flowgraph.HostName
