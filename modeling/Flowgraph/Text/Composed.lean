import Flowgraph.Text.CombiningTable

/-! The composed form of text: marks in the order of their classes, and a letter and a mark written
as one character where there is one. Syllables of Korean are composed of their letters. -/

namespace Flowgraph.Text

/-- The class by which a mark is put in order; zero for what starts anew. -/
def combiningClass (c : Char) : Nat :=
  ((combiningRanges.find? fun (m, n, _) => m ≤ c.toNat && c.toNat ≤ n).map fun (_, _, k) => k).getD 0

namespace Syllable

/-- The letters of a syllable but the last, and the last one. -/
def parts? (n : Nat) : Option (Nat × Nat) :=
  if 0xac00 ≤ n && n ≤ 0xd7a3 then
    let i := n - 0xac00
    if i % 28 = 0 then some (0x1100 + i / 588, 0x1161 + i % 588 / 28) else some (n - i % 28, 0x11a7 + i % 28)
  else none

/-- The syllable of two letters, or of an open syllable and a letter. -/
def whole? (a b : Nat) : Option Nat :=
  if 0x1100 ≤ a && a ≤ 0x1112 && 0x1161 ≤ b && b ≤ 0x1175 then some (0xac00 + 588 * (a - 0x1100) + 28 * (b - 0x1161))
  else if 0xac00 ≤ a && a ≤ 0xd7a3 && (a - 0xac00) % 28 = 0 && 0x11a8 ≤ b && b ≤ 0x11c2 then some (a + (b - 0x11a7))
  else none

end Syllable

/-- The letter and the mark that a character is in one. -/
def parts? (n : Nat) : Option (Nat × Nat) :=
  Syllable.parts? n <|> composites.findSome? fun (mark, pairs) =>
    (pairs.find? fun (_, whole) => whole = n).map fun (letter, _) => (letter, mark)

/-- The character that a letter and a mark are in one. -/
def whole? (letter mark : Char) : Option Char :=
  (Syllable.whole? letter.toNat mark.toNat <|> do
    let (_, pairs) ← composites.find? fun (m, _) => m = mark.toNat
    let (_, whole) ← pairs.find? fun (a, _) => a = letter.toNat
    return whole).map .ofNat

/-- A character taken apart, `n` times at most. -/
def takenApart : Nat → Nat → List Char
  | 0, c => [.ofNat c]
  | n + 1, c => match parts? c with
    | some (letter, mark) => takenApart n letter ++ [.ofNat mark]
    | none => [.ofNat c]

/-- Puts a mark in front, but behind the marks of lower classes there. -/
def insertMark (c : Char) : List Char → List Char
  | [] => [c]
  | d :: rest =>
    if combiningClass d ≠ 0 && combiningClass d < combiningClass c then d :: insertMark c rest else c :: d :: rest

def ordered (s : List Char) : List Char := s.foldr insertMark []

/-- Joins what follows a letter with it; the marks that stay apart are kept in reverse. A mark is
free to join if none of its class or a higher one stands before it. -/
def recomposed (letter : Char) (kept : List Char) : List Char → List Char
  | [] => letter :: kept.reverse
  | c :: rest =>
    let free := kept.head?.all fun last => combiningClass last < combiningClass c
    match if free then whole? letter c else none with
    | some whole => recomposed whole kept rest
    | none =>
      if combiningClass c = 0 then letter :: kept.reverse ++ recomposed c [] rest else recomposed letter (c :: kept) rest

/-- The composed form. No character has more than three marks in it. -/
def composed (s : List Char) : List Char :=
  match ordered (s.flatMap fun c => takenApart 3 c.toNat) with
  | [] => []
  | c :: rest => recomposed c [] rest

end Flowgraph.Text
