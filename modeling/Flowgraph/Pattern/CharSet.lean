import Flowgraph.Text.Blank
import Flowgraph.Text.Property

/-! Sets of characters as a pattern writes them, the members they have, and the same members as
ranges of code points. -/

namespace Flowgraph

inductive CharSet where
  | oneOf (ranges : List (Nat × Nat))
  | union (a b : CharSet)
  | inter (a b : CharSet)
  | diff (a b : CharSet)
  | xor (a b : CharSet)
  | compl (a : CharSet)
  | anyCase (asciiOnly : Bool) (a : CharSet)
  | bracket (a : CharSet)
  deriving Repr

namespace CharSet

def none : CharSet := .oneOf []
def range (first last : Char) : CharSet := .oneOf [(first.toNat, last.toNat)]
def single (c : Char) : CharSet := range c c

def digit (asciiOnly : Bool) : CharSet := .oneOf (if asciiOnly then [(0x30, 0x39)] else Text.digitRanges)
def space (asciiOnly : Bool) : CharSet := .oneOf (if asciiOnly then [(0x9, 0xd), (0x20, 0x20)] else Text.blankRanges)
def word (asciiOnly : Bool) : CharSet :=
  .oneOf (if asciiOnly then [(0x30, 0x39), (0x41, 0x5a), (0x5f, 0x5f), (0x61, 0x7a)] else Text.wordRanges)

def has : CharSet → Char → Bool
  | .oneOf ranges, c => Text.inRanges ranges c
  | .union a b, c => a.has c || b.has c
  | .inter a b, c => a.has c && b.has c
  | .diff a b, c => a.has c && !b.has c
  | .xor a b, c => a.has c != b.has c
  | .compl a, c => !a.has c
  | .anyCase false a, c => (Text.caseVariants c).any a.has
  | .anyCase true a, c => a.has c || a.has (Text.flipCase c)
  | .bracket a, c => a.has c

/-- The members as ranges in order with gaps between them. -/
def ranges : CharSet → List (Nat × Nat)
  | .oneOf ranges => Text.normalRanges ranges
  | .union a b => Text.unionRanges a.ranges b.ranges
  | .inter a b => Text.interRanges a.ranges b.ranges
  | .diff a b => Text.interRanges a.ranges (Text.complRanges b.ranges)
  | .xor a b =>
    let (a, b) := (a.ranges, b.ranges)
    Text.unionRanges (Text.interRanges a (Text.complRanges b)) (Text.interRanges b (Text.complRanges a))
  | .compl a => Text.complRanges a.ranges
  | .anyCase false a => Text.caseRanges a.ranges
  | .anyCase true a =>
    let upper := Text.interRanges a.ranges [(0x41, 0x5a)]
    let lower := Text.interRanges a.ranges [(0x61, 0x7a)]
    Text.unionRanges a.ranges (upper.map (fun (m, n) => (m + 32, n + 32)) ++ lower.map fun (m, n) => (m - 32, n - 32))
  | .bracket a => a.ranges

/-- A union of members in order; it nests one level deeper than they do if there are two or more. -/
def ofList : List CharSet → CharSet
  | [] => none
  | [a] => a
  | a :: rest => .union a (ofList rest)

def isUnion : CharSet → Bool
  | .union _ _ => true
  | _ => false

/-- How deep classes, lists of members and operators are nested in one another. -/
def height : CharSet → Nat
  | .oneOf _ => 0
  | .union a b => max (a.height + 1) (if b.isUnion then b.height else b.height + 1)
  | .inter a b | .diff a b | .xor a b => max a.height b.height + 1
  | .compl a | .anyCase _ a => a.height
  | .bracket a => a.height + 1

end CharSet
end Flowgraph
