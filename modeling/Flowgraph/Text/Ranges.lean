/-! Character tables: sets as inclusive ranges of code points, and mappings as runs of equally
spaced code points that all move by the same distance. -/

namespace Flowgraph.Text

/-- Whether a number lies in one of the inclusive ranges. -/
def within (ranges : List (Nat × Nat)) (n : Nat) : Bool := ranges.any fun r => r.1 ≤ n && n ≤ r.2

def inRanges (ranges : List (Nat × Nat)) (c : Char) : Bool := within ranges c.toNat

/-- Sorted ranges with those joined that overlap or touch, the first of them being `r`. -/
private def joined (r : Nat × Nat) : List (Nat × Nat) → List (Nat × Nat)
  | [] => [r]
  | s :: rest => if s.1 ≤ r.2 + 1 then joined (r.1, max r.2 s.2) rest else r :: joined s rest

/-- The same set as ranges in order with gaps between them. -/
def normalRanges (ranges : List (Nat × Nat)) : List (Nat × Nat) :=
  match ranges.mergeSort (·.1 ≤ ·.1) with
  | [] => []
  | r :: rest => joined r rest

/-- The code points from `next` on that lie in none of the ranges, which are in order. -/
def gapsFrom (next : Nat) : List (Nat × Nat) → List (Nat × Nat)
  | [] => if next ≤ 0x10ffff then [(next, 0x10ffff)] else []
  | r :: rest => (if next < r.1 then [(next, r.1 - 1)] else []) ++ gapsFrom (r.2 + 1) rest

def unionRanges (a b : List (Nat × Nat)) : List (Nat × Nat) := normalRanges (a ++ b)
def complRanges (a : List (Nat × Nat)) : List (Nat × Nat) := gapsFrom 0 a
def interRanges (a b : List (Nat × Nat)) : List (Nat × Nat) := complRanges (unionRanges (complRanges a) (complRanges b))
def diffRanges (a b : List (Nat × Nat)) : List (Nat × Nat) := interRanges a (complRanges b)

/-- The code points `first + i·step` for `i < count`, each sent to `target + i·step`. -/
structure Run where
  first : Nat
  target : Nat
  count : Nat
  step : Nat

/-- The position of a code point among `count` equally spaced ones. -/
def indexIn (start count step n : Nat) : Option Nat :=
  if start ≤ n && (n - start) % step == 0 && (n - start) / step < count then some ((n - start) / step) else none

def Run.image? (r : Run) (n : Nat) : Option Nat := (indexIn r.first r.count r.step n).map fun i => r.target + i * r.step
def Run.source? (r : Run) (n : Nat) : Option Nat := (indexIn r.target r.count r.step n).map fun i => r.first + i * r.step

/-- The image of a character under the runs; one outside all of them stays. -/
def mapRuns (runs : List Run) (c : Char) : Char := .ofNat ((runs.findSome? (·.image? c.toNat)).getD c.toNat)

/-- The code points that a run moves, each with its image. -/
def Run.pairs (r : Run) : List (Nat × Nat) := (List.range r.count).map fun i => (r.first + i * r.step, r.target + i * r.step)

/-- All characters that the runs send to `c`. -/
def sources (runs : List Run) (c : Char) : List Char := (runs.filterMap (·.source? c.toNat)).map .ofNat

end Flowgraph.Text
