import Flowgraph.Pattern.Basic
import Flowgraph.Text.Utf8

/-! Patterns simplified for their layout in states: adjacent texts are one text, a choice between
characters or sets is a set, and what all branches of a choice begin with stands before it. -/

namespace Flowgraph

inductive Shape where
  | empty
  | text (chars : List Nat)
  | set (ranges : List (Nat × Nat)) (chains : List (List Text.ByteRange))
  | spot (spot : Spot)
  | capture (a : Shape)
  | repeated (a : Shape) (least : Nat) (most : Option Nat)
  | seq (a b : Shape)
  | alt (a b : Shape)
  | texts (branches : List (List Nat))

namespace Shape

def byteCount (chars : List Nat) : Nat := chars.foldl (fun n c => n + Text.utf8Size c) 0

/-- The least number of bytes it matches; none if it matches nothing. -/
def shortest : Shape → Option Nat
  | .empty | .spot _ => some 0
  | .text chars => some (byteCount chars)
  | .set ranges _ => ranges.head?.map fun r => Text.utf8Size r.1
  | .capture a => a.shortest
  | .repeated a least _ => a.shortest.map (· * least)
  | .seq a b => do return (← a.shortest) + (← b.shortest)
  | .alt a b => do return min (← a.shortest) (← b.shortest)
  | .texts branches => (branches.map byteCount).min?

/-- The greatest number of bytes it matches, if there is one. -/
def longest : Shape → Option Nat
  | .empty | .spot _ => some 0
  | .text chars => some (byteCount chars)
  | .set ranges _ => ranges.getLast?.map fun r => Text.utf8Size r.2
  | .capture a => a.longest
  | .repeated a _ most => do return (← a.longest) * (← most)
  | .seq a b => do return (← a.longest) + (← b.longest)
  | .alt a b => do return max (← a.longest) (← b.longest)
  | .texts branches => (branches.map byteCount).max?

/-- Whether every match begins at the start of the text. -/
def fromStart : Shape → Bool
  | .spot s => s = .textStart
  | .capture a => a.fromStart
  | .repeated a least _ => least > 0 && a.fromStart
  | .seq a b => a.fromStart || a.longest = some 0 && b.fromStart
  | .alt a b => a.fromStart && b.fromStart
  | _ => false

/-- Whether every match ends at the end of the text. -/
def toEnd : Shape → Bool
  | .spot s => s = .textEnd
  | .capture a => a.toEnd
  | .repeated a least _ => least > 0 && a.toEnd
  | .seq a b => b.toEnd || b.longest = some 0 && a.toEnd
  | .alt a b => a.toEnd && b.toEnd
  | _ => false

def ofRanges (ranges : List (Nat × Nat)) : Shape :=
  match ranges with
  | [(m, n)] => if m = n then .text [n] else .set ranges (Text.utf8Chains ranges)
  | _ => .set ranges (Text.utf8Chains ranges)

/-- A repetition. What matches only the empty text is repeated at most once. -/
def repetition (a : Shape) (least : Nat) (most : Option Nat) : Shape :=
  let (least, most) := if a.longest = some 0 then (min least 1, some (min (most.getD 1) 1)) else (least, most)
  if most = some 0 then .empty else if least = 1 && most = some 1 then a else .repeated a least most

/-- One shape after the other, as a chain to the right. -/
def andThen : Shape → Shape → Shape
  | .empty, b => b
  | .seq a₁ a₂, b => a₁.andThen (a₂.andThen b)
  | .text s, .text t => .text (s ++ t)
  | .text s, .seq (.text t) b => .seq (.text (s ++ t)) b
  | a, .empty => a
  | a, b => .seq a b

def sequence (as : List Shape) : Shape := as.foldr andThen .empty

def items : Shape → List Shape
  | .seq a b => a :: b.items
  | a => [a]

/-- The branches of a choice, which is a chain to the left. -/
def branches : Shape → List Shape
  | .alt a b => a.branches ++ [b]
  | .texts ts => ts.map .text
  | a => [a]

/-- Equality; groups are all different. -/
def same : Shape → Shape → Bool
  | .empty, .empty => true
  | .text s, .text t => s == t
  | .set r _, .set s _ => r == s
  | .spot s, .spot t => s = t
  | .repeated a l m, .repeated b k n => l == k && m == n && a.same b
  | .seq a b, .seq c d => a.same c && b.same d
  | .alt a b, .alt c d => a.same c && b.same d
  | .texts s, .texts t => s == t
  | _, _ => false

def common : List Shape → List Shape → List Shape
  | a :: as, b :: bs => if a.same b then a :: common as bs else []
  | _, _ => []

def char? : Shape → Option (Nat × Nat)
  | .text [n] => some (n, n)
  | _ => none

def members? : Shape → Option (List (Nat × Nat))
  | .set ranges _ => some ranges
  | _ => none

def text? : Shape → Option (List Nat)
  | .text chars => some chars
  | _ => none

def isSeq : Shape → Bool
  | .seq _ _ => true
  | _ => false

/-- A choice between flat branches, at most `n` times with a common beginning. -/
def choiceOf (n : Nat) (as : List Shape) : Shape :=
  match as with
  | [] => .set [] []
  | [a] => a
  | a :: rest =>
    match as.mapM char?, as.mapM members?, as.mapM text? with
    | some ranges, _, _ => ofRanges (Text.normalRanges ranges)
    | _, some sets, _ => ofRanges (Text.normalRanges sets.flatten)
    | _, _, some ts => .texts ts
    | _, _, _ =>
      let shared := if as.all isSeq then rest.foldl (fun shared b => common shared b.items) a.items else []
      match n, shared with
      | n + 1, s :: shared =>
        sequence ((s :: shared) ++ [choiceOf n ((as.map fun b => sequence (b.items.drop (shared.length + 1))).flatMap branches)])
      | _, _ => rest.foldl .alt a

def choice (as : List Shape) : Shape :=
  match as with
  | [a] => a
  | _ => let flat := as.flatMap branches
    choiceOf (flat.flatMap items).length flat

end Shape

def Pattern.shapes : Pattern → List Shape
  | .empty => [.empty]
  | .one set => [.ofRanges set.ranges]
  | .spot s => [.spot s]
  | .group .silent a => [.choice a.shapes]
  | .group _ a => [.capture (.choice a.shapes)]
  | .seq a b => [(Shape.choice a.shapes).andThen (Shape.choice b.shapes)]
  | .alt a b => .choice a.shapes :: b.shapes
  | .repeated a least most => [.repetition (.choice a.shapes) least most]

def Pattern.shape (p : Pattern) : Shape := .choice p.shapes

end Flowgraph
