import Flowgraph.Number.Binary64

/-! The shortest decimal text of a binary64 number. The digits are those of the coarsest
decimal grid that has a point in the interval of reals rounding to the number, and of two
such points the nearer. Where the point goes is decided by two layouts: one for documents,
with an exponent outside a window, and one for prose, never with an exponent. -/

namespace Flowgraph.Shortest
open Binary64

/-- A decimal number `digits·10^exponent`. -/
structure Decimal where
  digits : Nat
  exponent : Int
  deriving Repr, DecidableEq

private def power (base : Nat) (e : Int) : Nat := base.pow e.toNat

private def digitCount (n : Nat) : Nat := (Nat.toDigits 10 n).length

/-- A power of ten above the magnitude, to start the search from: the number may round up to it. -/
private def leading (m : Nat) (q : Int) : Int :=
  let n := m * power 2 q
  let d := power 2 (-q)
  if d ≤ n then digitCount (n / d) else 2 - digitCount (d / n)

/-- The grid points next to the magnitude that still round to it, the nearer first.
All quantities are multiples of `2^(q-2)`, so that half and quarter gaps are whole. -/
def onGrid (m : Nat) (q p : Int) : Option Nat :=
  let grid := power 10 p * power 2 (2 - q)
  let scale := power 10 (-p) * power 2 (q - 2)
  let value := 4 * m * scale
  let low := (if m = 0x10000000000000 && q > -1074 then 4 * m - 1 else 4 * m - 2) * scale
  let high := (4 * m + 2) * scale
  let inside (c : Nat) : Bool :=
    if m % 2 = 0 then low ≤ c * grid && c * grid ≤ high else low < c * grid && c * grid < high
  let below := value / grid
  let gapBelow := value - below * grid
  let gapAbove := (below + 1) * grid - value
  match decide (0 < below) && inside below, inside (below + 1) with
  | true, true =>
    some (if gapBelow < gapAbove || (gapBelow == gapAbove && below % 2 == 0) then below else below + 1)
  | true, false => some below
  | false, true => some (below + 1)
  | false, false => none

/-- Tries ever finer grids; one with seventeen digits has a point in the interval of every number. -/
def search (m : Nat) (q : Int) : Nat → Int → Decimal
  | 0, p => ⟨0, p⟩
  | fuel + 1, p => match onGrid m q p with
    | some c => ⟨c, p⟩
    | none => search m q fuel (p - 1)

/-- The shortest decimal that reads back as the magnitude `m·2^q`. -/
def ofMagnitude (m : Nat) (q : Int) : Decimal :=
  if m = 0 then ⟨0, 0⟩ else search m q 20 (leading m q)

private def zeros (n : Int) : String := String.ofList (List.replicate n.toNat '0')

/-- The digits with the point after the first `whole` of them; `tail` is written where no
digit follows the point. -/
private def positional (digits : List Char) (whole : Int) (tail : String) : String :=
  if whole ≤ 0 then "0." ++ zeros (-whole) ++ String.ofList digits
  else if whole < digits.length then
    String.ofList (digits.take whole.toNat) ++ "." ++ String.ofList (digits.drop whole.toNat)
  else String.ofList digits ++ zeros (whole - digits.length) ++ tail

private def scientific (digits : List Char) (e : Int) : String :=
  let fraction := digits.drop 1
  String.ofList (digits.take 1) ++ (if fraction.isEmpty then "" else "." ++ String.ofList fraction) ++
    "e" ++ (if e < 0 then "-" else "+") ++ toString e.natAbs

private def sign (x : Float) : String := if isNegative x then "-" else ""

private def decimalOf (x : Float) : Decimal := ofMagnitude (parts x).mantissa (parts x).exponent

/-- The text of a number in a document: positional for a first digit worth `10^-5` to `10^15`,
always with a digit after the point, and with a signed exponent elsewhere. -/
def document (x : Float) : String :=
  let d := decimalOf x
  let digits := Nat.toDigits 10 d.digits
  let e := d.exponent + digits.length - 1
  sign x ++ if d.digits = 0 then "0.0"
    else if -5 ≤ e && e < 16 then positional digits (e + 1) ".0" else scientific digits e

/-- The text of a number in prose: always positional, and without a point for whole numbers. -/
def prose (x : Float) : String :=
  if !(x == x) then "NaN" else if !isFinite x then sign x ++ "inf" else
    let d := decimalOf x
    let digits := Nat.toDigits 10 d.digits
    sign x ++ if d.digits = 0 then "0" else positional digits (d.exponent + digits.length) ""

end Flowgraph.Shortest
