/-! Exact arithmetic on binary64 numbers. A finite number is read as `±m·2^e` with a
natural `m`; rounding to a whole number and the remainder of a division are then
computed in `Nat` and written back, so neither ever rounds. -/

namespace Flowgraph.Binary64

/-- The sign, mantissa and binary exponent of a finite number. -/
structure Parts where
  negative : Bool
  mantissa : Nat
  exponent : Int
  deriving Repr, DecidableEq

def fractionBits (x : Float) : Nat := x.toBits.toNat % 0x10000000000000
def exponentBits (x : Float) : Nat := x.toBits.toNat / 0x10000000000000 % 2048
def isNegative (x : Float) : Bool := 0x8000000000000000 ≤ x.toBits.toNat

/-- Neither an infinity nor a NaN. -/
def isFinite (x : Float) : Bool := exponentBits x != 2047

/-- `x` as `±m·2^e`; meaningful for finite `x`. -/
def parts (x : Float) : Parts :=
  if exponentBits x = 0 then ⟨isNegative x, fractionBits x, -1074⟩
  else ⟨isNegative x, 0x10000000000000 + fractionBits x, exponentBits x - 1075⟩

private def shift (m : Nat) (by_ : Int) : Nat :=
  match by_ with
  | .ofNat k => m <<< k
  | .negSucc k => m >>> (k + 1)

private def signBit (negative : Bool) : Nat := if negative then 0x8000000000000000 else 0

/-- The number `±m·2^e`, exact whenever it has a binary64 form. -/
def ofParts (p : Parts) : Float :=
  if p.mantissa = 0 then .ofBits (.ofNat (signBit p.negative)) else
    let target := max (p.exponent + (p.mantissa.log2 : Int) - 52) (-1074)
    let m := shift p.mantissa (p.exponent - target)
    let magnitude := if m < 0x10000000000000 then m else ((target + 1075).toNat) * 0x10000000000000 + (m - 0x10000000000000)
    .ofBits (.ofNat (signBit p.negative + magnitude))

/-- The whole part of the magnitude, and whether anything is cut off. -/
def whole (p : Parts) : Nat × Bool :=
  match p.exponent with
  | .ofNat k => (p.mantissa <<< k, false)
  | .negSucc k => (p.mantissa >>> (k + 1), p.mantissa % (1 <<< (k + 1)) != 0)

/-- The magnitude rounded to a whole number, a half going up. -/
def wholeHalfUp (p : Parts) : Nat :=
  match p.exponent with
  | .ofNat k => p.mantissa <<< k
  | .negSucc k => (p.mantissa + 1 <<< k) >>> (k + 1)

private def withWhole (x : Float) (magnitude : Parts → Nat) : Float :=
  if isFinite x then let p := parts x; ofParts ⟨p.negative, magnitude p, 0⟩ else x

/-- The largest whole number not above `x`. -/
def floor (x : Float) : Float :=
  withWhole x fun p => (whole p).1 + if p.negative && (whole p).2 then 1 else 0

/-- The smallest whole number not below `x`. -/
def ceil (x : Float) : Float :=
  withWhole x fun p => (whole p).1 + if !p.negative && (whole p).2 then 1 else 0

/-- The nearest whole number, a half going away from zero. -/
def round (x : Float) : Float := withWhole x wholeHalfUp

/-- The whole number that `x` is, if it is one. -/
def toInt? (x : Float) : Option Int :=
  if isFinite x then
    let p := parts x
    if (whole p).2 then none else some (if p.negative then -((whole p).1 : Int) else (whole p).1)
  else none

/-- The remainder of a division that rounds toward zero, with the sign of the dividend. -/
def rem (a b : Float) : Float :=
  if isFinite a && a == a && !(b == 0) && b == b then
    if isFinite b then
      let p := parts a
      let q := parts b
      let e := min p.exponent q.exponent
      ofParts ⟨p.negative, shift p.mantissa (p.exponent - e) % shift q.mantissa (q.exponent - e), e⟩
    else a
  else 0 / 0

end Flowgraph.Binary64
