import Flowgraph.Json.Basic
import Flowgraph.Number.Literal
import Flowgraph.Text.Blank

/-! How values compare. Next to a number everything is read as a number, texts after trimming;
other values are equal when they have the same structure. Two texts are ordered as numbers if
both are numbers as they stand, and by code points otherwise. -/

namespace Flowgraph.Json

/-- Numbers, numeric texts and truth values as binary64 numbers. -/
def toFloat? : Json → Option Float
  | .number n => some n.toFloat
  | .string s => Literal.toFloat? (Text.trim s)
  | .bool b => some (if b then 1 else 0)
  | _ => none

private def sameNumber (a b : Json) : Bool :=
  match a.toFloat?, b.toFloat? with
  | some x, some y => x == y
  | _, _ => false

def looseEq : Json → Json → Bool
  | .number n, b => sameNumber (.number n) b
  | a, .number n => sameNumber a (.number n)
  | a, b => a == b

/-- The order of two numbers; none next to a NaN. -/
def orderFloat (x y : Float) : Option Ordering :=
  if x < y then some .lt else if x == y then some .eq else if y < x then some .gt else none

def orderText (a b : String) : Ordering := if a < b then .lt else if a = b then .eq else .gt

def compare? : Json → Json → Option Ordering
  | .string a, .string b =>
    match Literal.toFloat? a, Literal.toFloat? b with
    | some x, some y => orderFloat x y
    | _, _ => some (orderText a b)
  | a, b => do orderFloat (← a.toFloat?) (← b.toFloat?)

def truthy : Json → Bool
  | .null => false
  | .bool b => b
  | .number n => !(n.toFloat == 0)
  | .string s => s != ""
  | .array _ => true
  | .object _ => true

end Flowgraph.Json
