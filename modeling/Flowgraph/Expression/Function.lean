import Flowgraph.Data.Comparison
import Flowgraph.Expression.Basic
import Flowgraph.Number.Binary64
import Flowgraph.Text.Case

/-! The operators and functions of expressions on values. Arithmetic goes through binary64
numbers; a whole result below `2^63` in magnitude becomes an exact integer again. -/

namespace Flowgraph
namespace Expr

inductive Single where
  | upper | lower | trim | len | round | floor | ceil | abs | string | number
  deriving DecidableEq, Repr

inductive Function where
  | single (f : Single)
  | concat
  | coalesce
  deriving DecidableEq, Repr

def Function.named? : String → Option Function
  | "upper" => some (.single .upper)
  | "lower" => some (.single .lower)
  | "trim" => some (.single .trim)
  | "len" => some (.single .len)
  | "round" => some (.single .round)
  | "floor" => some (.single .floor)
  | "ceil" => some (.single .ceil)
  | "abs" => some (.single .abs)
  | "string" => some (.single .string)
  | "number" => some (.single .number)
  | "concat" => some .concat
  | "coalesce" => some .coalesce
  | _ => none

def ofResult (x : Float) : Except Error Json :=
  match Binary64.toInt? x with
  | some n => .ok (if n.natAbs < 0x8000000000000000 then .number (.int n) else .ofFloat x)
  | none => if Binary64.isFinite x then .ok (.ofFloat x) else .error (.mistyped .notFinite)

def operand (name : String) (value : Json) : Except Error Float :=
  match value.toFloat? with
  | some x => .ok x
  | none => .error (.mistyped (.needsNumber name value.kind))

def Single.apply (name : String) (f : Single) (value : Json) : Except Error Json :=
  match f with
  | .upper => .ok (.string (Text.upper value.plain))
  | .lower => .ok (.string (Text.lower value.plain))
  | .trim => .ok (.string (Text.trim value.plain))
  | .string => .ok (.string value.plain)
  | .len => match value with
    | .string s => .ok (.ofNat s.length)
    | .array items => .ok (.ofNat items.length)
    | .object fields => .ok (.ofNat fields.length)
    | .null => .ok (.ofNat 0)
    | other => .error (.mistyped (.noLength other.kind))
  | .round => do ofResult (Binary64.round (← operand name value))
  | .floor => do ofResult (Binary64.floor (← operand name value))
  | .ceil => do ofResult (Binary64.ceil (← operand name value))
  | .abs => do ofResult (← operand name value).abs
  | .number => do ofResult (← operand name value)

def apply (name : String) (args : List Json) : Except Error Json :=
  match Function.named? name, args with
  | some (.single f), [value] => f.apply name value
  | some (.single _), _ => .error (.arity name 1 args.length)
  | some .concat, _ => .ok (.string (String.join (args.map Json.plain)))
  | some .coalesce, _ => .ok ((args.find? (!·.isNull)).getD .null)
  | none, _ => .error (.unknownFunction name)

def arithmetic (op : Operator) (f : Float → Float → Except Error Float) (l r : Json) : Except Error Json :=
  match l.toFloat?, r.toFloat? with
  | some x, some y => f x y >>= ofResult
  | _, _ => .error (.mistyped (.needsNumbers op l.kind r.kind))

def dividing (f : Float → Float → Float) (x y : Float) : Except Error Float :=
  if y == 0 then .error .divisionByZero else .ok (f x y)

def comparing (holds : Ordering → Bool) (l r : Json) : Except Error Json :=
  match Json.compare? l r with
  | some order => .ok (.bool (holds order))
  | none => .error (.mistyped (.cannotCompare l.kind r.kind))

def isText : Json → Bool
  | .string _ => true
  | _ => false

end Expr
open Flowgraph.Expr

/-- An operator on two values; a sum with a text in it joins the texts of both. -/
def Operator.apply (op : Operator) (l r : Json) : Except Error Json :=
  match op with
  | .eq => .ok (.bool (Json.looseEq l r))
  | .ne => .ok (.bool (!Json.looseEq l r))
  | .gt => comparing (· == .gt) l r
  | .ge => comparing (· != .lt) l r
  | .lt => comparing (· == .lt) l r
  | .le => comparing (· != .gt) l r
  | .add =>
    if isText l || isText r then .ok (.string (l.plain ++ r.plain))
    else arithmetic op (fun x y => .ok (x + y)) l r
  | .sub => arithmetic op (fun x y => .ok (x - y)) l r
  | .mul => arithmetic op (fun x y => .ok (x * y)) l r
  | .div => arithmetic op (dividing (· / ·)) l r
  | .rem => arithmetic op (dividing Binary64.rem) l r

def UnaryOp.apply (op : UnaryOp) (value : Json) : Except Error Json :=
  match op with
  | .not => .ok (.bool (!value.truthy))
  | .neg => match value.toFloat? with
    | some x => ofResult (-x)
    | none => .error (.mistyped (.cannotNegate value.kind))

end Flowgraph
