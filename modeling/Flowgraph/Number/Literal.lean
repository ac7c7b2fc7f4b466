import Flowgraph.Number.Binary64

/-! Decimal numbers read from text. A free-standing number is rounded correctly. The
accepted forms are an optional sign, digits with an optional point on either side of them,
an optional exponent, and the names of the infinities and of NaN in any case. -/

namespace Flowgraph.Literal

def digitValue (c : Char) : Nat := c.toNat - '0'.toNat

def ofDigits (ds : List Char) : Nat := ds.foldl (fun n c => 10 * n + digitValue c) 0

/-- The binary64 number nearest to `significand·10^exponent`. -/
def nearest (significand : Nat) (exponent : Int) : Float :=
  let top := (Nat.toDigits 10 significand).length + exponent
  if significand = 0 || top < -400 then 0
  else if top > 400 then 1 / 0
  else match exponent with
    | .ofNat e => .ofScientific significand false e
    | .negSucc e => .ofScientific significand true (e + 1)

private def signed : List Char → Bool × List Char
  | '-' :: rest => (true, rest)
  | '+' :: rest => (false, rest)
  | text => (false, text)

private def exponent? : List Char → Option Int
  | [] => some 0
  | c :: rest =>
    let (negative, digits) := signed rest
    if (c == 'e' || c == 'E') && !digits.isEmpty && digits.all Char.isDigit then
      some (if negative then -(ofDigits digits : Int) else ofDigits digits)
    else none

private def magnitude? (text : List Char) : Option Float :=
  match String.ofList (text.map Char.toLower) with
  | "inf" | "infinity" => some (1 / 0)
  | "nan" => some (0 / 0)
  | _ =>
    let units := text.takeWhile Char.isDigit
    let rest := text.dropWhile Char.isDigit
    let (fraction, tail) := match rest with
      | '.' :: more => (more.takeWhile Char.isDigit, more.dropWhile Char.isDigit)
      | more => ([], more)
    if units.isEmpty && fraction.isEmpty then none
    else (exponent? tail).map fun e => nearest (ofDigits (units ++ fraction)) (e - fraction.length)

def toFloat? (text : String) : Option Float :=
  let (negative, rest) := signed text.toList
  (magnitude? rest).map fun x => if negative then -x else x

/-- The natural number below `limit` that the whole text denotes: digits after an optional plus. -/
def toNat? (limit : Nat) (text : String) : Option Nat :=
  let digits := match text.toList with
    | '+' :: rest => rest
    | all => all
  if !digits.isEmpty && digits.all Char.isDigit && ofDigits digits < limit then some (ofDigits digits) else none

end Flowgraph.Literal
