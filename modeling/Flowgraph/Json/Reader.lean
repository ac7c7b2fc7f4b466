import Flowgraph.Json.Basic
import Flowgraph.Number.Literal

/-! JSON read from text. Containers may nest 127 levels deep. A number keeps at most the digits
that fit in 64 bits and is scaled by a power of ten in binary64, so it can miss the nearest
number by a unit in the last place; one too large for binary64 is refused. Objects are kept as
written, repeated keys included. -/

namespace Flowgraph.Json.Reader

/-- A scan of one construct: the value and the rest of the text. -/
abbrev Scan (α : Type) := List Char → Option (α × List Char)

def isSpace (c : Char) : Bool := c == ' ' || c == '\n' || c == '\t' || c == '\r'
def skipSpace (s : List Char) : List Char := s.dropWhile isSpace

/-- Digits gathered while the significand fits in 64 bits, and how many were left out. -/
structure Gathered where
  significand : Nat
  dropped : Nat

private def gather (start : Gathered) (digits : List Char) : Gathered :=
  digits.foldl (fun g d =>
    let next := 10 * g.significand + Literal.digitValue d
    if g.dropped = 0 && next < 0x10000000000000000 then ⟨next, 0⟩ else ⟨g.significand, g.dropped + 1⟩) start

/-- `significand·10^exponent` by one multiplication or division at a time, none beyond `10^308`;
`none` where the product is infinite. -/
def scale : Nat → Float → Int → Option Float
  | 0, x, _ => some x
  | fuel + 1, x, e =>
    if e.natAbs ≤ 308 then
      let power := Literal.nearest 1 e.natAbs
      if e < 0 then some (x / power)
      else if Binary64.isFinite (x * power) then some (x * power) else none
    else if x == 0 then some x
    else if 0 < e then none
    else scale fuel (x / Literal.nearest 1 308) (e + 308)

private def scaled (negative : Bool) (significand : Nat) (exponent : Int) : Option Number :=
  let clamped := max (-100000) (min 100000 exponent)
  (scale 1000 (.ofNat significand) clamped).map fun x => .float (if negative then -x else x)

/-- The digits of an exponent beyond this value are not told apart. -/
private def exponentLimit : Nat := 0x80000000

private def exponentPart (negative : Bool) (significand : Nat) (start : Int) : Scan Number
  | c :: rest =>
    if c == 'e' || c == 'E' then
      let (minus, digits) := match rest with
        | '-' :: more => (true, more)
        | '+' :: more => (false, more)
        | more => (false, more)
      let ds := digits.takeWhile Char.isDigit
      let rest := digits.dropWhile Char.isDigit
      let e := Literal.ofDigits ds
      if ds.isEmpty then none
      else if exponentLimit ≤ e then
        if significand ≠ 0 && !minus then none else some (.float (if negative then -0.0 else 0.0), rest)
      else (scaled negative significand (if minus then start - e else start + e)).map (·, rest)
    else (scaled negative significand start).map (·, c :: rest)
  | [] => (scaled negative significand start).map (·, [])

private def fractionPart (negative : Bool) (whole : Gathered) : Scan Number
  | '.' :: rest =>
    let ds := rest.takeWhile Char.isDigit
    let all := gather ⟨whole.significand, 0⟩ ds
    if ds.isEmpty then none
    else exponentPart negative all.significand (whole.dropped - (ds.length - all.dropped : Nat)) (rest.dropWhile Char.isDigit)
  | rest => exponentPart negative whole.significand whole.dropped rest

private def startsFraction : List Char → Bool
  | c :: _ => c == '.' || c == 'e' || c == 'E'
  | [] => false

private def unsigned (negative : Bool) : Scan Number := fun s =>
  let ds := s.takeWhile Char.isDigit
  let rest := s.dropWhile Char.isDigit
  let g := gather ⟨0, 0⟩ ds
  if ds.isEmpty || (ds.length ≠ 1 && ds.head? == some '0') then none
  else if startsFraction rest || g.dropped ≠ 0 then fractionPart negative g rest
  else if !negative then some (.int g.significand, rest)
  else if g.significand ≠ 0 && g.significand ≤ 0x8000000000000000 then some (.int (-(g.significand : Int)), rest)
  else some (.float (-(.ofNat g.significand)), rest)

def number : Scan Number
  | '-' :: rest => unsigned true rest
  | s => unsigned false s

private def hexValue (c : Char) : Option Nat :=
  if c.isDigit then some (c.toNat - 48)
  else if 'a' ≤ c && c ≤ 'f' then some (c.toNat - 87)
  else if 'A' ≤ c && c ≤ 'F' then some (c.toNat - 55) else none

private def hex4 : Scan Nat
  | a :: b :: c :: d :: rest => do
    return ((((← hexValue a) * 16 + (← hexValue b)) * 16 + (← hexValue c)) * 16 + (← hexValue d), rest)
  | _ => none

/-- One escaped character after its backslash; two surrogates in a row make one character. -/
def escaped : Scan Char
  | '"' :: rest => some ('"', rest)
  | '\\' :: rest => some ('\\', rest)
  | '/' :: rest => some ('/', rest)
  | 'b' :: rest => some ('\x08', rest)
  | 'f' :: rest => some ('\x0c', rest)
  | 'n' :: rest => some ('\n', rest)
  | 'r' :: rest => some ('\r', rest)
  | 't' :: rest => some ('\t', rest)
  | 'u' :: rest => do
    let (unit, rest) ← hex4 rest
    if 0xD800 ≤ unit && unit < 0xDC00 then
      match rest with
      | '\\' :: 'u' :: rest =>
        let (low, rest) ← hex4 rest
        if 0xDC00 ≤ low && low < 0xE000 then
          some (.ofNat (0x10000 + (unit - 0xD800) * 0x400 + (low - 0xDC00)), rest)
        else none
      | _ => none
    else if 0xDC00 ≤ unit && unit < 0xE000 then none
    else some (.ofNat unit, rest)
  | _ => none

def characters : Nat → List Char → Scan (List Char)
  | 0, _, _ => none
  | fuel + 1, done, s => match s with
    | '"' :: rest => some (done.reverse, rest)
    | '\\' :: rest => do
      let (c, rest) ← escaped rest
      characters fuel (c :: done) rest
    | c :: rest => if c.toNat < 0x20 then none else characters fuel (c :: done) rest
    | [] => none

private def string (fuel : Nat) : Scan String := fun s =>
  (characters fuel [] s).map fun (cs, rest) => (.ofList cs, rest)

/-- What follows the first item: a comma and another one, or the end. An item may depend on its index. -/
private def more (item : Nat → Scan α) (close : Char) : Nat → Nat → List α → Scan (List α)
  | 0, _, _, _ => none
  | fuel + 1, n, done, s => match skipSpace s with
    | c :: rest =>
      if c == close then some (done.reverse, rest)
      else if c == ',' then do
        let (value, rest) ← item n rest
        more item close fuel (n + 1) (value :: done) rest
      else none
    | [] => none

private def sequence (fuel : Nat) (item : Nat → Scan α) (close : Char) : Scan (List α) := fun s =>
  match skipSpace s with
  | c :: rest =>
    if c == close then some ([], rest)
    else do
      let (value, rest) ← item 0 (c :: rest)
      more item close fuel 1 [value] rest
  | [] => none

private def keyed (fuel : Nat) : Scan String := fun s =>
  match skipSpace s with
  | '"' :: rest => do
    let (key, rest) ← string fuel rest
    let ':' :: rest := skipSpace rest | none
    return (key, rest)
  | _ => none

private def skipDigits (s : List Char) : Option (List Char) :=
  if s.head?.any Char.isDigit then some (s.dropWhile Char.isDigit) else none

private def skipNumber (s : List Char) : Option (List Char) := do
  let s := if s.head? = some '-' then s.drop 1 else s
  let rest ← match s with
    | '0' :: rest => if rest.head?.any Char.isDigit then none else some rest
    | s => skipDigits s
  let rest ← match rest with
    | '.' :: rest => skipDigits rest
    | rest => some rest
  match rest with
  | c :: rest =>
    if c == 'e' || c == 'E' then skipDigits (match rest with
      | '+' :: rest | '-' :: rest => rest
      | rest => rest)
    else some (c :: rest)
  | [] => some []

/-- The text after a string whose escapes may stand for anything. -/
private def skipString : Nat → List Char → Option (List Char)
  | 0, _ => none
  | fuel + 1, s => match s with
    | '"' :: rest => some rest
    | '\\' :: 'u' :: rest => do skipString fuel (← hex4 rest).2
    | '\\' :: c :: rest => if "\"\\/bfnrt".contains c then skipString fuel rest else none
    | c :: rest => if c.toNat < 0x20 || c == '\\' then none else skipString fuel rest
    | [] => none

private def skipScalar (fuel : Nat) : List Char → Option (List Char)
  | 'n' :: 'u' :: 'l' :: 'l' :: rest => some rest
  | 't' :: 'r' :: 'u' :: 'e' :: rest => some rest
  | 'f' :: 'a' :: 'l' :: 's' :: 'e' :: rest => some rest
  | '"' :: rest => skipString fuel rest
  | s => skipNumber s

mutual

/-- The text after a value of well-formed text, whatever its numbers and escapes stand for and however
deep it nests; `closers` are the brackets that are still open around it. -/
private def skipValue : Nat → List Char → List Char → Option (List Char)
  | 0, _, _ => none
  | fuel + 1, closers, s => match skipSpace s with
    | '[' :: rest => match skipSpace rest with
      | ']' :: rest => skipAfter fuel closers rest
      | rest => skipValue fuel (']' :: closers) rest
    | '\x7b' :: rest => match skipSpace rest with
      | '\x7d' :: rest => skipAfter fuel closers rest
      | rest => skipEntry fuel ('\x7d' :: closers) rest
    | s => do skipAfter fuel closers (← skipScalar fuel s)

private def skipEntry : Nat → List Char → List Char → Option (List Char)
  | 0, _, _ => none
  | fuel + 1, closers, s => match skipSpace s with
    | '"' :: rest => do
      let ':' :: rest := skipSpace (← skipString fuel rest) | none
      skipValue fuel closers rest
    | _ => none

private def skipAfter : Nat → List Char → List Char → Option (List Char)
  | 0, _, _ => none
  | fuel + 1, closers, s => match closers with
    | [] => some s
    | close :: outer => match skipSpace s with
      | ',' :: rest => if close == ']' then skipValue fuel closers rest else skipEntry fuel closers rest
      | c :: rest => if c == close then skipAfter fuel outer rest else none
      | [] => none

end

/-- Which parts of a document are wanted: everything, some fields of an object, or such parts of the
items of an array. What is not wanted need only be well formed. -/
inductive Wanted where
  | all
  | fields (known : List (String × Wanted))
  | items (each : Wanted)

def Wanted.field? (w : Wanted) (name : String) : Option Wanted :=
  match w with
  | .fields known => known.lookup name
  | _ => some .all

def Wanted.item (w : Wanted) (n : Nat) : Wanted :=
  match w with
  | .all => .all
  | .fields known => (known[n]?.map Prod.snd).getD .all
  | .items each => each

/-- The wanted parts of a value whose containers nest at most `depth` levels; no text or container
in it is as long as `fuel`. -/
def value (fuel : Nat) : Nat → Wanted → Scan Json
  | depth, w, s => match skipSpace s with
    | 'n' :: 'u' :: 'l' :: 'l' :: rest => some (.null, rest)
    | 't' :: 'r' :: 'u' :: 'e' :: rest => some (.bool true, rest)
    | 'f' :: 'a' :: 'l' :: 's' :: 'e' :: rest => some (.bool false, rest)
    | '"' :: rest => (string fuel rest).map fun (s, rest) => (.string s, rest)
    | '[' :: rest => match depth with
      | 0 => none
      | depth + 1 => (sequence fuel (fun n => value fuel depth (w.item n)) ']' rest).map fun (items, rest) => (.array items, rest)
    | '\x7b' :: rest => match depth with
      | 0 => none
      | depth + 1 =>
        let entry : Nat → Scan (Option (String × Json)) := fun _ s => do
          let (key, rest) ← keyed fuel s
          match w.field? key with
          | some w => (value fuel depth w rest).map fun (v, rest) => (some (key, v), rest)
          | none => (skipValue fuel [] rest).map (none, ·)
        (sequence fuel entry '\x7d' rest).map fun (entries, rest) => (.object (entries.filterMap id), rest)
    | s => (number s).map fun (n, rest) => (.number n, rest)

def maxDepth : Nat := 127

/-- The wanted parts of what the whole text writes, objects as they are written. -/
def part? (w : Wanted) (text : String) : Option Json :=
  match value (text.length + 1) maxDepth w text.toList with
  | some (v, rest) => if (skipSpace rest).isEmpty then some v else none
  | none => none

end Reader

def read? (text : String) : Option Json := (Reader.part? .all text).map canonical

end Flowgraph.Json
