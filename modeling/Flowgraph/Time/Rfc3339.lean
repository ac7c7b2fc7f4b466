import Flowgraph.Decode.Decoder
import Flowgraph.Text.Blank
import Flowgraph.Time.Instant

/-! The RFC 3339 form of points in time. They are written in UTC with no fraction or one of three,
six or nine digits, and with a sign and at least five digits in years outside 0 to 9999. Reading is
more tolerant: any offset, any length of the fraction, blanks around most parts. -/

namespace Flowgraph.Rfc3339

def padded (width : Nat) (n : Nat) : String :=
  let ds := Nat.toDigits 10 n
  String.ofList (List.replicate (width - ds.length) '0' ++ ds)

def yearText (year : Int) : String :=
  if 0 ≤ year && year ≤ 9999 then padded 4 year.toNat
  else (if year < 0 then "-" else "+") ++ padded 4 year.natAbs

def fractionText (nanos : Nat) : String :=
  if nanos = 0 then ""
  else if nanos % 1000000 = 0 then "." ++ padded 3 (nanos / 1000000)
  else if nanos % 1000 = 0 then "." ++ padded 6 (nanos / 1000)
  else "." ++ padded 9 nanos

def text (t : Instant) : String :=
  let seconds := t.nanos / 1000000000
  let date := Calendar.Date.ofDays (seconds / 86400)
  let time := (seconds % 86400).toNat
  let second := time % 60 + if t.leap then 1 else 0
  yearText date.year ++ "-" ++ padded 2 date.month ++ "-" ++ padded 2 date.day ++ "T" ++
    padded 2 (time / 3600) ++ ":" ++ padded 2 (time / 60 % 60) ++ ":" ++ padded 2 second ++
    fractionText (t.nanos % 1000000000).toNat ++ "Z"

inductive Fault where
  | outOfRange | impossible | invalid | tooShort | tooLong
  deriving DecidableEq, Repr

def Fault.message : Fault → String
  | .outOfRange => "input is out of range"
  | .impossible => "no possible date and time matching input"
  | .invalid => "input contains invalid characters"
  | .tooShort => "premature end of input"
  | .tooLong => "trailing input"

abbrev Reader (α : Type) := List Char → Except Fault (α × List Char)

def skipBlank (s : List Char) : List Char := s.dropWhile Text.isBlank

def valueOf (ds : List Char) : Nat := ds.foldl (fun n c => 10 * n + (c.toNat - 48)) 0

/-- At least one and at most `width` digits that write a number below `2^63`. -/
def number (width : Nat) : Reader Nat
  | [] => .error .tooShort
  | s =>
    let ds := (s.take width).takeWhile Char.isDigit
    if ds.isEmpty then .error .invalid
    else if 0x8000000000000000 ≤ valueOf ds then .error .outOfRange
    else .ok (valueOf ds, s.drop ds.length)

/-- Two digits at most, within bounds, after blanks. -/
def bounded (low high : Nat) : Reader Nat := fun s => do
  let (n, rest) ← number 2 (skipBlank s)
  if low ≤ n && n ≤ high then return (n, rest) else .error .outOfRange

def literal (c : Char) : Reader Unit
  | [] => .error .tooShort
  | d :: rest => if d = c then .ok ((), rest) else .error .invalid

/-- Four digits at most, or a sign and any number of them. -/
def year : Reader Int := fun s =>
  let signed (sign : Int) (rest : List Char) : Except Fault (Int × List Char) := do
    let (n, rest) ← number rest.length rest
    if -0x80000000 ≤ sign * n && sign * n < 0x80000000 then return (sign * n, rest) else .error .outOfRange
  match skipBlank s with
  | '-' :: rest => signed (-1) rest
  | '+' :: rest => signed 1 rest
  | s => do let (n, rest) ← number 4 s; return (n, rest)

/-- A fraction of a second in nanoseconds; digits after the ninth are passed over. -/
def fraction : Reader Nat
  | '.' :: rest => do
    let (n, after) ← number 9 rest
    return (n * Nat.pow 10 (9 - (rest.length - after.length)), after.dropWhile Char.isDigit)
  | s => .ok (0, s)

def isMinus (c : Char) : Bool := c == '-' || c == '\u2212'

/-- Two digits. A single ASCII character is the start of something longer. -/
def pair : Reader (Char × Char)
  | [] => .error .tooShort
  | [c] => .error (if c.toNat < 0x80 then .tooShort else .invalid)
  | c :: d :: rest => if c.isDigit && d.isDigit then .ok ((c, d), rest) else .error .invalid

def pairValue (p : Char × Char) : Nat := valueOf [p.1, p.2]

def numericOffset : Reader Int
  | [] => .error .tooShort
  | c :: rest =>
    if c == '+' || isMinus c then do
      let (hours, rest) ← pair rest
      let (minutes, rest) ← pair (rest.dropWhile fun c => c == ':' || Text.isBlank c)
      if 60 ≤ pairValue minutes then .error .outOfRange
      else
        let seconds : Int := pairValue hours * 3600 + pairValue minutes * 60
        return (if c == '+' then seconds else -seconds, rest)
    else .error .invalid

def offset (s : List Char) : Except Fault (Int × List Char) :=
  if (s.take 3).map Char.toLower = ['u', 't', 'c'] then .ok (0, s.drop 3)
  else match s with
    | 'Z' :: rest => .ok (0, rest)
    | 'z' :: rest => .ok (0, rest)
    | s => numericOffset s

/-- What stands between date and time. -/
def separator : Reader Unit
  | [] => .error .tooShort
  | c :: rest => if c == 'T' || c == 't' || c == ' ' then .ok ((), rest) else .error .invalid

def parse (s : List Char) : Except Fault Instant := do
  let (y, s) ← year s
  let (_, s) ← literal '-' (skipBlank s)
  let (m, s) ← bounded 1 12 s
  let (_, s) ← literal '-' (skipBlank s)
  let (d, s) ← bounded 1 31 s
  let (_, s) ← separator s
  let (hour, s) ← bounded 0 23 s
  let (_, s) ← literal ':' (skipBlank s)
  let (minute, s) ← bounded 0 59 s
  let (_, s) ← literal ':' (skipBlank s)
  let (second, s) ← bounded 0 60 s
  let (nanos, s) ← fraction s
  let (east, s) ← offset (skipBlank s)
  if !(skipBlank s).isEmpty then throw .tooLong
  let date : Calendar.Date := ⟨y, m, d⟩
  if !date.isValid || y < Instant.firstYear || Instant.lastYear < y then throw .outOfRange
  if 86400 ≤ east.natAbs then throw .outOfRange
  let seconds : Int := date.toDays * 86400 + hour * 3600 + minute * 60 + min second 59 - east
  let t : Instant := ⟨seconds * 1000000000 + nanos, second = 60⟩
  if t.inRange then return t else throw .impossible

def decoder : Decode.Decoder Instant
  | _, .string s => match parse s.toList with
    | .ok t => .ok t
    | .error e => .error (.malformed e.message)
  | _, got => .error (.invalidType got "an RFC 3339 formatted date and time string")

def json (t : Instant) : Json := .string (text t)

end Flowgraph.Rfc3339
