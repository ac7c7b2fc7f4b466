/-! Characters as bytes: the encodings of a range of code points as chains of byte ranges, and the
text that bytes stand for, with what is broken in it. -/

namespace Flowgraph.Text

abbrev ByteRange := Nat × Nat

def utf8Size (n : Nat) : Nat := if n < 0x80 then 1 else if n < 0x800 then 2 else if n < 0x10000 then 3 else 4

/-- The ranges for a first byte from `mark` on that counts in units of `64^k`, with `k` further bytes:
a part below the first full unit, all full units as one, and a part above the last one. -/
private def chainsFrom (mark : Nat) : Nat → Nat → Nat → List (List ByteRange)
  | 0, lo, hi => [[(mark + lo, mark + hi)]]
  | k + 1, lo, hi =>
    let unit := 1 <<< (6 * (k + 1))
    let first := lo / unit
    let last := hi / unit
    if first == last then (chainsFrom 0x80 k (lo % unit) (hi % unit)).map ((mark + first, mark + first) :: ·)
    else
      let below := if lo % unit == 0 then []
        else (chainsFrom 0x80 k (lo % unit) (unit - 1)).map ((mark + first, mark + first) :: ·)
      let above := if hi % unit == unit - 1 then []
        else (chainsFrom 0x80 k 0 (hi % unit)).map ((mark + last, mark + last) :: ·)
      let a := if below.isEmpty then first else first + 1
      let b := if above.isEmpty then last + 1 else last
      below ++ (if a < b then [(mark + a, mark + b - 1) :: List.replicate (k + 1) (0x80, 0xbf)] else []) ++ above

/-- The code points of one length, with the mark of their first byte and the number of further bytes. -/
private def lengthClasses : List (Nat × Nat × Nat × Nat) :=
  [(0, 0x7f, 0, 0), (0x80, 0x7ff, 0xc0, 1), (0x800, 0xd7ff, 0xe0, 2), (0xe000, 0xffff, 0xe0, 2),
   (0x10000, 0x10ffff, 0xf0, 3)]

/-- Chains of byte ranges that together match exactly the encodings of the code points in the ranges. -/
def utf8Chains (ranges : List (Nat × Nat)) : List (List ByteRange) :=
  ranges.flatMap fun (lo, hi) => lengthClasses.flatMap fun (a, b, mark, k) =>
    if max lo a ≤ min hi b then chainsFrom mark k (max lo a) (min hi b) else []

def utf8Bytes (n : Nat) : List Nat := ((utf8Chains [(n, n)]).headD []).map (·.1)

/-- What bytes begin with: a character, or a broken sequence, which may only lack further bytes. -/
inductive Start where
  | char (c : Char) (rest : List Nat)
  | broken (length : Nat) (cut : Bool) (rest : List Nat)

/-- The number of bytes in the sequence that a byte begins, and the range of its second byte. -/
def sequence (first : Nat) : Nat × Nat × Nat :=
  if first < 0x80 then (1, 0, 0)
  else if first < 0xc2 then (0, 0, 0)
  else if first < 0xe0 then (2, 0x80, 0xbf)
  else if first < 0xf0 then (3, if first = 0xe0 then 0xa0 else 0x80, if first = 0xed then 0x9f else 0xbf)
  else if first < 0xf5 then (4, if first = 0xf0 then 0x90 else 0x80, if first = 0xf4 then 0x8f else 0xbf)
  else (0, 0, 0)

/-- How many of the bytes after the first one go on with its sequence. -/
def following (low high : Nat) : Nat → List Nat → Nat
  | 0, _ => 0
  | _, [] => 0
  | n + 1, b :: rest => if low ≤ b && b ≤ high then following 0x80 0xbf n rest + 1 else 0

def start (first : Nat) (rest : List Nat) : Start :=
  let (length, low, high) := sequence first
  if length = 0 then .broken 1 false rest
  else
    let got := following low high (length - 1) rest
    let payload := if length = 1 then first else first % (1 <<< (7 - length))
    if got + 1 = length then .char (.ofNat ((rest.take got).foldl (fun c b => c * 64 + b % 64) payload)) (rest.drop got)
    else .broken (got + 1) (rest.drop got).isEmpty (rest.drop got)

private def lossy : Nat → List Nat → List Char
  | 0, _ => []
  | _, [] => []
  | n + 1, first :: rest => match start first rest with
    | .char c rest => c :: lossy n rest
    | .broken _ _ rest => '\ufffd' :: lossy n rest

/-- The text of some bytes, with a replacement character for each broken sequence. -/
def lossyText (bytes : List Nat) : String := .ofList (lossy bytes.length bytes)

structure Broken where
  index : Nat
  length : Nat
  cut : Bool
  deriving DecidableEq, Repr

def Broken.message (b : Broken) : String :=
  if b.cut then s!"incomplete utf-8 byte sequence from index {b.index}"
  else s!"invalid utf-8 sequence of {b.length} bytes from index {b.index}"

private def strict : Nat → Nat → List Nat → Except Broken (List Char)
  | 0, _, _ => .ok []
  | _, _, [] => .ok []
  | n + 1, index, first :: rest => match start first rest with
    | .char c more => do return c :: (← strict n (index + (rest.length + 1 - more.length)) more)
    | .broken length cut _ => .error ⟨index, length, cut⟩

/-- The text of some bytes, if none of it is broken. -/
def strictText (bytes : List Nat) : Except Broken String := (strict bytes.length 0 bytes).map .ofList

end Flowgraph.Text
