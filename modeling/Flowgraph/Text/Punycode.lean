/-! Labels of characters beyond ASCII written in ASCII: the plain characters first, then the others
as distances in numbers of variable length to the base 36. -/

namespace Flowgraph.Text.Punycode

/-- The bias for the next number after a distance, `count` being the characters so far. -/
def adapted (distance count : Nat) (first : Bool) : Nat :=
  let d := if first then distance / 700 else distance / 2
  go 32 0 (d + d / count)
where
  go : Nat → Nat → Nat → Nat
    | 0, k, _ => k
    | n + 1, k, d => if 455 < d then go n (k + 36) (d / 35) else k + 36 * d / (d + 38)

/-- The least digit value that ends a number at the position `k`. -/
def threshold (k bias : Nat) : Nat := if k ≤ bias then 1 else min 26 (k - bias)

def digit (n : Nat) : Char := .ofNat (if n < 26 then n + 97 else n + 22)

def digitValue? (c : Char) : Option Nat :=
  if c.isLower then some (c.toNat - 97) else if c.isUpper then some (c.toNat - 65)
  else if c.isDigit then some (c.toNat - 22) else none

/-- A number from the position `k` on. -/
def number (bias : Nat) : Nat → Nat → Nat → List Char
  | 0, _, _ => []
  | n + 1, k, q =>
    let t := threshold k bias
    if q < t then [digit q] else digit (t + (q - t) % (36 - t)) :: number bias n (k + 36) ((q - t) / (36 - t))

/-- What encoding has come to: the last code point, the distance since the last number, the bias,
the characters written, and whether none of them is beyond ASCII. -/
structure State where
  point : Nat
  distance : Nat
  bias : Nat
  count : Nat
  first : Bool

/-- Writes every occurrence of the code point `n`; those before it are in place already. -/
def encodePoint (label : List Nat) (n : Nat) (s : State) : State × List Char :=
  let start := { s with point := n, distance := s.distance + (n - s.point) * (s.count + 1) }
  let (s, out) := label.foldl (fun (s, out) c =>
    if c < n then ({ s with distance := s.distance + 1 }, out)
    else if c = n then
      ({ s with distance := 0, bias := adapted s.distance (s.count + 1) s.first, count := s.count + 1, first := false },
        out ++ number s.bias 16 36 s.distance)
    else (s, out)) (start, [])
  ({ s with point := n + 1, distance := s.distance + 1 }, out)

def encode (label : List Char) : List Char :=
  let plain := label.filter (·.toNat < 0x80)
  let points := ((label.map Char.toNat).filter (0x80 ≤ ·)).mergeSort.eraseDups
  let start : State := ⟨0x80, 0, 72, plain.length, true⟩
  let (_, out) := points.foldl (fun (s, out) n =>
    let (s, more) := encodePoint (label.map Char.toNat) n s
    (s, out ++ more)) (start, [])
  (if plain.isEmpty then [] else plain ++ ['-']) ++ out

/-- Reads a number from the position `k` on, of weight `w`. -/
def readNumber? (bias : Nat) : Nat → Nat → Nat → List Char → Option (Nat × List Char)
  | _, _, _, [] => none
  | k, w, sum, c :: rest => do
    let d ← digitValue? c
    let t := threshold k bias
    if d < t then return (sum + d * w, rest)
    readNumber? bias (k + 36) (w * (36 - t)) (sum + d * w) rest

/-- Reads the numbers: each says how far it is to the next character and its place. -/
def decodeFrom : Nat → State → List Char → List Char → Option (List Char)
  | 0, _, done, _ => some done
  | _, _, done, [] => some done
  | n + 1, s, done, text => do
    let (distance, rest) ← readNumber? s.bias 36 1 0 text
    let i := s.distance + distance
    let size := done.length + 1
    let point := s.point + i / size
    if !point.isValidChar then none
    decodeFrom n ⟨point, i % size + 1, adapted distance size s.first, size, false⟩
      (done.take (i % size) ++ .ofNat point :: done.drop (i % size)) rest

def decode? (text : List Char) : Option (List Char) :=
  let back := text.reverse
  let plain := ((back.dropWhile (· != '-')).drop 1).reverse
  let rest := (back.takeWhile (· != '-')).reverse
  if (plain != [] || !text.contains '-') && text.all (·.toNat < 0x80) then decodeFrom rest.length ⟨0x80, 0, 72, plain.length, true⟩ plain rest else none

end Flowgraph.Text.Punycode
