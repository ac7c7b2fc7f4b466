import Flowgraph.Http.HostName
import Flowgraph.Number.Literal
import Flowgraph.Text.Utf8

/-! Hosts of addresses: names, and numeric addresses of four or sixteen bytes. A name whose last part
is a number is a numeric address. -/

namespace Flowgraph

inductive Host where
  | name (text : String)
  | four (number : Nat)
  | six (groups : List Nat)
  deriving DecidableEq, Repr, Inhabited

inductive UrlFault where
  | relative
  | emptyHost
  | badName
  | badPort
  | badFour
  | badSix
  | badHostCharacter
  deriving DecidableEq, Repr

def UrlFault.message : UrlFault → String
  | .relative => "relative URL without a base"
  | .emptyHost => "empty host"
  | .badName => "invalid international domain name"
  | .badPort => "invalid port number"
  | .badFour => "invalid IPv4 address"
  | .badSix => "invalid IPv6 address"
  | .badHostCharacter => "invalid domain character"

namespace Host

def hexValue? (c : Char) : Option Nat :=
  if c.isDigit then some (c.toNat - 48)
  else if 'a' ≤ c && c ≤ 'f' then some (c.toNat - 87)
  else if 'A' ≤ c && c ≤ 'F' then some (c.toNat - 55) else none

/-- The number that digits to a base write, if they are some. -/
def digits? (base : Nat) (ds : List Char) : Option Nat :=
  ds.foldlM (fun n c => (hexValue? c).bind fun d => if d < base then some (base * n + d) else none) 0

/-- A part of a numeric address: decimal, octal after a zero, or hexadecimal after `0x`. -/
def part? : List Char → Option Nat
  | [] => none
  | '0' :: x :: ds => if x == 'x' || x == 'X' then digits? 16 ds else digits? 8 (x :: ds)
  | ds => digits? 10 ds

/-- The parts of a name, without an empty one at its end. -/
def nameParts (s : List Char) : List (List Char) :=
  let parts := Text.pieces '.' s
  if parts.length > 1 && parts.getLast? = some [] then parts.dropLast else parts

/-- Whether a name ends in a number, so that it has to be a numeric address. -/
def endsInNumber (s : List Char) : Bool :=
  match (nameParts s).getLast? with
  | some part => (!part.isEmpty && part.all Char.isDigit) || (part? part).isSome
  | none => false

/-- A numeric address: each part but the last is a byte, and the last one fills what is left. -/
def four? (s : List Char) : Option Nat := do
  let parts ← (nameParts s).mapM part?
  let last ← parts.getLast?
  let bytes := parts.dropLast
  if 4 < parts.length || bytes.any (255 < ·) || 1 <<< (8 * (4 - bytes.length)) ≤ last then none
  else some (((bytes ++ [0, 0, 0, 0]).take 4).foldl (fun n b => 256 * n + b) 0 + last)

/-- Four decimal bytes without leading zeros, as two groups. -/
def dotted? (s : List Char) : Option (List Nat) := do
  let byte? (ds : List Char) : Option Nat :=
    if ds.isEmpty || !ds.all Char.isDigit || (1 < ds.length && ds.head? = some '0') || 255 < Literal.ofDigits ds then none
    else some (Literal.ofDigits ds)
  let [a, b, c, d] ← (Text.pieces '.' s).mapM byte? | none
  return [256 * a + b, 256 * c + d]

/-- Groups between colons; the last one may be dotted. -/
def groups? (s : List Char) : Option (List Nat) :=
  if s.isEmpty then some [] else go (Text.pieces ':' s)
where
  go : List (List Char) → Option (List Nat)
    | [] => some []
    | [last] => if last.contains '.' then dotted? last else group? last
    | g :: rest => do return (← group? g) ++ (← go rest)
  group? (g : List Char) : Option (List Nat) :=
    if g.isEmpty || 4 < g.length then none else (digits? 16 g).map ([·])

def splitGap : List Char → Option (List Char × List Char)
  | ':' :: ':' :: rest => some ([], rest)
  | c :: rest => (splitGap rest).map fun (before, after) => (c :: before, after)
  | [] => none

/-- Eight groups, of which one run may be left out. -/
def six? (s : List Char) : Option (List Nat) :=
  match splitGap s with
  | none => (groups? s).bind fun gs => if gs.length = 8 then some gs else none
  | some (before, after) => do
    let before ← if before.contains '.' then none else groups? before
    let after ← groups? after
    if before.length + after.length ≤ 7 then
      some (before ++ List.replicate (8 - before.length - after.length) 0 ++ after)
    else none

/-- The bytes of a text, with percent escapes resolved. -/
def unescaped : List Char → List Nat
  | '%' :: a :: b :: rest => match hexValue? a, hexValue? b with
    | some a, some b => (16 * a + b) :: unescaped rest
    | _, _ => 0x25 :: unescaped (a :: b :: rest)
  | c :: rest => Text.utf8Bytes c.toNat ++ unescaped rest
  | [] => []
termination_by s => s.length

def asciiName? (s : List Char) : Option (List Char) := do
  let text ← (Text.strictText (unescaped s)).toOption
  HostName.ascii? text.toList

/-- The address in brackets, if there are brackets. -/
def bracketed? (s : List Char) : Option (Except UrlFault Host) :=
  match s with
  | '[' :: rest => match rest.getLast?, six? rest.dropLast with
    | some ']', some groups => some (.ok (.six groups))
    | _, _ => some (.error .badSix)
  | _ => none

def read (s : List Char) : Except UrlFault Host :=
  match bracketed? s, asciiName? s with
  | some result, _ => result
  | none, none => .error .badName
  | none, some [] => .error .emptyHost
  | none, some ascii =>
    if endsInNumber ascii then
      match four? ascii with
      | some n => .ok (.four n)
      | none => .error .badFour
    else .ok (.name (.ofList ascii))

/-- The first of the longest runs of zeros from the index on, as its index and length. -/
def longestGap : Nat → List Nat → Nat × Nat
  | _, [] => (0, 0)
  | index, g :: rest =>
    let run := ((g :: rest).takeWhile (· == 0)).length
    let later := longestGap (index + 1) rest
    if later.2 ≤ run then (index, run) else later

private def hexText (gs : List Nat) : String := ":".intercalate (gs.map fun g => .ofList (Nat.toDigits 16 g))

/-- The groups, with the longest run of at least two zeros left out. -/
def sixText (groups : List Nat) : String :=
  let (start, length) := longestGap 0 groups
  if length < 2 then hexText groups
  else hexText (groups.take start) ++ "::" ++ hexText (groups.drop (start + length))

def text : Host → String
  | .name text => text
  | .four n => s!"{n / 0x1000000}.{n / 0x10000 % 256}.{n / 0x100 % 256}.{n % 256}"
  | .six groups => "[" ++ sixText groups ++ "]"

end Host
end Flowgraph
