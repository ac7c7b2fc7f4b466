import Flowgraph.Decode.Decoder

/-! Identifiers of 128 bits. They are written as 32 lower-case hexadecimal digits in groups of
8, 4, 4, 4 and 12; they are read in any case, also without hyphens, in braces, or as a URN. -/

namespace Flowgraph

structure Uuid where
  bits : BitVec 128
  deriving DecidableEq, Repr, Inhabited

namespace Uuid

def nil : Uuid := ⟨0⟩

def ofNat (n : Nat) : Uuid := ⟨.ofNat 128 n⟩

/-- A random identifier: all bits are free but for those that say so. -/
def random (bits : Nat) : Uuid :=
  ⟨BitVec.ofNat 128 bits &&& 0xffffffffffff0fff3fffffffffffffff ||| 0x40008000000000000000⟩

def groups : List Nat := [8, 4, 4, 4, 12]

/-- The lowest `n` hexadecimal digits, the highest first. -/
def digits (value : Nat) : Nat → List Char
  | 0 => []
  | n + 1 => digits (value / 16) n ++ [Nat.digitChar (value % 16)]

def hyphenated : List Nat → List Char → List Char
  | [], ds => ds
  | [_], ds => ds
  | n :: rest, ds => ds.take n ++ '-' :: hyphenated rest (ds.drop n)

def text (id : Uuid) : String := .ofList (hyphenated groups (digits id.bits.toNat 32))

def hexValue? (c : Char) : Option Nat :=
  if c.isDigit then some (c.toNat - 48)
  else if 'a' ≤ c && c ≤ 'f' then some (c.toNat - 87)
  else if 'A' ≤ c && c ≤ 'F' then some (c.toNat - 55) else none

def ofDigits? (ds : List Char) : Option Nat := ds.foldlM (fun n c => (hexValue? c).map (16 * n + ·)) 0

/-- The digits between hyphens that stand where the groups end. -/
def ungrouped? : List Nat → List Char → Option (List Char)
  | [], ds => if ds.isEmpty then some [] else none
  | [n], ds => if ds.length = n then some ds else none
  | n :: rest, ds =>
    match ds.drop n with
    | '-' :: more => (ungrouped? rest more).map (ds.take n ++ ·)
    | _ => none

def urn : List Char := "urn:uuid:".toList

/-- Removes braces or the start of a URN. Such a text must be grouped. -/
def bare (s : List Char) : List Char × Bool :=
  match s with
  | '\x7b' :: rest => if rest.getLast? = some '\x7d' then (rest.dropLast, true) else (s, false)
  | _ => if urn.isPrefixOf s then (s.drop urn.length, true) else (s, false)

def parse? (s : List Char) : Option Uuid :=
  let (body, wrapped) := bare s
  let ds := if body.length = 32 && !wrapped then some body else ungrouped? groups body
  ds.bind fun ds => (ofDigits? ds).map ofNat

/-- Where in the text the hyphens are, and the first character that does not belong to an identifier;
places count bytes. -/
def survey (index : Nat) : List Char → List Nat × Option (Char × Nat)
  | [] => ([], none)
  | c :: rest =>
    if c = '-' then let (hyphens, bad) := survey (index + 1) rest; (index :: hyphens, bad)
    else if (hexValue? c).isSome then survey (index + 1) rest
    else ([], some (c, index))

private def utf8Length (s : List Char) : Nat := (String.ofList s).utf8ByteSize

/-- The first group that does not end where it should. -/
def misplaced (length : Nat) : Nat → List Nat → List Nat → Nat → String
  | group, n :: sizes, hyphen :: rest, start =>
    if hyphen = start + n then misplaced length (group + 1) sizes rest (hyphen + 1)
    else s!"invalid group length in group {group}: expected {n}, found {hyphen - start}"
  | group, n :: _, [], start => s!"invalid group length in group {group}: expected {n}, found {length - start}"
  | _, [], _, _ => ""

def complaint (s : List Char) : String :=
  let (body, wrapped) := bare s
  let offset := if !wrapped then 0 else if s.head? = some '\x7b' then 1 else urn.length
  match survey 0 body with
  | (_, some (c, index)) =>
    s!"invalid character: expected an optional prefix of `urn:uuid:` followed by [0-9a-fA-F-], found `{c}` at {index + offset + 1}"
  | (hyphens, none) =>
    if hyphens.isEmpty && !wrapped then
      s!"invalid length: expected length 32 for simple format, found {utf8Length s}"
    else if hyphens.length ≠ 4 then s!"invalid group count: expected 5, found {hyphens.length + 1}"
    else misplaced (utf8Length s) 0 groups hyphens 0

def decoder : Decode.Decoder Uuid
  | _, .string s => match parse? s.toList with
    | some id => .ok id
    | none => .error (.malformed ("UUID parsing failed: " ++ complaint s.toList))
  | _, got => .error (.invalidType got "a formatted UUID string")

def json (id : Uuid) : Json := .string id.text

end Uuid
end Flowgraph
