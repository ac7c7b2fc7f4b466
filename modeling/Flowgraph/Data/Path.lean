import Flowgraph.Json.Basic
import Flowgraph.Number.Literal
import Flowgraph.Text.Blank

/-! Dotted paths into JSON values. A path is its trimmed text split at the dots. Reading steps
through object keys and array positions; writing makes objects on the way and replaces
whatever else stands there. -/

namespace Flowgraph.Path

/-- The parts of a text between its dots; without a dot it is one part. -/
def splitDots : List Char → List (List Char)
  | [] => [[]]
  | c :: rest =>
    if c = '.' then [] :: splitDots rest
    else match splitDots rest with
      | part :: more => (c :: part) :: more
      | [] => [[c]]

def segments (path : String) : List String := (splitDots (Text.trimChars path.toList)).map .ofList

/-- The member of a container that a segment names: a key, or a position below `2^64`. -/
def child? (value : Json) (segment : String) : Option Json :=
  match value with
  | .object fields => Fields.get? fields segment
  | .array items => (Literal.toNat? 0x10000000000000000 segment).bind (items[·]?)
  | _ => none

def follow (value : Json) : List String → Option Json
  | [] => some value
  | segment :: rest => (child? value segment).bind (follow · rest)

/-- The value at a path; a blank path names nothing. -/
def lookup (root : Json) (path : String) : Option Json :=
  if Text.trim path = "" then none else follow root (segments path)

/-- The entries of an object; anything else counts as an empty one. -/
def entries : Json → Fields
  | .object fields => fields
  | _ => []

def put (root : Json) (value : Json) : List String → Json
  | [] => root
  | [segment] => .object (Fields.insert segment value (entries root))
  | segment :: rest =>
    let inner := (Fields.get? (entries root) segment).getD (.object [])
    .object (Fields.insert segment (put inner value rest) (entries root))

def assign (root : Json) (path : String) (value : Json) : Json := put root value (segments path)

end Flowgraph.Path
