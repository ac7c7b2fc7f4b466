import Flowgraph.Decode.Fault

/-! Decoders of single values, of lists, of optional values and of named variants. -/

namespace Flowgraph.Decode

/-- Where a value comes from: straight out of a document, or out of a part that was set aside
until the kind of its owner was known. The two word the same fault differently. -/
inductive Setting where
  | direct
  | deferred
  deriving DecidableEq, Repr

abbrev Decoder (α : Type) := Setting → Json → Except Fault α

def any : Decoder Json := fun _ value => .ok value.canonical

def string : Decoder String
  | _, .string s => .ok s
  | _, got => .error (.invalidType got "a string")

def bool : Decoder Bool
  | _, .bool b => .ok b
  | _, got => .error (.invalidType got "a boolean")

def float : Decoder Float
  | _, .number n => .ok n.toFloat
  | _, got => .error (.invalidType got "f64")

/-- A whole number from `low` to `high`; `expected` names this range. -/
def integer (low high : Int) (expected : String) : Decoder Int
  | _, .number (.int n) =>
    if low ≤ n && n ≤ high then .ok n else .error (.invalidValue (.number (.int n)) expected)
  | _, got => .error (.invalidType got expected)

def integer64 : Decoder Int := integer (-0x8000000000000000) 0x7fffffffffffffff "i64"
def integer32 : Decoder Int := integer (-0x80000000) 0x7fffffff "i32"
def natural32 : Decoder Nat := fun setting value => (integer 0 0xffffffff "u32" setting value).map Int.toNat

/-- The decoded items in order, or the first fault among them. -/
def listItems (item : Json → Except Fault α) : List Json → Except Fault (List α)
  | [] => .ok []
  | value :: rest => do
    let first ← item value
    return first :: (← listItems item rest)

def list (item : Decoder α) : Decoder (List α)
  | setting, .array items => listItems (item setting) items
  | _, got => .error (.invalidType got "a sequence")

def fields : Decoder Fields
  | _, .object entries => .ok (Fields.ofList (Json.canonicalFields entries))
  | _, got => .error (.invalidType got "a map")

def stringEntries : List (String × Json) → Except Fault (List (String × String))
  | [] => .ok []
  | (key, .string s) :: rest => do return (key, s) :: (← stringEntries rest)
  | (_, got) :: _ => .error (.invalidType got "a string")

def stringFields : Decoder (List (String × String))
  | _, .object entries => (stringEntries entries).map Fields.ofList
  | _, got => .error (.invalidType got "a map")

/-- Null is nothing. -/
def nullable (inner : Decoder α) : Decoder (Option α)
  | _, .null => .ok none
  | setting, value => (inner setting value).map some

def isNothing (setting : Setting) : Json → Bool
  | .null => true
  | .object [] => setting = .deferred
  | _ => false

def variantNamed (table : List (String × α)) (name : String) : Except Fault α :=
  match table.lookup name with
  | some value => .ok value
  | none => .error (.unknownVariant name (table.map Prod.fst))

/-- One of the named variants: its name, or an object with the name as its only key and nothing in it. -/
def variant (table : List (String × α)) : Decoder α
  | _, .string name => variantNamed table name
  | setting, .object [(name, payload)] => do
    let value ← variantNamed table name
    if isNothing setting payload then return value else .error (.invalidType payload "unit")
  | _, .object entries => .error (.invalidValue (.object entries) "map with a single key")
  | _, got => .error (.invalidType got "string or map")

end Flowgraph.Decode
