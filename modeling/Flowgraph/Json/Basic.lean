/-! JSON values. Whole numbers within 64 bits are kept exact and apart from binary64 numbers.
The fields of an object stand in the order of their keys, each key once; the operations below
keep that order, and look-up needs only that the first entry of a key counts. -/

namespace Flowgraph

inductive Number where
  | int (value : Int)
  | float (value : Float)
  deriving BEq, Repr, Inhabited

inductive Json where
  | null
  | bool (value : Bool)
  | number (value : Number)
  | string (value : String)
  | array (items : List Json)
  | object (fields : List (String × Json))
  deriving Repr, Inhabited

namespace Json

mutual

/-- The same value; of numbers those of one kind only, which compare as they do there. -/
def same : Json → Json → Bool
  | .null, .null => true
  | .bool a, .bool b => a == b
  | .number a, .number b => a == b
  | .string a, .string b => a == b
  | .array a, .array b => sameItems a b
  | .object a, .object b => sameFields a b
  | _, _ => false

def sameItems : List Json → List Json → Bool
  | [], [] => true
  | a :: rest, b :: others => same a b && sameItems rest others
  | _, _ => false

def sameFields : List (String × Json) → List (String × Json) → Bool
  | [], [] => true
  | (key, a) :: rest, (name, b) :: others => key == name && same a b && sameFields rest others
  | _, _ => false

end

instance : BEq Json := ⟨same⟩

end Json

abbrev Fields := List (String × Json)

/-- The nearest binary64 number. -/
def Number.toFloat : Number → Float
  | .int n => .ofInt n
  | .float x => x

namespace Fields

def get? (fields : Fields) (key : String) : Option Json := fields.lookup key

/-- Sets the value of a key, in place or before the first greater key. -/
def insert (key : String) (value : α) : List (String × α) → List (String × α)
  | [] => [(key, value)]
  | (k, v) :: rest =>
    if key = k then (key, value) :: rest
    else if key < k then (key, value) :: (k, v) :: rest
    else (k, v) :: insert key value rest

/-- Sets every entry of `changes`, a later one over an earlier one. -/
def merge (fields changes : List (String × α)) : List (String × α) :=
  changes.foldl (fun acc (k, v) => insert k v acc) fields

/-- The entries in the order of their keys; of two with the same key the later one stays. -/
def ofList (entries : List (String × α)) : List (String × α) := merge [] entries

end Fields

namespace Json

def ofNat (n : Nat) : Json := .number (.int n)
def ofFloat (x : Float) : Json := .number (.float x)
def strings (items : List String) : Json := .array (items.map .string)

/-- The value of a key, where the value is an object that has it. -/
def field? (value : Json) (key : String) : Option Json :=
  match value with
  | .object fields => Fields.get? fields key
  | _ => none

def isNull : Json → Bool
  | .null => true
  | _ => false

mutual

/-- Every object in the order of its keys, the last entry of each key kept. -/
def canonical : Json → Json
  | .array items => .array (canonicalItems items)
  | .object fields => .object (Fields.ofList (canonicalFields fields))
  | value => value

def canonicalItems : List Json → List Json
  | [] => []
  | value :: rest => canonical value :: canonicalItems rest

def canonicalFields : List (String × Json) → List (String × Json)
  | [] => []
  | (key, value) :: rest => (key, canonical value) :: canonicalFields rest

end

end Json
end Flowgraph
