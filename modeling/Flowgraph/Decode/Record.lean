import Flowgraph.Decode.Decoder

/-! Decoders of records with named fields. A record is an object, or an array of its fields in
order. Unknown keys are passed over. Of several faults the one that stands first counts: faults
of present fields by their place in the object, and after them missing fields as declared. -/

namespace Flowgraph.Decode

/-- A fault with its place. -/
abbrev Placed := Nat × Fault

/-- Where the fields of a record are taken from: by their names, or by position. -/
structure Source where
  positional : Bool
  slot : String → Except Placed (Option (Nat × Json))
  absent : String → Placed

structure Record (α : Type) where
  names : List String
  read : Setting → Source → Except Placed α

namespace Record

/-- Both results; of two faults the one in front, of two in one place the left one. -/
def both (f : Except Placed (α → β)) (x : Except Placed α) : Except Placed β :=
  match f, x with
  | .ok f, .ok x => .ok (f x)
  | .error e, .ok _ => .error e
  | .ok _, .error e => .error e
  | .error e, .error e' => .error (if e.1 ≤ e'.1 then e else e')

instance : Applicative Record where
  pure a := ⟨[], fun _ _ => .ok a⟩
  seq f x := ⟨f.names ++ (x ()).names, fun setting source => both (f.read setting source) ((x ()).read setting source)⟩

/-- The value of a field, or what its absence means. -/
def reading (name : String) (absent : Source → Except Placed α) (inner : Decoder α) : Record α :=
  ⟨[name], fun setting source => match source.slot name with
    | .error e => .error e
    | .ok none => absent source
    | .ok (some (place, value)) => match inner setting value with
      | .ok a => .ok a
      | .error e => .error (place, e)⟩

def required (name : String) (inner : Decoder α) : Record α :=
  reading name (fun source => .error (source.absent name)) inner

/-- A field that has a value also when it is absent. -/
def defaulted (name : String) (default : α) (inner : Decoder α) : Record α :=
  reading name (fun _ => .ok default) inner

/-- A field that may be absent or null. -/
def optional (name : String) (inner : Decoder α) : Record (Option α) := defaulted name none (nullable inner)

/-- A field that may be null, and absent from an object but not from an array. -/
def optionalKey (name : String) (inner : Decoder α) : Record (Option α) :=
  reading name (fun source => if source.positional then .error (source.absent name) else .ok none) (nullable inner)

/-- Entries with their places, from `n` on. -/
def placed (n : Nat) : List (String × Json) → List (String × Nat × Json)
  | [] => []
  | (key, value) :: rest => (key, n, value) :: placed (n + 1) rest

/-- The fields of an object; a field that is given twice is a fault. -/
def ofObject (entries : List (String × Json)) : Source where
  positional := false
  slot name := match (placed 0 entries).filter (·.1 == name) with
    | [] => .ok none
    | [(_, slot)] => .ok (some slot)
    | _ :: (_, place, _) :: _ => .error (place, .duplicate name)
  absent name := (entries.length, .missing name)

def counted (n : Nat) (noun : String) : String := if n = 1 then s!"1 {noun}" else s!"{n} {noun}s"

/-- The fields of an array in the order of the names. -/
def ofArray (what : String) (names : List String) (items : List Json) : Source where
  positional := true
  slot name := .ok ((items[names.idxOf name]?).map fun value => (names.idxOf name, value))
  absent name := (names.idxOf name, .invalidLength (names.idxOf name)
    (what ++ " with " ++ counted names.length "element"))

/-- The fault of an array with more items than the record has fields. -/
def surplus (setting : Setting) (length : Nat) (names : List String) : Fault :=
  .invalidLength length (match setting with
    | .direct => "fewer elements in array"
    | .deferred => counted names.length "element" ++ " in sequence")

def unplaced (result : Except Placed α) : Except Fault α :=
  match result with
  | .ok a => .ok a
  | .error e => .error e.2

def ofItems (record : Record α) (what : String) (setting : Setting) (items : List Json) : Except Fault α := do
  let value ← unplaced (record.read setting (ofArray what record.names items))
  if record.names.length < items.length then .error (surplus setting items.length record.names) else return value

/-- The record as an object or an array; `what` names it in messages. -/
def decoder (record : Record α) (what : String) : Decoder α
  | setting, .object entries => unplaced (record.read setting (ofObject entries))
  | setting, .array items => record.ofItems what setting items
  | _, got => .error (.invalidType got what)

end Record

/-- A value whose tag, under `type`, tells how the rest is read: an object with the tag among its
entries, or an array that begins with it. -/
def tagged (table : List (String × Decoder α)) (what : String) : Decoder α
  | _, .object entries =>
    match (Record.ofObject entries).slot "type" with
    | .error e => .error e.2
    | .ok none => .error (.missing "type")
    | .ok (some (_, tag)) => do (← named tag) .deferred (.object entries)
  | _, .array [] => .error (.missing "type")
  | _, .array (tag :: rest) => do (← named tag) .deferred (.array rest)
  | _, got => .error (.invalidType got what)
where
  named : Json → Except Fault (Decoder α)
    | .string name => variantNamed table name
    | got => .error (.invalidType got "variant identifier")

end Flowgraph.Decode
