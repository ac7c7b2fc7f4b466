import Flowgraph.Decode.Record
import Flowgraph.Proofs.Json.Fields

/-! Reading records from objects that hold each key once. What a record reads is settled by looking up
its fields, so the encoding of a value is decoded field by field. -/

namespace Flowgraph.Decode
open Fields (Ordered)

theorem listItems_map {encode : α → Json} {item : Json → Except Fault β} {f : α → β} {xs : List α}
    (reads : ∀ x ∈ xs, item (encode x) = .ok (f x)) : listItems item (xs.map encode) = .ok (xs.map f) := by
  induction xs with
  | nil => rfl
  | cons x rest ih =>
    have first := reads x (List.mem_cons_self ..)
    have others := ih fun y member => reads y (List.mem_cons_of_mem _ member)
    simp only [List.map_cons,listItems,first,others]
    rfl

theorem list_map {encode : α → Json} {item : Decoder β} {f : α → β} {xs : List α} {setting : Setting}
    (reads : ∀ x ∈ xs, item setting (encode x) = .ok (f x)) :
    list item setting (.array (xs.map encode)) = .ok (xs.map f) := listItems_map reads

theorem list_strings (setting : Setting) (xs : List String) : list string setting (.strings xs) = .ok xs := by
  have reads : ∀ x ∈ xs, string setting (.string x) = .ok (id x) := fun _ _ => rfl
  simpa [Json.strings] using list_map reads

theorem stringEntries_map (entries : List (String × String)) :
    stringEntries (entries.map fun (k,v) => (k,.string v)) = .ok entries := by
  induction entries with
  | nil => rfl
  | cons head rest ih =>
    simp only [List.map_cons,stringEntries,ih]
    rfl

theorem variant_string {table : List (String × α)} {name : String} {a : α} (setting : Setting) (found : table.lookup name = some a) :
    variant table setting (.string name) = .ok a := by
  simp only [variant,variantNamed,found]

theorem nullable_some {inner : Decoder α} {setting : Setting} {value : Json} {a : α} (given : value ≠ .null)
    (reads : inner setting value = .ok a) : nullable inner setting value = .ok (some a) := by
  cases value with
  | null => exact absurd rfl given
  | _ => simp only [nullable,reads,Except.map]

namespace Record

theorem filter_placed (name : String) (entries : List (String × Json)) (ordered : Ordered entries) (n : Nat) :
    (placed n entries).filter (·.1 == name) = [] ∧ entries.lookup name = none ∨
      ∃ place value, (placed n entries).filter (·.1 == name) = [(name,place,value)] ∧ entries.lookup name = some value := by
  induction entries generalizing n with
  | nil => exact .inl ⟨rfl,rfl⟩
  | cons head rest ih =>
    obtain ⟨key,value⟩ := head
    obtain ⟨above,tail⟩ := List.pairwise_cons.mp ordered
    by_cases same : key = name
    · subst same
      obtain ⟨empty,-⟩ | ⟨place,other,-,found⟩ := ih tail (n + 1)
      · exact .inr ⟨n,value,by simp [placed,empty],by simp⟩
      · obtain ⟨before,after,shape⟩ := List.lookup_eq_some_iff.mp found
        exact absurd (above (key,other) (by simp [shape])) (lt_irrefl _)
    · have other : (name == key) = false := beq_false_of_ne (Ne.symm same)
      obtain ⟨empty,absent⟩ | ⟨place,found,single,present⟩ := ih tail (n + 1)
      · exact .inl ⟨by simp [placed,same,empty],by simp [List.lookup_cons,other,absent]⟩
      · exact .inr ⟨place,found,by simp [placed,same,single],by simp [List.lookup_cons,other,present]⟩

theorem slot_ofObject (name : String) {entries : List (String × Json)} (ordered : Ordered entries) :
    ∃ place, (ofObject entries).slot name = .ok ((entries.lookup name).map (place,·)) := by
  obtain ⟨empty,absent⟩ | ⟨place,value,single,present⟩ := filter_placed name entries ordered 0
  · exact ⟨0,by simp only [ofObject,empty,absent,Option.map_none]⟩
  · exact ⟨place,by simp only [ofObject,single,present,Option.map_some]⟩

section
variable {setting : Setting} {source : Source} {entries : List (String × Json)} {name : String} {value : Json} {a : α} {inner : Decoder α}

theorem read_map {record : Record α} (f : α → β) (reads : record.read setting source = .ok a) :
    (f <$> record).read setting source = .ok (f a) := by
  change both (.ok f) (record.read setting source) = _
  rw [reads]
  rfl

theorem read_seq {left : Record (α → β)} {right : Record α} {f : α → β} (reads : left.read setting source = .ok f)
    (also : right.read setting source = .ok a) : (left <*> right).read setting source = .ok (f a) := by
  change both (left.read setting source) (right.read setting source) = _
  rw [reads,also]
  rfl

theorem read_reading {absent : Source → Except Placed α} (ordered : Ordered entries) (found : entries.lookup name = some value)
    (reads : inner setting value = .ok a) : (reading name absent inner).read setting (ofObject entries) = .ok a := by
  obtain ⟨place,slot⟩ := slot_ofObject name ordered
  simp only [reading,slot,found,Option.map_some,reads]

theorem read_reading_none {absent : Source → Except Placed α} (ordered : Ordered entries) (missing : entries.lookup name = none) :
    (reading name absent inner).read setting (ofObject entries) = absent (ofObject entries) := by
  obtain ⟨place,slot⟩ := slot_ofObject name ordered
  simp only [reading,slot,missing,Option.map_none]

theorem read_required (ordered : Ordered entries) (found : entries.lookup name = some value) (reads : inner setting value = .ok a) :
    (required name inner).read setting (ofObject entries) = .ok a := read_reading ordered found reads

theorem read_defaulted {default : α} (ordered : Ordered entries) (found : entries.lookup name = some value)
    (reads : inner setting value = .ok a) : (defaulted name default inner).read setting (ofObject entries) = .ok a :=
  read_reading ordered found reads

theorem read_defaulted_none {default : α} (ordered : Ordered entries) (missing : entries.lookup name = none) :
    (defaulted name default inner).read setting (ofObject entries) = .ok default := read_reading_none ordered missing

theorem read_optional {encode : β → Json} {given : Option β} {f : β → α} (ordered : Ordered entries)
    (found : entries.lookup name = given.map encode) (solid : ∀ b, encode b ≠ .null)
    (reads : ∀ b, inner setting (encode b) = .ok (f b)) :
    (optional name inner).read setting (ofObject entries) = .ok (given.map f) := by
  cases given with
  | none => exact read_defaulted_none ordered found
  | some b => exact read_defaulted ordered found (nullable_some (solid b) (reads b))

theorem read_optional_string {given : Option String} (ordered : Ordered entries) (found : entries.lookup name = given.map .string) :
    (optional name string).read setting (ofObject entries) = .ok given := by
  have reads : ∀ s, string setting (.string s) = .ok (id s) := fun _ => rfl
  simpa using read_optional ordered found (fun _ => Json.noConfusion) reads

theorem decoder_object {record : Record α} (what : String) (reads : record.read setting (ofObject entries) = .ok a) :
    record.decoder what setting (.object entries) = .ok a := by
  simp only [decoder,reads,unplaced]

end

end Record
end Flowgraph.Decode
