import Flowgraph.Decode.Record
import Flowgraph.Proofs.Json.Orderly

/-! What decoders can give, whatever value they are given. A record has what each of its fields can have; the values of a document
come out orderly. -/

namespace Flowgraph.Decode

variable {P : α → Prop} {Q : β → Prop}

/-- Every value that the decoder can give. -/
def Gives (P : α → Prop) (decoder : Decoder α) : Prop := ∀ setting value a, decoder setting value = .ok a → P a

namespace Gives

theorem trivial (decoder : Decoder α) : Gives (fun _ => True) decoder := fun _ _ _ _ => True.intro

theorem any : Gives Json.Orderly any := by
  rintro _ value _ ⟨⟩
  exact value.orderly_canonical

theorem fields : Gives Fields.Orderly fields := by
  intro _ value a given
  cases value with
  | object entries => cases given; exact .ofList (Json.orderly_canonicalFields entries)
  | _ => cases given

theorem stringFields : Gives Fields.Ordered stringFields := by
  intro _ value a given
  cases value with
  | object entries =>
    rw [Decode.stringFields] at given
    cases read : stringEntries entries with
    | error e => rw [read] at given; cases given
    | ok entries => rw [read] at given; cases given; exact Fields.ordered_ofList _
  | _ => cases given

theorem nullable {inner : Decoder α} (gives : Gives P inner) : Gives (fun given => ∀ a ∈ given, P a) (nullable inner) := by
  rintro setting value given read a rfl
  have inside : (inner setting value).map some = .ok (some a) := by
    cases value with
    | null => cases read
    | _ => exact read
  cases found : inner setting value with
  | error e => rw [found] at inside; cases inside
  | ok b => rw [found] at inside; cases inside; exact gives _ _ _ found

/-- Where null is nothing, a value that is there is not null. -/
theorem nullable_any : Gives (fun given => ∀ value ∈ given, value.Orderly ∧ value.isNull = false) (Decode.nullable Decode.any) := by
  rintro setting value given read a rfl
  refine ⟨nullable any setting value _ read a rfl,?_⟩
  cases value with
  | null => cases read
  | _ => cases read; rfl

theorem listItems {item : Json → Except Fault α} {values : List Json} {items : List α} (gives : ∀ value a, item value = .ok a → P a)
    (read : listItems item values = .ok items) : ∀ a ∈ items, P a := by
  induction values generalizing items with
  | nil => cases read; exact nofun
  | cons value rest ih =>
    simp only [Decode.listItems,bind,Except.bind] at read
    split at read
    · cases read
    · next first here =>
      split at read
      · cases read
      · next others there =>
        cases read
        exact List.forall_mem_cons.mpr ⟨gives _ _ here,ih there⟩

theorem list {item : Decoder α} (gives : Gives P item) : Gives (fun items => ∀ a ∈ items, P a) (list item) := by
  intro setting value items read
  cases value with
  | array values => exact listItems (gives setting) read
  | _ => cases read

end Gives

namespace Record

/-- Every value that the record can be read as. -/
def Gives (P : α → Prop) (record : Record α) : Prop := ∀ setting source a, record.read setting source = .ok a → P a

namespace Gives

theorem map {record : Record α} {f : α → β} (inner : Gives P record) (maps : ∀ a, P a → Q (f a)) : Gives Q (f <$> record) := by
  intro setting source b read
  change both (.ok f) (record.read setting source) = _ at read
  cases found : record.read setting source with
  | error e => rw [found] at read; cases read
  | ok a => rw [found] at read; cases read; exact maps a (inner _ _ _ found)

/-- The last field beside those before it, which give the record once they are given the last. -/
theorem seq {left : Record (α → β)} {right : Record α} (last : Gives P right) (before : Gives (fun f => ∀ a, P a → Q (f a)) left) :
    Gives Q (left <*> right) := by
  intro setting source b read
  change both (left.read setting source) (right.read setting source) = _ at read
  cases first : left.read setting source with
  | error e => rw [first] at read; cases second : right.read setting source <;> rw [second] at read <;> cases read
  | ok f =>
    cases second : right.read setting source with
    | error e => rw [first,second] at read; cases read
    | ok a =>
      rw [first,second] at read
      cases read
      exact before _ _ _ first a (last _ _ _ second)

theorem reading {name : String} {absent : Source → Except Placed α} {inner : Decoder α} (gives : Decode.Gives P inner)
    (otherwise : ∀ source a, absent source = .ok a → P a) : Gives P (reading name absent inner) := by
  intro setting source a read
  simp only [Record.reading] at read
  split at read
  · cases read
  · exact otherwise _ _ read
  · split at read
    · next found => cases read; exact gives _ _ _ found
    · cases read

theorem required {name : String} {inner : Decoder α} (gives : Decode.Gives P inner) : Gives P (required name inner) :=
  reading gives fun _ _ => nofun

theorem defaulted {name : String} {default : α} {inner : Decoder α} (gives : Decode.Gives P inner) (fit : P default) :
    Gives P (defaulted name default inner) :=
  reading gives fun _ _ same => by cases same; exact fit

theorem optional {name : String} {inner : Decoder α} {P : Option α → Prop} (gives : Decode.Gives P (nullable inner)) (fit : P none) :
    Gives P (optional name inner) := defaulted gives fit

end Gives
end Record

theorem Gives.ofRecord {record : Record α} {what : String} (gives : record.Gives P) : Gives P (record.decoder what) := by
  have unplaced {setting : Setting} {source : Source} {a : α} (read : Record.unplaced (record.read setting source) = .ok a) : P a := by
    cases found : record.read setting source with
    | error e => rw [found] at read; cases read
    | ok b => rw [found] at read; cases read; exact gives _ _ _ found
  intro setting value a read
  cases value with
  | object entries => exact unplaced read
  | array items =>
    simp only [Record.decoder,Record.ofItems,bind,Except.bind] at read
    split at read
    · cases read
    · next found =>
      split at read
      · cases read
      · cases read; exact unplaced found
  | _ => cases read

theorem variantNamed_mem {table : List (String × α)} {name : String} {a : α} (found : variantNamed table name = .ok a) : (name,a) ∈ table := by
  unfold variantNamed at found
  split at found
  · next known =>
    cases found
    obtain ⟨before,after,rfl,-⟩ := List.lookup_eq_some_iff.mp known
    simp
  · cases found

end Flowgraph.Decode
