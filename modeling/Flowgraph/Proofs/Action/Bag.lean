import Flowgraph.Proofs.Action.Law
import Flowgraph.Proofs.Json.Fields

/-! What becomes of the data of a run. Nodes change it in two ways only: they set fields of it and they write at paths. A
relation that holds from before to after both of these holds from the beginning of a walk to its end, however that may be. -/

namespace Flowgraph
open Act

variable {σ : Type} {T : Json → Json → Prop}

/-- A relation from earlier to later data that setting fields and writing at paths keep up. -/
class Json.Editing (T : Json → Json → Prop) : Prop where
  refl : ∀ data, T data data
  trans : ∀ {a b c}, T a b → T b c → T a c
  merge : ∀ fields changes, T (.object fields) (.object (Fields.merge fields changes))
  assign : ∀ data path value, T data (Path.assign data path value)

namespace Act

/-- An action that leads from data to data so related, however it ends. -/
def Edits (T : Json → Json → Prop) (act : Act (Context × σ) ε α) : Prop := ∀ p, T p.1.data (act p).2.1.data

namespace Edits

variable {act : Act (Context × σ) ε α}

theorem attempt (edits : Edits T act) : Edits T (Act.attempt act : Act (Context × σ) δ (Except ε α)) := by
  intro p
  rw [attempt_snd]
  exact edits p

variable [Json.Editing T]

theorem silent (same : ∀ p, (act p).2.1.data = p.1.data) : Edits T act := by
  intro p
  rw [same p]
  exact Json.Editing.refl _

theorem merge {fields : Fields} : Edits T (Step.change (·.merge fields) : Step σ Unit) := by
  intro p
  change T p.1.data (p.1.merge fields).data
  unfold Context.merge
  split
  · next data bag =>
    rw [bag]
    exact Json.Editing.merge data fields
  · exact Json.Editing.refl _

theorem bind {f : α → Act (Context × σ) ε β} (first : Edits T act) (rest : ∀ a, Edits T (f a)) :
    Edits T (act >>= f) := by
  intro p
  rw [bind_apply]
  have early := first p
  revert early
  rcases act p with ⟨e | a,q⟩ <;> intro early
  · exact early
  · exact Json.Editing.trans early (rest a q)

theorem transformed (data : Json) (steps : List Transformation) : T data (Action.transformed data steps).1 := by
  unfold Action.transformed
  refine List.foldlRecOn (motive := fun result : Json × List String => T data result.1) steps _ (Json.Editing.refl data)
    fun result reached t _ => ?_
  dsimp only
  split
  · exact Json.Editing.trans reached (Json.Editing.assign ..)
  · exact reached

theorem transform {caps : Capabilities σ} {id : String} (steps : List Transformation) : Edits T (Action.transform caps id steps) := by
  rintro ⟨c,s⟩
  rw [Action.transform_apply]
  exact transformed c.data steps

theorem law (caps : Capabilities σ) (id : String) : Step.Law caps id (Edits T) where
  pure _ := silent fun _ => rfl
  fail _ := silent fun _ => rfl
  bind := bind
  context := silent fun _ => rfl
  note _ := silent fun _ => rfl
  merge := merge
  mark := silent fun _ => rfl
  transform := transform
  call _ := silent fun _ => rfl
  attempt _ := silent fun _ => rfl
  suspend _ _ := silent fun _ => rfl

theorem walk (t : Terrain σ) : Walk.Law t (Edits T) where
  pure _ := silent fun _ => rfl
  fail _ := silent fun _ => rfl
  bind := bind
  log _ _ _ := silent fun _ => rfl
  node node := ((law t.caps node.id).perform t.batchSize t.nodes).attempt

end Edits
end Act

/-- Data as runs hold it: an object with each of its keys once and in order. -/
def Json.IsBag (data : Json) : Prop := ∃ fields, data = .object fields ∧ Fields.Ordered fields

theorem Json.IsBag.assign {data : Json} (bag : data.IsBag) (path : String) (value : Json) : (Path.assign data path value).IsBag := by
  obtain ⟨fields,rfl,ordered⟩ := bag
  unfold Path.assign
  cases Path.segments path with
  | nil => exact ⟨fields,rfl,ordered⟩
  | cons segment rest =>
    cases rest with
    | nil => exact ⟨_,rfl,Fields.ordered_insert ordered⟩
    | cons next more => exact ⟨_,rfl,Fields.ordered_insert ordered⟩

/-- Data that are a bag if the data before them were. -/
def Json.StaysBag (data data' : Json) : Prop := data.IsBag → data'.IsBag

instance : Json.Editing Json.StaysBag where
  refl _ := id
  trans first second := second ∘ first
  merge fields changes := by
    rintro ⟨_,⟨⟩,ordered⟩
    exact ⟨_,rfl,Fields.ordered_merge ordered⟩
  assign data path value bag := bag.assign path value

def Json.keys (data : Json) : List String := (Path.entries data).map (·.1)

/-- Data that are an object, whatever the order of its keys. -/
def Json.IsObject (data : Json) : Prop := ∃ fields, data = .object fields

/-- Data that are an object if the data before them were. -/
def Json.StaysObject (data data' : Json) : Prop := data.IsObject → data'.IsObject

instance : Json.Editing Json.StaysObject where
  refl _ := id
  trans first second := second ∘ first
  merge fields changes _ := ⟨_,rfl⟩
  assign data path value object := by
    unfold Path.assign
    cases Path.segments path with
    | nil => exact object
    | cons segment rest => cases rest <;> exact ⟨_,rfl⟩

/-- Data with all the keys of the data before. -/
def Json.KeepsKeys (data data' : Json) : Prop := data.keys ⊆ data'.keys

instance : Json.Editing Json.KeepsKeys where
  refl _ _ := id
  trans first second _ member := second (first member)
  merge fields changes _ member := Fields.mem_keys_merge.mpr (.inr member)
  assign data path value := by
    unfold Path.assign
    cases Path.segments path with
    | nil => exact fun _ => id
    | cons segment rest => cases rest <;> exact fun _ member => Fields.mem_keys_insert.mpr (.inr member)

/-- Walks make bags of bags. -/
theorem walk_isBag (t : Terrain σ) (node : Node) {p : Context × σ} (bag : p.1.data.IsBag) : (walk t node p).2.1.data.IsBag := by
  have stays : Json.StaysBag p.1.data (walk t node p).2.1.data := (Edits.walk t).visit (t.maxDepth + 1) node p
  exact stays bag

end Flowgraph
