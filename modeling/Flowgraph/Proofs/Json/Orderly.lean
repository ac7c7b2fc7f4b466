import Flowgraph.Data.Path
import Flowgraph.Proofs.Json.Fields

/-! Values as documents hold them: every object in them has each of its keys once and in order. Putting a value into
this order makes it so, and changes nothing where it is so already. Setting fields, writing at paths and looking up keep to it. -/

namespace Flowgraph

inductive Json.Orderly : Json → Prop where
  | null : Orderly .null
  | bool (value : Bool) : Orderly (.bool value)
  | number (value : Number) : Orderly (.number value)
  | string (value : String) : Orderly (.string value)
  | array {items : List Json} (each : ∀ item ∈ items, Orderly item) : Orderly (.array items)
  | object {fields : List (String × Json)} (ordered : Fields.Ordered fields) (each : ∀ entry ∈ fields, Orderly entry.2) :
      Orderly (.object fields)

namespace Fields

/-- Fields as an orderly object has them. -/
structure Orderly (fields : Fields) : Prop where
  ordered : Ordered fields
  each : ∀ entry ∈ fields, entry.2.Orderly

theorem insert_of_lt {key : String} {value : α} {fields : List (String × α)} (last : ∀ entry ∈ fields, entry.1 < key) :
    insert key value fields = fields ++ [(key,value)] := by
  induction fields with
  | nil => rfl
  | cons head rest ih =>
    obtain ⟨name,other⟩ := head
    have before : name < key := last _ (List.mem_cons_self ..)
    rw [insert,if_neg (ne_of_gt before),if_neg (not_lt_of_gt before),ih fun entry member => last entry (List.mem_cons_of_mem _ member),
      List.cons_append]

theorem merge_of_ordered {fields more : List (String × α)} (ordered : Ordered (fields ++ more)) : merge fields more = fields ++ more := by
  induction more generalizing fields with
  | nil => rw [List.append_nil]; rfl
  | cons head rest ih =>
    have last : ∀ entry ∈ fields, entry.1 < head.1 := fun entry member =>
      (List.pairwise_append.mp ordered).2.2 entry member head (List.mem_cons_self ..)
    have step : merge fields (head :: rest) = merge (insert head.1 head.2 fields) rest := rfl
    rw [step,insert_of_lt last,ih (by rwa [List.append_assoc]),List.append_assoc]
    rfl

/-- Entries that stand in order already are left as they are. -/
theorem ofList_of_ordered {fields : List (String × α)} (ordered : Ordered fields) : ofList fields = fields :=
  merge_of_ordered (ordered : Ordered ([] ++ fields))

theorem mem_merge {fields changes : List (String × α)} : ∀ entry ∈ merge fields changes, entry ∈ fields ∨ entry ∈ changes := by
  induction changes generalizing fields with
  | nil => exact fun _ => .inl
  | cons change rest ih =>
    intro entry member
    have step : merge fields (change :: rest) = merge (insert change.1 change.2 fields) rest := rfl
    obtain inside | later := ih entry (step ▸ member)
    · exact (mem_insert entry inside).elim (fun same => .inr (same ▸ List.mem_cons_self ..)) .inl
    · exact .inr (List.mem_cons_of_mem _ later)

namespace Orderly

variable {fields changes : Fields} {key : String} {value : Json}

theorem nil : Orderly [] := ⟨.nil,nofun⟩

theorem insert (orderly : Orderly fields) (fit : value.Orderly) : Orderly (insert key value fields) :=
  ⟨ordered_insert orderly.ordered,fun entry member => (mem_insert entry member).elim (fun same => same ▸ fit) (orderly.each entry)⟩

theorem merge (orderly : Orderly fields) (each : ∀ entry ∈ changes, entry.2.Orderly) : Orderly (merge fields changes) :=
  ⟨ordered_merge orderly.ordered,fun entry member => (mem_merge entry member).elim (orderly.each entry) (each entry)⟩

theorem ofList (each : ∀ entry ∈ changes, entry.2.Orderly) : Orderly (ofList changes) := nil.merge each

theorem get? (orderly : Orderly fields) (found : get? fields key = some value) : value.Orderly := by
  obtain ⟨before,after,rfl,-⟩ := List.lookup_eq_some_iff.mp found
  exact orderly.each (key,value) (by simp)

end Orderly
end Fields

namespace Json

theorem orderly_object {fields : Fields} : (object fields).Orderly ↔ Fields.Orderly fields := by
  constructor
  · rintro (_ | _ | _ | _ | _ | ⟨ordered,each⟩)
    exact ⟨ordered,each⟩
  · exact fun ⟨ordered,each⟩ => .object ordered each

theorem orderly_array {items : List Json} : (array items).Orderly ↔ ∀ item ∈ items, item.Orderly := by
  constructor
  · rintro (_ | _ | _ | _ | each)
    exact each
  · exact .array

theorem canonicalItems_eq_map (items : List Json) : canonicalItems items = items.map canonical := by
  induction items with
  | nil => rfl
  | cons item rest ih => rw [canonicalItems,ih,List.map_cons]

theorem canonicalFields_eq_map (fields : List (String × Json)) :
    canonicalFields fields = fields.map fun (key,value) => (key,value.canonical) := by
  induction fields with
  | nil => rfl
  | cons entry rest ih => rw [canonicalFields,ih,List.map_cons]

mutual

theorem orderly_canonical : (value : Json) → value.canonical.Orderly
  | null => .null
  | bool value => .bool value
  | number value => .number value
  | string value => .string value
  | array items => .array (orderly_canonicalItems items)
  | object fields => orderly_object.mpr (.ofList (orderly_canonicalFields fields))

theorem orderly_canonicalItems : (items : List Json) → ∀ item ∈ canonicalItems items, item.Orderly
  | [] => nofun
  | value :: rest => List.forall_mem_cons.mpr ⟨orderly_canonical value,orderly_canonicalItems rest⟩

theorem orderly_canonicalFields : (fields : List (String × Json)) → ∀ entry ∈ canonicalFields fields, entry.2.Orderly
  | [] => nofun
  | (_,value) :: rest => List.forall_mem_cons.mpr ⟨orderly_canonical value,orderly_canonicalFields rest⟩

end

theorem Orderly.canonical_eq {value : Json} (orderly : value.Orderly) : value.canonical = value := by
  induction orderly with
  | null | bool | number | string => rfl
  | array each ih =>
    rw [canonical,canonicalItems_eq_map,List.map_congr_left ih,List.map_id']
  | @object fields ordered each ih =>
    have same : canonicalFields fields = fields := by
      rw [canonicalFields_eq_map]
      conv_rhs => rw [← List.map_id fields]
      exact List.map_congr_left fun entry member => Prod.ext rfl (ih entry member)
    rw [canonical,same,Fields.ofList_of_ordered ordered]

theorem orderly_iff {value : Json} : value.Orderly ↔ value.canonical = value :=
  ⟨Orderly.canonical_eq,fun same => same ▸ orderly_canonical value⟩

theorem Orderly.field? {data value : Json} {key : String} (orderly : data.Orderly) (found : data.field? key = some value) : value.Orderly := by
  cases data with
  | object fields => exact (orderly_object.mp orderly).get? found
  | _ => cases found

theorem Orderly.child? {value child : Json} {segment : String} (orderly : value.Orderly) (found : Path.child? value segment = some child) :
    child.Orderly := by
  cases value with
  | object fields => exact (orderly_object.mp orderly).get? found
  | array items =>
    obtain ⟨place,-,here⟩ := Option.bind_eq_some_iff.mp found
    exact orderly_array.mp orderly child (List.mem_of_getElem? here)
  | _ => cases found

theorem Orderly.entries {root : Json} (orderly : root.Orderly) : Fields.Orderly (Path.entries root) := by
  cases root with
  | object fields => exact orderly_object.mp orderly
  | _ => exact .nil

/-- The objects that writing makes on its way are orderly as well. -/
theorem Orderly.put {root value : Json} (orderly : root.Orderly) (fit : value.Orderly) (segments : List String) :
    (Path.put root value segments).Orderly := by
  induction segments generalizing root with
  | nil => exact orderly
  | cons segment rest ih =>
    have inner : ((Fields.get? (Path.entries root) segment).getD (.object [])).Orderly := by
      cases found : Fields.get? (Path.entries root) segment with
      | none => exact orderly_object.mpr .nil
      | some value => exact orderly.entries.get? found
    cases rest with
    | nil => exact orderly_object.mpr (orderly.entries.insert fit)
    | cons next more => exact orderly_object.mpr (orderly.entries.insert (ih inner))

theorem Orderly.assign {root value : Json} (orderly : root.Orderly) (path : String) (fit : value.Orderly) :
    (Path.assign root path value).Orderly := orderly.put fit _

end Json

theorem Fields.Orderly.canonical_eq {fields : Fields} (orderly : Fields.Orderly fields) :
    Fields.ofList (Json.canonicalFields fields) = fields :=
  Json.object.inj (Json.orderly_object.mpr orderly).canonical_eq

end Flowgraph
