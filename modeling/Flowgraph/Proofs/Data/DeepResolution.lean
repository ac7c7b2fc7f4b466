import Flowgraph.Data.Template
import Mathlib.Data.List.Basic

/-! Values with all their texts resolved. Resolution goes down to the texts and leaves everything on the way, keys with placeholders
too; so a path leads to the same place after it as before. -/

namespace Flowgraph.Template

mutual

/-- A value with nothing in any of its texts. -/
def blanked : Json → Json
  | .string _ => .string ""
  | .array items => .array (blankedItems items)
  | .object fields => .object (blankedFields fields)
  | value => value

def blankedItems : List Json → List Json
  | [] => []
  | value :: rest => blanked value :: blankedItems rest

def blankedFields : List (String × Json) → List (String × Json)
  | [] => []
  | (key,value) :: rest => (key,blanked value) :: blankedFields rest

end

variable (data : Json)

mutual

theorem blanked_resolveDeep : (value : Json) → blanked (resolveDeep data value) = blanked value
  | .null | .bool _ | .number _ => rfl
  | .string _ => rfl
  | .array items => by rw [resolveDeep,blanked,blanked,blankedItems_resolveItems items]
  | .object fields => by rw [resolveDeep,blanked,blanked,blankedFields_resolveFields fields]

theorem blankedItems_resolveItems : (items : List Json) → blankedItems (resolveItems data items) = blankedItems items
  | [] => rfl
  | value :: rest => by rw [resolveItems,blankedItems,blankedItems,blanked_resolveDeep value,blankedItems_resolveItems rest]

theorem blankedFields_resolveFields : (fields : List (String × Json)) → blankedFields (resolveFields data fields) = blankedFields fields
  | [] => rfl
  | (key,value) :: rest => by rw [resolveFields,blankedFields,blankedFields,blanked_resolveDeep value,blankedFields_resolveFields rest]

end

theorem resolveItems_eq_map (items : List Json) : resolveItems data items = items.map (resolveDeep data) := by
  induction items with
  | nil => rfl
  | cons item rest ih => rw [resolveItems,ih,List.map_cons]

theorem resolveFields_eq_map (fields : List (String × Json)) :
    resolveFields data fields = fields.map fun (key,value) => (key,resolveDeep data value) := by
  induction fields with
  | nil => rfl
  | cons entry rest ih => rw [resolveFields,ih,List.map_cons]

theorem get?_resolveFields (fields : Fields) (key : String) :
    Fields.get? (resolveFields data fields) key = (Fields.get? fields key).map (resolveDeep data) := by
  induction fields with
  | nil => rfl
  | cons entry rest ih =>
    obtain ⟨name,value⟩ := entry
    rw [resolveFields,Fields.get?,Fields.get?,List.lookup_cons,List.lookup_cons]
    split
    · rfl
    · exact ih

theorem child?_resolveDeep (value : Json) (segment : String) :
    Path.child? (resolveDeep data value) segment = (Path.child? value segment).map (resolveDeep data) := by
  cases value with
  | null | bool | number | string => rfl
  | object fields => exact get?_resolveFields data fields segment
  | array items =>
    rw [resolveDeep,resolveItems_eq_map,Path.child?,Path.child?,Option.map_bind]
    exact Option.bind_congr fun _ _ => List.getElem?_map

theorem follow_resolveDeep (value : Json) (segments : List String) :
    Path.follow (resolveDeep data value) segments = (Path.follow value segments).map (resolveDeep data) := by
  induction segments generalizing value with
  | nil => rfl
  | cons segment rest ih =>
    rw [Path.follow,Path.follow,child?_resolveDeep,Option.bind_map,Option.map_bind]
    exact Option.bind_congr fun inner _ => ih inner

/-- At every path of a resolved value stands what resolves from the value at that path, if there is one, and every text that stands
there is resolved; but for its texts the value stays the same. -/
theorem lookup_resolveDeep (value : Json) (path : String) :
    Path.lookup (resolveDeep data value) path = (Path.lookup value path).map (resolveDeep data) ∧
      (∀ text, Path.lookup value path = some (.string text) →
        Path.lookup (resolveDeep data value) path = some (.string (resolve text data))) ∧
      blanked (resolveDeep data value) = blanked value := by
  have commutes : Path.lookup (resolveDeep data value) path = (Path.lookup value path).map (resolveDeep data) := by
    unfold Path.lookup
    split
    · rfl
    · exact follow_resolveDeep data value _
  refine ⟨commutes,fun text found => ?_,blanked_resolveDeep data value⟩
  rw [commutes,found]
  rfl

/-- A value with a placeholder in a key and in a text below it. -/
def order : Json := .object [("items",.array [.null,.object [("\x7b\x7bid\x7d\x7d",.string "#\x7b\x7bid\x7d\x7d")]])]

theorem text_below_placeholder_is_resolved : let data : Json := .object [("id",.array [.ofNat 3])]
    Path.lookup order "items.1.\x7b\x7bid\x7d\x7d" = some (.string "#\x7b\x7bid\x7d\x7d") ∧
      Path.lookup (resolveDeep data order) "items.1.\x7b\x7bid\x7d\x7d" = some (.string (resolve "#\x7b\x7bid\x7d\x7d" data)) := by
  intro data
  have found : Path.lookup order "items.1.\x7b\x7bid\x7d\x7d" = some (.string "#\x7b\x7bid\x7d\x7d") := by rfl
  exact ⟨found,(lookup_resolveDeep data order _).2.1 _ found⟩

end Flowgraph.Template
