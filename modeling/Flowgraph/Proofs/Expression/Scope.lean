import Flowgraph.Expression.Evaluate
import Mathlib.Data.List.Basic

/-! What an expression can see of a data bag. Only its names read the bag, each of them one field, and the name of the bag itself all of
it; operators and functions have the values of their operands only. So two bags with the same fields under the names of an expression
are the same to it. -/

namespace Flowgraph.Expr

mutual

/-- The names in an expression, those of members and functions not among them. -/
def names : Expr → List String
  | .literal _ => []
  | .ident name => [name]
  | .member target _ => names target
  | .index target key => names target ++ names key
  | .unary _ operand => names operand
  | .binary _ left right => names left ++ names right
  | .call _ args => namesAll args

def namesAll : List Expr → List String
  | [] => []
  | arg :: rest => names arg ++ namesAll rest

end

/-- The same to all that reads a bag through these names: none of them is that of the bag itself, and each is the same field in both, or
no field of either. -/
structure Alike (names : List String) (data data' : Json) : Prop where
  narrow : "data" ∉ names
  fields : ∀ name ∈ names, data.field? name = data'.field? name

namespace Alike

variable {names more : List String} {data data' : Json}

theorem left (alike : Alike (names ++ more) data data') : Alike names data data' :=
  ⟨fun whole => alike.narrow (List.mem_append_left _ whole),fun name member => alike.fields name (List.mem_append_left _ member)⟩

theorem right (alike : Alike (names ++ more) data data') : Alike more data data' :=
  ⟨fun whole => alike.narrow (List.mem_append_right _ whole),fun name member => alike.fields name (List.mem_append_right _ member)⟩

theorem evaluate_ident {name : String} (alike : Alike [name] data data') : evaluate data (.ident name) = evaluate data' (.ident name) := by
  have narrow : name ≠ "data" := fun whole => alike.narrow (whole ▸ List.mem_singleton_self name)
  rw [evaluate,evaluate,if_neg narrow,if_neg narrow,alike.fields name (List.mem_singleton_self name)]

end Alike

variable {data data' : Json}

mutual

theorem evaluate_alike : (e : Expr) → Alike e.names data data' → evaluate data e = evaluate data' e
  | .literal _, _ => rfl
  | .ident _, alike => alike.evaluate_ident
  | .member target _, alike => by
    rw [evaluate,evaluate,evaluate_alike target alike]
  | .index target key, alike => by
    rw [evaluate,evaluate,evaluate_alike key alike.right,evaluate_alike target alike.left]
  | .unary _ operand, alike => by
    rw [evaluate,evaluate,evaluate_alike operand alike]
  | .binary (.connective _) left right, alike => by
    rw [evaluate,evaluate,evaluate_alike left alike.left,evaluate_alike right alike.right]
  | .binary (.operator _) left right, alike => by
    rw [evaluate,evaluate,evaluate_alike left alike.left,evaluate_alike right alike.right]
  | .call _ args, alike => by
    rw [evaluate,evaluate,evaluateAll_alike args alike]

theorem evaluateAll_alike : (args : List Expr) → Alike (namesAll args) data data' → evaluateAll data args = evaluateAll data' args
  | [], _ => rfl
  | arg :: rest, alike => by
    rw [evaluateAll,evaluateAll,evaluate_alike arg alike.left,evaluateAll_alike rest alike.right]

end

/-- An expression that does not name the bag itself comes to the same value, or fails in the same way, over any two bags that have the
same value, or both none, under each of its names. -/
theorem evaluate_sees_named_fields {e : Expr} (narrow : "data" ∉ e.names) (same : ∀ name ∈ e.names, data.field? name = data'.field? name) :
    evaluate data e = evaluate data' e := evaluate_alike e ⟨narrow,same⟩

/-- The expression `deal.items[at].price * 2 > limit && !vip`. -/
def bargain : Expr :=
  .binary (.connective .and)
    (.binary (.operator .gt)
      (.binary (.operator .mul) (.member (.index (.member (.ident "deal") "items") (.ident "at")) "price") (.literal (.ofNat 2)))
      (.ident "limit"))
    (.unary .not (.ident "vip"))

/-- Data with all that the expression names but `vip`, and a field that it does not name. -/
def bargainData (secret : Json) : Json :=
  .object [("at",.ofNat 0),("deal",.object [("items",.array [.object [("price",.ofNat 700)]])]),("limit",.string "1000"),("secret",secret)]

theorem bargain_sees_no_secret : "data" ∉ bargain.names ∧
    (∀ name ∈ bargain.names, (bargainData (.string "key")).field? name = (bargainData .null).field? name) ∧
      evaluate (bargainData (.string "key")) bargain = evaluate (bargainData .null) bargain := by
  have narrow : "data" ∉ bargain.names := by decide
  have same : bargain.names.Forall fun name => (bargainData (.string "key")).field? name = (bargainData .null).field? name := by
    exact ⟨rfl,rfl,rfl,rfl⟩
  exact ⟨narrow,List.forall_iff_forall_mem.mp same,evaluate_sees_named_fields narrow (List.forall_iff_forall_mem.mp same)⟩

end Flowgraph.Expr
