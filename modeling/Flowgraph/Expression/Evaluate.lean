import Flowgraph.Data.Path
import Flowgraph.Expression.Function
import Flowgraph.Expression.Grammar

/-! The value of an expression over a data bag. Names are fields of the bag, and `data` is the
bag itself; a member or an index that is not there is null, whereas an unknown name is an error. -/

namespace Flowgraph

/-- The value a connective has already from its left operand. -/
def Connective.settled (op : Connective) (left : Json) : Bool :=
  match op with
  | .or => left.truthy
  | .and => !left.truthy

namespace Expr

mutual

def evaluate (data : Json) : Expr → Except Error Json
  | .literal value => .ok value
  | .ident name =>
    if name = "data" then .ok data
    else match data.field? name with
      | some value => .ok value
      | none => .error (.unknownIdentifier name)
  | .member target field => do
    return (Path.child? (← evaluate data target) field).getD .null
  | .index target key => do
    let key ← evaluate data key
    return (Path.child? (← evaluate data target) key.plain).getD .null
  | .unary op operand => do op.apply (← evaluate data operand)
  | .binary (.connective op) left right => do
    let l ← evaluate data left
    if op.settled l then return l else evaluate data right
  | .binary (.operator op) left right => do
    let l ← evaluate data left
    op.apply l (← evaluate data right)
  | .call name args => do apply name (← evaluateAll data args)

def evaluateAll (data : Json) : List Expr → Except Error (List Json)
  | [] => .ok []
  | arg :: rest => do
    let value ← evaluate data arg
    return value :: (← evaluateAll data rest)

end

def evaluateText (source : String) (data : Json) : Except Error Json := do (← parse source).evaluate data

end Expr
end Flowgraph
