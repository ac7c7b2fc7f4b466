import Flowgraph.Action.Step
import Flowgraph.Data.Template
import Flowgraph.Expression.Evaluate

/-! Transformations of the data bag. All expressions see the bag as it was before the node; their
values are written one after another. One that fails writes nothing and is warned of at the end. -/

namespace Flowgraph.Action

def transformationValue (data : Json) (t : Transformation) : Except Expr.Error Json :=
  Expr.evaluateText (Template.resolve t.expression data) data

def transformationFailure (t : Transformation) (e : Expr.Error) : String :=
  s!"Transformation for '{t.outputField}' failed: {e.message}"

/-- The bag after all transformations, and the messages of those that failed. -/
def transformed (data : Json) (steps : List Transformation) : Json × List String :=
  steps.foldl (fun (result, failures) t => match transformationValue data t with
    | .ok value => (Path.assign result t.outputField value, failures)
    | .error e => (result, failures ++ [transformationFailure t e])) (data, [])

def transform (caps : Capabilities σ) (nodeId : String) (steps : List Transformation) : Step σ Flow := do
  let (data, failures) := transformed (← Step.context).data steps
  failures.forM (Step.log caps nodeId .warning "transform")
  Step.change ({ · with data })
  return .next

end Flowgraph.Action
