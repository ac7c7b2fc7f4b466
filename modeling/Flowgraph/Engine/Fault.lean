import Flowgraph.Automation.Validation
import Flowgraph.Effect.Capability
import Flowgraph.Store.Fault

/-! How runs fail. -/

namespace Flowgraph

inductive EngineFault where
  | graph (fault : GraphFault)
  | missingNode (id : String)
  | depthExceeded (id : String) (limit : Nat)
  | nodeFailed (id : String) (fault : NodeFault)
  | notImplemented (id : String) (message : String)
  | automationNotFound (id : Uuid)
  | invalidContinuation (message : String)
  | store (fault : StoreFault)
  deriving DecidableEq, Repr

/-- What a failure is down to. Only failures of the infrastructure are worth another try. -/
inductive FaultClass where
  | definition | graphIntegrity | evaluator | notImplemented | infrastructure
  deriving DecidableEq, Repr

namespace EngineFault

/-- The failure of a run by the failure of one of its nodes. -/
def ofNode (id : String) : NodeFault → EngineFault
  | .notImplemented message => .notImplemented id message
  | fault => .nodeFailed id fault

def message : EngineFault → String
  | .graph fault => fault.message
  | .missingNode id => s!"node '{id}' not found"
  | .depthExceeded id limit => s!"traversal depth limit of {limit} exceeded at node '{id}'"
  | .nodeFailed id fault => s!"node '{id}' failed: {fault.message}"
  | .notImplemented id message => s!"node '{id}': {message}"
  | .automationNotFound id => s!"automation {id.text} not found"
  | .invalidContinuation message => "invalid continuation payload: " ++ message
  | .store fault => "store error: " ++ fault.message

/-- The message and those of its causes, the outermost first. -/
def chain (f : EngineFault) : List String :=
  f.message :: match f with
    | .nodeFailed _ fault => [fault.message]
    | .store fault => fault.chain
    | _ => []

def faultClass : EngineFault → FaultClass
  | .graph _ => .definition
  | .missingNode _ => .graphIntegrity
  | .depthExceeded .. => .graphIntegrity
  | .nodeFailed .. => .evaluator
  | .notImplemented .. => .notImplemented
  | .automationNotFound _ => .infrastructure
  | .invalidContinuation _ => .infrastructure
  | .store _ => .infrastructure

end EngineFault
end Flowgraph
