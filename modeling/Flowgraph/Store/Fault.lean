/-! How storage fails, and the texts of such failures one inside the other. -/

namespace Flowgraph

inductive DatabaseFault where
  | rejected (reason : String)
  | configuration (reason : String)
  | rowNotFound
  deriving DecidableEq, Repr

namespace DatabaseFault

/-- The message and those of its causes, the outermost first. -/
def chain : DatabaseFault → List String
  | .rejected reason => ["sqlx error: error returned from database: " ++ reason,
      "error returned from database: " ++ reason, reason]
  | .configuration reason => ["sqlx error: error with configuration: " ++ reason,
      "error with configuration: " ++ reason, reason]
  | .rowNotFound => ["row not found"]

def message (f : DatabaseFault) : String := f.chain.headD ""

end DatabaseFault

inductive StoreFault where
  | executionNotFound (id : String)
  | database (fault : DatabaseFault)
  | malformed (message : String)
  | invalidStatus (message : String)
  deriving DecidableEq, Repr

namespace StoreFault

def message : StoreFault → String
  | .executionNotFound id => s!"execution log '{id}' not found"
  | .database fault => "database error: " ++ fault.message
  | .malformed message => "stored data is malformed: " ++ message
  | .invalidStatus message => message

def chain (f : StoreFault) : List String :=
  f.message :: match f with
    | .database fault => fault.chain
    | .malformed message => [message]
    | _ => []

end StoreFault
end Flowgraph
