import Flowgraph.Json.Basic

/-! The nodes of an automation: a closed set of kinds, each with its configuration. Edges are the
ids of other nodes; a condition has two lists of them and makes no use of the common one. -/

namespace Flowgraph

/-- An event that starts a run: where it comes from, its name, and what its payload must hold. -/
structure Trigger where
  origin : String
  event : String
  payloadMatch : Option Fields
  deriving BEq, Repr, Inhabited

structure HttpCall where
  method : String
  url : String
  headers : Option (List (String × String))
  body : Option Json
  deriving BEq, Repr, Inhabited

inductive Comparison where
  | equals | notEquals | gt | lt | gte | lte | contains | present | absent
  deriving DecidableEq, Repr, Inhabited

structure Clause where
  field : String
  comparison : Comparison
  value : Json
  deriving BEq, Repr, Inhabited

/-- The clauses must all hold for the first branch to be taken. -/
structure Condition where
  clauses : List Clause
  trueNext : List String
  falseNext : List String
  deriving BEq, Repr, Inhabited

structure EmailDraft where
  recipient : String
  subject : String
  body : String
  sender : Option String
  deriving BEq, Repr, Inhabited

structure WhatsAppDraft where
  recipient : String
  message : String
  deriving BEq, Repr, Inhabited

structure Transformation where
  outputField : String
  expression : String
  deriving BEq, Repr, Inhabited

structure MassEmail where
  listId : String
  subject : String
  body : String
  sender : Option String
  deriving BEq, Repr, Inhabited

inductive ContactAction where
  | create | update | delete | find
  deriving DecidableEq, Repr, Inhabited

structure ContactChange where
  action : ContactAction
  data : Json
  deriving BEq, Repr, Inhabited

inductive NodeKind where
  | trigger (config : Trigger)
  | httpRequest (config : HttpCall)
  | condition (config : Condition)
  | sendEmail (config : EmailDraft)
  | sendWhatsApp (config : WhatsAppDraft)
  | delay (minutes : Float)
  | transform (steps : List Transformation)
  | sendMassEmail (config : MassEmail)
  | contacts (config : ContactChange)
  deriving BEq, Repr, Inhabited

/-- The name of a kind, in documents and in logs. -/
def NodeKind.name : NodeKind → String
  | .trigger _ => "trigger"
  | .httpRequest _ => "http_request"
  | .condition _ => "condition"
  | .sendEmail _ => "send_email"
  | .sendWhatsApp _ => "send_whatsapp"
  | .delay _ => "delay"
  | .transform _ => "transform"
  | .sendMassEmail _ => "send_mass_email"
  | .contacts _ => "contacts"

structure Node where
  id : String
  next : List String
  kind : NodeKind
  deriving BEq, Repr, Inhabited

namespace Node

def isTrigger (node : Node) : Bool :=
  match node.kind with
  | .trigger _ => true
  | _ => false

/-- Every id a run may go on to from this node, in order. -/
def successors (node : Node) : List String :=
  match node.kind with
  | .condition c => c.trueNext ++ c.falseNext
  | _ => node.next

def find? (nodes : List Node) (id : String) : Option Node := nodes.find? (·.id == id)

end Node
end Flowgraph
