import Flowgraph.Identity.Uuid
import Flowgraph.Node.Json
import Flowgraph.Node.Trigger
import Flowgraph.Time.Rfc3339

/-! Automations: a list of nodes and what is known about it. -/

namespace Flowgraph
open Decode

structure Definition where
  id : Uuid
  organizationId : Uuid
  name : String
  isActive : Bool
  nodes : List Node
  createdAt : Instant
  updatedAt : Instant
  deriving BEq, Repr, Inhabited

namespace Definition

def node? (d : Definition) (id : String) : Option Node := Node.find? d.nodes id

/-- The trigger nodes in the order in which they are declared. -/
def triggers (d : Definition) : List Node := d.nodes.filter Node.isTrigger

/-- Whether an event starts a run. An inactive automation answers to none. -/
def matchesEvent (d : Definition) (origin event : String) (payload : Json) : Bool :=
  d.isActive && d.nodes.any fun node => match node.kind with
    | .trigger t => t.matches origin event payload
    | _ => false

/-- Only the nodes are required: without an id the automation gets a fresh one, without times the present. -/
def record (fresh : Uuid) (now : Instant) : Record Definition :=
  Definition.mk <$> .defaulted "id" fresh Uuid.decoder <*> .defaulted "organizationId" Uuid.nil Uuid.decoder <*>
    .defaulted "name" "" string <*> .defaulted "isActive" true bool <*> .required "nodes" (list Node.decoder) <*>
    .defaulted "createdAt" now Rfc3339.decoder <*> .defaulted "updatedAt" now Rfc3339.decoder

def decoder (fresh : Uuid) (now : Instant) : Decoder Definition :=
  (record fresh now).decoder "struct AutomationDefinition"

def json (d : Definition) : Json := .object (Fields.ofList [
  ("id", d.id.json), ("organizationId", d.organizationId.json), ("name", .string d.name),
  ("isActive", .bool d.isActive), ("nodes", .array (d.nodes.map Node.json)),
  ("createdAt", Rfc3339.json d.createdAt), ("updatedAt", Rfc3339.json d.updatedAt)])

end Definition
end Flowgraph
