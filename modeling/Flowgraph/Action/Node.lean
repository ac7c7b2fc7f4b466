import Flowgraph.Action.Http
import Flowgraph.Action.MassEmail
import Flowgraph.Action.Messaging
import Flowgraph.Action.Transform
import Flowgraph.Node.Condition
import Flowgraph.Number.Shortest

/-! What each kind of node does. -/

namespace Flowgraph.Action

def condition (caps : Capabilities σ) (nodeId : String) (config : Condition) : Step σ Flow := do
  let holds := Clause.allHold config.clauses (← Step.context).data
  Step.log caps nodeId .info "condition" s!"Condition evaluated to {holds}"
  return .branch (if holds then config.trueNext else config.falseNext)

/-- Creates a contact and keeps its properties with its id under `contact`; nothing else can be done yet. -/
def contacts (caps : Capabilities σ) (nodeId : String) (config : ContactChange) : Step σ Flow := do
  match config.action with
  | .create =>
    let context ← Step.context
    match Template.resolveDeep context.data config.data with
    | .object properties =>
      let contact ← Step.outside (caps.call (.createContact properties context.organizationId))
      Step.log caps nodeId .info "contacts" s!"Contact {contact.id} created"
      Step.change (·.merge [("contact", .object (Fields.insert "id" (.string contact.id) contact.properties))])
      return .next
    | _ => Act.fail (.invalidConfig "contactData must be an object of contact properties")
  | other => Act.fail (.notImplemented s!"contacts action '{other.name}'")

/-- Leaves the rest of the path to a later job; the node's edges travel with it. -/
def delay (caps : Capabilities σ) (nodes : List Node) (node : Node) (minutes : Float) : Step σ Flow := do
  if !Binary64.isFinite minutes || minutes < 0 then
    Act.fail (.invalidConfig s!"delayMinutes must be a non-negative number, got {Shortest.prose minutes}")
  else
    Step.change ({ · with currentNodeId := some node.id })
    let job ← Step.outside (caps.suspend minutes ⟨(← Step.context).snapshot, node.next, nodes⟩)
    Step.log caps node.id .info "delay" s!"Execution paused for {Shortest.prose minutes} minute(s), resume job {job}"
    return .suspend job

/-- Does what a node is for; `nodes` is the set the run is walking. -/
def perform (caps : Capabilities σ) (batchSize : Nat) (nodes : List Node) (node : Node) : Step σ Flow :=
  match node.kind with
  | .trigger _ => return .next
  | .httpRequest config => http caps node.id config
  | .condition config => condition caps node.id config
  | .sendEmail draft => sendEmail caps node.id draft
  | .sendWhatsApp draft => sendWhatsApp caps node.id draft
  | .delay minutes => delay caps nodes node minutes
  | .transform steps => transform caps node.id steps
  | .sendMassEmail config => massEmail caps batchSize node.id config
  | .contacts config => contacts caps node.id config

end Flowgraph.Action
