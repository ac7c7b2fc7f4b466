import Flowgraph.Action.Step
import Flowgraph.Data.Template

/-! Single messages by e-mail and WhatsApp. -/

namespace Flowgraph.Action

/-- Refuses a blank recipient. -/
def checkRecipient (kind recipient : String) : Step σ Unit :=
  if Text.trim recipient = "" then Act.fail (.invalidConfig s!"{kind} has no recipient") else return

def sendEmail (caps : Capabilities σ) (nodeId : String) (draft : EmailDraft) : Step σ Flow := do
  let context ← Step.context
  let fill (text : String) := Template.resolve text context.data
  let recipient := fill draft.recipient
  checkRecipient "send_email" recipient
  Step.outside (caps.call (.email
    ⟨recipient, fill draft.subject, fill draft.body, draft.sender.map fill, context.organizationId⟩))
  Step.log caps nodeId .info "send_email" s!"Email sent to {recipient}"
  return .next

def sendWhatsApp (caps : Capabilities σ) (nodeId : String) (draft : WhatsAppDraft) : Step σ Flow := do
  let context ← Step.context
  let fill (text : String) := Template.resolve text context.data
  let recipient := fill draft.recipient
  checkRecipient "send_whatsapp" recipient
  Step.outside (caps.call (.whatsApp ⟨recipient, fill draft.message, context.organizationId⟩))
  Step.log caps nodeId .info "send_whatsapp" s!"WhatsApp message sent to {recipient}"
  return .next

end Flowgraph.Action
