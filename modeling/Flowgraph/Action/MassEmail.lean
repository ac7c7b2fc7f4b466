import Flowgraph.Action.Step
import Flowgraph.Data.Template

/-! One e-mail for every member of a list that has an address. Members are taken in batches; the
failures of a batch become warnings at its end. Only finding the list and its members can fail. -/

namespace Flowgraph.Action

/-- The items in runs of `n + 1`, the last one perhaps shorter. -/
def chunks (n : Nat) (xs : List α) : List (List α) :=
  if h : xs = [] then [] else
    have : (xs.drop (n + 1)).length < xs.length := by
      have := List.length_pos_iff.mpr h
      simp only [List.length_drop]; omega
    xs.take (n + 1) :: chunks n (xs.drop (n + 1))
termination_by xs.length

/-- How many messages were sent, how many failed, and how many members have no address. -/
structure Tally where
  sent : Nat
  failed : Nat
  skipped : Nat
  deriving DecidableEq, Repr

structure Mailing where
  subject : String
  body : String
  sender : Option String
  organizationId : Uuid

def Mailing.message (m : Mailing) (member : Contact) (address : String) : EmailMessage :=
  ⟨address, m.subject, Template.resolve m.body (.object [("contact", .object member.bag)]), m.sender, m.organizationId⟩

/-- The members that have an address, with it. -/
def addressed (members : List Contact) : List (Contact × String) :=
  members.filterMap fun c => c.email?.map (c, ·)

/-- Sends to each member in turn; gives the addresses that failed and why. -/
def sendAll (caps : Capabilities σ) (m : Mailing) : List (Contact × String) → Step σ (List (String × NodeFault))
  | [] => return []
  | (member, address) :: rest => do
    let result ← Step.outside (Act.attempt (caps.call (.email (m.message member address))))
    let failures ← sendAll caps m rest
    return match result with
      | .ok _ => failures
      | .error e => (address, e) :: failures

def warnAll (caps : Capabilities σ) (nodeId : String) : List (String × NodeFault) → Step σ Unit
  | [] => return
  | (address, e) :: rest => do
    Step.log caps nodeId .warning "send_mass_email" s!"Failed to send email to {address}: {e.message}"
    warnAll caps nodeId rest

def sendBatches (caps : Capabilities σ) (nodeId : String) (m : Mailing) (tally : Tally) :
    List (List Contact) → Step σ Tally
  | [] => return tally
  | batch :: rest => do
    let reachable := addressed batch
    let failures ← sendAll caps m reachable
    warnAll caps nodeId failures
    sendBatches caps nodeId m ⟨tally.sent + (reachable.length - failures.length), tally.failed + failures.length,
      tally.skipped + (batch.length - reachable.length)⟩ rest

def members (caps : Capabilities σ) (organizationId : Uuid) : ContactSource → Step σ (List Contact)
  | .members ids => Step.outside (caps.call (.contactsById ids organizationId))
  | .filter criteria => Step.outside (caps.call (.contactsMatching criteria organizationId))

def mailingResult (list : ContactList) (total : Nat) (tally : Tally) : Json := .object (Fields.ofList [
  ("totalContacts", .ofNat total), ("successCount", .ofNat tally.sent), ("errorCount", .ofNat tally.failed),
  ("listId", .string list.id), ("listName", .string list.name)])

def massEmail (caps : Capabilities σ) (batchSize : Nat) (nodeId : String) (config : MassEmail) : Step σ Flow := do
  let context ← Step.context
  let fill (text : String) := Template.resolve text context.data
  let listId := fill config.listId
  match ← Step.outside (caps.call (.findList listId context.organizationId)) with
  | none => Act.fail (.effect s!"contact list '{listId}' not found")
  | some list =>
    let members ← members caps context.organizationId list.source
    let mailing : Mailing := ⟨fill config.subject, fill config.body, config.sender.map fill, context.organizationId⟩
    let tally ← sendBatches caps nodeId mailing ⟨0, 0, 0⟩ (chunks (batchSize - 1) members)
    if tally.skipped > 0 then
      Step.log caps nodeId .info "send_mass_email" s!"Skipped {tally.skipped} contact(s) without an email address"
    Step.log caps nodeId .info "send_mass_email"
      s!"Mass email to list '{list.name}' finished: {tally.sent} sent, {tally.failed} failed"
    Step.change (·.merge [("massEmailResult", mailingResult list members.length tally)])
    return .next

end Flowgraph.Action
