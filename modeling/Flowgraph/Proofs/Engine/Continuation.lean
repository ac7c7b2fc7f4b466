import Flowgraph.Engine.Continuation
import Flowgraph.Proofs.Identity.Uuid
import Flowgraph.Proofs.Node.Decoded
import Flowgraph.Proofs.Time.Rfc3339

/-! A suspended run is read back from the payload of its job: the same run at the same ids, with the same
data and nodes up to the order of keys. -/

namespace Flowgraph
open Decode Fields

namespace Snapshot

def canonical (s : Snapshot) : Snapshot := { s with data := s.data.canonical }

def entries (s : Snapshot) : Fields := [("executionId",.string s.executionId),("automationId",s.automationId.json),
  ("organizationId",s.organizationId.json),("data",s.data),("startedAt",Rfc3339.json s.startedAt)] ++
  given "currentNodeId" (s.currentNodeId.map .string)

theorem decoder_json (s : Snapshot) (setting : Setting) (proper : s.startedAt.Proper) : decoder setting s.json = .ok s.canonical := by
  have ordered := ordered_ofList s.entries
  have found (name : String) := lookup_ofList name s.entries
  simp only [entries,List.reverse_append,reverse_given,List.lookup_append,lookup_given] at found
  apply Record.decoder_object
  refine Record.read_seq (Record.read_seq (Record.read_seq (Record.read_seq (Record.read_seq (Record.read_map Snapshot.mk ?_) ?_) ?_) ?_) ?_) ?_
  · exact Record.read_required ordered (found "executionId") rfl
  · exact Record.read_required ordered (found "automationId") (s.automationId.decoder_json setting)
  · exact Record.read_required ordered (found "organizationId") (s.organizationId.decoder_json setting)
  · exact Record.read_required ordered (found "data") rfl
  · exact Record.read_required ordered (found "startedAt") (Rfc3339.decoder_json setting proper)
  · exact Record.read_optional_string ordered (by simpa [List.lookup_cons] using found "currentNodeId")

end Snapshot

namespace Continuation

def canonical (k : Continuation) : Continuation := { k with context := k.context.canonical, nodes := k.nodes.map Node.canonical }

def entries (k : Continuation) : Fields := [("executionId",.string k.executionId),("automationId",k.automationId.json),
  ("context",k.context.json),("nextNodeIds",.strings k.next)] ++
  if k.nodes.isEmpty then [] else [("nodes",.array (k.nodes.map Node.json))]

theorem lookup_entries (k : Continuation) (name : String) (apart : name ≠ "nodes") :
    (Fields.ofList k.entries).lookup name = [("nextNodeIds",.strings k.next),("context",k.context.json),
      ("automationId",k.automationId.json),("executionId",.string k.executionId)].lookup name := by
  rw [lookup_ofList,entries]
  split <;> simp [List.lookup_cons,beq_false_of_ne apart]

theorem lookup_nodes (k : Continuation) :
    (Fields.ofList k.entries).lookup "nodes" = if k.nodes.isEmpty then none else some (.array (k.nodes.map Node.json)) := by
  rw [lookup_ofList,entries]
  split <;> simp [List.lookup_cons]

theorem decoder_json (k : Continuation) (setting : Setting) (proper : k.context.startedAt.Proper) :
    decoder setting k.json = .ok k.canonical := by
  have ordered := ordered_ofList k.entries
  change decoder setting (.object (Fields.ofList k.entries)) = _
  apply Record.decoder_object
  refine Record.read_seq (Record.read_seq (Record.read_seq (Record.read_seq (Record.read_map Continuation.mk ?_) ?_) ?_) ?_) ?_
  · exact Record.read_required ordered (k.lookup_entries "executionId" (by decide)) rfl
  · exact Record.read_required ordered (k.lookup_entries "automationId" (by decide)) (k.automationId.decoder_json setting)
  · exact Record.read_required ordered (k.lookup_entries "context" (by decide)) (k.context.decoder_json setting proper)
  · exact Record.read_required ordered (k.lookup_entries "nextNodeIds" (by decide)) (list_strings ..)
  · by_cases none : k.nodes = []
    · rw [none,List.map_nil]
      exact Record.read_defaulted_none ordered (by simp [lookup_nodes,none])
    · refine Record.read_defaulted ordered (k.lookup_nodes.trans (if_neg (by simpa using none))) ?_
      exact list_map fun node _ => node.decoder_json setting

theorem canonical_eq {k : Continuation} (nodes : ∀ node ∈ k.nodes, node.Decoded) (data : k.context.data.Orderly) : k.canonical = k := by
  have same : k.nodes.map Node.canonical = k.nodes := by
    conv_rhs => rw [← List.map_id k.nodes]
    exact List.map_congr_left fun node member => (nodes node member).canonical_eq
  have context : k.context.canonical = k.context := by rw [Snapshot.canonical,data.canonical_eq]
  rw [canonical,same,context]

/-- A suspended run whose nodes come from documents is read back as it was, at every start time that the calendar holds. -/
theorem payload_survives_storage {k : Continuation} (nodes : ∀ node ∈ k.nodes, node.Decoded) (data : k.context.data.Orderly)
    (proper : k.context.startedAt.Proper) : decoder .direct k.json = .ok k := by
  rw [k.decoder_json .direct proper,canonical_eq nodes data]

/-- Nodes of all kinds, with entries that are null, absent or empty. -/
def sundryDocument : Json := .array [
  .object [("event",.string "new"),("id",.string "start"),("module",.string "crm"),("next",.strings ["ask"]),("payloadMatch",.null),
    ("type",.string "trigger")],
  .object [("body",.null),("headers",.object [("accept",.string "text"),("Accept",.string "json")]),("id",.string "ask"),
    ("method",.string "GET"),("next",.strings []),("type",.ofNat 1),("url",.string "")],
  .object [("conditions",.array [.array [.string "a",.string "exists"],
      .object [("field",.string "b"),("operator",.object [("equals",.null)]),("value",.object [("z",.null),("y",.bool true)])]]),
    ("falseNext",.strings []),("id",.string "if"),("trueNext",.strings ["start","start"]),("type",.string "condition")],
  .object [("emailBody",.string ""),("from",.null),("id",.string "mail"),("subject",.string ""),("to",.string ""),("type",.string "send_email")],
  .object [("id",.string "chat"),("message",.string ""),("to",.string ""),("type",.string "send_whatsapp")],
  .object [("delayMinutes",.ofNat 5),("id",.string "wait"),("next",.strings ["nowhere"]),("type",.string "delay")],
  .object [("id",.string ""),("transformations",.array [.array [.string "a.b",.string "1"]]),("type",.string "transform")],
  .object [("emailBody",.string ""),("from",.string "me"),("id",.string "all"),("listId",.string ""),("subject",.string ""),
    ("type",.string "send_mass_email")],
  .object [("action",.string "delete"),("contactData",.null),("id",.string "gone"),("type",.string "contacts")]]

/-- A run suspended before its first node, started as the year 0 began. -/
def sundryPayload (nodes : List Node) : Continuation :=
  ⟨"run",.nil,⟨"another",.nil,.nil,.object [("a",.array [.null,.string ""])],⟨-62167219200000000000,false⟩,none⟩,["wait",""],nodes⟩

theorem sundry_payload_survives : ∃ nodes, list Node.decoder .direct sundryDocument = .ok nodes ∧ nodes.length = 9 ∧
    decoder .direct (sundryPayload nodes).json = .ok (sundryPayload nodes) := by
  have read : (list Node.decoder .direct sundryDocument).toOption.map List.length = some 9 := by decide +kernel
  cases given : list Node.decoder .direct sundryDocument with
  | error e => rw [given] at read; cases read
  | ok nodes =>
    rw [given] at read
    have decoded : ∀ node ∈ nodes, node.Decoded :=
      Gives.list (P := Node.Decoded) (fun setting value _ read => ⟨setting,value,read⟩) _ _ _ given
    have data : (sundryPayload nodes).context.data.Orderly := Json.orderly_iff.mpr rfl
    have proper : (⟨-62167219200000000000,false⟩ : Instant).Proper := ⟨by decide,nofun⟩
    exact ⟨nodes,rfl,Option.some.inj read,payload_survives_storage decoded data proper⟩

end Continuation
end Flowgraph
