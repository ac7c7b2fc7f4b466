import Flowgraph.Node.Json
import Flowgraph.Proofs.Decode.Record

/-! A node is read back from its own object. Reading puts the objects among its values into the order of
their keys and takes a null request body for none; the ids, the edges and the kind stay as they are. -/

namespace Flowgraph
open Decode Fields

def Trigger.canonical (t : Trigger) : Trigger :=
  { t with payloadMatch := t.payloadMatch.map fun fields => Fields.ofList (Json.canonicalFields fields) }

def HttpCall.canonical (c : HttpCall) : HttpCall :=
  { c with headers := c.headers.map Fields.ofList, body := c.body.bind fun body => if body.isNull then none else some body.canonical }

def Clause.canonical (c : Clause) : Clause := { c with value := c.value.canonical }

def Condition.canonical (c : Condition) : Condition := { c with clauses := c.clauses.map Clause.canonical }

def ContactChange.canonical (c : ContactChange) : ContactChange := { c with data := c.data.canonical }

/-- The kind with the values in it as a document gives them. -/
def NodeKind.canonical : NodeKind → NodeKind
  | .trigger t => .trigger t.canonical
  | .httpRequest c => .httpRequest c.canonical
  | .condition c => .condition c.canonical
  | .contacts c => .contacts c.canonical
  | kind => kind

def Node.canonical (node : Node) : Node := { node with kind := node.kind.canonical }

theorem Comparison.lookup_name (c : Comparison) : Comparison.table.lookup c.name = some c := by cases c <;> rfl

theorem ContactAction.lookup_name (a : ContactAction) : ContactAction.table.lookup a.name = some a := by cases a <;> rfl

theorem Clause.decoder_json (c : Clause) (setting : Setting) : Clause.decoder setting c.json = .ok c.canonical := by
  apply Record.decoder_object
  have ordered := ordered_ofList [("field",Json.string c.field),("operator",.string c.comparison.name),("value",c.value)]
  refine Record.read_seq (Record.read_seq (Record.read_map Clause.mk ?_) ?_) ?_
  · exact Record.read_required ordered (lookup_ofList ..) rfl
  · exact Record.read_required ordered (lookup_ofList ..) (variant_string setting c.comparison.lookup_name)
  · exact Record.read_defaulted ordered (lookup_ofList ..) rfl

theorem Transformation.decoder_json (t : Transformation) (setting : Setting) : Transformation.decoder setting t.json = .ok t := by
  apply Record.decoder_object
  have ordered := ordered_ofList [("outputField",Json.string t.outputField),("expression",.string t.expression)]
  refine Record.read_seq (Record.read_map Transformation.mk ?_) ?_
  · exact Record.read_required ordered (lookup_ofList ..) rfl
  · exact Record.read_required ordered (lookup_ofList ..) rfl

theorem Fields.reverse_given (key : String) (value : Option Json) : (given key value).reverse = given key value := by
  cases value <;> rfl

theorem Fields.lookup_given (name key : String) (value : Option Json) :
    (given key value).lookup name = if name = key then value else none := by
  cases value <;> (simp only [given,List.lookup_cons,List.lookup_nil]; grind)

namespace Node

/-- The configuration stands behind the id, the edges and the type, and shares no key with them. -/
theorem lookup_entries (node : Node) (name : String) (apart : name ∉ ["id","next","type"]) :
    (Fields.ofList node.entries).lookup name = node.kind.entries.reverse.lookup name := by
  simp only [List.mem_cons,List.not_mem_nil,or_false,not_or] at apart
  rw [lookup_ofList,entries]
  split <;> simp [List.lookup_append,List.lookup_cons,beq_false_of_ne apart.1,beq_false_of_ne apart.2.1,beq_false_of_ne apart.2.2]

end Node

section
variable {entries : List (String × Json)} {setting : Setting}

theorem Trigger.read_entries {t : Trigger} (ordered : Ordered entries)
    (found : ∀ name ∈ Trigger.record.names, entries.lookup name = t.entries.reverse.lookup name) :
    Trigger.record.read setting (Record.ofObject entries) = .ok t.canonical := by
  simp only [Trigger.entries,List.reverse_append,reverse_given,List.lookup_append,lookup_given] at found
  have expected : entries.lookup "payloadMatch" = t.payloadMatch.map .object := by
    simpa [List.lookup_cons] using found "payloadMatch" (by decide)
  refine Record.read_seq (Record.read_seq (Record.read_map Trigger.mk ?_) ?_) ?_
  · exact Record.read_required ordered (found "module" (by decide)) rfl
  · exact Record.read_required ordered (found "event" (by decide)) rfl
  · exact Record.read_optional ordered expected (fun _ => Json.noConfusion) fun _ => rfl

theorem HttpCall.read_entries {c : HttpCall} (ordered : Ordered entries)
    (found : ∀ name ∈ HttpCall.record.names, entries.lookup name = c.entries.reverse.lookup name) :
    HttpCall.record.read setting (Record.ofObject entries) = .ok c.canonical := by
  simp only [HttpCall.entries,List.reverse_append,reverse_given,List.lookup_append,lookup_given] at found
  have headers : entries.lookup "headers" = c.headers.map fun hs => .object (hs.map fun h => (h.1,.string h.2)) := by
    simpa [List.lookup_cons] using found "headers" (by decide)
  have body : entries.lookup "body" = c.body := by
    simpa [List.lookup_cons] using found "body" (by decide)
  refine Record.read_seq (Record.read_seq (Record.read_seq (Record.read_map HttpCall.mk ?_) ?_) ?_) ?_
  · exact Record.read_required ordered (found "method" (by decide)) rfl
  · exact Record.read_required ordered (found "url" (by decide)) rfl
  · refine Record.read_optional ordered headers (fun _ => Json.noConfusion) fun hs => ?_
    simp only [stringFields,stringEntries_map,Except.map]
  · show (Record.optional "body" any).read setting _ = .ok (c.body.bind _)
    cases given : c.body with
    | none => exact Record.read_defaulted_none ordered (body.trans given)
    | some value =>
      refine Record.read_defaulted ordered (body.trans given) ?_
      cases value <;> rfl

theorem Condition.read_entries {c : Condition} (ordered : Ordered entries)
    (found : ∀ name ∈ Condition.record.names, entries.lookup name = c.entries.reverse.lookup name) :
    Condition.record.read setting (Record.ofObject entries) = .ok c.canonical := by
  refine Record.read_seq (Record.read_seq (Record.read_map Condition.mk ?_) ?_) ?_
  · exact Record.read_required ordered (found "conditions" (by decide)) (list_map fun clause _ => clause.decoder_json setting)
  · exact Record.read_required ordered (found "trueNext" (by decide)) (list_strings ..)
  · exact Record.read_required ordered (found "falseNext" (by decide)) (list_strings ..)

theorem EmailDraft.read_entries {d : EmailDraft} (ordered : Ordered entries)
    (found : ∀ name ∈ EmailDraft.record.names, entries.lookup name = d.entries.reverse.lookup name) :
    EmailDraft.record.read setting (Record.ofObject entries) = .ok d := by
  simp only [EmailDraft.entries,List.reverse_append,reverse_given,List.lookup_append,lookup_given] at found
  have sender : entries.lookup "from" = d.sender.map .string := by
    simpa [List.lookup_cons] using found "from" (by decide)
  refine Record.read_seq (Record.read_seq (Record.read_seq (Record.read_map EmailDraft.mk ?_) ?_) ?_) ?_
  · exact Record.read_required ordered (found "to" (by decide)) rfl
  · exact Record.read_required ordered (found "subject" (by decide)) rfl
  · exact Record.read_required ordered (found "emailBody" (by decide)) rfl
  · exact Record.read_optional_string ordered sender

theorem WhatsAppDraft.read_entries {d : WhatsAppDraft} (ordered : Ordered entries)
    (found : ∀ name ∈ WhatsAppDraft.record.names, entries.lookup name = d.entries.reverse.lookup name) :
    WhatsAppDraft.record.read setting (Record.ofObject entries) = .ok d := by
  refine Record.read_seq (Record.read_map WhatsAppDraft.mk ?_) ?_
  · exact Record.read_required ordered (found "to" (by decide)) rfl
  · exact Record.read_required ordered (found "message" (by decide)) rfl

theorem MassEmail.read_entries {m : MassEmail} (ordered : Ordered entries)
    (found : ∀ name ∈ MassEmail.record.names, entries.lookup name = m.entries.reverse.lookup name) :
    MassEmail.record.read setting (Record.ofObject entries) = .ok m := by
  simp only [MassEmail.entries,List.reverse_append,reverse_given,List.lookup_append,lookup_given] at found
  have sender : entries.lookup "from" = m.sender.map .string := by
    simpa [List.lookup_cons] using found "from" (by decide)
  refine Record.read_seq (Record.read_seq (Record.read_seq (Record.read_map MassEmail.mk ?_) ?_) ?_) ?_
  · exact Record.read_required ordered (found "listId" (by decide)) rfl
  · exact Record.read_required ordered (found "subject" (by decide)) rfl
  · exact Record.read_required ordered (found "emailBody" (by decide)) rfl
  · exact Record.read_optional_string ordered sender

theorem ContactChange.read_entries {c : ContactChange} (ordered : Ordered entries)
    (found : ∀ name ∈ ContactChange.record.names, entries.lookup name = c.entries.reverse.lookup name) :
    ContactChange.record.read setting (Record.ofObject entries) = .ok c.canonical := by
  refine Record.read_seq (Record.read_map ContactChange.mk ?_) ?_
  · exact Record.read_required ordered (found "action" (by decide)) (variant_string setting c.action.lookup_name)
  · exact Record.read_defaulted ordered (found "contactData" (by decide)) rfl

/-- The decoder that goes with the name of a kind reads the kind from any object that holds its entries. -/
theorem NodeKind.read_entries (kind : NodeKind) (setting : Setting) (ordered : Ordered entries)
    (found : ∀ name, name ∉ ["id","next","type"] → entries.lookup name = kind.entries.reverse.lookup name) :
    ∃ inner, NodeKind.table.lookup kind.name = some inner ∧ inner setting (.object entries) = .ok kind.canonical := by
  have within {α : Type} (record : Record α) (apart : ∀ name ∈ record.names, name ∉ ["id","next","type"]) :
      ∀ name ∈ record.names, entries.lookup name = kind.entries.reverse.lookup name :=
    fun name member => found name (apart name member)
  cases kind with
  | trigger t =>
    exact ⟨_,rfl,Record.decoder_object _ (Record.read_map _ (t.read_entries ordered (within Trigger.record (by decide))))⟩
  | httpRequest c =>
    exact ⟨_,rfl,Record.decoder_object _ (Record.read_map _ (c.read_entries ordered (within HttpCall.record (by decide))))⟩
  | condition c =>
    exact ⟨_,rfl,Record.decoder_object _ (Record.read_map _ (c.read_entries ordered (within Condition.record (by decide))))⟩
  | sendEmail d =>
    exact ⟨_,rfl,Record.decoder_object _ (Record.read_map _ (d.read_entries ordered (within EmailDraft.record (by decide))))⟩
  | sendWhatsApp d =>
    exact ⟨_,rfl,Record.decoder_object _ (Record.read_map _ (d.read_entries ordered (within WhatsAppDraft.record (by decide))))⟩
  | delay minutes =>
    exact ⟨_,rfl,Record.decoder_object _ (Record.read_map _ (Record.read_required ordered (found "delayMinutes" (by decide)) rfl))⟩
  | transform steps =>
    have reads := list_map fun step (_ : step ∈ steps) => step.decoder_json setting
    rw [List.map_id'] at reads
    exact ⟨_,rfl,Record.decoder_object _ (Record.read_map _ (Record.read_required ordered (found "transformations" (by decide)) reads))⟩
  | sendMassEmail m =>
    exact ⟨_,rfl,Record.decoder_object _ (Record.read_map _ (m.read_entries ordered (within MassEmail.record (by decide))))⟩
  | contacts c =>
    exact ⟨_,rfl,Record.decoder_object _ (Record.read_map _ (c.read_entries ordered (within ContactChange.record (by decide))))⟩

end

theorem NodeKind.lookup_entries_none (kind : NodeKind) {name : String} (head : name ∈ ["id","next","type"]) :
    kind.entries.reverse.lookup name = none := by
  simp only [List.mem_cons,List.not_mem_nil,or_false] at head
  obtain rfl | rfl | rfl := head <;> cases kind <;>
    simp [NodeKind.entries,Trigger.entries,HttpCall.entries,Condition.entries,EmailDraft.entries,WhatsAppDraft.entries,
      MassEmail.entries,ContactChange.entries,reverse_given,lookup_given,List.lookup_append,List.lookup_cons]

namespace Node

theorem lookup_type (node : Node) : (Fields.ofList node.entries).lookup "type" = some (.string node.kind.name) := by
  simp [entries,lookup_ofList,List.lookup_append,node.kind.lookup_entries_none (by decide : "type" ∈ ["id","next","type"])]

theorem lookup_id (node : Node) : (Fields.ofList node.entries).lookup "id" = some (.string node.id) := by
  rw [lookup_ofList,entries]
  split <;> simp [List.lookup_append,List.lookup_cons,node.kind.lookup_entries_none (by decide : "id" ∈ ["id","next","type"])]

theorem lookup_next (node : Node) :
    (Fields.ofList node.entries).lookup "next" = if node.next.isEmpty then none else some (.strings node.next) := by
  rw [lookup_ofList,entries]
  split <;> simp [List.lookup_append,List.lookup_cons,node.kind.lookup_entries_none (by decide : "next" ∈ ["id","next","type"])]

theorem ofEntries_entries (node : Node) : NodeKind.ofEntries (Fields.ofList node.entries) = .ok node.kind.canonical := by
  have ordered := ordered_ofList node.entries
  obtain ⟨inner,known,reads⟩ := node.kind.read_entries .deferred ordered node.lookup_entries
  obtain ⟨place,slot⟩ := Record.slot_ofObject "type" ordered
  rw [node.lookup_type,Option.map_some] at slot
  simp only [NodeKind.ofEntries,slot,NodeKind.named,variantNamed,known]
  exact reads

theorem read_head (node : Node) (setting : Setting) :
    head.read setting (Record.ofObject (Fields.ofList node.entries)) = .ok (node.id,node.next) := by
  have ordered := ordered_ofList node.entries
  refine Record.read_seq (Record.read_map Prod.mk ?_) ?_
  · exact Record.read_required ordered node.lookup_id rfl
  · cases next : node.next with
    | nil => exact Record.read_defaulted_none ordered (by simp [lookup_next,next])
    | cons first rest => exact Record.read_defaulted ordered (by simp [lookup_next,next]) (list_strings ..)

@[simp] theorem id_canonical (node : Node) : node.canonical.id = node.id := rfl

@[simp] theorem next_canonical (node : Node) : node.canonical.next = node.next := rfl

@[simp] theorem isTrigger_canonical (node : Node) : node.canonical.isTrigger = node.isTrigger := by
  cases h : node.kind <;> simp [isTrigger,canonical,NodeKind.canonical,h]

@[simp] theorem successors_canonical (node : Node) : node.canonical.successors = node.successors := by
  cases h : node.kind <;> simp [successors,canonical,NodeKind.canonical,Condition.canonical,h]

theorem decoder_json (node : Node) (setting : Setting) : decoder setting node.json = .ok node.canonical := by
  simp only [decoder,json,node.read_head setting,Record.unplaced,node.ofEntries_entries]
  rfl

end Node

end Flowgraph
