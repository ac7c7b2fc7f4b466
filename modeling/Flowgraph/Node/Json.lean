import Flowgraph.Decode.Record
import Flowgraph.Node.Basic

/-! Nodes as flat JSON objects: the id, the edges and the configuration side by side, told apart by
`type`. A node is read in two rounds: first its id and edges, then, once the kind is known, the
configuration from the same object. -/

namespace Flowgraph
open Decode

/-- An entry that is left out where there is no value. -/
def Fields.given (key : String) (value : Option Json) : Fields :=
  match value with
  | some v => [(key, v)]
  | none => []

def Trigger.record : Record Trigger :=
  Trigger.mk <$> .required "module" string <*> .required "event" string <*> .optional "payloadMatch" fields

def Trigger.decoder : Decoder Trigger := Trigger.record.decoder "struct TriggerConfig"

def Trigger.entries (t : Trigger) : Fields :=
  [("module", .string t.origin), ("event", .string t.event)] ++ Fields.given "payloadMatch" (t.payloadMatch.map .object)

def Trigger.json (t : Trigger) : Json := .object (Fields.ofList t.entries)

def HttpCall.record : Record HttpCall :=
  HttpCall.mk <$> .required "method" string <*> .required "url" string <*>
    .optional "headers" stringFields <*> .optional "body" any

def HttpCall.entries (c : HttpCall) : Fields :=
  [("method", .string c.method), ("url", .string c.url)] ++
    Fields.given "headers" (c.headers.map fun hs => .object (hs.map fun (k, v) => (k, .string v))) ++
    Fields.given "body" c.body

def Comparison.table : List (String × Comparison) := [
  ("equals", .equals), ("not_equals", .notEquals), ("gt", .gt), ("lt", .lt), ("gte", .gte), ("lte", .lte),
  ("contains", .contains), ("exists", .present), ("not_exists", .absent)]

def Comparison.name : Comparison → String
  | .equals => "equals"
  | .notEquals => "not_equals"
  | .gt => "gt"
  | .lt => "lt"
  | .gte => "gte"
  | .lte => "lte"
  | .contains => "contains"
  | .present => "exists"
  | .absent => "not_exists"

def Clause.decoder : Decoder Clause :=
  Record.decoder (Clause.mk <$> .required "field" string <*> .required "operator" (variant Comparison.table) <*>
    .defaulted "value" .null any) "struct ConditionClause"

def Clause.json (c : Clause) : Json :=
  .object (Fields.ofList [("field", .string c.field), ("operator", .string c.comparison.name), ("value", c.value)])

def Condition.record : Record Condition :=
  Condition.mk <$> .required "conditions" (list Clause.decoder) <*> .required "trueNext" (list string) <*>
    .required "falseNext" (list string)

def Condition.entries (c : Condition) : Fields :=
  [("conditions", .array (c.clauses.map Clause.json)), ("trueNext", .strings c.trueNext),
    ("falseNext", .strings c.falseNext)]

def EmailDraft.record : Record EmailDraft :=
  EmailDraft.mk <$> .required "to" string <*> .required "subject" string <*> .required "emailBody" string <*>
    .optional "from" string

def EmailDraft.entries (d : EmailDraft) : Fields :=
  [("to", .string d.recipient), ("subject", .string d.subject), ("emailBody", .string d.body)] ++
    Fields.given "from" (d.sender.map .string)

def WhatsAppDraft.record : Record WhatsAppDraft :=
  WhatsAppDraft.mk <$> .required "to" string <*> .required "message" string

def WhatsAppDraft.entries (d : WhatsAppDraft) : Fields := [("to", .string d.recipient), ("message", .string d.message)]

def Transformation.decoder : Decoder Transformation :=
  Record.decoder (Transformation.mk <$> .required "outputField" string <*> .required "expression" string)
    "struct Transformation"

def Transformation.json (t : Transformation) : Json :=
  .object (Fields.ofList [("outputField", .string t.outputField), ("expression", .string t.expression)])

def MassEmail.record : Record MassEmail :=
  MassEmail.mk <$> .required "listId" string <*> .required "subject" string <*> .required "emailBody" string <*>
    .optional "from" string

def MassEmail.entries (m : MassEmail) : Fields :=
  [("listId", .string m.listId), ("subject", .string m.subject), ("emailBody", .string m.body)] ++
    Fields.given "from" (m.sender.map .string)

def ContactAction.table : List (String × ContactAction) :=
  [("create", .create), ("update", .update), ("delete", .delete), ("find", .find)]

def ContactAction.name : ContactAction → String
  | .create => "create"
  | .update => "update"
  | .delete => "delete"
  | .find => "find"

def ContactChange.record : Record ContactChange :=
  ContactChange.mk <$> .required "action" (variant ContactAction.table) <*> .defaulted "contactData" .null any

def ContactChange.entries (c : ContactChange) : Fields :=
  [("action", .string c.action.name), ("contactData", c.data)]

namespace NodeKind

/-- The configuration that goes with each name, in the order in which a number may stand for the name. -/
def table : List (String × Decoder NodeKind) := [
  ("trigger", kindOf Trigger.record .trigger "struct TriggerConfig"),
  ("http_request", kindOf HttpCall.record .httpRequest "struct HttpRequestConfig"),
  ("condition", kindOf Condition.record .condition "struct ConditionConfig"),
  ("send_email", kindOf EmailDraft.record .sendEmail "struct SendEmailConfig"),
  ("send_whatsapp", kindOf WhatsAppDraft.record .sendWhatsApp "struct SendWhatsappConfig"),
  ("delay", kindOf (.required "delayMinutes" float) .delay "struct DelayConfig"),
  ("transform", kindOf (.required "transformations" (list Transformation.decoder)) .transform "struct TransformConfig"),
  ("send_mass_email", kindOf MassEmail.record .sendMassEmail "struct SendMassEmailConfig"),
  ("contacts", kindOf ContactChange.record .contacts "struct ContactsConfig")]
where
  kindOf {α : Type} (record : Record α) (kind : α → NodeKind) (what : String) : Decoder NodeKind :=
    (kind <$> record).decoder what

def entries : NodeKind → Fields
  | .trigger t => t.entries
  | .httpRequest c => c.entries
  | .condition c => c.entries
  | .sendEmail d => d.entries
  | .sendWhatsApp d => d.entries
  | .delay minutes => [("delayMinutes", .ofFloat minutes)]
  | .transform steps => [("transformations", .array (steps.map Transformation.json))]
  | .sendMassEmail m => m.entries
  | .contacts c => c.entries

/-- The decoder that a `type` stands for: a name, or its number in the table. -/
def named : Json → Except Fault (Decoder NodeKind)
  | .string name => variantNamed table name
  | .number (.int n) =>
    if n < 0 then .error (.invalidType (.number (.int n)) "variant identifier")
    else match table[n.toNat]? with
      | some (_, inner) => .ok inner
      | none => .error (.invalidValue (.number (.int n)) s!"variant index 0 <= i < {table.length}")
  | got => .error (.invalidType got "variant identifier")

/-- Reads the kind of a node from the node's own entries. -/
def ofEntries (entries : List (String × Json)) : Except Fault NodeKind := do
  let source := Record.ofObject entries
  match source.slot "type" with
  | .error e => .error e.2
  | .ok none => .error (.missing "type")
  | .ok (some (_, tag)) => (← named tag) .deferred (.object entries)

/-- A kind on its own, outside a node. -/
def decoder : Decoder NodeKind := tagged table "internally tagged enum NodeKind"

end NodeKind

namespace Node

def head : Record (String × List String) := Prod.mk <$> .required "id" string <*> .defaulted "next" [] (list string)

def decoder : Decoder Node
  | setting, .object entries => do
    let (id, next) ← Record.unplaced (head.read setting (Record.ofObject entries))
    return ⟨id, next, ← NodeKind.ofEntries entries⟩
  | _, got => .error (.invalidType got "struct Node")

def entries (node : Node) : Fields :=
  [("id", .string node.id)] ++ (if node.next.isEmpty then [] else [("next", .strings node.next)]) ++
    [("type", .string node.kind.name)] ++ node.kind.entries

def json (node : Node) : Json := .object (Fields.ofList node.entries)

end Node
end Flowgraph
