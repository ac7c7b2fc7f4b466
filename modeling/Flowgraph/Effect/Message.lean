import Flowgraph.Run.Context
import Flowgraph.Text.Blank

/-! What nodes exchange with the world outside: requests and responses, messages, contacts and
lists of contacts. -/

namespace Flowgraph
open Decode

structure HttpRequest where
  method : String
  url : String
  headers : List (String × String)
  body : Option Json
  deriving BEq, Repr, Inhabited

structure HttpResponse where
  status : Nat
  headers : Fields
  body : Json
  deriving BEq, Repr, Inhabited

structure EmailMessage where
  recipient : String
  subject : String
  html : String
  sender : Option String
  organizationId : Uuid
  deriving BEq, Repr, Inhabited

def EmailMessage.decoder : Decoder EmailMessage :=
  Record.decoder (EmailMessage.mk <$> .required "to" string <*> .required "subject" string <*>
    .required "html" string <*> .optional "from" string <*> .required "organizationId" Uuid.decoder)
    "struct EmailMessage"

def EmailMessage.json (m : EmailMessage) : Json := .object (Fields.ofList ([
  ("to", .string m.recipient), ("subject", .string m.subject), ("html", .string m.html),
  ("organizationId", m.organizationId.json)] ++ Fields.given "from" (m.sender.map .string)))

structure WhatsAppMessage where
  recipient : String
  message : String
  organizationId : Uuid
  deriving BEq, Repr, Inhabited

def WhatsAppMessage.decoder : Decoder WhatsAppMessage :=
  Record.decoder (WhatsAppMessage.mk <$> .required "to" string <*> .required "message" string <*>
    .required "organizationId" Uuid.decoder) "struct WhatsAppMessage"

def WhatsAppMessage.json (m : WhatsAppMessage) : Json := .object (Fields.ofList [
  ("to", .string m.recipient), ("message", .string m.message), ("organizationId", m.organizationId.json)])

structure Contact where
  id : String
  properties : Fields
  deriving BEq, Repr, Inhabited

namespace Contact

def record : Record Contact := Contact.mk <$> .required "id" string <*> .defaulted "properties" [] fields
def decoder : Decoder Contact := record.decoder "struct Contact"

def json (c : Contact) : Json := .object (Fields.ofList [("id", .string c.id), ("properties", .object c.properties)])

/-- The address of a contact: its `email` without the blanks around it, if any of it is left. -/
def email? (c : Contact) : Option String :=
  match Fields.get? c.properties "email" with
  | some (.string s) => if Text.trim s = "" then none else some (Text.trim s)
  | _ => none

/-- The properties with the id among them, unless they have one of their own. -/
def bag (c : Contact) : Fields :=
  if (Fields.get? c.properties "id").isSome then c.properties else Fields.insert "id" (.string c.id) c.properties

end Contact

/-- How a list finds its members: by their ids, or by a filter on every use. -/
inductive ContactSource where
  | members (ids : List String)
  | filter (criteria : Json)
  deriving BEq, Repr, Inhabited

namespace ContactSource

def table : List (String × Decoder ContactSource) := [
  ("static", (members <$> Record.required "contact_ids" (list string)).decoder "struct variant ContactListSource::Static"),
  ("dynamic", (filter <$> Record.required "filter" any).decoder "struct variant ContactListSource::Dynamic")]

def decoder : Decoder ContactSource := tagged table "internally tagged enum ContactListSource"

def json : ContactSource → Json
  | .members ids => .object (Fields.ofList [("type", .string "static"), ("contact_ids", .strings ids)])
  | .filter criteria => .object (Fields.ofList [("type", .string "dynamic"), ("filter", criteria)])

end ContactSource

structure ContactList where
  id : String
  name : String
  source : ContactSource
  deriving BEq, Repr, Inhabited

namespace ContactList

def record : Record ContactList :=
  ContactList.mk <$> .required "id" string <*> .required "name" string <*> .required "source" ContactSource.decoder

def decoder : Decoder ContactList := record.decoder "struct ContactList"

def json (l : ContactList) : Json :=
  .object (Fields.ofList [("id", .string l.id), ("name", .string l.name), ("source", l.source.json)])

end ContactList

/-- What a run leaves behind when it suspends: its state, the ids to go on to, and the nodes it was walking. -/
structure Suspension where
  context : Snapshot
  next : List String
  nodes : List Node
  deriving BEq, Repr, Inhabited

end Flowgraph
