import Flowgraph.Data.Comparison
import Flowgraph.Effect.Capability

/-! An outside for rehearsals: every request gets the same response, messages fail for listed
recipients only, and contacts and lists are held in memory. All that is sent is kept, and so are
the runs that suspend. -/

namespace Flowgraph

inductive HttpScript where
  | respond (status : Nat) (body : Json)
  | fail (message : String)
  deriving BEq, Repr, Inhabited

/-- What a rehearsal starts from. -/
structure Script where
  http : HttpScript
  failingEmails : List String
  failingNumbers : List String
  contacts : List Contact
  lists : List ContactList
  deriving BEq, Repr, Inhabited

/-- Nobody to send to, and nothing that fails. -/
def Script.plain : Script := ⟨.respond 200 .null, [], [], [], []⟩

/-- A rehearsal so far; all that it keeps is in the order of the calls. -/
structure Rehearsal where
  script : Script
  requests : List HttpRequest
  emails : List EmailMessage
  whatsApp : List WhatsAppMessage
  created : List Contact
  suspended : List (Float × Suspension)
  deriving BEq, Repr, Inhabited

namespace Rehearsal

def start (script : Script) : Rehearsal := ⟨script, [], [], [], [], []⟩

def contacts (r : Rehearsal) : List Contact := r.script.contacts ++ r.created

/-- The list with an id; of several the last. -/
def list? (r : Rehearsal) (id : String) : Option ContactList := r.script.lists.reverse.find? (·.id == id)

/-- The contacts with these ids in the order of the ids, those that there are. -/
def withIds (contacts : List Contact) (ids : List String) : List Contact :=
  ids.filterMap fun id => contacts.find? (·.id == id)

def meets (criteria : Fields) (c : Contact) : Bool :=
  criteria.all fun (key, expected) => (Fields.get? c.properties key).any (Json.looseEq · expected)

/-- The identifiers of created contacts lie above this one. -/
def contactStem : Nat := 0x6a0c0000000040008000000000000000

def contactId (number : Nat) : String := (Uuid.ofNat (contactStem + number)).text

def respond : HttpScript → Except NodeFault HttpResponse
  | .respond status body => .ok ⟨status, [("content-type", .string "application/json")], body⟩
  | .fail message => .error (.effect message)

def outside : Outside Rehearsal
  | .http request, r => (respond r.script.http, { r with requests := r.requests ++ [request] })
  | .email m, r =>
    if r.script.failingEmails.contains m.recipient then (.error (.effect s!"mailbox {m.recipient} rejected the message"), r)
    else (.ok (), { r with emails := r.emails ++ [m] })
  | .whatsApp m, r =>
    if r.script.failingNumbers.contains m.recipient then (.error (.effect s!"number {m.recipient} is unreachable"), r)
    else (.ok (), { r with whatsApp := r.whatsApp ++ [m] })
  | .findList id _, r => (.ok (r.list? id), r)
  | .contactsById ids _, r => (.ok (withIds r.contacts ids), r)
  | .contactsMatching filter _, r => match filter with
    | .object criteria => (.ok (r.contacts.filter (meets criteria)), r)
    | _ => (.error (.effect "contact filter must be an object"), r)
  | .createContact properties _, r =>
    let contact : Contact := ⟨contactId (r.created.length + 1), properties⟩
    (.ok contact, { r with created := r.created ++ [contact] })

/-- Keeps a run that suspends; its job is named by its number. -/
def suspend (minutes : Float) (s : Suspension) : Act Rehearsal NodeFault String :=
  modifyGet fun r => (s!"job-{r.suspended.length + 1}", { r with suspended := r.suspended ++ [(minutes, s)] })

def capabilities (now : Instant) : Capabilities Rehearsal := ⟨fun _ => now, Outside.act outside, suspend⟩

end Rehearsal

end Flowgraph
