import Flowgraph.Effect.Message
import Flowgraph.Queue.Table
import Flowgraph.Store.RunTable

/-! The database: automations, runs, delayed jobs, and the messages that wait for someone to send
them. Its clock is that of the jobs and moves on a little with every use of them, so that what was
written earlier is earlier. -/

namespace Flowgraph

structure MessageRow where
  organizationId : Uuid
  channel : String
  recipient : String
  payload : Json
  createdAt : Instant
  deriving BEq, Repr, Inhabited

structure Database where
  automations : List AutomationRow
  runs : RunTable
  jobs : JobTable
  messages : List MessageRow
  deriving BEq, Repr, Inhabited

def AutomationRow.kept (r : AutomationRow) : Except DatabaseFault AutomationRow := do
  let name ← Column.text r.name
  let nodes ← Column.json r.nodes
  let createdAt ← Column.time r.createdAt
  return { r with name, nodes, createdAt, updatedAt := ← Column.time r.updatedAt }

namespace Database

def start (now : Instant) : Database := ⟨[], [], .start now, []⟩

def clock (d : Database) : Instant := d.jobs.now

/-- The least step of the clock. -/
def tick : Duration := 1000

def onRuns (act : Act RunTable ε α) : Act Database ε α := Act.zoom (·.runs) (fun runs d => { d with runs }) act

def withJobs (jobs : JobTable) (d : Database) : Database :=
  { d with jobs := { jobs with now := ⟨jobs.now.nanos + tick, jobs.now.leap⟩ } }

def onJobs (act : Act JobTable ε α) : Act Database ε α := Act.zoom (·.jobs) withJobs act

def queueOperations : QueueOperations Database := JobTable.operations.zoom (·.jobs) withJobs

def automation (id : Uuid) : Act Database DatabaseFault AutomationRow := do
  match (← get).automations.find? (·.id == id) with
  | some r => return r
  | none => Act.fail .rowNotFound

/-- The automation with an id, if there is one. -/
def findAutomation (id : Uuid) : Act Database StoreFault (Option Definition) := do
  match ← Act.attempt (automation id) with
  | .ok r => some <$> Act.ofExcept r.definition
  | .error .rowNotFound => return none
  | .error fault => Act.fail (.database fault)

/-- Adds an automation, or gives the one with its id another name, state and nodes. -/
def putAutomation (r : AutomationRow) : Act Database DatabaseFault Unit := do
  let r ← Act.ofExcept r.kept
  let put (rows : List AutomationRow) : List AutomationRow :=
    if rows.any (·.id == r.id) then
      rows.map fun old => if old.id = r.id then { old with name := r.name, isActive := r.isActive, nodes := r.nodes } else old
    else rows ++ [r]
  modify fun d => { d with automations := put d.automations }

def removeAutomation (id : Uuid) (d : Database) : Database :=
  { d with automations := d.automations.filter (·.id != id) }

def post (organizationId : Uuid) (channel recipient : String) (payload : Json) : Act Database DatabaseFault MessageRow := do
  let channel ← Act.ofExcept (Column.text channel)
  let recipient ← Act.ofExcept (Column.text recipient)
  let payload ← Act.ofExcept (Column.json payload)
  let row : MessageRow := ⟨organizationId, channel, recipient, payload, ← Act.ofExcept (Column.time (← get).clock)⟩
  modify fun d => { d with messages := d.messages ++ [row] }
  return row

def sendEmail (m : EmailMessage) : Act Database NodeFault Unit := do
  let _ ← Act.mapFault (fun fault => .effect s!"failed to queue email to {m.recipient}: {fault.message}")
    (post m.organizationId "email" m.recipient m.json)

def sendWhatsApp (m : WhatsAppMessage) : Act Database NodeFault Unit := do
  let _ ← Act.mapFault (fun fault => .effect s!"failed to queue WhatsApp message to {m.recipient}: {fault.message}")
    (post m.organizationId "whatsapp" m.recipient m.json)

end Database
end Flowgraph
