import Flowgraph.Effect.Capability
import Flowgraph.Store.Column
import Flowgraph.Store.Row

/-! The table of delayed jobs. A job is due when it is pending and its time has come, or when it has
been in processing for so long that whoever took it must be gone. -/

namespace Flowgraph

/-- Rows in the order of their creation, and the time. -/
structure JobTable where
  now : Instant
  rows : List (JobRow JobId)
  deriving BEq, Repr, Inhabited

def JobRow.isDue (r : JobRow ι) (now abandonedBefore : Instant) : Bool :=
  (r.status == JobStatus.pending.column && r.runAt.le now) ||
    (r.status == JobStatus.processing.column && r.updatedAt.le abandonedBefore)

/-- The server of the table: what columns make of what is put into them, and which of some rows comes first in the order of the
times that they are due. -/
class JobServer where
  text : String → Except DatabaseFault String
  json : Json → Except DatabaseFault Json
  time : Instant → Except DatabaseFault Instant
  first : List (JobRow JobId) → Option (JobRow JobId)

/-- Of rows that are due at the same time the one created first comes first. -/
instance JobServer.standard : JobServer := ⟨Column.text, Column.json, Column.time, Instant.earliestBy (·.runAt)⟩

namespace JobTable

def start (now : Instant) : JobTable := ⟨now, []⟩

def row? (t : JobTable) (id : JobId) : Option (JobRow JobId) := t.rows.find? (·.id == id)

def update (t : JobTable) (id : JobId) (f : JobRow JobId → JobRow JobId) : JobTable :=
  { t with rows := t.rows.map fun r => if r.id = id then f r else r }

def taken (r : JobRow JobId) (now : Instant) : JobRow JobId :=
  { r with status := JobStatus.processing.column, attempts := r.attempts + 1, updatedAt := now }

def change (id : JobId) (f : JobRow JobId → JobRow JobId) : Act JobTable DatabaseFault Unit := do
  let t ← get
  if (t.row? id).isSome then set (t.update id f) else Act.fail .rowNotFound

variable [server : JobServer]

/-- The time as the table keeps it. -/
def currentTime : Act JobTable DatabaseFault Instant := do Act.ofExcept (server.time (← get).now)

def insert (payload : Json) (runAt : Instant) : Act JobTable DatabaseFault (JobRow JobId) := do
  let payload ← Act.ofExcept (server.json payload)
  let runAt ← Act.ofExcept (server.time runAt)
  let now ← currentTime
  let t ← get
  let row : JobRow JobId := ⟨⟨t.rows.length + 1⟩, JobStatus.pending.column, 0, payload, runAt, none, now, now⟩
  set { t with rows := t.rows ++ [row] }
  return row

/-- Takes the job that is due first. The result still has the time at which the row was last changed. -/
def fetchDue (now abandonedBefore : Instant) : Act JobTable DatabaseFault (Option (JobRow JobId)) := do
  let now ← Act.ofExcept (server.time now)
  let abandonedBefore ← Act.ofExcept (server.time abandonedBefore)
  let t ← get
  match server.first (t.rows.filter (·.isDue now abandonedBefore)) with
  | none => return none
  | some r =>
    set (t.update r.id (taken · now))
    return some { taken r now with updatedAt := r.updatedAt }

/-- Puts a job into a status, whatever status it was in. -/
def settle (id : JobId) (status : JobStatus) (error : Option String) : Act JobTable DatabaseFault Unit := do
  let error ← Act.ofExcept (error.mapM server.text)
  let now ← currentTime
  change id fun r => { r with status := status.column, lastError := error <|> r.lastError, updatedAt := now }

def complete (id : JobId) : Act JobTable DatabaseFault Unit := settle id .completed none

def deadLetter (id : JobId) (error : String) : Act JobTable DatabaseFault Unit := settle id .deadLettered (some error)

def postpone (id : JobId) (error : String) (runAt : Instant) : Act JobTable DatabaseFault Unit := do
  let error ← Act.ofExcept (server.text error)
  let runAt ← Act.ofExcept (server.time runAt)
  let now ← currentTime
  change id fun r =>
    { r with status := JobStatus.pending.column, lastError := some error, runAt, updatedAt := now }

end JobTable
end Flowgraph
