import Flowgraph.Automation.Definition
import Flowgraph.Queue.Job
import Flowgraph.Run.Record

/-! Rows of the tables in which automations, runs and jobs are stored, as JSON objects with the
column names as keys, and what they stand for. -/

namespace Flowgraph
open Decode

structure AutomationRow where
  id : Uuid
  organizationId : Uuid
  name : String
  isActive : Bool
  nodes : Json
  createdAt : Instant
  updatedAt : Instant
  deriving BEq, Repr, Inhabited

namespace AutomationRow

def decoder : Decoder AutomationRow :=
  Record.decoder (AutomationRow.mk <$> .required "id" Uuid.decoder <*> .required "organization_id" Uuid.decoder <*>
    .required "name" string <*> .required "is_active" bool <*> .required "nodes" any <*>
    .required "created_at" Rfc3339.decoder <*> .required "updated_at" Rfc3339.decoder) "struct AutomationRow"

def definition (r : AutomationRow) : Except StoreFault Definition :=
  match list Node.decoder .direct r.nodes with
  | .ok nodes => .ok ⟨r.id, r.organizationId, r.name, r.isActive, nodes, r.createdAt, r.updatedAt⟩
  | .error e => .error (.malformed e.message)

def ofDefinition (d : Definition) : AutomationRow :=
  ⟨d.id, d.organizationId, d.name, d.isActive, .array (d.nodes.map Node.json), d.createdAt, d.updatedAt⟩

end AutomationRow

structure RunRow where
  executionId : String
  automationId : Uuid
  organizationId : Uuid
  status : String
  startedAt : Instant
  completedAt : Option Instant
  input : Json
  output : Option Json
  executionTimeMs : Option Int
  logs : Json
  error : Option String
  deriving BEq, Repr, Inhabited

namespace RunRow

def decoder : Decoder RunRow :=
  Record.decoder (RunRow.mk <$> .required "execution_id" string <*> .required "automation_id" Uuid.decoder <*>
    .required "organization_id" Uuid.decoder <*> .required "status" string <*>
    .required "started_at" Rfc3339.decoder <*> .optionalKey "completed_at" Rfc3339.decoder <*>
    .required "input" any <*> .optionalKey "output" any <*> .optionalKey "execution_time_ms" integer64 <*>
    .required "logs" any <*> .optionalKey "error" string) "struct ExecutionLogRow"

def ofRecord (r : RunRecord) : RunRow :=
  ⟨r.executionId, r.automationId, r.organizationId, r.status.name, r.startedAt, r.completedAt, r.input, r.output,
    r.executionTimeMs, .array (r.logs.map LogEntry.json), r.error⟩

/-- The record that a row stands for; its status is looked at before its trace. -/
def record (r : RunRow) : Except StoreFault RunRecord :=
  match Status.named? r.status with
  | none => .error (.invalidStatus (unknownStatus r.status))
  | some status => match list LogEntry.decoder .direct r.logs with
    | .error e => .error (.malformed e.message)
    | .ok logs => .ok ⟨r.executionId, r.automationId, r.organizationId, status, r.startedAt, r.completedAt, r.input,
        r.output, r.executionTimeMs, logs, r.error⟩

end RunRow

inductive JobStatus where
  | pending | processing | completed | deadLettered
  deriving DecidableEq, Repr, Inhabited

namespace JobStatus

def table : List (String × JobStatus) := [("Pending", .pending), ("Processing", .processing),
  ("Completed", .completed), ("DeadLettered", .deadLettered)]

def name : JobStatus → String
  | .pending => "Pending"
  | .processing => "Processing"
  | .completed => "Completed"
  | .deadLettered => "DeadLettered"

def column : JobStatus → String
  | .pending => "pending"
  | .processing => "processing"
  | .completed => "completed"
  | .deadLettered => "dead_lettered"

def decoder : Decoder JobStatus := variant table

end JobStatus

structure JobRow (ι : Type) where
  id : ι
  status : String
  attempts : Int
  payload : Json
  runAt : Instant
  lastError : Option String
  createdAt : Instant
  updatedAt : Instant
  deriving BEq, Repr, Inhabited

namespace JobRow

def decoder : Decoder (JobRow Uuid) :=
  Record.decoder (JobRow.mk <$> .required "id" Uuid.decoder <*> .required "status" string <*>
    .required "attempts" integer32 <*> .required "payload" any <*> .required "run_at" Rfc3339.decoder <*>
    .optionalKey "last_error" string <*> .required "created_at" Rfc3339.decoder <*>
    .required "updated_at" Rfc3339.decoder) "struct JobRow"

/-- The job of a row; a negative count of attempts is none. -/
def job (r : JobRow ι) : Job ι := ⟨r.id, r.payload, r.runAt, r.attempts.toNat⟩

end JobRow
end Flowgraph
