import Flowgraph.Run.Context

/-! The stored record of a run. An update sets the parts that it has and adds to the trace; it
takes nothing back. -/

namespace Flowgraph
open Decode

inductive Status where
  | running
  | waiting
  | completed
  | failed
  | skipped
  deriving DecidableEq, Repr, Inhabited

namespace Status

def table : List (String × Status) := [("running", .running), ("waiting", .waiting), ("completed", .completed),
  ("failed", .failed), ("skipped", .skipped)]

def name : Status → String
  | .running => "running"
  | .waiting => "waiting"
  | .completed => "completed"
  | .failed => "failed"
  | .skipped => "skipped"

def named? (text : String) : Option Status := table.lookup text

/-- Whether a run in this status has come to its end. -/
def isFinal : Status → Bool
  | .running => false
  | .waiting => false
  | _ => true

/-- The status of a walk that went well. -/
def ofSuspended (jobs : List String) : Status := if jobs.isEmpty then .completed else .waiting

end Status

def unknownStatus (text : String) : String := s!"unknown execution status '{text}'"

structure RunRecord where
  executionId : String
  automationId : Uuid
  organizationId : Uuid
  status : Status
  startedAt : Instant
  completedAt : Option Instant
  input : Json
  output : Option Json
  executionTimeMs : Option Int
  logs : List LogEntry
  error : Option String
  deriving BEq, Repr, Inhabited

structure RunUpdate where
  status : Option Status
  completedAt : Option Instant
  output : Option Json
  executionTimeMs : Option Int
  error : Option String
  logs : List LogEntry
  deriving BEq, Repr, Inhabited

namespace RunRecord

/-- The identifiers of runs that are given none lie above this one. -/
def stem : Nat := 0x6a0a0000000040008000000000000000

def numberedId (number : Nat) : String := (Uuid.ofNat (stem + number)).text

/-- The record of a run before any node of it. -/
def running (c : Context) : RunRecord :=
  ⟨c.executionId, c.automationId, c.organizationId, .running, c.startedAt, none, c.data, none, none, [], none⟩

def apply (r : RunRecord) (u : RunUpdate) : RunRecord :=
  { r with
    status := u.status.getD r.status
    completedAt := u.completedAt <|> r.completedAt
    output := u.output <|> r.output
    executionTimeMs := u.executionTimeMs <|> r.executionTimeMs
    error := u.error <|> r.error
    logs := r.logs ++ u.logs }

def record : Record RunRecord :=
  RunRecord.mk <$> .required "executionId" string <*> .required "automationId" Uuid.decoder <*>
    .required "organizationId" Uuid.decoder <*> .required "status" (variant Status.table) <*>
    .required "startedAt" Rfc3339.decoder <*> .optionalKey "completedAt" Rfc3339.decoder <*>
    .required "input" any <*> .optionalKey "output" any <*> .optionalKey "executionTimeMs" integer64 <*>
    .required "logs" (list LogEntry.decoder) <*> .optionalKey "error" string

def decoder : Decoder RunRecord := record.decoder "struct ExecutionLogRecord"

def orNull (value : Option Json) : Json := value.getD .null

def json (r : RunRecord) : Json := .object (Fields.ofList [
  ("executionId", .string r.executionId), ("automationId", r.automationId.json),
  ("organizationId", r.organizationId.json), ("status", .string r.status.name),
  ("startedAt", Rfc3339.json r.startedAt), ("completedAt", orNull (r.completedAt.map Rfc3339.json)),
  ("input", r.input), ("output", orNull r.output),
  ("executionTimeMs", orNull (r.executionTimeMs.map fun n => .number (.int n))),
  ("logs", .array (r.logs.map LogEntry.json)), ("error", orNull (r.error.map .string))])

end RunRecord

namespace RunUpdate

/-- The outcome of a walk, with the whole trace of its context. -/
def finished (status : Status) (c : Context) (now : Instant) : RunUpdate :=
  ⟨some status, if status.isFinal then some now else none, some c.data, some (c.elapsed now), none, c.logs⟩

def failed (message : String) (c : Context) (now : Instant) : RunUpdate :=
  { finished .failed c now with error := some message }

/-- The end of a run of an inactive automation. -/
def skipped (now : Instant) : RunUpdate := ⟨some .skipped, some now, none, some 0, none, []⟩

end RunUpdate
end Flowgraph
