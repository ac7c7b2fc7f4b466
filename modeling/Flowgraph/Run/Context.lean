import Flowgraph.Automation.Definition

/-! The state of one run: what it belongs to, its data bag and its trace. The bag of a fresh run is
an object, whatever the run was started with. A snapshot is what outlives a delay: everything but
the trace, which has been stored by then. -/

namespace Flowgraph
open Decode

inductive LogLevel where
  | start | success | error | info | warning
  deriving DecidableEq, Repr, Inhabited

def LogLevel.table : List (String × LogLevel) :=
  [("start", .start), ("success", .success), ("error", .error), ("info", .info), ("warning", .warning)]

def LogLevel.name : LogLevel → String
  | .start => "start"
  | .success => "success"
  | .error => "error"
  | .info => "info"
  | .warning => "warning"

structure LogEntry where
  timestamp : Instant
  nodeId : String
  level : LogLevel
  action : String
  message : String
  deriving DecidableEq, Repr, Inhabited

def LogEntry.decoder : Decoder LogEntry :=
  Record.decoder (LogEntry.mk <$> .required "timestamp" Rfc3339.decoder <*> .required "nodeId" string <*>
    .required "level" (variant LogLevel.table) <*> .required "action" string <*> .required "message" string)
    "struct LogEntry"

def LogEntry.json (e : LogEntry) : Json := .object (Fields.ofList [
  ("timestamp", Rfc3339.json e.timestamp), ("nodeId", .string e.nodeId), ("level", .string e.level.name),
  ("action", .string e.action), ("message", .string e.message)])

structure Context where
  executionId : String
  automationId : Uuid
  organizationId : Uuid
  data : Json
  logs : List LogEntry
  startedAt : Instant
  currentNodeId : Option String
  deriving BEq, Repr, Inhabited

structure Snapshot where
  executionId : String
  automationId : Uuid
  organizationId : Uuid
  data : Json
  startedAt : Instant
  currentNodeId : Option String
  deriving BEq, Repr, Inhabited

namespace Context

/-- The bag that a run starts with: null is nothing, and what is no object becomes the payload. -/
def seed : Json → Json
  | .object fields => .object fields
  | .null => .object []
  | other => .object [("payload", other)]

def start (executionId : String) (automationId organizationId : Uuid) (input : Json) (now : Instant) : Context :=
  ⟨executionId, automationId, organizationId, seed input, [], now, none⟩

def snapshot (c : Context) : Snapshot :=
  ⟨c.executionId, c.automationId, c.organizationId, c.data, c.startedAt, c.currentNodeId⟩

def restore (s : Snapshot) : Context :=
  ⟨s.executionId, s.automationId, s.organizationId, s.data, [], s.startedAt, s.currentNodeId⟩

/-- The same run with an empty trace. -/
def fork (c : Context) : Context := { c with logs := [] }

def append (c : Context) (entry : LogEntry) : Context := { c with logs := c.logs ++ [entry] }

/-- Sets fields of the bag; a bag that is no object stays. -/
def merge (c : Context) (fields : Fields) : Context :=
  match c.data with
  | .object data => { c with data := .object (Fields.merge data fields) }
  | _ => c

/-- Milliseconds since the run started, none before that. -/
def elapsed (c : Context) (now : Instant) : Int := max 0 ((now.nanos - c.startedAt.nanos) / 1000000)

end Context

namespace Snapshot

def record : Record Snapshot :=
  Snapshot.mk <$> .required "executionId" string <*> .required "automationId" Uuid.decoder <*>
    .required "organizationId" Uuid.decoder <*> .required "data" any <*>
    .required "startedAt" Rfc3339.decoder <*> .optional "currentNodeId" string

def decoder : Decoder Snapshot := record.decoder "struct ContextSnapshot"

def json (s : Snapshot) : Json := .object (Fields.ofList ([
  ("executionId", .string s.executionId), ("automationId", s.automationId.json),
  ("organizationId", s.organizationId.json), ("data", s.data), ("startedAt", Rfc3339.json s.startedAt)] ++
  Fields.given "currentNodeId" (s.currentNodeId.map .string)))

end Snapshot
end Flowgraph
