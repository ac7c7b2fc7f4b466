import Flowgraph.Effect.Capability
import Flowgraph.Store.Column
import Flowgraph.Store.Row

/-! The table of runs, a row for each execution id, and the records of runs kept in it. A statement
that fails changes nothing; of several values that a table refuses, the first of the statement counts. -/

namespace Flowgraph

/-- Changes to one row: what is given replaces its column, and the documents go behind the trace. -/
structure RunPatch where
  status : Option String
  completedAt : Option Instant
  output : Option Json
  executionTimeMs : Option Int
  error : Option String
  logs : List Json
  deriving BEq, Repr, Inhabited

def RunPatch.ofUpdate (u : RunUpdate) : RunPatch :=
  ⟨u.status.map (·.name), u.completedAt, u.output, u.executionTimeMs, u.error, u.logs.map LogEntry.json⟩

/-- The changes as columns keep them. -/
def RunPatch.kept (p : RunPatch) : Except DatabaseFault RunPatch := do
  let status ← p.status.mapM Column.text
  let completedAt ← p.completedAt.mapM Column.time
  let output ← p.output.mapM Column.json
  let error ← p.error.mapM Column.text
  return ⟨status, completedAt, output, p.executionTimeMs, error, ← p.logs.mapM Column.json⟩

def RunRow.kept (r : RunRow) : Except DatabaseFault RunRow := do
  let executionId ← Column.text r.executionId
  let status ← Column.text r.status
  let startedAt ← Column.time r.startedAt
  let completedAt ← r.completedAt.mapM Column.time
  let input ← Column.json r.input
  let output ← r.output.mapM Column.json
  let logs ← Column.json r.logs
  return { r with executionId, status, startedAt, completedAt, input, output, logs, error := ← r.error.mapM Column.text }

def RunRow.patched (r : RunRow) (p : RunPatch) : RunRow :=
  { r with
    status := p.status.getD r.status
    completedAt := p.completedAt <|> r.completedAt
    output := p.output <|> r.output
    executionTimeMs := p.executionTimeMs <|> r.executionTimeMs
    error := p.error <|> r.error
    logs := Column.joined r.logs p.logs }

/-- Rows in the order of their creation. -/
abbrev RunTable := List RunRow

namespace RunTable

def row? (rows : RunTable) (id : String) : Option RunRow := rows.find? (·.executionId == id)

/-- Adds a row, or replaces the one with its id. -/
def put (r : RunRow) (rows : RunTable) : RunTable :=
  if (row? rows r.executionId).isSome then
    rows.map fun old => if old.executionId = r.executionId then r else old
  else rows ++ [r]

def upsert (r : RunRow) : Act RunTable DatabaseFault Unit := do
  let r ← Act.ofExcept r.kept
  modify (put r)

def patch (id : String) (p : RunPatch) : Act RunTable DatabaseFault Unit := do
  let id ← Act.ofExcept (Column.text id)
  let p ← Act.ofExcept p.kept
  if (row? (← get) id).isSome then
    modify fun rows => rows.map fun r => if r.executionId = id then r.patched p else r
  else Act.fail .rowNotFound

def fetch (id : String) : Act RunTable DatabaseFault RunRow := do
  let id ← Act.ofExcept (Column.text id)
  match row? (← get) id with
  | some r => return r
  | none => Act.fail .rowNotFound

def create (r : RunRecord) : Act RunTable StoreFault Unit := Act.mapFault .database (upsert (.ofRecord r))

def update (id : String) (u : RunUpdate) : Act RunTable StoreFault Unit :=
  Act.mapFault (fun fault => if fault = .rowNotFound then .executionNotFound id else .database fault)
    (patch id (.ofUpdate u))

def record? (id : String) : Act RunTable StoreFault (Option RunRecord) := do
  match ← Act.attempt (fetch id) with
  | .ok r => some <$> Act.ofExcept r.record
  | .error .rowNotFound => return none
  | .error fault => Act.fail (.database fault)

end RunTable
end Flowgraph
