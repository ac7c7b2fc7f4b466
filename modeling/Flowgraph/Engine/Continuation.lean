import Flowgraph.Effect.Message
import Flowgraph.Number.Shortest
import Flowgraph.Queue.Job

/-! Suspended runs as the payloads of delayed jobs. -/

namespace Flowgraph
open Decode

/-- What a job needs to take up a run: its state, the ids to go on to, and the nodes as they were. -/
structure Continuation where
  executionId : String
  automationId : Uuid
  context : Snapshot
  next : List String
  nodes : List Node
  deriving BEq, Repr, Inhabited

namespace Continuation

def ofSuspension (s : Suspension) : Continuation :=
  ⟨s.context.executionId, s.context.automationId, s.context, s.next, s.nodes⟩

def record : Record Continuation :=
  Continuation.mk <$> .required "executionId" string <*> .required "automationId" Uuid.decoder <*>
    .required "context" Snapshot.decoder <*> .required "nextNodeIds" (list string) <*>
    .defaulted "nodes" [] (list Node.decoder)

def decoder : Decoder Continuation := record.decoder "struct ContinuationPayload"

def json (c : Continuation) : Json := .object (Fields.ofList ([
  ("executionId", .string c.executionId), ("automationId", c.automationId.json), ("context", c.context.json),
  ("nextNodeIds", .strings c.next)] ++ if c.nodes.isEmpty then [] else [("nodes", .array (c.nodes.map Node.json))]))

/-- The length of a delay given in minutes. -/
def delay? (minutes : Float) : Option Duration := Duration.ofFloatSeconds? (minutes * 60)

/-- Leaves a suspended run to a queue; gives the text of the job's id. -/
def schedule (queue : QueueOperations σ) (minutes : Float) (s : Suspension) : Act σ NodeFault String := do
  match delay? minutes with
  | none => Act.fail (.scheduling (s!"invalid delay of {Shortest.prose minutes} minute(s): " ++
      "cannot convert float seconds to Duration: value is either too big or NaN"))
  | some delay =>
    let id ← Act.mapFault (fun e => .scheduling e.message) (queue.enqueue delay (ofSuspension s).json)
    return id.text

end Continuation
end Flowgraph
