import Flowgraph.Decode.Record
import Flowgraph.Effect.Capability
import Flowgraph.Identity.Uuid
import Flowgraph.Store.Fault
import Flowgraph.Time.Rfc3339

/-! Delayed jobs, and what a queue of them can do. -/

namespace Flowgraph
open Decode

/-- The number of a job in the order of creation; zero is no job's. -/
structure JobId where
  number : Nat
  deriving DecidableEq, Repr, Inhabited

namespace JobId

/-- The identifiers of jobs lie above this one. -/
def stem : Nat := 0x6a0b0000000040008000000000000000

def uuid (id : JobId) : Uuid := if id.number = 0 then Uuid.nil else .ofNat (stem + id.number)

def text (id : JobId) : String := id.uuid.text

end JobId

/-- A job as a handler sees it; `attempts` counts its deliveries, the present one included. -/
structure Job (ι : Type) where
  id : ι
  payload : Json
  runAt : Instant
  attempts : Nat
  deriving BEq, Repr, Inhabited

def Job.decoder : Decoder (Job Uuid) :=
  Record.decoder (Job.mk <$> .required "id" Uuid.decoder <*> .required "payload" any <*>
    .required "run_at" Rfc3339.decoder <*> .required "attempts" natural32) "struct DelayedJob"

def Job.json (j : Job Uuid) : Json := .object (Fields.ofList [
  ("id", j.id.json), ("payload", j.payload), ("run_at", Rfc3339.json j.runAt), ("attempts", .ofNat j.attempts)])

inductive QueueFault where
  | jobNotFound (id : JobId)
  | invalidDelay
  | database (fault : DatabaseFault)
  deriving DecidableEq, Repr

namespace QueueFault

def message : QueueFault → String
  | .jobNotFound id => s!"job {id.text} not found"
  | .invalidDelay => "invalid delay: Source duration value is out of range for the target type"
  | .database fault => "database error: " ++ fault.message

def chain (f : QueueFault) : List String :=
  f.message :: match f with
    | .database fault => fault.chain
    | _ => []

end QueueFault

/-- What can be done with a queue that is part of a state. -/
structure QueueOperations (σ : Type) where
  enqueue : (delay : Duration) → (payload : Json) → Act σ QueueFault JobId
  claim : (lease : Duration) → Act σ QueueFault (Option (Job JobId))
  complete : JobId → Act σ QueueFault Unit
  retry : JobId → (error : String) → (backoff : Duration) → Act σ QueueFault Unit
  deadLetter : JobId → (error : String) → Act σ QueueFault Unit

/-- A queue in a part of the state. -/
def QueueOperations.zoom (get : σ → τ) (put : τ → σ → σ) (queue : QueueOperations τ) : QueueOperations σ where
  enqueue delay payload := Act.zoom get put (queue.enqueue delay payload)
  claim lease := Act.zoom get put (queue.claim lease)
  complete id := Act.zoom get put (queue.complete id)
  retry id error backoff := Act.zoom get put (queue.retry id error backoff)
  deadLetter id error := Act.zoom get put (queue.deadLetter id error)

/-- The point in time after a delay: too long a delay is refused, and one may lead out of the calendar. -/
def dueAfter (now : Instant) (delay : Duration) : Act σ QueueFault Instant :=
  if Duration.longestShift < delay then Act.fail .invalidDelay
  else match now.shift? delay with
    | some t => return t
    | none => Act.overflow

end Flowgraph
