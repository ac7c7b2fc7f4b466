import Flowgraph.Engine.Execution
import Flowgraph.Queue.Memory

/-! The engine with everything in memory: records and automations as lists, the delay queue with
its own clock, and whatever stands for the outside. -/

namespace Flowgraph

structure Engine (κ : Type) where
  outside : κ
  queue : DelayQueue
  records : List RunRecord
  automations : List Definition
  clock : Instant
  runs : Nat

namespace Engine

def start (outside : κ) (clock : Instant) : Engine κ := ⟨outside, .start clock, [], [], clock, 0⟩

def record? (s : Engine κ) (id : String) : Option RunRecord := s.records.find? (·.executionId == id)

/-- Adds a record, or replaces the one with its id. -/
def putRecord (r : RunRecord) (records : List RunRecord) : List RunRecord :=
  if records.any (·.executionId == r.executionId) then
    records.map fun old => if old.executionId = r.executionId then r else old
  else records ++ [r]

def applyTo (id : String) (u : RunUpdate) (records : List RunRecord) : List RunRecord :=
  records.map fun r => if r.executionId = id then r.apply u else r

def create (r : RunRecord) : Act (Engine κ) StoreFault Unit :=
  modify fun s => { s with records := putRecord r s.records }

def update (id : String) (u : RunUpdate) : Act (Engine κ) StoreFault Unit := do
  if ((← get).record? id).isSome then modify fun s => { s with records := applyTo id u s.records }
  else Act.fail (.executionNotFound id)

def findAutomation (id : Uuid) : Act (Engine κ) StoreFault (Option Definition) := do
  return (← get).automations.find? (·.id == id)

/-- Stores an automation in place of the one with its id. -/
def putAutomation (d : Definition) (s : Engine κ) : Engine κ :=
  { s with automations := s.automations.filter (·.id != d.id) ++ [d] }

def removeAutomation (id : Uuid) (s : Engine κ) : Engine κ :=
  { s with automations := s.automations.filter (·.id != id) }

/-- An action on the queue. -/
def onQueue (act : Act DelayQueue ε α) : Act (Engine κ) ε α :=
  Act.zoom (·.queue) (fun queue s => { s with queue }) act

def queueOperations : QueueOperations (Engine κ) := DelayQueue.operations.zoom (·.queue) fun queue s => { s with queue }

def capabilities (outside : Outside κ) : Capabilities (Engine κ) where
  now := (·.clock)
  call c := Act.zoom (·.outside) (fun k s => { s with outside := k }) (Outside.act outside c)
  suspend := Continuation.schedule queueOperations

def freshRunId : StateM (Engine κ) String := modifyGet fun s => (RunRecord.numberedId (s.runs + 1), { s with runs := s.runs + 1 })

def backend (outside : Outside κ) : Backend (Engine κ) :=
  ⟨capabilities outside, freshRunId, create, update, findAutomation⟩

/-- Resumes runs from the jobs that are due, one job at a time. -/
def workOnce (outside : Outside κ) (config : EngineConfig) (worker : WorkerConfig) :
    Act (Engine κ) QueueFault (Option JobOutcome) :=
  Worker.runOnce queueOperations (Execution.handler (backend outside) config) worker

end Engine
end Flowgraph
