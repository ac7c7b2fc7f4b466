import Flowgraph.Engine.Execution
import Flowgraph.Store.Database

/-! The engine over a database: records, automations, jobs and messages are rows, and only requests
and contacts are left to the outside. -/

namespace Flowgraph

structure Deployment (κ : Type) where
  outside : κ
  database : Database
  runs : Nat

namespace Deployment

def start (outside : κ) (now : Instant) : Deployment κ := ⟨outside, .start now, 0⟩

def onDatabase (act : Act Database ε α) : Act (Deployment κ) ε α :=
  Act.zoom (·.database) (fun database s => { s with database }) act

def queueOperations : QueueOperations (Deployment κ) :=
  Database.queueOperations.zoom (·.database) fun database s => { s with database }

/-- Messages go into the database, all other calls to the outside. -/
def call (outside : Outside κ) (c : Call) : Act (Deployment κ) NodeFault c.Answer :=
  match c with
  | .email m => onDatabase (Database.sendEmail m)
  | .whatsApp m => onDatabase (Database.sendWhatsApp m)
  | c => Act.zoom (·.outside) (fun k s => { s with outside := k }) (Outside.act outside c)

def capabilities (outside : Outside κ) : Capabilities (Deployment κ) :=
  ⟨(·.database.clock), call outside, Continuation.schedule queueOperations⟩

def freshRunId : StateM (Deployment κ) String :=
  modifyGet fun s => (RunRecord.numberedId (s.runs + 1), { s with runs := s.runs + 1 })

def backend (outside : Outside κ) : Backend (Deployment κ) where
  caps := capabilities outside
  freshRunId
  create r := onDatabase (Database.onRuns (RunTable.create r))
  update id u := onDatabase (Database.onRuns (RunTable.update id u))
  automation? id := onDatabase (Database.findAutomation id)

/-- Resumes the run of a job that is due, if there is one. -/
def workOnce (outside : Outside κ) (config : EngineConfig) (worker : WorkerConfig) :
    Act (Deployment κ) QueueFault (Option JobOutcome) :=
  Worker.runOnce queueOperations (Execution.handler (backend outside) config) worker

end Deployment
end Flowgraph
