import Flowgraph.CommandLine.Session
import Flowgraph.Engine.Deployment

/-! The commands that work on a database that is there: a worker, which goes on until it is
interrupted, and the setting up of tables. What they do is told by the events of their log. -/

namespace Flowgraph.CommandLine

inductive Event where
  | started
  | delivered (outcome : JobOutcome)
  | interrupted
  | stopped
  | migrated
  deriving DecidableEq, Repr

structure Served where
  code : Nat
  events : List Event
  deriving DecidableEq, Repr

def WorkerOptions.config (o : WorkerOptions) : WorkerConfig :=
  ⟨o.maxAttempts, .ofSeconds o.leaseSecs, .ofSeconds o.retryBackoffSecs⟩

def deliveries (rounds : List Worker.Round) : List Event :=
  rounds.filterMap fun
    | .ok (some outcome) => some (.delivered outcome)
    | _ => none

/-- A worker that is interrupted after a number of rounds. -/
def work (options : WorkerOptions) (script : Script) (rounds : Nat) : StateM Database (List Event) := fun d =>
  let round := Deployment.workOnce outside config options.config
  let (results, s) := Worker.rounds round rounds ⟨Rehearsal.start script, d, 0⟩
  ([.started] ++ deliveries results ++ [.interrupted, .stopped], s.database)

/-- Carries out a command on the database; one that needs none is no different without it. -/
def serve (s : Surroundings) (args : List String) (rounds : Nat) : StateM Database Served := fun d =>
  let broken : Served := ⟨1, []⟩
  match read s.database args with
  | .ok (.worker options) =>
    if (DatabaseAddress.fault? options.databaseUrl).isSome then (broken, d)
    else match readScript s options.contacts with
      | .error _ => (broken, d)
      | .ok script => let (events, d) := work options script rounds d; (⟨0, events⟩, d)
  | .ok (.migrate url) => if (DatabaseAddress.fault? url).isSome then (broken, d) else (⟨0, [.migrated]⟩, d)
  | _ => (⟨(session s args).code, []⟩, d)

end Flowgraph.CommandLine
