import Flowgraph.Queue.Job

/-! The worker of a queue: it claims a job that is due, hands it over, and records how that went. A
job that fails comes back after a backoff that grows with its deliveries, until it has had enough. -/

namespace Flowgraph

structure WorkerConfig where
  maxAttempts : Nat
  lease : Duration
  retryBackoff : Duration
  deriving DecidableEq, Repr

def WorkerConfig.standard : WorkerConfig := ⟨3, .ofSeconds 300, .ofSeconds 30⟩

inductive JobOutcome where
  | completed | retrying | deadLettered
  deriving DecidableEq, Repr

/-- Takes a job; a failure is the text to record. -/
abbrev Handler (σ : Type) := Job JobId → Act σ String Unit

namespace Worker

def giveBack (queue : QueueOperations σ) (config : WorkerConfig) (job : Job JobId) (error : String) : Act σ QueueFault JobOutcome := do
  if config.maxAttempts ≤ job.attempts then
    queue.deadLetter job.id error
    return .deadLettered
  else
    queue.retry job.id error (Duration.times config.retryBackoff job.attempts)
    return .retrying

/-- Processes one job, if one is due. -/
def runOnce (queue : QueueOperations σ) (handle : Handler σ) (config : WorkerConfig) : Act σ QueueFault (Option JobOutcome) := do
  match ← queue.claim config.lease with
  | none => return none
  | some job => match ← Act.attempt (handle job) with
    | .ok _ =>
      queue.complete job.id
      return some .completed
    | .error error => return some (← giveBack queue config job error)

/-- One round of a worker, its failure included. -/
abbrev Round := Except (Failure QueueFault) (Option JobOutcome)

/-- As many rounds as asked for, whatever becomes of them. -/
def rounds (round : Act σ QueueFault (Option JobOutcome)) : Nat → StateM σ (List Round)
  | 0 => return []
  | n + 1 => do
    let result ← round.run
    return result :: (← rounds round n)

/-- Rounds until one of them finds nothing due, at most `n`. -/
def drain (round : Act σ QueueFault (Option JobOutcome)) : Nat → StateM σ (List Round)
  | 0 => return []
  | n + 1 => do
    match ← round.run with
    | .ok none => return []
    | result => return result :: (← drain round n)

/-- Rounds until one of them processes no job, at most `n`. -/
def run (round : Act σ QueueFault (Option JobOutcome)) : Nat → Act σ QueueFault Unit
  | 0 => return
  | n + 1 => do
    match ← Act.attempt round with
    | .ok (some _) => run round n
    | _ => return

end Worker
end Flowgraph
