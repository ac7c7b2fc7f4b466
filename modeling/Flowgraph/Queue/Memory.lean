import Flowgraph.Queue.Job

/-! A queue of delayed jobs with a clock of its own, which moves only when told to. A claim hides a
job until it is answered, or until its lease is over. -/

namespace Flowgraph

inductive Slot where
  | pending
  | claimed (since : Instant)
  | completed
  | deadLettered (error : String)
  deriving DecidableEq, Repr, Inhabited

structure QueueEntry where
  job : Job JobId
  slot : Slot
  deriving BEq, Repr, Inhabited

/-- Jobs in the order of their creation; none is ever removed. -/
structure DelayQueue where
  now : Instant
  entries : List QueueEntry
  deriving BEq, Repr, Inhabited

/-- Whether a claim made then is over. A lease that is too long never ends. -/
def leaseIsOver (since now : Instant) (lease : Duration) : Bool :=
  lease ≤ Duration.longestShift && (since.shift? lease).any (·.le now)

def QueueEntry.claimable (e : QueueEntry) (now : Instant) (lease : Duration) : Bool :=
  match e.slot with
  | .pending => e.job.runAt.le now
  | .claimed since => leaseIsOver since now lease
  | _ => false

namespace DelayQueue

def start (now : Instant) : DelayQueue := ⟨now, []⟩

def inSlot (q : DelayQueue) (holds : Slot → Bool) : List QueueEntry := q.entries.filter fun e => holds e.slot

def pending (q : DelayQueue) : List (Job JobId) := (q.inSlot (· == .pending)).map (·.job)
def completed (q : DelayQueue) : List (Job JobId) := (q.inSlot (· == .completed)).map (·.job)

/-- The dead-lettered jobs with the errors they failed with. -/
def deadLettered (q : DelayQueue) : List (Job JobId × String) :=
  q.entries.filterMap fun e => match e.slot with
    | .deadLettered error => some (e.job, error)
    | _ => none

def find? (q : DelayQueue) (id : JobId) : Option QueueEntry := q.entries.find? (·.job.id == id)

def update (q : DelayQueue) (id : JobId) (f : QueueEntry → QueueEntry) : DelayQueue :=
  { q with entries := q.entries.map fun e => if e.job.id = id then f e else e }

/-- The entry that is due first; of several the one created first. -/
def earliest? (entries : List QueueEntry) : Option QueueEntry := Instant.earliestBy (·.job.runAt) entries

/-- Moves the clock, unless by more than it can be moved. -/
def advance (by_ : Duration) : Act DelayQueue QueueFault Unit := do
  let q ← get
  if Duration.longestShift < by_ then return
  else match q.now.shift? by_ with
    | some now => set { q with now }
    | none => Act.overflow

def nextId (q : DelayQueue) : JobId := ⟨q.entries.length + 1⟩

def push (q : DelayQueue) (payload : Json) (runAt : Instant) : DelayQueue :=
  { q with entries := q.entries ++ [⟨⟨q.nextId, payload, runAt, 0⟩, .pending⟩] }

def enqueue (delay : Duration) (payload : Json) : Act DelayQueue QueueFault JobId := do
  let q ← get
  let runAt ← dueAfter q.now delay
  set (q.push payload runAt)
  return q.nextId

/-- An entry after one more delivery. -/
def delivered (e : QueueEntry) (now : Instant) : QueueEntry :=
  ⟨{ e.job with attempts := e.job.attempts + 1 }, .claimed now⟩

def claim (lease : Duration) : Act DelayQueue QueueFault (Option (Job JobId)) := do
  let q ← get
  match earliest? (q.entries.filter (·.claimable q.now lease)) with
  | none => return none
  | some e =>
    let e := delivered e q.now
    set (q.update e.job.id fun _ => e)
    return some e.job

def transition (id : JobId) (f : QueueEntry → QueueEntry) : Act DelayQueue QueueFault Unit := do
  let q ← get
  if (q.find? id).isSome then set (q.update id f) else Act.fail (.jobNotFound id)

def complete (id : JobId) : Act DelayQueue QueueFault Unit := transition id ({ · with slot := .completed })

def retry (id : JobId) (_error : String) (backoff : Duration) : Act DelayQueue QueueFault Unit := do
  let runAt ← dueAfter (← get).now backoff
  transition id fun e => ⟨{ e.job with runAt }, .pending⟩

def deadLetter (id : JobId) (error : String) : Act DelayQueue QueueFault Unit :=
  transition id ({ · with slot := .deadLettered error })

def operations : QueueOperations DelayQueue := ⟨enqueue, claim, complete, retry, deadLetter⟩

end DelayQueue
end Flowgraph
