import Flowgraph.Engine.Continuation
import Flowgraph.Engine.Walk
import Flowgraph.Queue.Worker
import Flowgraph.Run.Record

/-! Runs of automations. A run is recorded before any node of it, walks the part behind every trigger
on its own copy of the context, and ends in an update of its record. Delays take it up again later. -/

namespace Flowgraph

inductive ResumeNodes where
  | live
  | captured
  deriving DecidableEq, Repr

structure EngineConfig where
  maxDepth : Nat
  batchSize : Nat
  resumeNodes : ResumeNodes
  deriving DecidableEq, Repr

structure Backend (σ : Type) where
  caps : Capabilities σ
  freshRunId : StateM σ String
  create : RunRecord → Act σ StoreFault Unit
  update : String → RunUpdate → Act σ StoreFault Unit
  automation? : Uuid → Act σ StoreFault (Option Definition)

/-- What one walk left: its context, and the jobs of its suspended paths or the fault that ended it. -/
structure Branch where
  context : Context
  result : Except EngineFault (List String)

namespace Execution

def terrain (b : Backend σ) (config : EngineConfig) (nodes : List Node) : Terrain σ :=
  ⟨b.caps, config.batchSize, config.maxDepth, nodes⟩

/-- Walks from one trigger on a copy of the context. -/
def branch (t : Terrain σ) (c : Context) (trigger : Node) : Act σ EngineFault Branch := fun s =>
  match walk t trigger (c.fork, s) with
  | (.ok jobs, c, s) => (.ok ⟨c, .ok jobs⟩, s)
  | (.error (.cause e), c, s) => (.ok ⟨c, .error e⟩, s)
  | (.error .overflow, _, s) => (.error .overflow, s)

/-- The fields that differ from the seed. -/
def changes (seed : Json) (data : Json) : Fields :=
  (Path.entries data).filter fun (key, value) => seed.field? key != some value

/-- The context after all branches: their traces in order, and on the seed the changes of each. -/
def joined (c : Context) (branches : List Branch) : Context :=
  { c with
    logs := c.logs ++ branches.flatMap (·.context.logs)
    data := .object (branches.foldl (fun data b => Fields.merge data (changes c.data b.context.data)) (Path.entries c.data)) }

/-- The suspended jobs of all branches, or the fault of the first that failed. -/
def outcome : List Branch → Except EngineFault (List String)
  | [] => .ok []
  | b :: rest => do
    let jobs ← b.result
    return jobs ++ (← outcome rest)

/-- Stores an update made from a context; the entries that it takes along leave the context. -/
def persist (b : Backend σ) (update : Context → Instant → RunUpdate) : Act (Context × σ) StoreFault Unit := fun (c, s) =>
  let (result, s) := b.update c.executionId (update c (b.caps.now s)) s
  (result, c.fork, s)

/-- Records that a run failed. The fault is reported even where this cannot be recorded. -/
def recordFailure (b : Backend σ) (fault : EngineFault) : Walk σ α := do
  let _ ← Act.attempt (persist b (RunUpdate.failed fault.message))
  Act.fail fault

def finish (b : Backend σ) (status : Status) : Walk σ Unit :=
  Act.mapFault .store (persist b (RunUpdate.finished status))

/-- An action on a context that is not needed any more afterwards. -/
def onContext (c : Context) (act : Walk σ α) : Act σ EngineFault α := fun s =>
  let (result, _, s) := act (c, s)
  (result, s)

def runTriggers (b : Backend σ) (config : EngineConfig) (nodes : List Node) (c : Context) : Act σ EngineFault Unit := do
  let branches ← (nodes.filter Node.isTrigger).mapM (branch (terrain b config nodes) c)
  onContext (joined c branches) (match outcome branches with
    | .ok jobs => finish b (.ofSuspended jobs)
    | .error fault => recordFailure b fault)

/-- Runs an automation and gives the id of the run. With an id given it is a manual run, which an
inactive automation permits as well. -/
def execute (b : Backend σ) (config : EngineConfig) (d : Definition) (input : Json) (id? : Option String) :
    Act σ EngineFault String := do
  let id ← match id? with
    | some id => pure id
    | none => ExceptT.lift b.freshRunId
  let now := b.caps.now (← get)
  let context := Context.start id d.id d.organizationId input now
  Act.mapFault .store (b.create (.running context))
  if !d.isActive && id?.isNone then
    Act.mapFault .store (b.update id (.skipped now))
  else match Validation.checkRunnable d.nodes with
    | .error fault => onContext context (recordFailure b (.graph fault))
    | .ok _ => runTriggers b config d.nodes context
  return id

/-- Takes a run up at a node and records how that ended. -/
def continueAt (b : Backend σ) (config : EngineConfig) (nodes : List Node) (node : Node) : Walk σ Unit := do
  match ← Act.attempt (walk (terrain b config nodes) node) with
  | .ok jobs => finish b (.ofSuspended jobs)
  | .error fault => recordFailure b fault

/-- Takes a run up at each of the ids in turn. -/
def continueAll (b : Backend σ) (config : EngineConfig) (nodes : List Node) : List String → Walk σ Unit
  | [] => return
  | id :: rest => do
    match Node.find? nodes id with
    | none => recordFailure b (.missingNode id)
    | some node =>
      continueAt b config nodes node
      continueAll b config nodes rest

/-- The nodes to go on with: those captured, where the engine is set to use them and there are any. -/
def resumeNodes (b : Backend σ) (config : EngineConfig) (automation : Uuid) (captured : List Node) :
    Act σ EngineFault (List Node) := do
  if config.resumeNodes = .captured && !captured.isEmpty then return captured
  else match ← Act.mapFault .store (b.automation? automation) with
    | some d => return d.nodes
    | none => Act.fail (.automationNotFound automation)

/-- Takes up a suspended run. -/
def resume (b : Backend σ) (config : EngineConfig) (k : Continuation) : Act σ EngineFault Unit := do
  let context := Context.restore k.context
  match ← Act.attempt (resumeNodes b config k.automationId k.nodes) with
  | .error fault => onContext context (recordFailure b fault)
  | .ok nodes =>
    if k.next.isEmpty then onContext context (finish b .completed)
    else onContext context (continueAll b config nodes k.next)

/-- Resumes the run of a job. A failure of the run itself has been recorded and is none of the
job's; only one of the infrastructure is reported, so that the job comes back. -/
def handler (b : Backend σ) (config : EngineConfig) : Handler σ := fun job => do
  match Continuation.decoder .direct job.payload with
  | .error e => Act.fail (EngineFault.invalidContinuation e.message).message
  | .ok k => match ← Act.attempt (resume b config k) with
    | .ok _ => return
    | .error fault =>
      if fault.faultClass = .infrastructure then Act.fail (": ".intercalate fault.chain) else return

end Execution
end Flowgraph
