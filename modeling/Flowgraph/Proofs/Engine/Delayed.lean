import Flowgraph.Proofs.Engine.History
import Flowgraph.Proofs.Engine.Rejoined

/-! Delayed runs go on as they would have gone on at once. What a delay leaves in the queue brings back the run, and taking
it up has the same effects, the same end and the same trace as walking on. -/

namespace Flowgraph.Engine
open Act Execution

variable {κ : Type} {outside : Outside κ} {config : EngineConfig} {nodes : List Node}

/-- A run that has been resumed has taken the course of the walk at once from an origin: the same uses of the capabilities in their
order, and the same end. Its record tells the same data and a trace that is alike, but for an edge that leads nowhere. -/
structure SameCourse (nodes : List Node) (origin : Node) (r : RunRecord) (direct : Context)
    (x : Except (Failure EngineFault) Unit × List Use × Engine κ)
    (y : Except (Failure EngineFault) (List String) × Context × List Use × Engine κ) : Prop where
  result : x.1 = y.1.map fun _ => ()
  uses : x.2.1 = y.2.2.1
  outside : x.2.2.outside = y.2.2.2.outside
  stored : x.1 ≠ .error .overflow → ∃ r' xs ys more, x.2.2.record? r.executionId = some r' ∧ r'.output = some y.2.1.data ∧
    r'.logs = r.logs ++ xs ∧ y.2.1.logs = direct.logs ++ ys ++ more ∧ List.Forall₂ LogEntry.Alike xs ys ∧
    (more = [] ∨ ∃ id ∈ origin.next, Node.find? nodes id = none ∧ y.1 = .error (.cause (.missingNode id)) ∧
      ∃ time, more = [⟨time,origin.id,.error,origin.kind.name,(EngineFault.missingNode id).message⟩])

theorem SameCourse.of_rejoined {now now' : Instant} {origin : Node} {r : RunRecord} {direct : Context}
    {x : Except (Failure EngineFault) Unit × Context × List Use × Engine κ}
    {y : Except (Failure EngineFault) (List String) × Context × List Use × Engine κ}
    (rejoined : Rejoined (terrain (backend outside).noted config nodes) r.executionId r.logs direct.logs now now' origin origin.next x y)
    (shallow : ¬TooDeep x.1) (shallow' : ¬TooDeep y.1)
    (inside : now = now' ∨ x.1 ≠ .error .overflow ∧ y.1 ≠ .error .overflow) :
    SameCourse nodes origin r direct (x.1,x.2.2) y := by
  cases rejoined with
  | done along stored =>
    obtain ⟨r',xs,ys,found,output,logs,logs',alike⟩ := along.stored stored
    exact ⟨rfl,along.uses.symm,along.outside.symm,fun _ => ⟨r',xs,ys,[],found,output,logs,by rw [List.append_nil,logs'],alike,.inl rfl⟩⟩
  | failed fault along stored =>
    obtain ⟨r',xs,ys,found,output,logs,logs',alike⟩ := along.stored stored
    exact ⟨rfl,along.uses.symm,along.outside.symm,fun _ => ⟨r',xs,ys,[],found,output,logs,by rw [List.append_nil,logs'],alike,.inl rfl⟩⟩
  | @dangling p q id edge missing along stored =>
    obtain ⟨r',xs,ys,found,output,logs,logs',alike⟩ := along.stored stored
    let entry : LogEntry := ⟨q.2.2.clock,origin.id,.error,origin.kind.name,(EngineFault.missingNode id).message⟩
    have whole : q.1.logs ++ [entry] = direct.logs ++ ys ++ [entry] := congrArg (· ++ [entry]) logs'
    refine ⟨rfl,along.uses.symm,along.outside.symm,fun _ => ⟨r',xs,ys,[entry],found,output,logs,whole,alike,.inr ?_⟩⟩
    exact ⟨id,edge,missing,rfl,_,rfl⟩
  | overflow along => exact ⟨rfl,along.uses.symm,along.outside.symm,fun other => absurd rfl other⟩
  | apart lenient beyond => exact inside.elim (absurd · lenient) fun inside => beyond.elim (absurd · inside.1) (absurd · inside.2)
  | deep deep => exact deep.elim (absurd · shallow) (absurd · shallow')

theorem resumeNodes_live (outside : Outside κ) {automation : Uuid} {captured : List Node} {definition : Definition} {s : Engine κ}
    (live : config.resumeNodes = .live) (known : s.automations.find? (·.id == automation) = some definition) (uses : List Use) :
    resumeNodes (backend outside).noted config automation captured (uses,s) = (.ok definition.nodes,uses,s) := by
  have looked : mapFault EngineFault.store ((backend outside).noted.automation? automation) (uses,s) =
      (.ok (s.automations.find? (·.id == automation)),uses,s) := rfl
  unfold resumeNodes
  rw [if_neg (by simp [live]),bind_ok looked,known]
  rfl

/-- A resumed run and a walk at once from where it was suspended, in the same state of the outside. -/
theorem resume_sameCourse (outside : Outside κ) {k : Continuation} {definition : Definition} {origin : Node} {r : RunRecord}
    {direct : Context} {s t : Engine κ} (n : Nat) (live : config.resumeNodes = .live)
    (known : s.automations.find? (·.id == k.automationId) = some definition) (recorded : s.record? k.context.executionId = some r)
    (next : k.next = origin.next) (run : (Context.restore k.context).SameRun direct) (data : direct.data = k.context.data)
    (same : t.outside = s.outside) :
    let b := (backend outside).noted
    let x := resume b config k ([],s)
    let y := Walk.follow (terrain b config definition.nodes) (Walk.visit (terrain b config definition.nodes) n) origin origin.next (direct,[],t)
    ¬TooDeep x.1 → ¬TooDeep y.1 → (s.queue.now = t.queue.now ∨ x.1 ≠ .error .overflow ∧ y.1 ≠ .error .overflow) →
      SameCourse definition.nodes origin r direct x y := by
  have begun : Alongside r.executionId r.logs direct.logs s.queue.now t.queue.now (Context.restore k.context,[],s) (direct,[],t) := by
    have named := executionId_of_record? recorded
    refine ⟨named.symm,run,data,rfl,same,rfl,rfl,r,[],[],?_,rfl,(List.append_nil _).symm,.nil⟩
    rw [named]
    exact recorded
  intro b x y
  -- The resumed run is that of its context, which is not needed any more afterwards.
  suffices whole : ∃ act, x = onContext (Context.restore k.context) act ([],s) ∧ Rejoined (terrain b config definition.nodes)
      r.executionId r.logs direct.logs s.queue.now t.queue.now origin origin.next (act (Context.restore k.context,[],s)) y by
    obtain ⟨act,shape,rejoined⟩ := whole
    rw [shape]
    exact fun shallow shallow' inside => .of_rejoined rejoined shallow shallow' inside
  unfold x y resume
  rw [bind_apply,attempt,resumeNodes_live outside live known,next]
  dsimp only
  split
  · next empty =>
    obtain ⟨p,finished,along,stored⟩ := begun.finish outside .completed
    refine ⟨finish b .completed,rfl,?_⟩
    rw [finished,List.isEmpty_iff.mp empty]
    exact .done along stored
  · next some =>
    refine ⟨continueAll b config definition.nodes origin.next,rfl,?_⟩
    exact continueAll_rejoined begun outside config definition.nodes n origin origin.next fun none => absurd (by simp [none]) some

/-- A delay hands a run over to the queue, and the payload of its job brings the run back as it would have walked on at once. Between
the delay and the claim anything may happen that leaves the job its payload. The data is a bag as runs hold it, each of its keys once
and in order. -/
theorem delayed_run_walks_on (outside : Outside κ) (config : EngineConfig) (nodes : List Node) {d : Node} {minutes : Float} {c : Context} {s : Engine κ} {runAt : Instant}
    (kind : d.kind = .delay minutes) (fit : Action.isLength minutes = true) (due : resumption s.queue.now minutes = .ok runAt)
    (bag : c.data.canonical = c.data) (proper : c.startedAt.Proper) (live : config.resumeNodes = .live) :
    ∃ e c', Action.perform (capabilities outside) config.batchSize nodes d (c,s) =
        (.ok (.suspend e.job.id.text),c',{ s with queue := { s.queue with entries := s.queue.entries ++ [e] } }) ∧
      ∀ lease t t' job, queueOperations.claim lease t = (.ok (some job),t') → job.id = e.job.id →
        (∀ old ∈ t.queue.entries, old.job.id = e.job.id → old.job.payload = e.job.payload) →
        ∃ k, Continuation.decoder .direct job.payload = .ok k ∧
          ∀ definition r, t.automations.find? (·.id == c.automationId) = some definition → definition.nodes = nodes →
          t.record? c.executionId = some r → ∀ n direct u, c.SameRun direct → direct.data = c.data → u.outside = t.outside →
            let b := (backend outside).noted
            let x := resume b config k ([],t')
            let y := Walk.follow (terrain b config nodes) (Walk.visit (terrain b config nodes) n) d d.next (direct,[],u)
            ¬TooDeep x.1 → ¬TooDeep y.1 → (t.queue.now = u.queue.now ∨ x.1 ≠ .error .overflow ∧ y.1 ≠ .error .overflow) →
              SameCourse nodes d r direct x y := by
  let payload := (Continuation.ofSuspension (Action.suspension nodes d c)).json
  obtain ⟨c',performed⟩ : ∃ c', Action.perform (capabilities outside) config.batchSize nodes d (c,s) =
      (.ok (.suspend s.queue.nextId.text),c',{ s with queue := s.queue.push payload runAt }) := by
    simp only [Action.perform,kind]
    rw [Action.delay_fit fit,suspend_apply,due]
    exact ⟨_,rfl⟩
  refine ⟨⟨⟨s.queue.nextId,payload,runAt,0⟩,.pending⟩,c',performed,?_⟩
  intro lease t t' job took same kept
  rw [claim_apply] at took
  obtain nothing | ⟨old,member,-,taken⟩ := DelayQueue.claim_cases lease t.queue
  · rw [nothing] at took
    cases took
  rw [taken] at took
  cases took
  have brought : (DelayQueue.delivered old t.queue.now).job.payload = payload := kept old member same
  rw [brought]
  refine ⟨_,Continuation.decoder_json _ .direct proper,?_⟩
  rintro definition r known rfl recorded n direct u run data outside'
  have restored : (Continuation.ofSuspension (Action.suspension definition.nodes d c)).canonical.context.data = c.data := bag
  exact resume_sameCourse outside n live known recorded rfl ⟨run.executionId,run.automationId,run.organizationId,run.startedAt⟩
    (data.trans restored.symm) outside'

def registering : Definition := ⟨.nil,.nil,"registering",true,[⟨"start",["pause"],.trigger ⟨"crm","new",none⟩⟩,
  ⟨"pause",["register"],.delay 0⟩,⟨"register",[],.contacts ⟨.create,.object []⟩⟩],⟨0,false⟩,⟨0,false⟩⟩

def registeringDelay : Node := ⟨"pause",["register"],.delay 0⟩

def registeringContext : Context := openingContext registering .null (some "run") (after [.put registering])

/-- The state in which a run of it is on record, and nothing else has happened. -/
def registeringState : Engine Unit := opened registering .null (some "run") (after [.put registering])

def registeringPaused : Engine Unit :=
  (Action.perform (capabilities silent) 10 registering.nodes registeringDelay (registeringContext,registeringState)).2.2

/-- How the job of the delay ends. -/
def registeringOutcome : Except (Failure EngineFault) Unit :=
  match queueOperations.claim WorkerConfig.standard.lease registeringPaused with
  | (.ok (some job),t) => match Continuation.decoder .direct job.payload with
    | .ok k => (resume (backend silent).noted standard k ([],t)).1
    | .error _ => .ok ()
  | _ => .ok ()

/-- The run fails behind the delay, as nobody answers, and so does the walk at once. -/
theorem registering_run_walks_on :
    let b := (backend silent).noted
    ∃ job t k r, queueOperations.claim WorkerConfig.standard.lease registeringPaused = (.ok (some job),t) ∧
      Continuation.decoder .direct job.payload = .ok k ∧
      SameCourse registering.nodes registeringDelay r registeringContext (resume b standard k ([],t))
        (Walk.follow (terrain b standard registering.nodes) (Walk.visit (terrain b standard registering.nodes) 5) registeringDelay
          registeringDelay.next (registeringContext,[],registeringState)) := by
  intro b
  have due : ∃ runAt, resumption registeringState.queue.now 0 = .ok runAt := by
    have some : (resumption registeringState.queue.now 0).toOption.isSome = true := by decide +kernel
    cases result : resumption registeringState.queue.now 0 with
    | ok runAt => exact ⟨runAt,rfl⟩
    | error e => rw [result] at some; cases some
  obtain ⟨runAt,due⟩ := due
  have proper : registeringContext.startedAt.Proper := ⟨by decide +kernel,nofun⟩
  obtain ⟨e,c',performed,rest⟩ := delayed_run_walks_on silent standard registering.nodes (d := registeringDelay) (c := registeringContext)
    rfl (by decide +kernel) due rfl proper rfl
  have paused : registeringPaused = { registeringState with queue := { registeringState.queue with entries := registeringState.queue.entries ++ [e] } } :=
    congrArg (·.2.2) performed
  have single : ∀ old ∈ registeringPaused.queue.entries, old.job.id = ⟨1⟩ := by decide +kernel
  have first : (queueOperations.claim WorkerConfig.standard.lease registeringPaused).1.toOption.join.map (·.id) = some ⟨1⟩ := by decide +kernel
  have failed : registeringOutcome = .error (.cause (.nodeFailed "register" (.effect "nobody answers"))) := by decide +kernel
  have failed' : (Walk.follow (terrain b standard registering.nodes) (Walk.visit (terrain b standard registering.nodes) 5) registeringDelay
      registeringDelay.next (registeringContext,[],registeringState)).1 = .error (.cause (.nodeFailed "register" (.effect "nobody answers"))) := by
    decide +kernel
  have entries : registeringPaused.queue.entries = [e] := by rw [paused]; rfl
  have own : e.job.id = ⟨1⟩ := single e (by rw [entries]; exact List.mem_singleton_self e)
  obtain ⟨job,t,claimed,numbered⟩ : ∃ job t, queueOperations.claim WorkerConfig.standard.lease registeringPaused = (.ok (some job),t) ∧ job.id = ⟨1⟩ := by
    rcases claimed : queueOperations.claim WorkerConfig.standard.lease registeringPaused with ⟨_ | _ | job,t⟩ <;> rw [claimed] at first
    · cases first
    · cases first
    · exact ⟨job,t,rfl,Option.some.inj first⟩
  obtain ⟨k,decoded,course⟩ := rest WorkerConfig.standard.lease registeringPaused t job claimed (numbered.trans own.symm) (by
    intro old member _
    rw [entries] at member
    rw [List.mem_singleton.mp member])
  rw [registeringOutcome,claimed] at failed
  dsimp only at failed
  rw [decoded] at failed
  dsimp only at failed
  have known : registeringPaused.automations.find? (·.id == registeringContext.automationId) = some registering := by rw [paused]; rfl
  have opening : registeringState.record? registeringContext.executionId = some (.running registeringContext) :=
    (record?_opened (s := after [.put registering]) registering .null (some "run") _).trans (if_pos rfl)
  have recorded : registeringPaused.record? registeringContext.executionId = some (.running registeringContext) := by
    rw [paused]
    exact opening
  refine ⟨job,t,k,_,claimed,decoded,course registering _ known rfl recorded 5 registeringContext registeringState ⟨rfl,rfl,rfl,rfl⟩ rfl rfl ?_ ?_ ?_⟩
  · rintro ⟨fault,deep,limit⟩
    rw [failed] at deep
    cases deep
    cases limit
  · rintro ⟨fault,deep,limit⟩
    rw [failed'] at deep
    cases deep
    cases limit
  · rw [paused]
    exact .inl rfl

end Flowgraph.Engine
