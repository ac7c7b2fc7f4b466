import Flowgraph.Proofs.Engine.Abreast

/-! Runs over two backends that answer alike. They come to the same, whether they are started, taken up again or delivered, as
long as both find the same nodes to go on with. -/

namespace Flowgraph
open Act Execution

variable {σ τ : Type}

/-- Two backends that answer alike from related states. Suspensions need to be answered alike only where the run has begun at a
time and is left with nodes of a kind. -/
structure Parallel (b : Backend σ) (b' : Backend τ) (timely : Instant → Prop) (captured : List Node → Prop) (S : σ → τ → Prop) : Prop where
  now : ∀ {s t}, S s t → b'.caps.now t = b.caps.now s
  clock : ∀ {s t}, S s t → timely (b.caps.now s)
  call : ∀ request {s t}, S s t → Agree True S Eq (b.caps.call request s) (b'.caps.call request t)
  suspend : ∀ minutes {left s t}, timely left.context.startedAt → captured left.nodes → S s t →
    Agree True S Eq (b.caps.suspend minutes left s) (b'.caps.suspend minutes left t)
  freshRunId : ∀ {s t}, S s t → (b.freshRunId s).1 = (b'.freshRunId t).1 ∧ S (b.freshRunId s).2 (b'.freshRunId t).2
  create : ∀ r {s t}, S s t → Agree True S Eq (b.create r s) (b'.create r t)
  update : ∀ id u {s t}, S s t → Agree True S Eq (b.update id u s) (b'.update id u t)

/-- A call that takes a run up again, at a node or at each of the ids that a job names. -/
inductive Takeup where
  | resume (k : Continuation)
  | continueAt (nodes : List Node) (node : Node) (left : Snapshot)

namespace Takeup

/-- The context that the run goes on from. -/
def context : Takeup → Context
  | resume k => .restore k.context
  | continueAt _ _ left => .restore left

/-- The nodes that the call brings along. -/
def nodes : Takeup → List Node
  | resume k => k.nodes
  | continueAt nodes _ _ => nodes

def run (b : Backend σ) (config : EngineConfig) : Takeup → Act σ EngineFault Unit
  | resume k => Execution.resume b config k
  | continueAt nodes node left => Execution.onContext (.restore left) (Execution.continueAt b config nodes node)

end Takeup

/-- One and the same context in related states. -/
structure Level (timely : Instant → Prop) (S : σ → τ → Prop) (p : Context × σ) (q : Context × τ) : Prop where
  context : p.1 = q.1
  began : timely p.1.startedAt
  states : S p.2 q.2

namespace Level

variable {timely : Instant → Prop} {S : σ → τ → Prop} {caps : Capabilities σ} {caps' : Capabilities τ} {p : Context × σ} {q : Context × τ}

theorem outside {act : Act σ NodeFault α} {act' : Act τ NodeFault α} (level : Level timely S p q) (agree : Agree True S Eq (act p.2) (act' q.2)) :
    Agree True (Level timely S) Eq (Step.outside act p) (Step.outside act' q) := by
  obtain ⟨context,began,-⟩ := level
  simp only [Step.outside,zoom]
  generalize act p.2 = x,act' q.2 = y at agree
  cases agree with
  | ok same states => exact .ok same ⟨context,began,states⟩
  | error e states => exact .error e ⟨context,began,states⟩
  | left lenient => exact absurd trivial lenient
  | right lenient => exact absurd trivial lenient

theorem coupling (now : ∀ {s t}, S s t → caps'.now t = caps.now s)
    (call : ∀ request {s t}, S s t → Agree True S Eq (caps.call request s) (caps'.call request t)) : Coupling caps caps' True (Level timely S) where
  data level := congrArg Context.data level.context
  organization level := congrArg Context.organizationId level.context
  log := by
    rintro c _ s t id level action message ⟨⟨⟩,began,states⟩
    refine ⟨?_,began,states⟩
    dsimp only
    rw [now states]
  change := by
    rintro c _ s t data ⟨⟨⟩,began,states⟩
    exact ⟨rfl,began,states⟩
  call request level := level.outside (call request level.states)

/-- A delay, given that its suspension is answered alike; the nodes that the run takes along may differ. -/
theorem delay (level : Level timely S p q) (now : ∀ {s t}, S s t → caps'.now t = caps.now s) {nodes nodes' : List Node} {node : Node}
    {minutes : Float} (suspends : Agree True S Eq (caps.suspend minutes (Action.suspension nodes node p.1) p.2)
      (caps'.suspend minutes (Action.suspension nodes' node p.1) q.2)) :
    Agree True (Level timely S) Eq (Action.delay caps nodes node minutes p) (Action.delay caps' nodes' node minutes q) := by
  obtain ⟨c,s⟩ := p
  obtain ⟨d,t⟩ := q
  obtain ⟨same,began,states⟩ := level
  obtain rfl : c = d := same
  cases length : Action.isLength minutes with
  | false =>
    rw [Action.delay_unfit length,Action.delay_unfit length]
    exact .error _ ⟨rfl,began,states⟩
  | true =>
    rw [Action.delay_fit length,Action.delay_fit length]
    dsimp only at suspends
    generalize caps.suspend minutes (Action.suspension nodes node c) s = x,
      caps'.suspend minutes (Action.suspension nodes' node c) t = y at suspends
    cases suspends with
    | @ok job _ s t same states =>
      cases same
      refine .ok rfl ⟨?_,began,states⟩
      dsimp only
      rw [now states]
    | error e states => exact .error e ⟨rfl,began,states⟩
    | left lenient => exact absurd trivial lenient
    | right lenient => exact absurd trivial lenient

end Level

namespace Parallel

variable {b : Backend σ} {b' : Backend τ} {timely : Instant → Prop} {captured : List Node → Prop} {S : σ → τ → Prop}
  {config : EngineConfig} {nodes : List Node} {c : Context} {s : σ} {t : τ} {p : Context × σ} {q : Context × τ}

theorem coupling (parallel : Parallel b b' timely captured S) : Coupling b.caps b'.caps True (Level timely S) :=
  Level.coupling parallel.now parallel.call

theorem tracks (parallel : Parallel b b' timely captured S) (config : EngineConfig) (fit : captured nodes) :
    Tracks (terrain b config nodes) (terrain b' config nodes) True Eq (Level timely S) where
  toCoupling := parallel.coupling
  nodes := rfl
  batchSize := rfl
  jobs _ := rfl
  delay _ level := by
    refine (level.delay parallel.now (parallel.suspend _ level.began fit level.states)).weaken ?_ fun _ _ => id
    rintro flow _ rfl
    exact .refl (fun _ => rfl) flow

theorem walk (parallel : Parallel b b' timely captured S) (config : EngineConfig) (fit : captured nodes) (node : Node) (level : Level timely S p q) :
    Agree True (Level timely S) Eq (Flowgraph.walk (terrain b config nodes) node p) (Flowgraph.walk (terrain b' config nodes) node q) := by
  have walked := (parallel.tracks config fit).visit False (fun _ => rfl) (config.maxDepth + 1) _ (fun _ => rfl) node level
  exact (walked.resolve_left (·.1)).weaken (fun _ _ => (congrFun₂ List.forall₂_eq_eq_eq _ _).mp) fun _ _ => id

theorem persist (parallel : Parallel b b' timely captured S) (update : Context → Instant → RunUpdate) (level : Level timely S p q) :
    Agree True (Level timely S) Eq (Execution.persist b update p) (Execution.persist b' update q) := by
  obtain ⟨c,s⟩ := p
  obtain ⟨_,t⟩ := q
  obtain ⟨⟨⟩,began,states⟩ := level
  have stored := parallel.update c.executionId (update c (b.caps.now s)) states
  simp only [Execution.persist]
  rw [parallel.now states]
  generalize b.update c.executionId (update c (b.caps.now s)) s = x,b'.update c.executionId (update c (b.caps.now s)) t = y at stored
  cases stored with
  | ok same states => exact .ok same ⟨rfl,began,states⟩
  | error e states => exact .error e ⟨rfl,began,states⟩
  | left lenient => exact absurd trivial lenient
  | right lenient => exact absurd trivial lenient

theorem recordFailure (parallel : Parallel b b' timely captured S) (fault : EngineFault) (level : Level timely S p q) :
    Agree True (Level timely S) (Eq : α → α → Prop) (Execution.recordFailure b fault p) (Execution.recordFailure b' fault q) := by
  refine (parallel.persist _ level).attempt_eq.bind ?_
  rintro _ _ p q - level
  exact .error _ level

theorem finish (parallel : Parallel b b' timely captured S) (status : Status) (level : Level timely S p q) :
    Agree True (Level timely S) Eq (Execution.finish b status p) (Execution.finish b' status q) := (parallel.persist _ level).mapFault _

theorem continueAt (parallel : Parallel b b' timely captured S) (config : EngineConfig) (fit : captured nodes) (node : Node)
    (level : Level timely S p q) :
    Agree True (Level timely S) Eq (Execution.continueAt b config nodes node p) (Execution.continueAt b' config nodes node q) := by
  refine (parallel.walk config fit node level).attempt_eq.bind ?_
  rintro result _ p q rfl level
  cases result with
  | ok jobs => exact parallel.finish _ level
  | error fault => exact parallel.recordFailure fault level

theorem continueAll (parallel : Parallel b b' timely captured S) (config : EngineConfig) (fit : captured nodes) (ids : List String)
    (level : Level timely S p q) :
    Agree True (Level timely S) Eq (Execution.continueAll b config nodes ids p) (Execution.continueAll b' config nodes ids q) := by
  induction ids generalizing p q with
  | nil => exact .ok rfl level
  | cons id rest ih =>
    unfold Execution.continueAll
    cases Node.find? nodes id with
    | none => exact parallel.recordFailure _ level
    | some node =>
      refine (parallel.continueAt config fit node level).bind ?_
      rintro _ _ p q - level
      exact ih level

theorem onContext (c : Context) {act : Walk σ α} {act' : Walk τ α} (agree : Agree True (Level timely S) Eq (act (c,s)) (act' (c,t))) :
    Agree True S Eq (Execution.onContext c act s) (Execution.onContext c act' t) := by
  simp only [Execution.onContext]
  generalize act (c,s) = x,act' (c,t) = y at agree
  cases agree with
  | ok same level => exact .ok same level.states
  | error e level => exact .error e level.states
  | left lenient => exact absurd trivial lenient
  | right lenient => exact absurd trivial lenient

theorem branch (parallel : Parallel b b' timely captured S) (config : EngineConfig) (fit : captured nodes) (began : timely c.startedAt)
    (trigger : Node) (states : S s t) :
    Agree True S Eq (Execution.branch (terrain b config nodes) c trigger s) (Execution.branch (terrain b' config nodes) c trigger t) := by
  have start : Level timely S (c.fork,s) (c.fork,t) := ⟨rfl,began,states⟩
  have walked := parallel.walk config fit trigger start
  unfold Execution.branch
  generalize Flowgraph.walk (terrain b config nodes) trigger (c.fork,s) = x,
    Flowgraph.walk (terrain b' config nodes) trigger (c.fork,t) = y at walked
  cases walked with
  | @ok jobs _ p q same level =>
    obtain ⟨context,-,states⟩ := level
    exact .ok (by rw [same,context]) states
  | @error p q e level =>
    obtain ⟨context,-,states⟩ := level
    cases e with
    | cause fault => exact .ok (by rw [context]) states
    | overflow => exact .error _ states
  | left lenient => exact absurd trivial lenient
  | right lenient => exact absurd trivial lenient

theorem runTriggers (parallel : Parallel b b' timely captured S) (config : EngineConfig) (fit : captured nodes) (began : timely c.startedAt)
    (states : S s t) : Agree True S Eq (Execution.runTriggers b config nodes c s) (Execution.runTriggers b' config nodes c t) := by
  refine (Agree.mapM (fun trigger _ _ states => parallel.branch config fit began trigger states) _ states).bind ?_
  rintro branches _ s t rfl states
  have joint : Level timely S (joined c branches,s) (joined c branches,t) := ⟨rfl,began,states⟩
  cases outcome branches with
  | ok jobs => exact onContext _ (parallel.finish _ joint)
  | error fault => exact onContext _ (parallel.recordFailure fault joint)

/-- Runs come to the same; they look for no automation. -/
theorem execute (parallel : Parallel b b' timely captured S) (config : EngineConfig) {d : Definition}
    (fit : Validation.checkRunnable d.nodes = .ok () → captured d.nodes) (input : Json) (id? : Option String) (states : S s t) :
    Agree True S Eq (Execution.execute b config d input id? s) (Execution.execute b' config d input id? t) := by
  have named : Agree True S Eq (ExceptT.lift b.freshRunId s : Except (Failure EngineFault) String × σ) (ExceptT.lift b'.freshRunId t) :=
    .ok (parallel.freshRunId states).1 (parallel.freshRunId states).2
  unfold Execution.execute
  cases id?
  case' none => refine named.bind ?_
  case' some id => refine Agree.bind (R := S) (Q := Eq) (.ok rfl states) ?_
  -- The id is known now, and the rest of both cases is the same.
  all_goals
    rintro id _ s t rfl states
    refine Agree.bind (R := S) (Q := S) (.ok states states) ?_
    rintro s' t' s t also states
    rw [parallel.now also]
    have began : timely (Context.start id d.id d.organizationId input (b.caps.now s')).startedAt := parallel.clock also
    refine ((parallel.create _ states).mapFault _).bind ?_
    rintro _ _ s t - states
    dsimp only
    split
    · refine ((parallel.update id _ states).mapFault _).bind ?_
      rintro _ _ s t - states
      exact .ok rfl states
    · cases runnable : Validation.checkRunnable d.nodes with
      | error fault =>
        refine (onContext _ (parallel.recordFailure _ ⟨rfl,began,states⟩)).bind ?_
        rintro _ _ s t - states
        exact .ok rfl states
      | ok _ =>
        refine (parallel.runTriggers config (fit runnable) began states).bind ?_
        rintro _ _ s t - states
        exact .ok rfl states

/-- Runs that are taken up come to the same, where the nodes to go on with are the same. -/
theorem resume (parallel : Parallel b b' timely captured S) {k : Continuation} (began : timely k.context.startedAt)
    (found : Agree True S (fun xs ys => xs = ys ∧ captured xs) (resumeNodes b config k.automationId k.nodes s)
      (resumeNodes b' config k.automationId k.nodes t)) :
    Agree True S Eq (Execution.resume b config k s) (Execution.resume b' config k t) := by
  have start {s t} (states : S s t) : Level timely S (Context.restore k.context,s) (Context.restore k.context,t) := ⟨rfl,began,states⟩
  refine found.attempt.bind ?_
  rintro _ _ s t (⟨nodes,_,rfl,rfl,rfl,fit⟩ | ⟨fault,rfl,rfl⟩) states
  · dsimp only
    split
    · exact onContext _ (parallel.finish _ (start states))
    · exact onContext _ (parallel.continueAll config fit k.next (start states))
  · exact onContext _ (parallel.recordFailure fault (start states))

/-- Deliveries come to the same, where taking up their runs does. -/
theorem handler {job : Job JobId} (states : S s t) (taken : ∀ k, Continuation.decoder .direct job.payload = .ok k →
      Agree True S Eq (Execution.resume b config k s) (Execution.resume b' config k t)) :
    Agree True S Eq (Execution.handler b config job s) (Execution.handler b' config job t) := by
  unfold Execution.handler
  cases decoded : Continuation.decoder .direct job.payload with
  | error e => exact .error _ states
  | ok k =>
    refine (taken k decoded).attempt_eq.bind ?_
    rintro result _ s t rfl states
    cases result with
    | ok _ => exact .ok rfl states
    | error fault =>
      dsimp only
      split
      · exact .error _ states
      · exact .ok rfl states

end Parallel
end Flowgraph
