import Flowgraph.Proofs.Action.Orderly
import Flowgraph.Proofs.Engine.Continuation
import Flowgraph.Proofs.Engine.Memory
import Flowgraph.Proofs.Engine.Trace

/-! What a walk leaves to the queue. Of each delay that it has passed it leaves one job, from which the run goes on behind the delay with
the data as they were there, and of nothing else any; so jobs, delays and their success entries match in their order, also where the
walk fails later. -/

namespace Flowgraph
open Act

variable {σ κ : Type}

def NodeKind.isDelay : NodeKind → Bool
  | .delay _ => true
  | _ => false

theorem NodeKind.name_eq_delay (kind : NodeKind) : (kind.name = "delay") = (kind.isDelay = true) := by cases kind <;> simp [name,isDelay]

namespace Stop

/-- A stop at a delay. Behind one that it has passed a walk does not go on. -/
def isPause (stop : Stop σ) : Bool := stop.node.kind.isDelay

/-- The run of a context as it is left at a stop: it goes on at the ids behind the stop, with the data there. -/
def continuation (stop : Stop σ) (c : Context) (nodes : List Node) : Continuation :=
  ⟨c.executionId,c.automationId,⟨c.executionId,c.automationId,c.organizationId,stop.arrival.1.data,c.startedAt,some stop.node.id⟩,
    stop.node.next,nodes⟩

theorem isPause_iff {stop : Stop σ} : stop.isPause = true ↔ ∃ minutes, stop.node.kind = .delay minutes := by
  unfold isPause
  cases stop.node.kind <;> simp [NodeKind.isDelay]

theorem onward_eq_nil {stop : Stop σ} (pause : stop.isPause = true) : stop.onward = [] := by
  obtain ⟨minutes,kind⟩ := isPause_iff.mp pause
  simp only [onward,kind]

end Stop

section traces

variable {t : Terrain σ} {node entry : Node} {p q r : Context × σ} {tree : WalkTree σ} {stops : List (Stop σ)} {ahead : List String}
  {reports : List (List LogEntry)}

/-- A success entry of a delay. -/
def LogEntry.tellsPause (e : LogEntry) : Bool := e.level = .success && e.action = "delay"

theorem LogEntry.tellsPause_of_ne {e : LogEntry} (other : e.level ≠ .success) : e.tellsPause = false := by simp [tellsPause,other]

theorem LogEntry.Marks.tellsPause {level : LogLevel} {message : String} {e : LogEntry} (marks : e.Marks node level message) :
    e.tellsPause = (level = .success && node.kind.isDelay) := by
  simp only [LogEntry.tellsPause,marks.level,marks.action,NodeKind.name_eq_delay,Bool.decide_eq_true]

theorem Opening.quiet {opening : List LogEntry} (opened : Opening node opening) : ∀ e ∈ opening, e.tellsPause = false := by
  obtain ⟨first,notes,rfl,start,own⟩ := opened
  refine List.forall_mem_cons.mpr ⟨?_,fun e noted => ?_⟩
  · rw [start.tellsPause]
    rfl
  · refine LogEntry.tellsPause_of_ne ?_
    obtain level | level := (own e noted).level <;> simp [level]

theorem Report.pauses {stop : Stop σ} {report : List LogEntry} (reported : Report stop.node report) :
    (report.filter LogEntry.tellsPause).map (·.nodeId) = ([stop].filter Stop.isPause).map (·.node.id) := by
  obtain ⟨opening,last,rfl,opened,success⟩ := reported
  have silent : opening.filter LogEntry.tellsPause = [] := List.filter_eq_nil_iff.mpr fun e member => by simp [opened.quiet e member]
  have told : last.tellsPause = stop.isPause := success.tellsPause
  rw [List.filter_append,silent,List.nil_append,List.filter_singleton,List.filter_singleton,told]
  cases stop.isPause
  · rfl
  · simp [success.nodeId]

theorem Trail.pauses (trail : Trail t entry p q tree stops ahead reports) :
    (reports.flatten.filter LogEntry.tellsPause).map (·.nodeId) = (stops.filter Stop.isPause).map (·.node.id) := by
  rw [trail.filter_map Report.pauses,← List.map_flatMap,← List.filter_flatMap,List.flatMap_singleton']

theorem Trail.node_of_stop (trail : Trail t entry p q tree stops ahead reports) : ∀ stop ∈ stops, stop.node ∈ entry :: t.nodes := by
  intro stop member
  have listed : .inl stop ∈ tree.preorder := trail.listed ▸ List.mem_append_left _ (List.mem_map_of_mem member)
  obtain same | inside := trail.grown.node_of_stop listed
  · exact Option.some.inj same ▸ List.mem_cons_self ..
  · exact List.mem_cons_of_mem _ inside

theorem Trail.leaf_of_pause (trail : Trail t entry p q tree stops ahead reports) {stop : Stop σ} {branches : List (WalkTree σ)}
    (part : WalkTree.Part (.grown stop branches) tree) (pause : stop.isPause = true) : branches = [] := by
  have listed := trail.grown.listed_of_part part
  rw [Stop.onward_eq_nil pause] at listed
  exact List.map_eq_nil_iff.mp listed

theorem enter_quiet {e : Failure EngineFault} (failed : Walk.enter t node p = (.error e,q)) :
    ∃ tail, q.1.logs = p.1.logs ++ tail ∧ ∀ e ∈ tail, e.tellsPause = false := by
  obtain ⟨opening,opened,left⟩ := enter_logs t node p
  rw [failed] at left
  cases e with
  | cause fault =>
    obtain ⟨last,cause,logs,marks,-⟩ := left
    refine ⟨opening ++ [last],by rw [logs,List.append_assoc],?_⟩
    rw [List.forall_mem_append,List.forall_mem_singleton,marks.tellsPause]
    exact ⟨opened.quiet,rfl⟩
  | overflow => exact ⟨opening,left,opened.quiet⟩

theorem Halt.quiet {next : String} {e : Failure EngineFault} (halt : Halt t entry stops next r e q) :
    ∃ tail, q.1.logs = r.1.logs ++ tail ∧ ∀ e ∈ tail, e.tellsPause = false := by
  cases halt with
  | failed _ _ entered => exact enter_quiet entered
  | tooDeep => exact ⟨[_],rfl,List.forall_mem_singleton.mpr rfl⟩
  | missing => exact ⟨[_],rfl,List.forall_mem_singleton.mpr rfl⟩

end traces

section tidiness

variable {t : Terrain σ} {I : σ → Prop} {node : Node} {p q : Context × σ}

theorem enter_tidy (orderly : t.caps.Orderly I) (decoded : node.Decoded) (tidy : Tidy I p) : Tidy I (Walk.enter t node p).2 := by
  have begun : Tidy I (Walk.log t node .start s!"Executing {node.kind.name} node" p).2 := ⟨tidy.data,tidy.state⟩
  have performed := ((Action.perform_tidies orderly t.batchSize t.nodes decoded).run _ begun).1
  rw [Walk.enter_apply]
  revert performed
  rcases Action.perform t.caps t.batchSize t.nodes node _ with ⟨(fault | _) | flow,q⟩ <;> intro performed
  · exact ⟨performed.data,performed.state⟩
  · exact performed
  · exact ⟨performed.data,performed.state⟩

theorem Course.tidy {stops : List (Stop σ)} (course : Course t p stops q) (orderly : t.caps.Orderly I)
    (decoded : ∀ stop ∈ stops, stop.node.Decoded) (tidy : Tidy I p) : ∀ stop ∈ stops, Tidy I stop.arrival := by
  induction course with
  | nil => exact List.forall_mem_nil _
  | cons entered _ ih =>
    obtain ⟨here,later⟩ := List.forall_mem_cons.mp decoded
    have left := enter_tidy orderly here tidy
    rw [entered] at left
    exact List.forall_mem_cons.mpr ⟨tidy,ih later left⟩

end tidiness

/-- A pending entry with the job that is left at a stop. -/
structure QueueEntry.LeftAt (e : QueueEntry) (nodes : List Node) (stop : Stop σ) : Prop where
  pending : e.slot = .pending
  payload : e.job.payload = (Continuation.ofSuspension (Action.suspension nodes stop.node stop.arrival.1)).json

/-- A pending entry with a job that takes up a run. -/
structure QueueEntry.TakesUp (e : QueueEntry) (k : Continuation) : Prop where
  pending : e.slot = .pending
  decoded : Continuation.decoder .direct e.job.payload = .ok k

theorem QueueEntry.LeftAt.takesUp {e : QueueEntry} {nodes : List Node} {stop : Stop σ} {c : Context} (left : e.LeftAt nodes stop)
    (run : c.SameRun stop.arrival.1) (decoded : ∀ node ∈ nodes, node.Decoded) (data : stop.arrival.1.data.Orderly) (proper : c.startedAt.Proper) :
    e.TakesUp (stop.continuation c nodes) := by
  refine ⟨left.pending,?_⟩
  have same : Continuation.ofSuspension (Action.suspension nodes stop.node stop.arrival.1) = stop.continuation c nodes := by
    simp only [Continuation.ofSuspension,Action.suspension,Context.pausedAt,Context.snapshot,Stop.continuation,run.executionId,run.automationId,
      run.organizationId,run.startedAt]
  have kept : (stop.continuation c nodes).canonical = stop.continuation c nodes := Continuation.canonical_eq decoded data
  rw [left.payload,same,Continuation.decoder_json _ .direct proper,kept]

/-- A rehearsal answers in an orderly way if its script is orderly; the contacts that it gives back it has been told. -/
theorem Rehearsal.orderly {script : Script} (http : ∀ status body, script.http = .respond status body → body.Orderly)
    (lists : ∀ list ∈ script.lists, list.source.Orderly) : Outside.Orderly outside (·.script = script) where
  answers call r fit same answer given := by
    subst same
    cases call with
    | http request =>
      cases told : r.script.http with
      | fail message =>
        rw [outside,told] at given
        cases given
      | respond status body =>
        rw [outside,told] at given
        cases given
        exact ⟨http status body told,⟨List.pairwise_singleton ..,List.forall_mem_singleton.mpr (.string _)⟩⟩
    | findList id organizationId =>
      cases given
      intro list found
      exact lists list (List.mem_reverse.mp (List.mem_of_find?_eq_some found))
    | createContact properties organizationId =>
      obtain rfl : Contact.mk (contactId (r.created.length + 1)) properties = answer := Except.ok.inj given
      exact fit
    | _ => trivial
  keeps call r _ same := by
    cases call with
    | email message => rw [outside]; split <;> exact same
    | whatsApp message => rw [outside]; split <;> exact same
    | contactsMatching filter organizationId => cases filter <;> exact same
    | _ => exact same

namespace Engine

theorem capabilities_orderly {outside : Outside κ} {I : κ → Prop} (orderly : outside.Orderly I) :
    (capabilities outside).Orderly fun s => I s.outside where
  answers request s fit state answer given := by
    refine orderly.answers request s.outside fit state answer ?_
    change (outside request s.outside).1.mapError Failure.cause = .ok answer at given
    cases result : (outside request s.outside).1 with
    | error e => rw [result] at given; cases given
    | ok other => rw [result] at given; cases given; rfl
  keeps request s fit state := orderly.keeps request s.outside fit state
  suspend minutes left s state := by
    rw [suspend_apply]
    cases resumption s.queue.now minutes with
    | ok runAt => exact state
    | error e => exact state

section deposits

variable {t : Terrain (Engine κ)} {outside : Outside κ}

/-- What a node leaves in the engine: the run and the queue as they were, with one entry more if a delay has been passed. -/
inductive Deposit (nodes : List Node) (stop : Stop (Engine κ)) : Except (Failure ε) Flow × Context × Engine κ → Prop where
  | none {result : Except (Failure ε) Flow} {q : Context × Engine κ} (run : stop.arrival.1.SameRun q.1)
      (queue : q.2.queue = stop.arrival.2.queue) (prompt : ∀ flow, result = .ok flow → stop.isPause = false ∧ flow.jobs = []) :
      Deposit nodes stop (result,q)
  | one {q : Context × Engine κ} {e : QueueEntry} (run : stop.arrival.1.SameRun q.1)
      (queue : q.2.queue = { stop.arrival.2.queue with entries := stop.arrival.2.queue.entries ++ [e] }) (pause : stop.isPause = true)
      (left : e.LeftAt nodes stop) : Deposit nodes stop (.ok (.suspend e.job.id.text),q)

theorem delay_deposit (outside : Outside κ) (nodes : List Node) {node : Node} {minutes : Float} (kind : node.kind = .delay minutes)
    (p : Context × Engine κ) : Deposit nodes ⟨node,p⟩ (Action.delay (capabilities outside) nodes node minutes p) := by
  obtain ⟨c,s⟩ := p
  cases fit : Action.isLength minutes with
  | false =>
    rw [Action.delay_unfit fit]
    exact .none (.refl c) rfl fun _ => nofun
  | true =>
    rw [Action.delay_fit fit,suspend_apply]
    cases resumption s.queue.now minutes with
    | error e => exact .none ⟨rfl,rfl,rfl,rfl⟩ rfl fun _ => nofun
    | ok runAt =>
      let e : QueueEntry := ⟨⟨s.queue.nextId,(Continuation.ofSuspension (Action.suspension nodes node c)).json,runAt,0⟩,.pending⟩
      exact .one (e := e) ⟨rfl,rfl,rfl,rfl⟩ rfl (Stop.isPause_iff.mpr ⟨minutes,kind⟩) ⟨rfl,rfl⟩

theorem perform_deposit (caps : t.caps = capabilities outside) (node : Node) (p : Context × Engine κ) :
    Deposit t.nodes ⟨node,p⟩ (Action.perform t.caps t.batchSize t.nodes node p) := by
  rw [caps]
  by_cases delayed : ∃ minutes, node.kind = .delay minutes
  · obtain ⟨minutes,kind⟩ := delayed
    simp only [Action.perform,kind]
    exact delay_deposit outside t.nodes kind p
  · -- No call that a node makes reaches the queue.
    have untouched : Coupling (capabilities outside) (capabilities outside) True fun q r : Context × Engine κ =>
        q = r ∧ p.1.SameRun q.1 ∧ q.2.queue = p.2.queue :=
      .same (fun _ same kept => ⟨kept.1.trans same,kept.2⟩) fun _ _ _ kept => kept
    have kept := (untouched.perform t.batchSize t.nodes t.nodes (not_exists.mp delayed) ⟨rfl,.refl _,rfl⟩).related.2
    have suits := Action.perform_suits (capabilities outside) t.batchSize t.nodes node p
    revert kept suits
    rcases Action.perform (capabilities outside) t.batchSize t.nodes node p with ⟨result,q⟩
    rintro ⟨run,queue⟩ suits
    refine .none run queue fun flow same => ⟨?_,(suits flow same).jobs_eq_nil (not_exists.mp delayed)⟩
    exact Bool.eq_false_iff.mpr fun pause => delayed (Stop.isPause_iff.mp pause)

theorem enter_deposit (caps : t.caps = capabilities outside) (node : Node) (p : Context × Engine κ) :
    Deposit t.nodes ⟨node,p⟩ (Walk.enter t node p) := by
  have performed := perform_deposit caps node (Walk.log t node .start s!"Executing {node.kind.name} node" p).2
  rw [Walk.enter_apply]
  generalize Action.perform t.caps t.batchSize t.nodes node _ = x at performed
  -- The entries that the walk itself writes change neither the run nor the queue.
  cases performed with
  | @none result q run queue prompt =>
    have same : p.1.SameRun q.1 := ⟨run.executionId,run.automationId,run.organizationId,run.startedAt⟩
    rcases result with (fault | _) | flow
    · exact .none ⟨same.executionId,same.automationId,same.organizationId,same.startedAt⟩ queue fun _ => nofun
    · exact .none same queue fun _ => nofun
    · refine .none ⟨same.executionId,same.automationId,same.organizationId,same.startedAt⟩ queue ?_
      rintro _ ⟨⟩
      exact prompt flow rfl
  | one run queue pause left =>
    exact .one ⟨run.executionId,run.automationId,run.organizationId,run.startedAt⟩ queue pause ⟨left.pending,left.payload⟩

/-- A course leaves an entry for each of its delays, in their order. -/
theorem course_deposits (caps : t.caps = capabilities outside) {p q : Context × Engine κ} {stops : List (Stop (Engine κ))}
    (course : Course t p stops q) :
    (∀ stop ∈ stops, p.1.SameRun stop.arrival.1) ∧ ∃ added,
      q.2.queue = { p.2.queue with entries := p.2.queue.entries ++ added } ∧
      List.Forall₂ (fun stop e => e.LeftAt t.nodes stop) (stops.filter Stop.isPause) added ∧
      stops.flatMap (Stop.jobs t) = jobTexts added := by
  induction course with
  | nil p => exact ⟨List.forall_mem_nil _,[],by simp,.nil,rfl⟩
  | @cons node p q r flow stops entered _ ih =>
    have deposit := enter_deposit caps node p
    have jobs : (Stop.mk node p).jobs t = flow.jobs := by rw [Stop.jobs,entered]
    rw [entered] at deposit
    obtain ⟨runs,added,grown,left,listed⟩ := ih
    have others (run : p.1.SameRun q.1) : ∀ stop ∈ Stop.mk node p :: stops, p.1.SameRun stop.arrival.1 :=
      List.forall_mem_cons.mpr ⟨.refl _,fun stop member => run.trans (runs stop member)⟩
    rw [List.flatMap_cons,jobs,listed]
    -- The entry of a delay stands before those that the rest of the course leaves.
    cases deposit with
    | none run queue prompt =>
      obtain ⟨passing,silent⟩ := prompt flow rfl
      refine ⟨others run,added,?_,?_,?_⟩
      · rw [grown,queue]
      · rwa [List.filter_cons_of_neg (by simp [passing])]
      · rw [silent,List.nil_append]
    | @one _ e run queue pause own =>
      refine ⟨others run,e :: added,?_,?_,rfl⟩
      · rw [grown,queue]
        simp
      · rw [List.filter_cons_of_pos pause]
        exact .cons own left

theorem halt_queue (caps : t.caps = capabilities outside) {entry : Node} {stops : List (Stop (Engine κ))} {next : String}
    {e : Failure EngineFault} {p q : Context × Engine κ} (halt : Halt t entry stops next p e q) : q.2.queue = p.2.queue := by
  cases halt with
  | @failed node _ _ _ _ entered =>
    have deposit := enter_deposit caps node p
    rw [entered] at deposit
    cases deposit with
    | none _ queue _ => exact queue
  | tooDeep => rfl
  | missing => rfl

/-- The entries that a walk has left by the end of its trail take the run up, each at its own delay. -/
theorem trail_deposits {I : κ → Prop} (caps : t.caps = capabilities outside) (orderly : outside.Orderly I) {entry : Node}
    (decoded : ∀ node ∈ entry :: t.nodes, node.Decoded) {p q : Context × Engine κ} (data : p.1.data.Orderly) (proper : p.1.startedAt.Proper)
    (state : I p.2.outside) {tree : WalkTree (Engine κ)} {stops : List (Stop (Engine κ))} {ahead : List String} {reports : List (List LogEntry)}
    (trail : Flowgraph.Trail t entry p q tree stops ahead reports) :
    ∃ added, q.2.queue = { p.2.queue with entries := p.2.queue.entries ++ added } ∧
      List.Forall₂ (fun stop e => e.TakesUp (stop.continuation p.1 t.nodes)) (stops.filter Stop.isPause) added ∧
      stops.flatMap (Stop.jobs t) = jobTexts added := by
  have tame : t.caps.Orderly fun s => I s.outside := caps ▸ capabilities_orderly orderly
  have tidy := trail.course.tidy tame (fun stop member => decoded _ (trail.node_of_stop stop member)) ⟨data,state⟩
  obtain ⟨runs,added,grown,left,jobs⟩ := course_deposits caps trail.course
  have each : ∀ stop ∈ stops.filter Stop.isPause, p.1.SameRun stop.arrival.1 ∧ stop.arrival.1.data.Orderly := by
    intro stop member
    have here := List.mem_of_mem_filter member
    exact ⟨runs stop here,(tidy stop here).data⟩
  refine ⟨added,grown,((List.forall₂_and_left _ _).mpr ⟨each,left⟩).imp ?_,jobs⟩
  rintro stop e ⟨⟨run,data⟩,left⟩
  exact left.takesUp run (fun node member => decoded node (List.mem_cons_of_mem _ member)) data proper

end deposits

/-- Of the delays that a walk has passed, and of these only, it leaves one job each, in their order and whatever becomes of it. The job takes
up the run at the ids behind the delay, with the data as they were there and the nodes of the walk; the walk itself goes on at none of these
ids. As many success entries tell of delays, and a walk that comes to its end gives the ids of the jobs. -/
theorem passed_delays_are_queued {outside : Outside κ} {I : κ → Prop} (orderly : outside.Orderly I) (config : EngineConfig) {nodes : List Node}
    {entry : Node} (decoded : ∀ node ∈ entry :: nodes, node.Decoded) {c : Context} {s : Engine κ} (data : c.data.Orderly)
    (proper : c.startedAt.Proper) (state : I s.outside) :
    let t := Execution.terrain (backend outside) config nodes
    let x := walk t entry (c,s)
    ∃ tree stops ahead reports r tail added, Flowgraph.Trail t entry (c,s) r tree stops ahead reports ∧
      x.2.1.logs = c.logs ++ reports.flatten ++ tail ∧ x.2.2.queue = { s.queue with entries := s.queue.entries ++ added } ∧
      List.Forall₂ (fun stop e => e.TakesUp (stop.continuation c nodes)) (stops.filter Stop.isPause) added ∧
      ((reports.flatten ++ tail).filter LogEntry.tellsPause).map (·.nodeId) = (stops.filter Stop.isPause).map (·.node.id) ∧
      (∀ stop branches, WalkTree.Part (.grown stop branches) tree → stop.isPause = true → branches = []) ∧
      ∀ jobs, x.1 = .ok jobs → jobs = jobTexts added ∧ ahead = [] ∧ tail = [] := by
  intro t x
  have taken : TakenFrom t entry (c,s) x := visit_taken (t.maxDepth + 1) entry (c,s)
  revert taken
  rcases x with ⟨e | jobs,q⟩
  · -- All entries have been left when the walk comes to the id at which it ends.
    rintro ⟨stops,next,ahead,r,explored,halt⟩
    obtain ⟨tree,reports,trail⟩ := Flowgraph.Trail.of_explored explored
    obtain ⟨added,grown,takesUp,-⟩ := trail_deposits rfl orderly decoded data proper state trail
    obtain ⟨tail,logs,quiet⟩ := halt.quiet
    refine ⟨tree,stops,next :: ahead,reports,r,tail,added,trail,?_,?_,takesUp,?_,fun _ _ => trail.leaf_of_pause,fun _ => nofun⟩
    · rw [logs,trail.logs]
    · rw [halt_queue rfl halt,grown]
    · have silent : tail.filter LogEntry.tellsPause = [] := List.filter_eq_nil_iff.mpr fun e member => by simp [quiet e member]
      rw [List.filter_append,silent,List.append_nil]
      exact trail.pauses
  · rintro ⟨stops,explored,rfl⟩
    obtain ⟨tree,reports,trail⟩ := Flowgraph.Trail.of_explored explored
    obtain ⟨added,grown,takesUp,jobs⟩ := trail_deposits rfl orderly decoded data proper state trail
    refine ⟨tree,stops,[],reports,q,[],added,trail,?_,grown,takesUp,?_,fun _ _ => trail.leaf_of_pause,?_⟩
    · rw [List.append_nil]
      exact trail.logs
    · rw [List.append_nil]
      exact trail.pauses
    · rintro _ ⟨⟩
      exact ⟨jobs,rfl,rfl⟩

def waywardEntry : Node := ⟨"start",["wait","make","wait","lost"],.trigger ⟨"crm","new",none⟩⟩

/-- A delay on two ways, a contact made between them, and in the end a way to nowhere. -/
def wayward : List Node := [waywardEntry,⟨"wait",["make"],.delay 5⟩,
  ⟨"make",[],.contacts ⟨.create,.object [("email",.string "ann@example.org"),("name",.string "Ann")]⟩⟩]

def waywardStart : Context × Engine Rehearsal := (.start "run" .nil .nil .null ⟨0,false⟩,.start (.start .plain) ⟨0,false⟩)

/-- The walk fails, and yet the run goes on from both visits of the delay. -/
theorem wayward_delays_are_queued :
    let x := walk (Execution.terrain (backend Rehearsal.outside) ⟨10,5,.captured⟩ wayward) waywardEntry waywardStart
    x.1 = .error (.cause (.missingNode "lost")) ∧ ∃ (first second : Stop (Engine Rehearsal)) (e e' : QueueEntry),
      x.2.2.queue.entries = [e,e'] ∧ first.node.id = "wait" ∧ second.node.id = "wait" ∧
      e.TakesUp (first.continuation waywardStart.1 wayward) ∧ e'.TakesUp (second.continuation waywardStart.1 wayward) := by
  intro x
  have failed : x.1 = .error (.cause (.missingNode "lost")) := by decide +kernel
  have two : x.2.2.queue.entries.length = 2 := by decide +kernel
  have told : (x.2.1.logs.filter LogEntry.tellsPause).map (·.nodeId) = ["wait","wait"] := by decide +kernel
  have decoded : ∀ node ∈ waywardEntry :: wayward, node.Decoded := by
    intro node member
    refine Node.decoded_iff.mpr ?_
    simp only [wayward,List.mem_cons,List.not_mem_nil,or_false] at member
    rcases member with rfl | rfl | rfl | rfl <;> rfl
  have outside : Outside.Orderly Rehearsal.outside (·.script = Script.plain) :=
    Rehearsal.orderly (fun _ _ same => by cases same; exact .null) (List.forall_mem_nil _)
  obtain ⟨tree,stops,ahead,reports,r,tail,added,-,logs,queue,takesUp,marks,-⟩ :=
    passed_delays_are_queued outside ⟨10,5,.captured⟩ decoded (c := waywardStart.1) (s := waywardStart.2) (Json.orderly_iff.mpr rfl)
      ⟨by decide,nofun⟩ rfl
  refine ⟨failed,?_⟩
  have entries : x.2.2.queue.entries = added := congrArg DelayQueue.entries queue
  have same : x.2.1.logs = reports.flatten ++ tail := logs
  rw [same,marks] at told
  rw [entries] at two ⊢
  obtain ⟨e,e',rfl⟩ := List.length_eq_two.mp two
  generalize stops.filter Stop.isPause = pauses at told takesUp
  cases takesUp with
  | @cons first _ _ _ own later =>
    cases later with
    | @cons second _ _ _ other none =>
      cases none
      simp only [List.map_cons,List.map_nil,List.cons.injEq,and_true] at told
      exact ⟨first,second,e,e',rfl,told.1,told.2,own,other⟩

end Engine
end Flowgraph
