import Flowgraph.Proofs.Engine.Lineage

/-! Runs go down the order of their nodes. Whatever a walk leaves in the queue stands at a delay that is not above the
node it started from, and a job that is taken up starts below its own delay; so the entries that come of a delivery
stand below the delivered one. -/

namespace Flowgraph
open Act

variable {κ : Type}

/-- A pending entry of a path that a run has suspended at a delay not above a place of the order, due in the calendar of the queue. -/
structure QueueEntry.LeftFrom (nodes : List Node) (order : List String) (place : Nat) (c : Context) (now : Instant) (e : QueueEntry) : Prop where
  pending : e.slot = .pending
  inRange : e.job.runAt.inRange = true
  leap : e.job.runAt.leap = now.leap
  payload : ∃ d node minutes, c.SameRun d ∧ node ∈ nodes ∧ node.kind = .delay minutes ∧ place ≤ order.idxOf node.id ∧
    e.job.payload = (Continuation.ofSuspension (Action.suspension nodes node d)).json

theorem QueueEntry.LeftFrom.weaken {nodes : List Node} {order : List String} {place place' : Nat} {c d : Context} {now : Instant} {e : QueueEntry}
    (left : e.LeftFrom nodes order place' d now) (above : place ≤ place') (same : c.SameRun d) : e.LeftFrom nodes order place c now := by
  obtain ⟨pending,inRange,leap,other,node,minutes,run,member,kind,below,payload⟩ := left
  exact ⟨pending,inRange,leap,other,node,minutes,same.trans run,member,kind,above.trans below,payload⟩

namespace Engine
open Execution

theorem resumption_due {now runAt : Instant} {minutes : Float} (due : resumption now minutes = .ok runAt) :
    runAt.inRange = true ∧ runAt.leap = now.leap := by
  unfold resumption at due
  cases length : Continuation.delay? minutes with
  | none => rw [length] at due; cases due
  | some delay =>
    rw [length] at due
    unfold dueResult at due
    dsimp only at due
    split at due
    · cases due
    · cases moved : now.shift? delay with
      | none => rw [moved] at due; cases due
      | some t =>
        rw [moved] at due
        cases due
        obtain ⟨shape,inside⟩ := Instant.shift?_eq_some moved
        exact ⟨inside,by rw [shape]⟩

/-- All that has come into the queue was left at delays not above a place of the order. -/
def Leaves (nodes : List Node) (order : List String) (place : Nat) (c : Context) (s s' : Engine κ) : Prop :=
  ∃ added, s'.queue = { s.queue with entries := s.queue.entries ++ added } ∧ ∀ e ∈ added, e.LeftFrom nodes order place c s.queue.now

namespace Leaves

variable {nodes : List Node} {order : List String} {place place' : Nat} {c d : Context} {s s' s'' : Engine κ}

theorem still (same : s'.queue = s.queue) : Leaves nodes order place c s s' :=
  ⟨[],by rw [same,List.append_nil],fun _ member => absurd member List.not_mem_nil⟩

theorem trans (first : Leaves nodes order place c s s') (second : Leaves nodes order place c s' s'') : Leaves nodes order place c s s'' := by
  obtain ⟨added,queue,left⟩ := first
  obtain ⟨more,queue',left'⟩ := second
  rw [queue] at left'
  refine ⟨added ++ more,by rw [queue',queue,List.append_assoc],fun e member => ?_⟩
  exact (List.mem_append.mp member).elim (left e) (left' e)

theorem weaken (leaves : Leaves nodes order place' d s s') (above : place ≤ place') (same : c.SameRun d) :
    Leaves nodes order place c s s' := by
  obtain ⟨added,queue,left⟩ := leaves
  exact ⟨added,queue,fun e member => (left e member).weaken above same⟩

theorem of_extended {nodes' : List Node} {c' : Context} {added : List QueueEntry} (leaves : Leaves nodes order place c s s')
    (extended : Extended nodes' c' s s' added) : ∀ e ∈ added, e.LeftFrom nodes order place c s.queue.now := by
  obtain ⟨others,queue,left⟩ := leaves
  have entries : s.queue.entries ++ others = s.queue.entries ++ added := by
    rw [extended.queue] at queue
    exact (congrArg DelayQueue.entries queue).symm
  exact List.append_cancel_left entries ▸ left

end Leaves

/-- A walk or a part of one that goes down the order from a place. -/
def Descends (nodes : List Node) (order : List String) (place : Nat) (p q : Context × Engine κ) : Prop :=
  p.1.SameRun q.1 ∧ Leaves nodes order place p.1 p.2 q.2

namespace Descends

variable {nodes : List Node} {order : List String} {place place' : Nat} {p q r : Context × Engine κ}

theorem still (same : p.1.SameRun q.1) (queue : q.2.queue = p.2.queue) : Descends nodes order place p q := ⟨same,.still queue⟩

theorem trans (first : Descends nodes order place p q) (second : Descends nodes order place q r) : Descends nodes order place p r :=
  ⟨first.1.trans second.1,first.2.trans (second.2.weaken (Nat.le_refl _) first.1)⟩

theorem weaken (descends : Descends nodes order place' p q) (above : place ≤ place') : Descends nodes order place p q :=
  ⟨descends.1,descends.2.weaken above (.refl _)⟩

end Descends

section
variable {nodes : List Node} {order : List String} (outside : Outside κ) (config : EngineConfig) {place : Nat}

theorem log_descends (t : Terrain (Engine κ)) (node : Node) (level : LogLevel) (message : String) (p : Context × Engine κ) :
    Descends nodes order place p (Walk.log t node level message p).2 := .still ⟨rfl,rfl,rfl,rfl⟩ rfl

theorem perform_descends {node : Node} (member : node ∈ nodes) (p : Context × Engine κ) :
    Descends nodes order (order.idxOf node.id) p (Action.perform (capabilities outside) config.batchSize nodes node p).2 := by
  by_cases delayed : ∃ minutes, node.kind = .delay minutes
  · obtain ⟨minutes,kind⟩ := delayed
    obtain ⟨c,s⟩ := p
    have shape : Action.perform (capabilities outside) config.batchSize nodes node = Action.delay (capabilities outside) nodes node minutes := by
      simp only [Action.perform,kind]
    rw [shape]
    cases fit : Action.isLength minutes with
    | false =>
      rw [Action.delay_unfit fit]
      exact .still (.refl c) rfl
    | true =>
      rw [Action.delay_fit fit,suspend_apply]
      cases due : resumption s.queue.now minutes with
      | error e => exact .still ⟨rfl,rfl,rfl,rfl⟩ rfl
      | ok runAt =>
        obtain ⟨inRange,leap⟩ := resumption_due due
        refine ⟨⟨rfl,rfl,rfl,rfl⟩,[_],rfl,fun e inside => ?_⟩
        rw [List.mem_singleton.mp inside]
        exact ⟨rfl,inRange,leap,c,node,minutes,.refl c,member,kind,Nat.le_refl _,rfl⟩
  · have prompt := not_exists.mp delayed
    have frame := frame outside config nodes
    obtain ⟨run,-,added,extended,none⟩ :=
      ((frame.coupling p).perform config.batchSize nodes nodes prompt ⟨rfl,frame.refl p⟩).related.2
    obtain rfl : added = [] := List.map_eq_nil_iff.mp none.symm
    have queue := extended.queue
    rw [List.append_nil] at queue
    exact .still run queue

theorem enter_descends {node : Node} (member : node ∈ nodes) (p : Context × Engine κ) :
    Descends nodes order (order.idxOf node.id) p (Walk.enter (terrain (backend outside) config nodes) node p).2 := by
  let t := terrain (backend outside) config nodes
  have began : Descends nodes order (order.idxOf node.id) p (Walk.log t node .start s!"Executing {node.kind.name} node" p).2 :=
    log_descends t node ..
  have performed := began.trans (perform_descends outside config member (Walk.log t node .start s!"Executing {node.kind.name} node" p).2)
  rw [Walk.enter_apply]
  revert performed
  change Descends _ _ _ _ (Action.perform t.caps t.batchSize t.nodes node _).2 → _
  rcases Action.perform t.caps t.batchSize t.nodes node _ with ⟨(fault | _) | flow,q⟩ <;> intro performed
  · exact performed.trans (log_descends t node ..)
  · exact performed
  · exact performed.trans (log_descends t node ..)

theorem follow_descends {t : Terrain (Engine κ)} {visit : Node → Walk (Engine κ) (List String)} {ids : List String}
    (visits : ∀ id ∈ ids, ∀ node ∈ t.nodes, node.id = id → ∀ p, Descends nodes order place p (visit node p).2) (origin : Node)
    (p : Context × Engine κ) : Descends nodes order place p (Walk.follow t visit origin ids p).2 := by
  induction ids generalizing p with
  | nil => exact .still (.refl _) rfl
  | cons id rest ih =>
    cases found : Node.find? t.nodes id with
    | none =>
      rw [Walk.follow_missing found]
      exact log_descends t origin ..
    | some node =>
      have first := visits id (List.mem_cons_self ..) node (List.mem_of_find?_eq_some found) (Validation.id_of_find? found) p
      rw [Walk.follow_cons found]
      revert first
      rcases visit node p with ⟨e | jobs,q⟩ <;> intro first
      · exact first
      · have others := ih (fun id known => visits id (List.mem_cons_of_mem _ known)) q
        revert others
        dsimp only
        rcases Walk.follow t visit origin rest q with ⟨e | more,r⟩ <;> intro others
        · exact first.trans others
        · exact first.trans others

theorem visit_descends (ordered : WellOrdered nodes order) (n : Nat) {node : Node} (member : node ∈ nodes) (p : Context × Engine κ) :
    Descends nodes order (order.idxOf node.id) p (Walk.visit (terrain (backend outside) config nodes) n node p).2 := by
  induction n generalizing node p with
  | zero => exact log_descends _ node ..
  | succ n ih =>
    have entered : Descends nodes order (order.idxOf node.id) p (Walk.enter (terrain (backend outside) config nodes) node p).2 :=
      enter_descends outside config member p
    have suits := Walk.enter_suits (terrain (backend outside) config nodes) node p
    rw [Walk.visit_succ]
    revert entered suits
    rcases Walk.enter (terrain (backend outside) config nodes) node p with ⟨e | flow,q⟩ <;> intro entered suits
    · exact entered
    · have behind : ∀ id ∈ flow.ids node, ∀ next ∈ nodes, next.id = id → ∀ p,
          Descends nodes order (order.idxOf node.id) p (Walk.visit (terrain (backend outside) config nodes) n next p).2 := by
        rintro id known next there rfl p
        exact (ih there p).weaken (ordered.forward node member next.id ((suits flow rfl).subset known)).2.le
      cases flow with
      | suspend job => exact entered
      | branch ids => exact entered.trans (follow_descends behind node q)
      | next => exact entered.trans (follow_descends behind node q)

theorem walk_descends (ordered : WellOrdered nodes order) {node : Node} (member : node ∈ nodes) (p : Context × Engine κ) :
    Descends nodes order (order.idxOf node.id) p (walk (terrain (backend outside) config nodes) node p).2 :=
  visit_descends outside config ordered _ member p

theorem update_queue (id : String) (u : RunUpdate) (s : Engine κ) : (Engine.update id u s).2.queue = s.queue := by
  unfold Engine.update
  rw [bind_apply,get_apply]
  dsimp only
  split <;> rfl

theorem finish_descends (status : Status) (p : Context × Engine κ) :
    Descends nodes order place p (finish (backend outside) status p).2 := .still ⟨rfl,rfl,rfl,rfl⟩ (update_queue ..)

theorem recordFailure_descends (fault : EngineFault) (p : Context × Engine κ) :
    Descends nodes order place p (recordFailure (backend outside) fault p : Except (Failure EngineFault) α × Context × Engine κ).2 := by
  unfold recordFailure
  rw [bind_apply,attempt]
  have stored : Descends nodes order place p (persist (backend outside) (RunUpdate.failed fault.message) p).2 :=
    .still ⟨rfl,rfl,rfl,rfl⟩ (update_queue ..)
  revert stored
  rcases persist (backend outside) (RunUpdate.failed fault.message) p with ⟨(e | _) | _,q⟩ <;> exact id

theorem continueAt_descends (ordered : WellOrdered nodes order) {node : Node} (member : node ∈ nodes) (p : Context × Engine κ) :
    Descends nodes order (order.idxOf node.id) p (continueAt (backend outside) config nodes node p).2 := by
  have walked := walk_descends outside config ordered member p
  unfold continueAt
  rw [bind_apply,attempt]
  revert walked
  rcases walk (terrain (backend outside) config nodes) node p with ⟨(fault | _) | jobs,q⟩ <;> intro walked
  · exact walked.trans (recordFailure_descends outside fault q)
  · exact walked
  · exact walked.trans (finish_descends outside _ q)

theorem continueAll_descends (ordered : WellOrdered nodes order) {ids : List String} (below : ∀ id ∈ ids, place ≤ order.idxOf id)
    (p : Context × Engine κ) : Descends nodes order place p (continueAll (backend outside) config nodes ids p).2 := by
  induction ids generalizing p with
  | nil => exact .still (.refl _) rfl
  | cons id rest ih =>
    unfold continueAll
    cases found : Node.find? nodes id with
    | none => exact recordFailure_descends outside _ p
    | some node =>
      have same := Validation.id_of_find? found
      have first := (continueAt_descends outside config ordered (List.mem_of_find?_eq_some found) p).weaken
        (same ▸ below id (List.mem_cons_self ..))
      dsimp only
      rw [bind_apply]
      revert first
      rcases continueAt (backend outside) config nodes node p with ⟨e | _,q⟩ <;> intro first
      · exact first
      · exact first.trans (ih (fun id known => below id (List.mem_cons_of_mem _ known)) q)

/-- A run that is taken up at ids below a place leaves nothing above it. -/
theorem resume_leaves {k : Continuation} {s : Engine κ} (found : nodesFor config k.automationId k.nodes s = some nodes)
    (ordered : WellOrdered nodes order) (below : ∀ id ∈ k.next, place ≤ order.idxOf id) :
    Leaves nodes order place (Context.restore k.context) s (resume (backend outside) config k s).2 := by
  unfold resume
  rw [bind_apply,attempt,resumeNodes_apply,found]
  dsimp only
  split
  · exact (finish_descends outside .completed (Context.restore k.context,s)).2
  · exact (continueAll_descends outside config ordered below (Context.restore k.context,s)).2

theorem branch_leaves (ordered : WellOrdered nodes order) {trigger : Node} (member : trigger ∈ nodes) (c : Context) (s : Engine κ) :
    Leaves nodes order 0 c s (branch (terrain (backend outside) config nodes) c trigger s).2 := by
  have walked := (walk_descends outside config ordered member (c.fork,s)).2.weaken (Nat.zero_le _) (show c.SameRun c.fork from ⟨rfl,rfl,rfl,rfl⟩)
  unfold branch
  revert walked
  rcases walk (terrain (backend outside) config nodes) trigger (c.fork,s) with ⟨(fault | _) | jobs,d,t⟩ <;> exact id

theorem branches_leave (ordered : WellOrdered nodes order) {triggers : List Node} (members : triggers ⊆ nodes) (c : Context) (s : Engine κ) :
    Leaves nodes order 0 c s (triggers.mapM (branch (terrain (backend outside) config nodes) c) s).2 := by
  induction triggers generalizing s with
  | nil => exact .still rfl
  | cons trigger rest ih =>
    have first := branch_leaves outside config ordered (members (List.mem_cons_self ..)) c s
    rw [List.mapM_cons,bind_apply]
    revert first
    rcases branch (terrain (backend outside) config nodes) c trigger s with ⟨e | b,t⟩ <;> intro first
    · exact first
    · dsimp only
      rw [state_bind_pure]
      exact first.trans (ih (fun node member => members (List.mem_cons_of_mem _ member)) t)

theorem runTriggers_leaves (ordered : WellOrdered nodes order) (c : Context) (s : Engine κ) :
    Leaves nodes order 0 c s (runTriggers (backend outside) config nodes c s).2 := by
  have members : nodes.filter Node.isTrigger ⊆ nodes := List.filter_subset_self nodes
  have walked := branches_leave outside config ordered members c s
  unfold runTriggers
  rw [bind_apply]
  revert walked
  rcases (nodes.filter Node.isTrigger).mapM (branch (terrain (backend outside) config nodes) c) s with ⟨e | branches,t⟩ <;> intro walked
  · exact walked
  · dsimp only
    have run : c.SameRun (joined c branches) := ⟨rfl,rfl,rfl,rfl⟩
    cases outcome branches with
    | ok jobs => exact walked.trans ((finish_descends outside _ (joined c branches,t)).2.weaken (Nat.zero_le 0) run)
    | error fault => exact walked.trans ((recordFailure_descends outside fault (joined c branches,t)).2.weaken (Nat.zero_le 0) run)

/-- Whatever a run leaves, it leaves at delays of its automation. -/
theorem execute_leaves {d : Definition} (ordered : WellOrdered d.nodes order) (input : Json) (id? : Option String) (s : Engine κ) :
    Leaves d.nodes order 0 (openingContext d input id? s) s (execute (backend outside) config d input id? s).2 := by
  rw [execute_apply,state_bind_pure]
  have began : Leaves d.nodes order 0 (openingContext d input id? s) s (opened d input id? s) := .still rfl
  refine began.trans ?_
  unfold carryOut
  split
  · exact .still (update_queue ..)
  · cases Validation.checkRunnable d.nodes with
    | error fault => exact (recordFailure_descends outside _ (openingContext d input id? s,opened d input id? s)).2
    | ok _ => exact runTriggers_leaves outside config ordered _ _

end

end Engine
end Flowgraph
