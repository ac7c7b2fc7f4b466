import Flowgraph.Engine.Execution
import Flowgraph.Proofs.Action.Coupling
import Flowgraph.Proofs.Action.Delay
import Flowgraph.Proofs.Action.Flow

/-! What a walk leaves behind. A frame relates the state before some steps to the state after them and
to the jobs left by suspended paths; it is made of the steps that a node can take. Whatever becomes of a
walk lies within every frame, a failed walk with the jobs of the paths before the failure. -/

namespace Flowgraph
open Act

variable {σ : Type}

namespace Walk

theorem enter_apply (t : Terrain σ) (node : Node) (p : Context × σ) :
    enter t node p = match Action.perform t.caps t.batchSize t.nodes node (log t node .start s!"Executing {node.kind.name} node" p).2 with
      | (.ok flow,q) => (.ok flow,(log t node .success s!"Completed {node.kind.name} node" q).2)
      | (.error (.cause fault),q) => (.error (.cause (.ofNode node.id fault)),(log t node .error fault.message q).2)
      | (.error .overflow,q) => (.error .overflow,q) := by
  unfold enter
  rw [bind_apply]
  change (attempt _ >>= _) (log t node .start s!"Executing {node.kind.name} node" p).2 = _
  rw [bind_apply,attempt]
  rcases Action.perform t.caps t.batchSize t.nodes node _ with ⟨(fault | _) | flow,q⟩ <;> rfl

/-- A node is left in one of the ways that its kind allows. -/
theorem enter_suits (t : Terrain σ) (node : Node) : Returns (Flow.Suits node) (enter t node) := by
  intro p flow same
  rw [enter_apply] at same
  have suits := Action.perform_suits t.caps t.batchSize t.nodes node (log t node .start s!"Executing {node.kind.name} node" p).2
  revert same suits
  rcases Action.perform t.caps t.batchSize t.nodes node _ with ⟨(fault | _) | done,q⟩ <;> intro same suits <;> cases same
  exact suits flow rfl

theorem follow_missing {t : Terrain σ} {visit : Node → Walk σ (List String)} {origin : Node} {id : String} {rest : List String}
    {p : Context × σ} (missing : Node.find? t.nodes id = none) :
    follow t visit origin (id :: rest) p = (.error (.cause (.missingNode id)),(log t origin .error (EngineFault.missingNode id).message p).2) := by
  unfold follow
  rw [missing]
  rfl

theorem follow_cons {t : Terrain σ} {visit : Node → Walk σ (List String)} {origin node : Node} {id : String} {rest : List String}
    {p : Context × σ} (found : Node.find? t.nodes id = some node) :
    follow t visit origin (id :: rest) p = match visit node p with
      | (.error e,q) => (.error e,q)
      | (.ok jobs,q) => match follow t visit origin rest q with
        | (.error e,r) => (.error e,r)
        | (.ok more,r) => (.ok (jobs ++ more),r) := by
  rw [follow,found]
  dsimp only
  rw [bind_apply]
  rcases visit node p with ⟨e | jobs,q⟩
  · rfl
  · dsimp only
    rw [bind_apply]
    rcases follow t visit origin rest q with ⟨e | more,r⟩ <;> rfl

/-- The rest of a visit once the node itself has been dealt with. -/
def onward (t : Terrain σ) (n : Nat) (node : Node) : Flow → Walk σ (List String)
  | .suspend job => pure [job]
  | .branch ids => follow t (visit t n) node ids
  | .next => follow t (visit t n) node node.next

theorem visit_succ (t : Terrain σ) (n : Nat) (node : Node) (p : Context × σ) :
    visit t (n + 1) node p = match enter t node p with
      | (.ok flow,q) => onward t n node flow q
      | (.error e,q) => (.error e,q) := by
  rw [visit,bind_apply]
  rcases enter t node p with ⟨e | flow,q⟩
  · rfl
  · cases flow <;> rfl

end Walk

/-- What no node changes about the run it belongs to. -/
structure Context.SameRun (c d : Context) : Prop where
  executionId : d.executionId = c.executionId
  automationId : d.automationId = c.automationId
  organizationId : d.organizationId = c.organizationId
  startedAt : d.startedAt = c.startedAt

theorem Context.SameRun.refl (c : Context) : c.SameRun c := ⟨rfl,rfl,rfl,rfl⟩

theorem Context.SameRun.trans {a b c : Context} (first : a.SameRun b) (second : b.SameRun c) : a.SameRun c :=
  ⟨second.executionId.trans first.executionId,second.automationId.trans first.automationId,
    second.organizationId.trans first.organizationId,second.startedAt.trans first.startedAt⟩

theorem Context.SameRun.symm {a b : Context} (same : a.SameRun b) : b.SameRun a :=
  ⟨same.executionId.symm,same.automationId.symm,same.organizationId.symm,same.startedAt.symm⟩

/-- A property that neither calls nor changes of the context within a run take away is kept by every node that is no delay. -/
theorem Coupling.same {caps : Capabilities σ} {J : Context × σ → Prop} (context : ∀ {c d} s, c.SameRun d → J (c,s) → J (d,s))
    (call : ∀ request c s, J (c,s) → J (c,(caps.call request s).2)) : Coupling caps caps True fun p q => p = q ∧ J p where
  data := by rintro p _ ⟨rfl,-⟩; rfl
  organization := by rintro p _ ⟨rfl,-⟩; rfl
  log := by
    rintro c d s t id level action message ⟨same,holds⟩
    cases same
    exact ⟨rfl,context (c := c) s ⟨rfl,rfl,rfl,rfl⟩ holds⟩
  change := by
    rintro c d s t data ⟨same,holds⟩
    cases same
    exact ⟨rfl,context (c := c) s ⟨rfl,rfl,rfl,rfl⟩ holds⟩
  call := by
    rintro ⟨c,s⟩ _ request ⟨rfl,holds⟩
    have next : J (Step.outside (caps.call request) (c,s)).2 := call request c s holds
    revert next
    rcases Step.outside (caps.call request) (c,s) with ⟨e | answer,r⟩ <;> intro next
    · exact .error e ⟨rfl,next⟩
    · exact .ok rfl ⟨rfl,next⟩

/-- A suspension that has succeeded leaves its job, one that has failed leaves none. -/
def jobsOf (result : Except ε String) : List String := result.toOption.toList

structure Frame (t : Terrain σ) (M : List String → Context × σ → Context × σ → Prop) : Prop where
  refl : ∀ p, M [] p p
  trans : ∀ {xs ys p q r}, M xs p q → M ys q r → M (xs ++ ys) p r
  context : ∀ {c d} (s), c.SameRun d → M [] (c,s) (d,s)
  call : ∀ call c s, M [] (c,s) (c,(t.caps.call call s).2)
  suspend : ∀ {node minutes} c s, node ∈ t.nodes → node.kind = .delay minutes →
    let outcome := t.caps.suspend minutes (Action.suspension t.nodes node c) s
    M (jobsOf outcome.1) (c.pausedAt node,s) (c.pausedAt node,outcome.2)

/-- An outcome within a frame: a value tells which jobs are left, a failure does not. -/
def Within (M : List String → σ → σ → Prop) (jobs : α → List String) (p : σ) (x : Except (Failure ε) α × σ) : Prop :=
  ∃ xs, M xs p x.2 ∧ ∀ a, x.1 = .ok a → xs = jobs a

namespace Within

variable {M : List String → σ → σ → Prop} {jobs : α → List String} {p q : σ}

theorem ok {a : α} (step : M (jobs a) p q) : Within (ε := ε) M jobs p (.ok a,q) := ⟨_,step,fun _ same => by cases same; rfl⟩

theorem error {xs : List String} {e : Failure ε} (step : M xs p q) : Within M jobs p (.error e,q) := ⟨xs,step,fun _ => nofun⟩

theorem after {jobs' : α → List String} {xs : List String} {x : Except (Failure ε) α × σ}
    (trans : ∀ {xs ys p q r}, M xs p q → M ys q r → M (xs ++ ys) p r) (step : M xs p q) (rest : Within M jobs' q x)
    (adds : ∀ a, xs ++ jobs' a = jobs a) : Within M jobs p x := by
  obtain ⟨ys,last,accounted⟩ := rest
  refine ⟨xs ++ ys,trans step last,fun a same => ?_⟩
  rw [accounted a same,adds]

end Within

namespace Frame

variable {t : Terrain σ} {M : List String → Context × σ → Context × σ → Prop}

theorem log (frame : Frame t M) (node : Node) (level : LogLevel) (message : String) (p : Context × σ) :
    M [] p (Walk.log t node level message p).2 := frame.context p.2 ⟨rfl,rfl,rfl,rfl⟩

theorem coupling (frame : Frame t M) (p₀ : Context × σ) : Coupling t.caps t.caps True fun p q => p = q ∧ M [] p₀ p :=
  .same (fun s same step => frame.trans step (frame.context s same)) fun request c s step => frame.trans step (frame.call request c s)

theorem delay (frame : Frame t M) {node : Node} {minutes : Float} (member : node ∈ t.nodes) (kind : node.kind = .delay minutes)
    (p : Context × σ) : Within M Flow.jobs p (Action.delay t.caps t.nodes node minutes p) := by
  obtain ⟨c,s⟩ := p
  have entered : M [] (c,s) (c.pausedAt node,s) := frame.context s ⟨rfl,rfl,rfl,rfl⟩
  have left := frame.trans entered (frame.suspend c s member kind)
  cases fit : Action.isLength minutes with
  | false =>
    rw [Action.delay_unfit fit]
    exact .error (frame.refl _)
  | true =>
    rw [Action.delay_fit fit]
    revert left
    rcases t.caps.suspend minutes (Action.suspension t.nodes node c) s with ⟨e | job,r⟩ <;> intro left
    · exact .error left
    · exact .ok (frame.trans left (frame.context r ⟨rfl,rfl,rfl,rfl⟩))

theorem perform (frame : Frame t M) {node : Node} (member : node ∈ t.nodes) (p : Context × σ) :
    Within M Flow.jobs p (Action.perform t.caps t.batchSize t.nodes node p) := by
  by_cases delayed : ∃ minutes, node.kind = .delay minutes
  · obtain ⟨minutes,kind⟩ := delayed
    have shape : Action.perform t.caps t.batchSize t.nodes node = Action.delay t.caps t.nodes node minutes := by
      simp only [Action.perform,kind]
    rw [shape]
    exact frame.delay member kind p
  · have prompt := not_exists.mp delayed
    have suits := Action.perform_suits t.caps t.batchSize t.nodes node p
    have step := ((frame.coupling p).perform t.batchSize t.nodes t.nodes prompt ⟨rfl,frame.refl p⟩).related.2
    revert suits step
    rcases Action.perform t.caps t.batchSize t.nodes node p with ⟨e | flow,q⟩ <;> intro suits step
    · exact .error step
    · exact .ok ((suits flow rfl).jobs_eq_nil prompt ▸ step)

theorem enter (frame : Frame t M) {node : Node} (member : node ∈ t.nodes) (p : Context × σ) :
    Within M Flow.jobs p (Walk.enter t node p) := by
  have began := frame.log node .start s!"Executing {node.kind.name} node" p
  have performed := frame.perform member (Walk.log t node .start s!"Executing {node.kind.name} node" p).2
  rw [Walk.enter_apply]
  revert performed
  rcases Action.perform t.caps t.batchSize t.nodes node _ with ⟨(fault | _) | flow,q⟩ <;> rintro ⟨xs,step,accounted⟩
  · exact .error (frame.trans (frame.trans began step) (frame.log node .error fault.message q))
  · exact .error (frame.trans began step)
  · have jobs := accounted flow rfl
    subst jobs
    have ended := frame.trans (frame.trans began step) (frame.log node .success s!"Completed {node.kind.name} node" q)
    exact .ok (by simpa using ended)

/-- The loop over the edges, given that visits behind them lie within the frame. -/
theorem follow (frame : Frame t M) {visit : Node → Walk σ (List String)}
    (visits : ∀ node ∈ t.nodes, ∀ p, Within M id p (visit node p)) (origin : Node) (ids : List String) (p : Context × σ) :
    Within M id p (Walk.follow t visit origin ids p) := by
  induction ids generalizing p with
  | nil => exact .ok (frame.refl p)
  | cons head rest ih =>
    cases found : Node.find? t.nodes head with
    | none =>
      rw [Walk.follow_missing found]
      exact .error (frame.log origin .error _ p)
    | some node =>
      have first := visits node (List.mem_of_find?_eq_some found) p
      rw [Walk.follow_cons found]
      revert first
      rcases visit node p with ⟨e | jobs,q⟩ <;> rintro ⟨xs,step,accounted⟩
      · exact .error step
      · obtain rfl : xs = jobs := accounted jobs rfl
        have others := ih q
        revert others
        dsimp only
        rcases Walk.follow t visit origin rest q with ⟨e | more,r⟩ <;> rintro ⟨ys,last,counted⟩
        · exact .error (frame.trans step last)
        · obtain rfl : ys = more := counted more rfl
          exact .ok (frame.trans step last)

theorem visit (frame : Frame t M) (n : Nat) {node : Node} (member : node ∈ t.nodes) (p : Context × σ) :
    Within M id p (Walk.visit t n node p) := by
  induction n generalizing node p with
  | zero => exact .error (frame.log node .error _ p)
  | succ n ih =>
    have visits : ∀ node ∈ t.nodes, ∀ p, Within M id p (Walk.visit t n node p) := fun _ member p => ih member p
    have entered := frame.enter member p
    rw [Walk.visit_succ]
    revert entered
    rcases Walk.enter t node p with ⟨e | flow,q⟩ <;> rintro ⟨xs,step,accounted⟩
    · exact .error step
    · have jobs := accounted flow rfl
      subst jobs
      cases flow with
      | suspend job => exact .ok step
      | branch ids => exact .after frame.trans step (frame.follow visits node ids q) fun _ => rfl
      | next => exact .after frame.trans step (frame.follow visits node node.next q) fun _ => rfl

/-- The walk from one trigger, in a frame that stays with a run. A fault of the walk is part of the branch, so that only leaving the
calendar is a failure. -/
theorem branch (frame : Frame t M) (run : ∀ {xs p q}, M xs p q → p.1.SameRun q.1) (c : Context) {trigger : Node} (member : trigger ∈ t.nodes)
    (s : σ) :
    let x := Execution.branch t c trigger s
    ∃ xs, M xs (c,s) (c,x.2) ∧ (∀ e, x.1 = .error e → e = .overflow) ∧ ∀ b, x.1 = .ok b → ∀ jobs, b.result = .ok jobs → jobs = xs := by
  obtain ⟨xs,walked,accounted⟩ : Within M id (c.fork,s) (walk t trigger (c.fork,s)) := frame.visit (t.maxDepth + 1) member (c.fork,s)
  have begun := frame.trans (frame.context s (c := c) (d := c.fork) ⟨rfl,rfl,rfl,rfl⟩) walked
  have ended := frame.trans begun (frame.context _ (run begun).symm)
  rw [List.nil_append,List.append_nil] at ended
  refine ⟨xs,?_⟩
  unfold Execution.branch
  revert accounted ended
  rcases walk t trigger (c.fork,s) with ⟨(fault | _) | jobs,d,u⟩ <;> intro accounted ended
  · refine ⟨ended,fun _ => nofun,?_⟩
    rintro _ ⟨⟩ _ ⟨⟩
  · refine ⟨ended,?_,fun _ => nofun⟩
    rintro _ ⟨⟩
    rfl
  · refine ⟨ended,fun _ => nofun,?_⟩
    rintro _ ⟨⟩ _ ⟨⟩
    exact (accounted jobs rfl).symm

theorem branches (frame : Frame t M) (run : ∀ {xs p q}, M xs p q → p.1.SameRun q.1) (c : Context) {triggers : List Node}
    (members : triggers ⊆ t.nodes) (s : σ) :
    let x := triggers.mapM (Execution.branch t c) s
    ∃ xs, M xs (c,s) (c,x.2) ∧ (∀ e, x.1 = .error e → e = .overflow) ∧
      ∀ branches, x.1 = .ok branches → ∀ jobs, Execution.outcome branches = .ok jobs → jobs = xs := by
  induction triggers generalizing s with
  | nil =>
    refine ⟨[],frame.refl _,fun _ => nofun,?_⟩
    rintro _ ⟨⟩ _ ⟨⟩
    rfl
  | cons trigger rest ih =>
    obtain ⟨xs,first,faultless,counted⟩ := frame.branch run c (members (List.mem_cons_self ..)) s
    rw [List.mapM_cons]
    dsimp only
    rw [bind_apply]
    revert first faultless counted
    rcases Execution.branch t c trigger s with ⟨e | b,u⟩ <;> intro first faultless counted
    · obtain rfl := faultless e rfl
      exact ⟨xs,first,fun _ same => by cases same; rfl,fun _ => nofun⟩
    · obtain ⟨ys,others,faultless',accounted⟩ := ih (fun node member => members (List.mem_cons_of_mem _ member)) u
      dsimp only at others ⊢
      rw [bind_apply]
      revert others faultless' accounted
      rcases rest.mapM (Execution.branch t c) u with ⟨e | branches,v⟩ <;> intro others faultless' accounted
      · exact ⟨xs ++ ys,frame.trans first others,faultless',fun _ => nofun⟩
      · refine ⟨xs ++ ys,frame.trans first others,fun _ => nofun,?_⟩
        rintro _ ⟨⟩ jobs sum
        unfold Execution.outcome at sum
        cases own : b.result with
        | error fault => rw [own] at sum; cases sum
        | ok left =>
          cases more : Execution.outcome branches with
          | error fault => rw [own,more] at sum; cases sum
          | ok right =>
            rw [own,more] at sum
            cases sum
            rw [counted b rfl left own,accounted branches rfl right more]

end Frame
end Flowgraph
