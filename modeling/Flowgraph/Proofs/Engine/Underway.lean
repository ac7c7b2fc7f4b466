import Flowgraph.Proofs.Engine.Descent
import Flowgraph.Proofs.Engine.Redelivery
import Flowgraph.Proofs.Engine.Stranding
import Mathlib.Data.Multiset.DershowitzManna

/-! One run of a validated automation and nothing else in the engine. Every delivery completes its job, and what it leaves
stands further down in the order of the nodes, so that the heights of the live jobs go down as multisets. -/

namespace Flowgraph
open Act

variable {κ : Type}

/-- A job of the run, pending or done, that goes on below its own place in the order. -/
structure QueueEntry.Headed (d : Definition) (order : List String) (id : String) (now : Instant) (e : QueueEntry) : Prop where
  slot : e.slot = .pending ∨ e.slot = .completed
  inRange : e.job.runAt.inRange = true
  leap : e.job.runAt.leap = now.leap
  leads : ∃ k at_, Continuation.decoder .direct e.job.payload = .ok k ∧ Engine.LeadsOn d order k ∧ k.context.executionId = id ∧
    k.context.currentNodeId = some at_ ∧ at_ ∈ order ∧ ∀ next ∈ k.next, order.idxOf at_ < order.idxOf next

namespace QueueEntry

/-- The place in the order where the run of the entry stands. -/
def place (order : List String) (e : QueueEntry) : Nat :=
  match Continuation.decoder .direct e.job.payload with
  | .ok k => k.context.currentNodeId.elim 0 order.idxOf
  | .error _ => 0

def height (order : List String) (e : QueueEntry) : Nat := order.length - e.place order

variable {d : Definition} {order : List String} {id : String} {now : Instant} {e : QueueEntry}

theorem place_eq {k : Continuation} {at_ : String} (decoded : Continuation.decoder .direct e.job.payload = .ok k)
    (stands : k.context.currentNodeId = some at_) : e.place order = order.idxOf at_ := by
  unfold place
  rw [decoded]
  dsimp only
  rw [stands,Option.elim_some]

theorem Headed.place_lt (headed : e.Headed d order id now) : e.place order < order.length := by
  obtain ⟨k,at_,decoded,-,-,stands,inside,-⟩ := headed.leads
  rw [place_eq decoded stands]
  exact List.idxOf_lt_length_of_mem inside

theorem Headed.completed (headed : e.Headed d order id now) (claim : Instant) :
    ({ DelayQueue.delivered e claim with slot := .completed } : QueueEntry).Headed d order id now :=
  ⟨.inr rfl,headed.inRange,headed.leap,headed.leads⟩

theorem LeftFrom.headed {nodes : List Node} {place : Nat} {c : Context} (left : e.LeftFrom nodes order place c now)
    (ordered : WellOrdered nodes order) (proper : c.startedAt.Proper) (automation : c.automationId = d.id) :
    e.Headed d order c.executionId now ∧ place ≤ e.place order := by
  obtain ⟨pending,inRange,leap,d',node,minutes,run,member,kind,below,payload⟩ := left
  have decoded : Continuation.decoder .direct e.job.payload = .ok (Continuation.ofSuspension (Action.suspension nodes node d')).canonical := by
    rw [payload]
    exact Continuation.decoder_json _ _ (show d'.startedAt.Proper from run.startedAt ▸ proper)
  have ahead : ∀ next ∈ node.next, next ∈ order ∧ order.idxOf node.id < order.idxOf next := by
    have successors : node.successors = node.next := by simp [Node.successors,kind]
    exact successors ▸ ordered.forward node member
  have own : d'.automationId = d.id := run.automationId.trans automation
  have leads : Engine.LeadsOn d order (Continuation.ofSuspension (Action.suspension nodes node d')).canonical :=
    ⟨own,own,ordered.canonical,fun next known => (ahead next known).1⟩
  have place_eq : e.place order = order.idxOf node.id := place_eq decoded rfl
  exact ⟨⟨.inl pending,inRange,leap,_,node.id,decoded,leads,run.executionId,rfl,ordered.listed node member,
    fun next known => (ahead next known).2⟩,place_eq ▸ below⟩

end QueueEntry

namespace Engine
open Execution

variable {outside : Outside κ} {config : EngineConfig} {s : Engine κ} {d : Definition} {order : List String} {id : String}

/-- A state in which all jobs are those of one run of a stored automation, and none of them is being delivered. -/
structure Underway (d : Definition) (order : List String) (id : String) (s : Engine κ) : Prop where
  sound : Sound s
  suspended : NoneStranded s
  stored : Stored d s
  begun : ∃ r, s.record? id = some r ∧ r.status ≠ .running
  now : s.queue.now.inRange = true
  headed : ∀ e ∈ s.queue.entries, e.Headed d order id s.queue.now

/-- The heights of the jobs that are still to be delivered. -/
def heights (order : List String) (s : Engine κ) : Multiset Nat :=
  ((s.queue.entries.filter (·.isLive)).map (·.height order) : List Nat)

/-- The heights cannot go down for ever. -/
theorem heights_wellFounded (order : List String) :
    WellFounded fun s t : Engine κ => (s.heights order).IsDershowitzMannaLT (t.heights order) :=
  InvImage.wf (heights order) Multiset.wellFounded_isDershowitzMannaLT

theorem status_apply {u : RunUpdate} {status : Status} (written : u.status = some status) (r : RunRecord) : (r.apply u).status = status := by
  simp [RunRecord.apply,written]

theorem begun_updated {name : String} {u : RunUpdate} {status : Status} (recorded : (s.record? name).isSome = true)
    (written : u.status = some status) (begun : status ≠ .running) : ∃ r, (updated name u s).record? name = some r ∧ r.status ≠ .running := by
  obtain ⟨r,found⟩ := Option.isSome_iff_exists.mp recorded
  exact ⟨r.apply u,record?_updated found,status_apply written r ▸ begun⟩

theorem runTriggers_begun {nodes : List Node} {c : Context} (recorded : (s.record? c.executionId).isSome = true)
    (finished : (runTriggers (backend outside) config nodes c s).1 ≠ .error .overflow) :
    ∃ r, (runTriggers (backend outside) config nodes c s).2.record? c.executionId = some r ∧ r.status ≠ .running := by
  obtain ⟨added,extended,-,faultless,-⟩ := branches_growth outside config c (nodes.filter Node.isTrigger) (List.filter_subset_self nodes) s
  have known := extended.recorded recorded
  rw [runTriggers_apply known] at finished ⊢
  revert finished known faultless
  rcases (nodes.filter Node.isTrigger).mapM (branch (terrain (backend outside) config nodes) c) s with ⟨e | branches,t⟩ <;>
    intro finished faultless known
  · exact absurd (congrArg Except.error (faultless e rfl)) finished
  · dsimp only
    cases outcome branches with
    | error fault => exact begun_updated known rfl (by decide)
    | ok jobs =>
      refine begun_updated known rfl ?_
      unfold Status.ofSuspended
      split <;> decide

/-- A run that has come to its end is not on record as running. -/
theorem execute_begun {input : Json} {id? : Option String} (finished : (execute (backend outside) config d input id? s).1 ≠ .error .overflow) :
    ∃ r, (execute (backend outside) config d input id? s).2.record? (nameFor id? s) = some r ∧ r.status ≠ .running := by
  have recorded : ((opened d input id? s).record? (openingContext d input id? s).executionId).isSome = true := by
    rw [record?_opened]
    exact congrArg Option.isSome (if_pos rfl)
  rw [execute_apply] at finished ⊢
  rw [state_bind_pure]
  have carried : (carryOut (backend outside) config d (openingContext d input id? s) id? s.clock (opened d input id? s)).1 ≠ .error .overflow :=
    fun overflow => finished (bind_fst overflow)
  unfold carryOut at carried ⊢
  split at carried
  · next skipped =>
    rw [if_pos skipped,store_apply _ recorded]
    exact begun_updated recorded rfl (by decide)
  · next active =>
    rw [if_neg active]
    cases checked : Validation.checkRunnable d.nodes with
    | error fault =>
      simp only [onContext,recordFailure_apply _ recorded]
      exact begun_updated recorded rfl (by decide)
    | ok _ =>
      rw [checked] at carried
      exact runTriggers_begun recorded carried

theorem workOnce_idle {worker : WorkerConfig} (idle : DelayQueue.claim worker.lease s.queue = (.ok none,s.queue)) :
    workOnce outside config worker s = (.ok none,s) := by
  unfold workOnce Worker.runOnce
  rw [bind_apply,claim_apply,idle]
  rfl

theorem answer_completed {e : QueueEntry} {nodes : List Node} {c : Context} {t : Engine κ} {added : List QueueEntry} (worker : WorkerConfig)
    (known : ∃ old ∈ s.queue.entries, old.job.id = e.job.id) (early : e.job.id.number ≤ s.queue.entries.length)
    (extended : Extended nodes c (replaced e.job.id e s) t added) : (answer worker e.job (.ok ()) t).1 = .ok (some .completed) := by
  obtain ⟨answered,-⟩ := extended.transition rfl known early ({ · with slot := .completed })
  unfold answer
  dsimp only
  rw [bind_apply,complete_apply,DelayQueue.complete,answered]
  rfl

/-- A finished delivery over well-ordered nodes completes its job and leaves nothing above the ids that it goes on to. -/
theorem Claimed.completed {worker : WorkerConfig} {e : QueueEntry} {k : Continuation} {nodes : List Node} {place : Nat} (sound : Sound s)
    (claimed : Claimed s worker e k) (found : nodesFor config k.automationId k.nodes s = some nodes) (ordered : WellOrdered nodes order)
    (below : ∀ next ∈ k.next, place ≤ order.idxOf next) (finished : (workOnce outside config worker s).1 ≠ .error .overflow) :
    let x := workOnce outside config worker s
    x.1 = .ok (some .completed) ∧ (∃ r, x.2.record? k.context.executionId = some r ∧ r.status ≠ .running) ∧
      ∃ added, Extended nodes (Context.restore k.context)
        (replaced e.job.id { DelayQueue.delivered e s.queue.now with slot := .completed } s) x.2 added ∧
        ∀ new ∈ added, new.LeftFrom nodes order place (Context.restore k.context) s.queue.now := by
  have early := sound.numbered.le_length claimed.member
  have present : ∃ old ∈ s.queue.entries, old.job.id = (DelayQueue.delivered e s.queue.now).job.id := ⟨e,claimed.member,rfl⟩
  have known : ((replaced e.job.id (DelayQueue.delivered e s.queue.now) s).record? k.context.executionId).isSome = true := claimed.recorded
  have place_ : nodesFor config k.automationId k.nodes (replaced e.job.id (DelayQueue.delivered e s.queue.now) s) = some nodes := found
  obtain ⟨added,outcome⟩ := resume_outcome outside config k known
  have left := (resume_leaves outside config place_ ordered below).of_extended outcome.extended
  obtain ⟨extended,r,stored,standing⟩ := outcome
  rw [place_,Option.getD_some] at extended
  have own (fault : EngineFault) : (resume (backend outside) config k (replaced e.job.id (DelayQueue.delivered e s.queue.now) s)).1 =
      .error (.cause fault) → fault.OfRun := resume_fault outside known place_
  rw [workOnce_claimed claimed.claim claimed.decoded] at finished ⊢
  revert finished extended stored standing own
  rcases resume (backend outside) config k (replaced e.job.id (DelayQueue.delivered e s.queue.now) s) with ⟨(fault | _) | _,t⟩ <;>
    intro finished extended stored standing own
  · have failed : r.status = .failed := standing
    have ran : ¬fault.faultClass = .infrastructure := own fault rfl
    obtain ⟨answered,records⟩ := answer_ok worker present early extended
    dsimp only
    rw [if_neg ran]
    exact ⟨answer_completed worker present early extended,⟨r,(record?_congr records _).trans stored,by simp [failed]⟩,added,answered,left⟩
  · exact absurd rfl finished
  · obtain ⟨answered,records⟩ := answer_ok worker present early extended
    have ended : r.status ≠ .running := by
      obtain completed | ⟨waiting,-⟩ := standing
      · simp [completed]
      · simp [waiting]
    exact ⟨answer_completed worker present early extended,⟨r,(record?_congr records _).trans stored,ended⟩,added,answered,left⟩

theorem heights_lt {e : QueueEntry} {nodes : List Node} {c : Context} {t : Engine κ} {added : List QueueEntry} (sound : Sound s)
    (member : e ∈ s.queue.entries) (live : e.isLive = true) (done : QueueEntry) (closed : done.isLive = false)
    (extended : Extended nodes c (replaced e.job.id done s) t added) (lower : ∀ new ∈ added, new.height order < e.height order) :
    (t.heights order).IsDershowitzMannaLT (s.heights order) := by
  obtain ⟨before,after,shape,updated⟩ := sound.numbered.split member
  have entries : t.queue.entries = before ++ done :: after ++ added := by
    rw [extended.queue]
    exact congrArg (· ++ added) (updated fun _ => done)
  have alive : added.filter (·.isLive) = added := List.filter_eq_self.mpr fun new inside => (extended.left new inside).isLive
  let others := ((before.filter (·.isLive) ++ after.filter (·.isLive)).map (·.height order) : List Nat)
  refine ⟨others,(added.map (·.height order) : List Nat),{e.height order},Multiset.singleton_ne_zero _,?_,?_,?_⟩
  · rw [heights,entries,List.filter_append,List.filter_append,List.filter_cons_of_neg (by simp [closed]),alive,List.map_append]
    rfl
  · rw [heights,shape,List.filter_append,List.filter_cons_of_pos live,List.map_append,List.map_cons]
    refine (Multiset.coe_eq_coe.mpr List.perm_middle).trans ?_
    rw [← List.map_append,← Multiset.cons_coe,← Multiset.singleton_add,add_comm]
  · intro height inside
    obtain ⟨new,left,rfl⟩ := List.mem_map.mp (Multiset.mem_coe.mp inside)
    exact ⟨_,Multiset.mem_singleton_self _,lower new left⟩

namespace Underway

variable {worker : WorkerConfig}

theorem work (underway : Underway d order id s) (valid : WellOrdered d.nodes order) (outside : Outside κ) (config : EngineConfig)
    (worker : WorkerConfig) (finished : (workOnce outside config worker s).1 ≠ .error .overflow) :
    (workOnce outside config worker s = (.ok none,s) ∧ ∀ e ∈ s.queue.entries, e.claimable s.queue.now worker.lease = false) ∨
      ∃ t, workOnce outside config worker s = (.ok (some .completed),t) ∧ Underway d order id t ∧ t.queue.now = s.queue.now ∧
        (t.heights order).IsDershowitzMannaLT (s.heights order) := by
  have sound := underway.sound
  obtain idle | ⟨e,k,claimed⟩ := sound.claim worker
  · exact .inl ⟨workOnce_idle idle,DelayQueue.not_claimable_of_claim (by rw [idle])⟩
  · right
    have headed := underway.headed e claimed.member
    obtain ⟨k',at_,decoded,leads,run,stands,-,below⟩ := headed.leads
    cases claimed.decoded.symm.trans decoded
    obtain ⟨nodes,found,ordered⟩ := leads.nodesFor config valid underway.stored
    obtain ⟨result,⟨r,stored,begun⟩,added,extended,left⟩ := claimed.completed sound found ordered below finished
    have proper : (Context.restore k.context).startedAt.Proper := by
      obtain ⟨k',decoded',-,proper,-⟩ := sound.readable e claimed.member
      cases decoded.symm.trans decoded'
      exact proper
    have new : ∀ e' ∈ added, e'.Headed d order id s.queue.now ∧ order.idxOf at_ + 1 ≤ e'.place order :=
      fun e' inside => run ▸ (left e' inside).headed ordered proper leads.context
    have now : (workOnce outside config worker s).2.queue.now = s.queue.now := by rw [extended.queue]; rfl
    refine ⟨_,Prod.ext result rfl,?_,now,?_⟩
    · refine ⟨sound.apply (.work worker) trivial,underway.suspended.apply sound (.work worker),?_,⟨r,run ▸ stored,begun⟩,now ▸ underway.now,?_⟩
      · exact (congrArg (List.find? _) extended.automations).trans underway.stored
      · intro x inside
        rw [now]
        rw [extended.queue] at inside
        obtain old | fresh := List.mem_append.mp inside
        · obtain ⟨before,was,shape⟩ := DelayQueue.mem_update.mp old
          subst shape
          split
          · exact headed.completed _
          · exact underway.headed before was
        · exact (new x fresh).1
    · refine heights_lt sound claimed.member claimed.live _ rfl extended fun e' inside => ?_
      have deeper := (new e' inside).2
      have bound := (new e' inside).1.place_lt
      have place : e.place order = order.idxOf at_ := QueueEntry.place_eq decoded stands
      unfold QueueEntry.height
      omega

/-- The clock moves to a pending job, which is due then. -/
theorem advance (underway : Underway d order id s) {e : QueueEntry} (member : e ∈ s.queue.entries) (pending : e.slot = .pending) :
    ∃ t, onQueue (DelayQueue.advance (e.job.runAt.nanos - s.queue.now.nanos).toNat) s = (.ok (),t) ∧ Underway d order id t ∧
      t.queue.entries = s.queue.entries ∧ ∀ lease, e.claimable t.queue.now lease = true := by
  have headed := underway.headed e member
  obtain ⟨now,moved,inRange,leap,due⟩ := DelayQueue.advance_to s.queue underway.now headed.inRange headed.leap
  refine ⟨{ s with queue := { s.queue with now } },?_,?_,rfl,fun lease => ?_⟩
  · unfold onQueue zoom
    rw [moved]
  · refine ⟨⟨underway.sound.clock,underway.sound.numbered,underway.sound.readable⟩,underway.suspended,underway.stored,underway.begun,inRange,?_⟩
    exact fun x inside => have own := underway.headed x inside; ⟨own.slot,own.inRange,own.leap.trans leap.symm,own.leads⟩
  · unfold QueueEntry.claimable
    rw [pending]
    exact due

/-- A run that has been carried out is under way, if its automation is all that there is. -/
theorem of_execute {k : κ} {clock : Instant} (proper : clock.Proper) (valid : WellOrdered d.nodes order) (outside : Outside κ)
    (config : EngineConfig) (input : Json) (id? : Option String) :
    let launched := execute (backend outside) config d input id? (putAutomation d (Engine.start k clock))
    launched.1 ≠ .error .overflow → Underway d order (nameFor id? (Engine.start k clock)) launched.2 := by
  intro launched finished
  have sound : Sound (putAutomation d (Engine.start k clock)) := ⟨proper,rfl,fun _ member => absurd member List.not_mem_nil⟩
  have suspended : NoneStranded (putAutomation d (Engine.start k clock)) := NoneStranded.start k clock
  obtain ⟨added,extended,-⟩ := execute_launched outside config d input id? (putAutomation d (Engine.start k clock))
  have left := (execute_leaves outside config valid input id? (putAutomation d (Engine.start k clock))).of_extended extended
  have queue : launched.2.queue = ⟨clock,added⟩ := extended.queue
  have now : launched.2.queue.now = clock := congrArg DelayQueue.now queue
  refine ⟨sound.apply (.execute d input id?) trivial,suspended.apply sound (.execute d input id?),?_,execute_begun finished,now ▸ proper.1,?_⟩
  · have stored : Stored d (putAutomation d (Engine.start k clock)) := by simp [Stored,putAutomation,Engine.start]
    exact (congrArg (List.find? _) extended.automations).trans stored
  · intro e inside
    rw [now]
    rw [queue] at inside
    have started : (openingContext d input id? (putAutomation d (Engine.start k clock))).startedAt.Proper := proper
    exact ((left e inside).headed valid started rfl).1

end Underway

end Engine
end Flowgraph
