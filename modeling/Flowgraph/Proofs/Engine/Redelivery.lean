import Flowgraph.Proofs.Engine.Completion
import Flowgraph.Proofs.Engine.Delayed
import Flowgraph.Proofs.Engine.Lineage
import Flowgraph.Proofs.Engine.Notes
import Flowgraph.Proofs.Engine.Trace

/-! Jobs that come back. The handler fails only where the automation of a run is not there, before it has used any
capability; a job whose delivery has found the nodes of its run is completed, however the walks over them end, and is
never taken up again. -/

namespace Flowgraph
open Act

variable {σ : Type}

/-- A fault of the run itself, which does not bring its job back. -/
def EngineFault.OfRun (fault : EngineFault) : Prop := fault.faultClass ≠ .infrastructure

theorem Breakdown.ofRun {t : Terrain σ} {entry : Node} {stops : List (Stop σ)} {next : String} {fault : EngineFault}
    {opening : List LogEntry} {last : LogEntry} (breakdown : Breakdown t entry stops next fault opening last) :
    fault.OfRun := by
  unfold EngineFault.OfRun
  cases breakdown with
  | failed fault => cases fault <;> simp [EngineFault.ofNode,EngineFault.faultClass]
  | tooDeep => simp [EngineFault.faultClass]
  | missing => simp [EngineFault.faultClass]

theorem walk_fault (t : Terrain σ) (node : Node) : Raises EngineFault.OfRun (walk t node) := by
  intro p fault failed
  have traced : TracedFrom t node p (walk t node p) := visit_traced (t.maxDepth + 1) node p
  revert failed traced
  rcases walk t node p with ⟨result,q⟩
  intro failed traced
  subst failed
  obtain ⟨_,_,_,_,_,_,-,breakdown,-⟩ := traced
  exact breakdown.ofRun

namespace Execution

/-- Looking for the nodes of a run uses nothing. -/
theorem resumeNodes_noted (b : Backend σ) (config : EngineConfig) (automation : Uuid) (captured : List Node) (uses : List Use) (s : σ) :
    resumeNodes b.noted config automation captured (uses,s) =
      ((resumeNodes b config automation captured s).1,uses,(resumeNodes b config automation captured s).2) := by
  unfold resumeNodes
  split
  · rfl
  · rw [bind_apply,bind_apply]
    simp only [mapFault,Backend.noted,beside,zoom]
    rcases b.automation? automation s with ⟨e | found,t⟩
    · rfl
    · cases found <;> rfl

end Execution

namespace Engine
open Execution

variable {κ : Type} {outside : Outside κ} {config : EngineConfig} {s s' : Engine κ} {nodes : List Node} {c : Context} {k : Continuation}
  {fault : EngineFault} {id : JobId}

theorem continueAt_fault (outside : Outside κ) (config : EngineConfig) {node : Node} (member : node ∈ nodes) (recorded : (s.record? c.executionId).isSome = true)
    (failed : (continueAt (backend outside) config nodes node (c,s)).1 = .error (.cause fault)) : fault.OfRun := by
  obtain ⟨jobs,⟨run,-,added,extended,-⟩,-⟩ := walk_growth outside config node member c s
  have raises := walk_fault (terrain (backend outside) config nodes) node (c,s)
  rw [continueAt_apply run.executionId (extended.recorded recorded)] at failed
  revert failed raises
  rcases walk (terrain (backend outside) config nodes) node (c,s) with ⟨(cause | _) | jobs,d,t⟩ <;> intro failed raises
  · cases failed
    exact raises fault rfl
  · cases failed
  · cases failed

theorem continueAll_fault (outside : Outside κ) (config : EngineConfig) {ids : List String} (recorded : (s.record? c.executionId).isSome = true)
    (failed : (continueAll (backend outside) config nodes ids (c,s)).1 = .error (.cause fault)) : fault.OfRun := by
  induction ids generalizing c s with
  | nil => cases failed
  | cons id rest ih =>
    unfold continueAll at failed
    cases found : Node.find? nodes id with
    | none =>
      rw [found] at failed
      dsimp only at failed
      rw [recordFailure_apply _ recorded] at failed
      cases failed
      simp [EngineFault.OfRun,EngineFault.faultClass]
    | some node =>
      have member := List.mem_of_find?_eq_some found
      obtain ⟨run,added,outcome⟩ := continueAt_outcome outside config node member recorded
      have first : (continueAt (backend outside) config nodes node (c,s)).1 = .error (.cause fault) → fault.OfRun :=
        continueAt_fault outside config member recorded
      rw [found] at failed
      dsimp only at failed
      rw [bind_apply] at failed
      revert failed run outcome first
      rcases continueAt (backend outside) config nodes node (c,s) with ⟨e | _,d,t⟩ <;> intro failed run outcome first
      · exact first failed
      · have known : (t.record? d.executionId).isSome = true := run.executionId ▸ outcome.extended.recorded recorded
        exact ih known failed

/-- Once the nodes of a run have been found, taking it up fails for no reason that would bring its job back. -/
theorem resume_fault (outside : Outside κ) (recorded : (s.record? k.context.executionId).isSome = true)
    (found : nodesFor config k.automationId k.nodes s = some nodes)
    (failed : (resume (backend outside) config k s).1 = .error (.cause fault)) : fault.OfRun := by
  have known : (s.record? (Context.restore k.context).executionId).isSome = true := recorded
  unfold resume at failed
  rw [bind_apply,attempt,resumeNodes_apply,found] at failed
  dsimp only at failed
  split at failed
  · simp only [onContext,finish_apply _ known] at failed
    cases failed
  · exact continueAll_fault outside config known failed

theorem resume_unused (outside : Outside κ) (missing : nodesFor config k.automationId k.nodes s = none) (uses : List Use) :
    (resume (backend outside).noted config k (uses,s)).2.1 = uses := by
  unfold resume
  rw [bind_apply,attempt,resumeNodes_noted,resumeNodes_apply,missing]
  simp only [onContext,recordFailure_noted]

theorem handler_unused (outside : Outside κ) {job : Job JobId} (decoded : Continuation.decoder .direct job.payload = .ok k)
    (missing : nodesFor config k.automationId k.nodes s = none) (uses : List Use) :
    (handler (backend outside).noted config job (uses,s)).2.1 = uses := by
  have unused := resume_unused outside missing uses
  rw [handler_apply _ config job decoded]
  revert unused
  rcases resume (backend outside).noted config k (uses,s) with ⟨(cause | _) | _,p⟩ <;> exact id

theorem handler_fault {job : Job JobId} {text : String} (decoded : Continuation.decoder .direct job.payload = .ok k)
    (recorded : (s.record? k.context.executionId).isSome = true)
    (failed : (handler (backend outside) config job s).1 = .error (.cause text)) : nodesFor config k.automationId k.nodes s = none := by
  by_contra found
  obtain ⟨nodes,found⟩ := Option.ne_none_iff_exists'.mp found
  have own (fault : EngineFault) : (resume (backend outside) config k s).1 = .error (.cause fault) → fault.OfRun :=
    resume_fault outside recorded found
  rw [handler_apply _ config job decoded] at failed
  revert failed own
  rcases resume (backend outside) config k s with ⟨(cause | _) | _,t⟩ <;> intro failed own
  · dsimp only at failed
    rw [if_neg (own cause rfl)] at failed
    cases failed
  · cases failed
  · cases failed

structure Claimed (s : Engine κ) (worker : WorkerConfig) (e : QueueEntry) (k : Continuation) : Prop where
  member : e ∈ s.queue.entries
  live : e.isLive = true
  claim : DelayQueue.claim worker.lease s.queue =
    (.ok (some (DelayQueue.delivered e s.queue.now).job),s.queue.update e.job.id fun _ => DelayQueue.delivered e s.queue.now)
  decoded : Continuation.decoder .direct e.job.payload = .ok k
  recorded : (s.record? k.context.executionId).isSome = true

theorem Claimed.whole {worker : WorkerConfig} {e : QueueEntry} (claimed : Claimed s worker e k) :
    queueOperations.claim worker.lease s =
      (.ok (some (DelayQueue.delivered e s.queue.now).job),replaced e.job.id (DelayQueue.delivered e s.queue.now) s) := by
  rw [claim_apply,claimed.claim]
  rfl

theorem Sound.claim (sound : Sound s) (worker : WorkerConfig) :
    DelayQueue.claim worker.lease s.queue = (.ok none,s.queue) ∨ ∃ e k, Claimed s worker e k := by
  obtain nothing | ⟨e,member,due,claimed⟩ := DelayQueue.claim_cases worker.lease s.queue
  · exact .inl nothing
  · obtain ⟨k,decoded,same,-,recorded⟩ := sound.readable e member
    exact .inr ⟨e,k,member,DelayQueue.isLive_of_claimable due,claimed,decoded,same ▸ recorded⟩

/-- All rounds of the worker come to an end. -/
def Finished (outside : Outside κ) (config : EngineConfig) (s : Engine κ) : Event → Prop
  | .work worker => (workOnce outside config worker s).1 ≠ .error .overflow
  | _ => True

namespace Event

/-- How an event uses the capabilities on behalf of the job that it takes up. -/
def uses (outside : Outside κ) (config : EngineConfig) (s : Engine κ) : Event → List Use
  | work worker => match queueOperations.claim worker.lease s with
    | (.ok (some job),t) => (handler (backend outside).noted config job ([],t)).2.1
    | _ => []
  | _ => []

/-- The event takes up a job, finds the nodes of its run and walks on. -/
def Walks (outside : Outside κ) (config : EngineConfig) (s : Engine κ) (event : Event) : Prop :=
  ∃ worker job t k nodes u, event = work worker ∧ queueOperations.claim worker.lease s = (.ok (some job),t) ∧
    Continuation.decoder .direct job.payload = .ok k ∧ resumeNodes (backend outside) config k.automationId k.nodes t = (.ok nodes,u)

end Event

def Closed (s : Engine κ) (id : JobId) : Prop := ∃ e ∈ s.queue.entries, e.job.id = id ∧ e.slot = .completed

namespace Closed

theorem ne_live {e : QueueEntry} (sound : Sound s) (closed : Closed s id) (member : e ∈ s.queue.entries) (live : e.isLive = true) :
    e.job.id ≠ id := by
  intro same
  obtain ⟨done,inside,own,completed⟩ := closed
  obtain rfl := sound.numbered.eq_of_id member inside (same.trans own.symm)
  rw [QueueEntry.isLive,completed] at live
  cases live

theorem job?_ne (sound : Sound s) (closed : Closed s id) (event : Event) : event.job? s ≠ some id := by
  intro taken
  cases event with
  | work worker =>
    obtain nothing | ⟨e,k,claimed⟩ := sound.claim worker
    · rw [Event.job?,nothing] at taken
      cases taken
    · rw [Event.job?,claimed.claim] at taken
      exact closed.ne_live sound claimed.member claimed.live (Option.some.inj taken)
  | _ => cases taken

theorem extended (closed : Closed s id) {added : List QueueEntry} (extended : Extended nodes c s s' added) : Closed s' id := by
  obtain ⟨e,member,own,completed⟩ := closed
  exact ⟨e,extended.queue ▸ List.mem_append_left _ member,own,completed⟩

theorem apply (sound : Sound s) (closed : Closed s id) (event : Event) : Closed (event.apply outside config s) id := by
  cases event with
  | execute d input id? =>
    obtain ⟨added,extended,-⟩ := execute_launched outside config d input id? s
    exact closed.extended extended
  | work worker =>
    obtain ⟨nothing,-⟩ | ⟨e,last,k,added,delivery,-⟩ := sound.workOnce_cases outside config worker
    · simpa only [Event.apply,nothing] using closed
    · have apart := closed.ne_live sound delivery.member delivery.live
      obtain ⟨done,inside,rfl,completed⟩ := closed
      have kept : Closed (replaced e.job.id last s) done.job.id :=
        ⟨done,DelayQueue.mem_update.mpr ⟨done,inside,(if_neg apart.symm).symm⟩,rfl,completed⟩
      exact kept.extended delivery.extended
  | put d => exact closed
  | remove id => exact closed
  | advance by_ =>
    obtain ⟨now,state⟩ := Event.apply_advance outside config by_ s
    rw [state]
    exact closed
  | tick now => exact closed

end Closed

/-- A job is completed by a round that finds the nodes of its run, unless the round does not come to its end. -/
theorem Claimed.closed {worker : WorkerConfig} {e : QueueEntry} (sound : Sound s) (claimed : Claimed s worker e k)
    (finished : (workOnce outside config worker s).1 ≠ .error .overflow)
    (found : nodesFor config k.automationId k.nodes s = some nodes) : Closed (workOnce outside config worker s).2 e.job.id := by
  have early := sound.numbered.le_length claimed.member
  have present : ∃ old ∈ s.queue.entries, old.job.id = (DelayQueue.delivered e s.queue.now).job.id := ⟨e,claimed.member,rfl⟩
  have known : ((replaced e.job.id (DelayQueue.delivered e s.queue.now) s).record? k.context.executionId).isSome = true := claimed.recorded
  have place : nodesFor config k.automationId k.nodes (replaced e.job.id (DelayQueue.delivered e s.queue.now) s) = some nodes := found
  obtain ⟨added,extended,-⟩ := resume_outcome outside config k known
  have own (fault : EngineFault) : (resume (backend outside) config k (replaced e.job.id (DelayQueue.delivered e s.queue.now) s)).1 =
      .error (.cause fault) → fault.OfRun := resume_fault outside known place
  -- A fault of the run is answered like a success, so that the entry is completed either way.
  rw [workOnce_claimed claimed.claim claimed.decoded] at finished ⊢
  revert finished extended own
  rcases resume (backend outside) config k (replaced e.job.id (DelayQueue.delivered e s.queue.now) s) with ⟨(fault | _) | _,t⟩ <;>
    intro finished extended own
  · obtain ⟨answered,-⟩ := answer_ok worker present early extended
    dsimp only
    rw [if_neg (own fault rfl)]
    exact ⟨_,answered.mem_replaced present,rfl,rfl⟩
  · exact absurd rfl finished
  · obtain ⟨answered,-⟩ := answer_ok worker present early extended
    exact ⟨_,answered.mem_replaced present,rfl,rfl⟩

theorem Closed.of_walks {event : Event} (sound : Sound s) (finished : Finished outside config s event) (taken : event.job? s = some id)
    (walks : event.uses outside config s ≠ [] ∨ event.Walks outside config s) : Closed (event.apply outside config s) id := by
  cases event with
  | work worker =>
    obtain nothing | ⟨e,k,claimed⟩ := sound.claim worker
    · rw [Event.job?,nothing] at taken
      cases taken
    · rw [Event.job?,claimed.claim] at taken
      cases taken
      have decoded : Continuation.decoder .direct (DelayQueue.delivered e s.queue.now).job.payload = .ok k := claimed.decoded
      cases found : nodesFor config k.automationId k.nodes s with
      | some nodes =>
        have closed : Closed (workOnce outside config worker s).2 e.job.id := claimed.closed sound finished found
        exact closed
      | none =>
        have missing : nodesFor config k.automationId k.nodes (replaced e.job.id (DelayQueue.delivered e s.queue.now) s) = none := found
        obtain used | ⟨worker',job,t,k',nodes,u,shape,claim,decoded',walked⟩ := walks
        · have unused := handler_unused outside decoded missing []
          rw [Event.uses,claimed.whole] at used
          exact absurd unused used
        · cases shape
          cases claimed.whole.symm.trans claim
          cases decoded.symm.trans decoded'
          rw [resumeNodes_apply,missing] at walked
          cases walked
  | _ => cases taken

theorem History.closed {past : List (Engine κ × Event)} (history : History outside config (Finished outside config) past s)
    {later earlier : List (Engine κ × Event)} {at_ : Engine κ × Event} (shape : past = later ++ at_ :: earlier)
    (taken : at_.2.job? at_.1 = some id) (walks : at_.2.uses outside config at_.1 ≠ [] ∨ at_.2.Walks outside config at_.1) :
    Closed s id ∧ ∀ next ∈ later, next.2.job? next.1 ≠ some id := by
  induction later generalizing past s with
  | nil =>
    subst shape
    cases history with
    | step history possible finished => exact ⟨.of_walks (Sound.history history) finished taken walks,fun _ member => absurd member List.not_mem_nil⟩
  | cons next rest ih =>
    subst shape
    cases history with
    | step history possible finished =>
      have sound := Sound.history history
      obtain ⟨closed,others⟩ := ih history rfl
      exact ⟨closed.apply sound _,List.forall_mem_cons.mpr ⟨closed.job?_ne sound _,others⟩⟩

/-- A delivery that the handler fails has used no capability. All uses on behalf of a job are therefore those of one delivery,
and after a delivery that has walked, whether the walk has failed or not, no event takes up its job again. -/
theorem failed_delivery_unused {past : List (Engine κ × Event)} (history : History outside config (Finished outside config) past s) :
    (∀ worker job t text, queueOperations.claim worker.lease s = (.ok (some job),t) →
      (handler (backend outside) config job t).1 = .error (.cause text) → (Event.work worker).uses outside config s = []) ∧
    ∀ later at_ earlier id, past = later ++ at_ :: earlier → at_.2.job? at_.1 = some id →
      at_.2.uses outside config at_.1 ≠ [] ∨ at_.2.Walks outside config at_.1 → ∀ next ∈ later, next.2.job? next.1 ≠ some id := by
  refine ⟨?_,?_⟩
  · intro worker job t text claim failed
    obtain nothing | ⟨e,k,claimed⟩ := (Sound.history history).claim worker
    · rw [claim_apply,nothing] at claim
      cases claim
    rw [Event.uses,claimed.whole]
    cases claimed.whole.symm.trans claim
    have decoded : Continuation.decoder .direct (DelayQueue.delivered e s.queue.now).job.payload = .ok k := claimed.decoded
    have known : ((replaced e.job.id (DelayQueue.delivered e s.queue.now) s).record? k.context.executionId).isSome = true := claimed.recorded
    have missing := handler_fault decoded known failed
    exact handler_unused outside decoded missing []
  · intro later at_ earlier id shape taken walks
    exact (history.closed shape taken walks).2

/-- How the job of the delay is delivered when the automation has never been stored. -/
def registeringLost : Except (Failure String) Unit :=
  match queueOperations.claim WorkerConfig.standard.lease (after [.execute registering .null (some "run")]) with
  | (.ok (some job),t) => (handler (backend silent) standard job t).1
  | _ => .ok ()

/-- Without its automation the job fails and nothing has been used; with it the contact is asked for once, in vain, and the job
does not come back. -/
theorem registering_delivered_once :
    (∃ job t text, queueOperations.claim WorkerConfig.standard.lease (after [.execute registering .null (some "run")]) = (.ok (some job),t) ∧
      (handler (backend silent) standard job t).1 = .error (.cause text) ∧
      (Event.work .standard).uses silent standard (after [.execute registering .null (some "run")]) = []) ∧
    (Event.work .standard).uses silent standard (after [.execute registering .null (some "run"),.put registering]) ≠ [] ∧
    (Event.work .standard).job? (after [.execute registering .null (some "run"),.put registering]) = some ⟨1⟩ ∧
    (Event.work .standard).job? (after (takenUp registering)) ≠ some ⟨1⟩ := by
  refine ⟨?_,?_⟩
  · have history : History silent standard (Finished silent standard) (met [.execute registering .null (some "run")]) _ :=
      History.after _ (by simp [Event.Possible]) (by simp [met,Finished])
    have failed : registeringLost = .error (.cause "automation 00000000-0000-0000-0000-000000000000 not found") := by decide +kernel
    unfold registeringLost at failed
    split at failed
    · next job t claim => exact ⟨job,t,_,claim,failed,(failed_delivery_unused history).1 .standard job t _ claim failed⟩
    · cases failed
  · have finished : ∀ at_ ∈ met (.work .standard :: takenUp registering), Finished silent standard at_.1 at_.2 := by
      simp only [takenUp,met,List.forall_mem_cons,Finished]
      exact ⟨by decide +kernel,by decide +kernel,trivial,trivial,fun _ member => absurd member List.not_mem_nil⟩
    have history := History.after (.work .standard :: takenUp registering) (by simp [takenUp,Event.Possible]) finished
    have counted : ((Event.work .standard).uses silent standard (after [.execute registering .null (some "run"),.put registering])).isEmpty = false := by
      decide +kernel
    have used : (Event.work .standard).uses silent standard (after [.execute registering .null (some "run"),.put registering]) ≠ [] := by
      intro none
      rw [none] at counted
      cases counted
    have taken : (Event.work .standard).job? (after [.execute registering .null (some "run"),.put registering]) = some ⟨1⟩ := by
      decide +kernel
    have once := (failed_delivery_unused history).2 [(after (takenUp registering),.work .standard)]
      (after [.execute registering .null (some "run"),.put registering],.work .standard) (met [.execute registering .null (some "run"),.put registering])
      ⟨1⟩ rfl
    simp only [List.forall_mem_singleton] at once
    exact ⟨used,taken,once taken (.inl used)⟩

end Engine
end Flowgraph
