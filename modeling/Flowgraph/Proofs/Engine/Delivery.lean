import Flowgraph.Proofs.Engine.Continuation
import Flowgraph.Proofs.Engine.Resume

/-! One round of the worker over the engine in memory. It finds nothing due, or it delivers one live entry: the
run of that entry is taken up, new entries stand at the end, and the entry is answered as the run has gone. -/

namespace Flowgraph
open Act

namespace Engine
open Execution

variable {κ : Type} {outside : Outside κ} {config : EngineConfig} {s : Engine κ}

theorem handler_apply (b : Backend σ) (config : EngineConfig) (job : Job JobId) {k : Continuation}
    (decoded : Continuation.decoder .direct job.payload = .ok k) (s : σ) :
    handler b config job s = match resume b config k s with
      | (.ok _,t) => (.ok (),t)
      | (.error (.cause fault),t) =>
        (if fault.faultClass = .infrastructure then .error (.cause (": ".intercalate fault.chain)) else .ok (),t)
      | (.error .overflow,t) => (.error .overflow,t) := by
  unfold handler
  rw [decoded]
  dsimp only
  rw [bind_apply,attempt]
  rcases resume b config k s with ⟨(fault | _) | _,t⟩
  · dsimp only
    split <;> rfl
  · rfl
  · rfl

def replaced (id : JobId) (e : QueueEntry) (s : Engine κ) : Engine κ := { s with queue := s.queue.update id fun _ => e }

/-- How a delivery ends: left unfinished it can be repeated; finished, it is answered as the run stands. -/
def Answered (k : Continuation) (last : QueueEntry) (s' : Engine κ) (added : List QueueEntry) (result : Worker.Round) : Prop :=
  result = .error .overflow ∧ last.isLive = true ∨ ∃ r, s'.record? k.context.executionId = some r ∧
    (r.status = .failed ∨ last.slot = .completed ∧ (r.status = .completed ∨ r.status = .waiting ∧ added ≠ []))

/-- A round that delivers: a live entry is claimed, its run is taken up, and an entry of the same job comes in its place. -/
structure Delivery (outside : Outside κ) (config : EngineConfig) (worker : WorkerConfig) (s : Engine κ) (e last : QueueEntry)
    (k : Continuation) (added : List QueueEntry) : Prop where
  member : e ∈ s.queue.entries
  live : e.isLive = true
  claimed : (DelayQueue.claim worker.lease s.queue).1 = .ok (some (DelayQueue.delivered e s.queue.now).job)
  decoded : Continuation.decoder .direct e.job.payload = .ok k
  id : last.job.id = e.job.id
  payload : last.job.payload = e.job.payload
  extended : Extended ((nodesFor config k.automationId k.nodes s).getD []) (Context.restore k.context) (replaced e.job.id last s)
    (workOnce outside config worker s).2 added
  answered : Answered k last (workOnce outside config worker s).2 added (workOnce outside config worker s).1

theorem Extended.mem_replaced {id : JobId} {e : QueueEntry} {nodes : List Node} {c : Context} {t : Engine κ} {added : List QueueEntry}
    (extended : Extended nodes c (replaced id e s) t added) (known : ∃ old ∈ s.queue.entries, old.job.id = id) : e ∈ t.queue.entries := by
  obtain ⟨old,member,here⟩ := known
  rw [extended.queue]
  exact List.mem_append_left _ (DelayQueue.mem_update.mpr ⟨old,member,(if_pos here).symm⟩)

theorem Extended.transition {id : JobId} {e : QueueEntry} {nodes : List Node} {c : Context} {t : Engine κ} {added : List QueueEntry}
    (extended : Extended nodes c (replaced id e s) t added) (same : e.job.id = id) (known : ∃ old ∈ s.queue.entries, old.job.id = id)
    (early : id.number ≤ s.queue.entries.length) (g : QueueEntry → QueueEntry) :
    DelayQueue.transition id g t.queue = (.ok (),t.queue.update id g) ∧
      Extended nodes c (replaced id (g e) s) { t with queue := t.queue.update id g } added := by
  refine ⟨DelayQueue.transition_apply ⟨e,extended.mem_replaced known,same⟩,?_⟩
  have queue := extended.queue
  have follows := extended.follows
  simp only [replaced] at queue follows
  have length : (s.queue.update id fun _ => e).entries.length = s.queue.entries.length := List.length_map _
  have moved : t.queue.update id g = { s.queue.update id (fun _ => g e) with entries := (s.queue.update id fun _ => g e).entries ++ added } := by
    rw [queue,DelayQueue.update_append follows (length ▸ early),DelayQueue.update_update same]
  refine ⟨moved,extended.left,?_,extended.records,extended.recorded,extended.automations,extended.clock⟩
  simpa only [DelayQueue.Follows,replaced,DelayQueue.update,List.length_map] using follows

theorem claim_apply {lease : Duration} : queueOperations.claim lease s =
    ((DelayQueue.claim lease s.queue).1,{ s with queue := (DelayQueue.claim lease s.queue).2 }) := rfl

theorem complete_apply (id : JobId) : queueOperations.complete id s =
    ((DelayQueue.complete id s.queue).1,{ s with queue := (DelayQueue.complete id s.queue).2 }) := rfl

theorem deadLetter_apply (id : JobId) (error : String) : queueOperations.deadLetter id error s =
    ((DelayQueue.deadLetter id error s.queue).1,{ s with queue := (DelayQueue.deadLetter id error s.queue).2 }) := rfl

theorem retry_apply (id : JobId) (error : String) (backoff : Duration) : queueOperations.retry id error backoff s =
    ((DelayQueue.retry id error backoff s.queue).1,{ s with queue := (DelayQueue.retry id error backoff s.queue).2 }) := rfl

/-- What the worker does with a job once the handler is through with it. -/
def answer (worker : WorkerConfig) (job : Job JobId) : Except String Unit → Act (Engine κ) QueueFault (Option JobOutcome)
  | .ok _ => do
    queueOperations.complete job.id
    return some .completed
  | .error error => return some (← Worker.giveBack queueOperations worker job error)

theorem answer_ok {e : QueueEntry} {nodes : List Node} {c : Context} {t : Engine κ} {added : List QueueEntry} (worker : WorkerConfig)
    (known : ∃ old ∈ s.queue.entries, old.job.id = e.job.id) (early : e.job.id.number ≤ s.queue.entries.length)
    (extended : Extended nodes c (replaced e.job.id e s) t added) :
    let x := answer worker e.job (.ok ()) t
    Extended nodes c (replaced e.job.id { e with slot := .completed } s) x.2 added ∧ x.2.records = t.records := by
  obtain ⟨answered,completed⟩ := extended.transition rfl known early ({ · with slot := .completed })
  unfold answer
  dsimp only
  rw [bind_apply,complete_apply,DelayQueue.complete,answered]
  exact ⟨completed,rfl⟩

/-- A failed delivery is given back, or left as it is where there is no time to give it back for. -/
theorem answer_error {e : QueueEntry} {nodes : List Node} {c : Context} {t : Engine κ} {added : List QueueEntry} (worker : WorkerConfig)
    (error : String) (known : ∃ old ∈ s.queue.entries, old.job.id = e.job.id) (early : e.job.id.number ≤ s.queue.entries.length)
    (extended : Extended nodes c (replaced e.job.id e s) t added) :
    let x := answer worker e.job (.error error) t
    ∃ last, last.job.id = e.job.id ∧ last.job.payload = e.job.payload ∧ Extended nodes c (replaced e.job.id last s) x.2 added ∧
      x.2.records = t.records := by
  unfold answer
  dsimp only
  rw [state_bind_pure,Worker.giveBack]
  split
  · obtain ⟨answered,extended⟩ := extended.transition rfl known early ({ · with slot := .deadLettered error })
    rw [state_bind_pure _ fun _ => _,deadLetter_apply,DelayQueue.deadLetter,answered]
    exact ⟨{ e with slot := .deadLettered error },rfl,rfl,extended,rfl⟩
  · have inside : ∃ old ∈ t.queue.entries, old.job.id = e.job.id := ⟨e,extended.mem_replaced known,rfl⟩
    rw [state_bind_pure _ fun _ => _,retry_apply,DelayQueue.retry_apply error _ inside]
    cases dueResult t.queue.now (Duration.times worker.retryBackoff e.job.attempts) with
    | ok runAt =>
      obtain ⟨-,extended⟩ := extended.transition rfl known early fun e => ⟨{ e.job with runAt },.pending⟩
      exact ⟨⟨{ e.job with runAt },.pending⟩,rfl,rfl,extended,rfl⟩
    | error failure => exact ⟨e,rfl,rfl,extended,rfl⟩

theorem workOnce_claimed {worker : WorkerConfig} {e : QueueEntry} {k : Continuation}
    (claimed : DelayQueue.claim worker.lease s.queue =
      (.ok (some (DelayQueue.delivered e s.queue.now).job),s.queue.update e.job.id fun _ => DelayQueue.delivered e s.queue.now))
    (decoded : Continuation.decoder .direct e.job.payload = .ok k) :
    workOnce outside config worker s =
      match resume (backend outside) config k (replaced e.job.id (DelayQueue.delivered e s.queue.now) s) with
        | (.ok _,t) => answer worker (DelayQueue.delivered e s.queue.now).job (.ok ()) t
        | (.error (.cause fault),t) => answer worker (DelayQueue.delivered e s.queue.now).job
          (if fault.faultClass = .infrastructure then .error (": ".intercalate fault.chain) else .ok ()) t
        | (.error .overflow,t) => (.error .overflow,t) := by
  unfold workOnce Worker.runOnce
  rw [bind_apply,claim_apply,claimed]
  dsimp only
  rw [bind_apply,attempt,handler_apply (backend outside) config (DelayQueue.delivered e s.queue.now).job decoded]
  unfold replaced
  rcases resume (backend outside) config k _ with ⟨(fault | _) | _,t⟩
  · by_cases infrastructure : fault.faultClass = .infrastructure
    · simp only [if_pos infrastructure]
      rfl
    · simp only [if_neg infrastructure]
      rfl
  · rfl
  · rfl

theorem workOnce_cases (outside : Outside κ) (config : EngineConfig) (worker : WorkerConfig) (numbered : s.queue.Numbered)
    (readable : ∀ e ∈ s.queue.entries, ∃ k, Continuation.decoder .direct e.job.payload = .ok k ∧ (s.record? k.context.executionId).isSome = true) :
    (workOnce outside config worker s = (.ok none,s) ∧ (DelayQueue.claim worker.lease s.queue).1 = .ok none) ∨
      ∃ e last k added, Delivery outside config worker s e last k added := by
  obtain nothing | ⟨e,member,due,claimed⟩ := DelayQueue.claim_cases worker.lease s.queue
  · refine .inl ⟨?_,by rw [nothing]⟩
    unfold workOnce Worker.runOnce
    rw [bind_apply,claim_apply,nothing]
    rfl
  right
  obtain ⟨k,decoded,recorded⟩ := readable e member
  have early : e.job.id.number ≤ s.queue.entries.length := numbered.le_length member
  have present : ∃ old ∈ s.queue.entries, old.job.id = (DelayQueue.delivered e s.queue.now).job.id := ⟨e,member,rfl⟩
  have live := DelayQueue.isLive_of_claimable due
  have first : (DelayQueue.claim worker.lease s.queue).1 = .ok (some (DelayQueue.delivered e s.queue.now).job) := by rw [claimed]
  have known : ((replaced e.job.id (DelayQueue.delivered e s.queue.now) s).record? k.context.executionId).isSome = true := recorded
  obtain ⟨added,extended,r,found,standing⟩ := resume_outcome outside config k known
  -- It is enough to say which entry comes in the place of the claimed one, and how the run stands.
  suffices rest : ∃ last : QueueEntry, last.job.id = e.job.id ∧ last.job.payload = e.job.payload ∧
      Extended ((nodesFor config k.automationId k.nodes s).getD []) (Context.restore k.context) (replaced e.job.id last s)
        (workOnce outside config worker s).2 added ∧
      Answered k last (workOnce outside config worker s).2 added (workOnce outside config worker s).1 by
    obtain ⟨last,id,payload,whole,answered⟩ := rest
    exact ⟨e,last,k,added,member,live,first,decoded,id,payload,whole,answered⟩
  rw [workOnce_claimed claimed decoded]
  revert extended found standing
  rcases resume (backend outside) config k (replaced e.job.id (DelayQueue.delivered e s.queue.now) s) with ⟨(fault | _) | _,t⟩ <;>
    intro extended found standing
  · have failed : r.status = .failed := standing
    dsimp only
    split
    · obtain ⟨last,id,payload,extended,records⟩ := answer_error worker (": ".intercalate fault.chain) present early extended
      exact ⟨last,id,payload,extended,.inr ⟨r,(record?_congr records _).trans found,.inl failed⟩⟩
    · obtain ⟨extended,records⟩ := answer_ok worker present early extended
      exact ⟨{ DelayQueue.delivered e s.queue.now with slot := .completed },rfl,rfl,extended,
        .inr ⟨r,(record?_congr records _).trans found,.inl failed⟩⟩
  · exact ⟨DelayQueue.delivered e s.queue.now,rfl,rfl,extended,.inl ⟨rfl,rfl⟩⟩
  · obtain ⟨extended,records⟩ := answer_ok worker present early extended
    exact ⟨{ DelayQueue.delivered e s.queue.now with slot := .completed },rfl,rfl,extended,
      .inr ⟨r,(record?_congr records _).trans found,.inr ⟨rfl,standing⟩⟩⟩

end Engine
end Flowgraph
