import Flowgraph.Proofs.Engine.Delivery
import Flowgraph.Proofs.Engine.Execute

/-! Histories of the engine in memory: runs, changes of the stored automations, the clocks, and rounds of the
worker, in any order and with any answers from outside. In every state the queue is numbered and every
payload in it can be read back to a continuation of a run that is on record. -/

namespace Flowgraph
open Act

variable {κ : Type} {outside : Outside κ} {config : EngineConfig} {s s' : Engine κ}

namespace QueueEntry

/-- The payload of the entry is that of a suspended run with this id. -/
def Carries (e : QueueEntry) (id : String) : Prop :=
  ∃ k, Continuation.decoder .direct e.job.payload = .ok k ∧ k.executionId = id

theorem carries_iff {e : QueueEntry} {id : String} :
    e.Carries id ↔ (Continuation.decoder .direct e.job.payload).toOption.map (·.executionId) = some id := by
  unfold Carries
  rcases Continuation.decoder .direct e.job.payload with _ | k <;> simp [Except.toOption]

instance (e : QueueEntry) (id : String) : Decidable (e.Carries id) := decidable_of_iff _ carries_iff.symm

theorem Carries.unique {e : QueueEntry} {id id' : String} (one : e.Carries id) (other : e.Carries id') : id = id' :=
  Option.some.inj ((carries_iff.mp one).symm.trans (carries_iff.mp other))

theorem LeftBy.isLive {c : Context} {nodes : List Node} {e : QueueEntry} (left : e.LeftBy c nodes) : e.isLive = true := by
  rw [QueueEntry.isLive,left.pending]

theorem LeftBy.decoder_payload {c : Context} {nodes : List Node} {e : QueueEntry} (left : e.LeftBy c nodes) (proper : c.startedAt.Proper) :
    ∃ d node minutes, c.SameRun d ∧ node ∈ nodes ∧ node.kind = .delay minutes ∧
      Continuation.decoder .direct e.job.payload = .ok (Continuation.ofSuspension (Action.suspension nodes node d)).canonical := by
  obtain ⟨-,d,node,minutes,run,member,kind,payload⟩ := left
  refine ⟨d,node,minutes,run,member,kind,?_⟩
  rw [payload]
  exact Continuation.decoder_json _ _ (show d.startedAt.Proper from run.startedAt ▸ proper)

theorem LeftBy.carries {c : Context} {nodes : List Node} {e : QueueEntry} (left : e.LeftBy c nodes) (proper : c.startedAt.Proper) :
    e.Carries c.executionId := by
  obtain ⟨d,node,minutes,run,-,-,decoded⟩ := left.decoder_payload proper
  exact ⟨_,decoded,run.executionId⟩

end QueueEntry

namespace Engine
open Execution

inductive Event where
  | execute (d : Definition) (input : Json) (id? : Option String)
  | put (d : Definition)
  | remove (id : Uuid)
  | advance (by_ : Duration)
  | work (worker : WorkerConfig)
  | tick (now : Instant)

namespace Event

/-- The clock shows points in time of the calendar. -/
def Possible : Event → Prop
  | tick now => now.Proper
  | _ => True

/-- The state after an event, whatever the event itself reports. -/
def apply (outside : Outside κ) (config : EngineConfig) (s : Engine κ) : Event → Engine κ
  | execute d input id? => (Execution.execute (backend outside) config d input id? s).2
  | put d => putAutomation d s
  | remove id => removeAutomation id s
  | advance by_ => (onQueue (DelayQueue.advance by_) s).2
  | work worker => (workOnce outside config worker s).2
  | tick now => { s with clock := now }

theorem apply_advance (outside : Outside κ) (config : EngineConfig) (by_ : Duration) (s : Engine κ) :
    ∃ now, apply outside config s (advance by_) = { s with queue := { s.queue with now } } := by
  obtain ⟨now,moved⟩ := DelayQueue.advance_state by_ s.queue
  exact ⟨now,by rw [← moved]; rfl⟩

end Event

/-- A history from the empty engine on; the past holds the events with the states they met, the latest first. -/
inductive History (outside : Outside κ) (config : EngineConfig) (allowed : Engine κ → Event → Prop) :
    List (Engine κ × Event) → Engine κ → Prop where
  | start (k : κ) {clock : Instant} (proper : clock.Proper) : History outside config allowed [] (Engine.start k clock)
  | step {past s event} (history : History outside config allowed past s) (possible : event.Possible) (may : allowed s event) :
    History outside config allowed ((s,event) :: past) (event.apply outside config s)

/-- The payload of an entry is read back to a continuation of a run on record. -/
def Readable (s : Engine κ) (e : QueueEntry) : Prop :=
  ∃ k, Continuation.decoder .direct e.job.payload = .ok k ∧ k.context.executionId = k.executionId ∧ k.context.startedAt.Proper ∧
    (s.record? k.executionId).isSome = true

structure Sound (s : Engine κ) : Prop where
  clock : s.clock.Proper
  numbered : s.queue.Numbered
  readable : ∀ e ∈ s.queue.entries, s.Readable e

theorem Delivery.carries {worker : WorkerConfig} {e last : QueueEntry} {k : Continuation} {added : List QueueEntry}
    (delivery : Delivery outside config worker s e last k added) (same : k.context.executionId = k.executionId) :
    last.Carries k.context.executionId :=
  ⟨k,by rw [delivery.payload,delivery.decoded],same.symm⟩

namespace Sound

theorem start (k : κ) {clock : Instant} (proper : clock.Proper) : Sound (Engine.start k clock) :=
  ⟨proper,rfl,fun _ member => absurd member List.not_mem_nil⟩

theorem extended {nodes : List Node} {c : Context} {added : List QueueEntry} (sound : Sound s) (extended : Extended nodes c s s' added)
    (proper : c.startedAt.Proper) (recorded : (s'.record? c.executionId).isSome = true) : Sound s' where
  clock := extended.clock ▸ sound.clock
  numbered := by
    rw [extended.queue]
    exact sound.numbered.append extended.follows
  readable e member := by
    rw [extended.queue] at member
    obtain old | new := List.mem_append.mp member
    · obtain ⟨k,decoded,same,started,known⟩ := sound.readable e old
      refine ⟨k,decoded,same,started,?_⟩
      by_cases own : k.executionId = c.executionId
      · exact own ▸ recorded
      · exact extended.records _ own ▸ known
    · obtain ⟨d,node,minutes,run,-,-,decoded⟩ := (extended.left e new).decoder_payload proper
      exact ⟨_,decoded,rfl,show d.startedAt.Proper from run.startedAt ▸ proper,
        show (s'.record? d.executionId).isSome = true from run.executionId ▸ recorded⟩

theorem replaced {e last : QueueEntry} (sound : Sound s) (member : e ∈ s.queue.entries) (id : last.job.id = e.job.id)
    (payload : last.job.payload = e.job.payload) : Sound (replaced e.job.id last s) where
  clock := sound.clock
  numbered := sound.numbered.update fun _ _ _ => id
  readable x inside := by
    obtain ⟨old,was,shape⟩ := DelayQueue.mem_update.mp inside
    subst shape
    split
    · obtain ⟨k,decoded,rest⟩ := sound.readable e member
      exact ⟨k,by rw [payload,decoded],rest⟩
    · exact sound.readable old was

theorem workOnce_cases (outside : Outside κ) (config : EngineConfig) (sound : Sound s) (worker : WorkerConfig) :
    (workOnce outside config worker s = (.ok none,s) ∧ (DelayQueue.claim worker.lease s.queue).1 = .ok none) ∨
      ∃ e last k added, Delivery outside config worker s e last k added ∧ k.context.executionId = k.executionId ∧
        k.context.startedAt.Proper ∧ (s.record? k.executionId).isSome = true := by
  have readable : ∀ e ∈ s.queue.entries, ∃ k, Continuation.decoder .direct e.job.payload = .ok k ∧ (s.record? k.context.executionId).isSome = true := by
    intro e member
    obtain ⟨k,decoded,same,-,recorded⟩ := sound.readable e member
    exact ⟨k,decoded,same ▸ recorded⟩
  obtain nothing | ⟨e,last,k,added,delivery⟩ := Engine.workOnce_cases outside config worker sound.numbered readable
  · exact .inl nothing
  · obtain ⟨k',decoded,rest⟩ := sound.readable e delivery.member
    cases delivery.decoded.symm.trans decoded
    exact .inr ⟨e,last,k,added,delivery,rest⟩

theorem apply (sound : Sound s) (event : Event) (possible : event.Possible) : Sound (event.apply outside config s) := by
  cases event with
  | execute d input id? =>
    obtain ⟨added,extended,r,found,-⟩ := execute_launched outside config d input id? s
    exact sound.extended extended sound.clock (Option.isSome_iff_exists.mpr ⟨r,found⟩)
  | put d => exact ⟨sound.clock,sound.numbered,sound.readable⟩
  | remove id => exact ⟨sound.clock,sound.numbered,sound.readable⟩
  | advance by_ =>
    obtain ⟨now,state⟩ := Event.apply_advance outside config by_ s
    rw [state]
    exact ⟨sound.clock,sound.numbered,sound.readable⟩
  | work worker =>
    obtain ⟨nothing,-⟩ | ⟨e,last,k,added,delivery,same,proper,recorded⟩ := sound.workOnce_cases outside config worker
    · simpa only [Event.apply,nothing] using sound
    · rw [← same] at recorded
      exact (sound.replaced delivery.member delivery.id delivery.payload).extended delivery.extended proper (delivery.extended.recorded recorded)
  | tick now => exact ⟨possible,sound.numbered,sound.readable⟩

theorem history {allowed : Engine κ → Event → Prop} {past : List (Engine κ × Event)} (history : History outside config allowed past s) :
    Sound s := by
  induction history with
  | start k proper => exact .start k proper
  | step _ possible _ ih => exact ih.apply _ possible

end Sound

/-- What holds in every state of a history, where each event keeps it exactly if the event is of a certain kind. -/
theorem History.holds_iff {allowed : Engine κ → Event → Prop} {P : Engine κ → Prop} {Q : Engine κ → Event → Prop}
    (start : ∀ (k : κ) (clock : Instant), P (Engine.start k clock))
    (step : ∀ (s : Engine κ) (event : Event), Sound s → event.Possible → allowed s event → P s → (P (event.apply outside config s) ↔ Q s event))
    {past : List (Engine κ × Event)} (history : History outside config allowed past s) :
    ((∀ at_ ∈ past, P at_.1) ∧ P s) ↔ ∀ at_ ∈ past, Q at_.1 at_.2 := by
  induction history with
  | start k proper =>
    exact iff_of_true ⟨fun _ member => absurd member List.not_mem_nil,start k _⟩ fun _ member => absurd member List.not_mem_nil
  | step history possible may ih =>
    have next := step _ _ (Sound.history history) possible may
    rw [List.forall_mem_cons,List.forall_mem_cons]
    constructor
    · rintro ⟨⟨before,earlier⟩,now⟩
      exact ⟨(next before).mp now,ih.mp ⟨earlier,before⟩⟩
    · rintro ⟨keeps,others⟩
      obtain ⟨earlier,before⟩ := ih.mpr others
      exact ⟨⟨before,earlier⟩,(next before).mpr keeps⟩

def silent : Outside Unit := fun _ s => (.error (.effect "nobody answers"),s)

def standard : EngineConfig := ⟨256,10,.live⟩

/-- The state after some events on an empty engine, the first of them last. -/
def after : List Event → Engine Unit
  | [] => Engine.start () ⟨0,false⟩
  | event :: earlier => event.apply silent standard (after earlier)

/-- The events with the states they met. -/
def met : List Event → List (Engine Unit × Event)
  | [] => []
  | event :: earlier => (after earlier,event) :: met earlier

theorem History.after {allowed : Engine Unit → Event → Prop} (events : List Event) (possible : ∀ event ∈ events, event.Possible)
    (may : ∀ at_ ∈ met events, allowed at_.1 at_.2) : History silent standard allowed (met events) (Engine.after events) := by
  induction events with
  | nil => exact .start () ⟨by decide,nofun⟩
  | cons event earlier ih =>
    refine .step (ih (fun e member => possible e (List.mem_cons_of_mem _ member)) fun p member => may p (List.mem_cons_of_mem _ member)) ?_ ?_
    · exact possible event (List.mem_cons_self ..)
    · exact may (Engine.after earlier,event) (List.mem_cons_self ..)

def pausing : Definition := ⟨.nil,.nil,"pausing",true,
  [⟨"start",["pause"],.trigger ⟨"crm","new",none⟩⟩,⟨"pause",[],.delay 0⟩],⟨0,false⟩,⟨0,false⟩⟩

end Engine
end Flowgraph
