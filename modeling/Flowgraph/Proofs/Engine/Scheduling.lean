import Flowgraph.Proofs.Action.Law
import Flowgraph.Proofs.Engine.History
import Flowgraph.Proofs.Engine.Notes

/-! When scheduling leaves the calendar. A delay can be short enough to be counted and still lead to a time that cannot be held. A job
is then not refused but its run is lost; and a run is lost in no other way. -/

namespace Flowgraph
open Act

/-- The delay can be counted, and the time that it leads to is not in the calendar. -/
structure Instant.Overrun (now : Instant) (delay : Duration) : Prop where
  counted : delay ≤ Duration.longestShift
  beyond : ¬(earliest.nanos ≤ now.nanos + delay ∧ now.nanos + delay ≤ latest.nanos)

instance (now : Instant) (delay : Duration) : Decidable (now.Overrun delay) :=
  decidable_of_iff _ ⟨fun ⟨counted,beyond⟩ => ⟨counted,beyond⟩,fun ⟨counted,beyond⟩ => And.intro counted beyond⟩

/-- The same of a delay that is given in minutes. -/
def Instant.OverrunBy (now : Instant) (minutes : Float) : Prop := ∃ delay, Continuation.delay? minutes = some delay ∧ now.Overrun delay

theorem dueResult_eq_overflow_iff {now : Instant} {delay : Duration} : dueResult now delay = .error .overflow ↔ now.Overrun delay := by
  unfold dueResult
  split
  · next long => exact ⟨nofun,fun overrun => absurd overrun.counted (Nat.not_le_of_lt long)⟩
  · next short =>
    cases moved : now.shift? delay with
    | some t =>
      refine ⟨nofun,fun overrun => ?_⟩
      rw [Instant.shift?_eq_none_iff.mpr overrun.beyond] at moved
      cases moved
    | none => exact ⟨fun _ => ⟨Nat.le_of_not_lt short,Instant.shift?_eq_none_iff.mp moved⟩,fun _ => rfl⟩

/-- A delay is refused for one reason. -/
theorem eq_invalidDelay_of_dueResult {now : Instant} {delay : Duration} {e : QueueFault} (refused : dueResult now delay = .error (.cause e)) :
    e = .invalidDelay := by
  unfold dueResult at refused
  split at refused
  · cases refused; rfl
  · split at refused <;> cases refused

namespace DelayQueue

theorem enqueue_outcome (delay : Duration) (payload : Json) (q : DelayQueue) :
    let x := enqueue delay payload q
    (x.1 = .error .overflow ↔ q.now.Overrun delay) ∧ (x.1 ≠ .error .overflow → (∃ id, x.1 = .ok id) ∨ x.1 = .error (.cause .invalidDelay)) := by
  rw [enqueue_apply,← dueResult_eq_overflow_iff]
  rcases due : dueResult q.now delay with (e | _) | runAt
  · obtain rfl := eq_invalidDelay_of_dueResult due
    exact ⟨⟨nofun,nofun⟩,fun _ => .inr rfl⟩
  · exact ⟨⟨fun _ => rfl,fun _ => rfl⟩,fun other => absurd rfl other⟩
  · exact ⟨⟨nofun,nofun⟩,fun _ => .inl ⟨_,rfl⟩⟩

theorem retry_outcome (id : JobId) (error : String) (backoff : Duration) (q : DelayQueue) :
    let x := retry id error backoff q
    (x.1 = .error .overflow ↔ q.now.Overrun backoff) ∧ (x.1 ≠ .error .overflow →
      x.1 = .ok () ∨ x.1 = .error (.cause .invalidDelay) ∨ x.1 = .error (.cause (.jobNotFound id))) := by
  rw [retry_eq,← dueResult_eq_overflow_iff]
  rcases due : dueResult q.now backoff with (e | _) | runAt
  · obtain rfl := eq_invalidDelay_of_dueResult due
    exact ⟨⟨nofun,nofun⟩,fun _ => .inr (.inl rfl)⟩
  · exact ⟨⟨fun _ => rfl,fun _ => rfl⟩,fun other => absurd rfl other⟩
  · dsimp only
    rw [transition_eq]
    split
    · exact ⟨⟨nofun,nofun⟩,fun _ => .inl rfl⟩
    · exact ⟨⟨nofun,nofun⟩,fun _ => .inr (.inr rfl)⟩

end DelayQueue

/-- The suspension that is asked for leads out of the calendar. -/
def Use.Overruns (now : Instant) : Use → Prop
  | .call _ => False
  | .suspend minutes _ => now.OverrunBy minutes

namespace Engine
open Execution

variable {κ : Type} {outside : Outside κ}

theorem resumption_eq_overflow_iff {now : Instant} {minutes : Float} : resumption now minutes = .error .overflow ↔ now.OverrunBy minutes := by
  unfold resumption Instant.OverrunBy
  cases Continuation.delay? minutes with
  | none => exact ⟨nofun,nofun⟩
  | some delay =>
    simp only [Option.some.injEq,exists_eq_left',← dueResult_eq_overflow_iff]
    rcases dueResult now delay with (e | _) | runAt
    · exact ⟨nofun,nofun⟩
    · exact ⟨fun _ => rfl,fun _ => rfl⟩
    · exact ⟨nofun,nofun⟩

theorem scheduling_of_resumption {now : Instant} {minutes : Float} {e : NodeFault} (refused : resumption now minutes = .error (.cause e)) :
    ∃ message, e = .scheduling message := by
  unfold resumption at refused
  split at refused
  · cases refused
    exact ⟨_,rfl⟩
  · next delay _ =>
    rcases due : dueResult now delay with (e | _) | runAt <;> rw [due] at refused <;> cases refused
    exact ⟨_,rfl⟩

theorem delay_outcome (outside : Outside κ) (nodes : List Node) (node : Node) {minutes : Float} (fit : Action.isLength minutes = true)
    (c : Context) (s : Engine κ) :
    let x := Action.delay (capabilities outside) nodes node minutes (c,s)
    (x.1 = .error .overflow ↔ s.queue.now.OverrunBy minutes) ∧ (x.1 ≠ .error .overflow →
      (∃ job, x.1 = .ok (.suspend job)) ∨ ∃ message, x.1 = .error (.cause (.scheduling message))) := by
  rw [Action.delay_fit fit,suspend_apply,← resumption_eq_overflow_iff]
  rcases due : resumption s.queue.now minutes with (e | _) | runAt
  · obtain ⟨message,rfl⟩ := scheduling_of_resumption due
    exact ⟨⟨nofun,nofun⟩,fun _ => .inr ⟨message,rfl⟩⟩
  · exact ⟨⟨fun _ => rfl,fun _ => rfl⟩,fun other => absurd rfl other⟩
  · exact ⟨⟨nofun,nofun⟩,fun _ => .inl ⟨_,rfl⟩⟩

/-- An action on states that have an engine with its notes in them. It leaves the clock of the queue as it is, and it leaves the
calendar exactly if it asks for a suspension that does. -/
def LostBySuspension (view : ρ → List Use × Engine κ) (now : Instant) (act : Act ρ ε α) : Prop :=
  ∀ p, (view p).2.queue.now = now → (view (act p).2).2.queue.now = now ∧
    ∃ more, (view (act p).2).1 = (view p).1 ++ more ∧ ((act p).1 = .error .overflow ↔ ∃ use ∈ more, use.Overruns now)

namespace LostBySuspension

variable {ρ : Type} {view : ρ → List Use × Engine κ} {now : Instant} {act : Act ρ ε α}

/-- An action that uses nothing does not leave the calendar. -/
theorem unused (returns : ∀ p, (act p).1 ≠ .error .overflow) (uses : ∀ p, (view (act p).2).1 = (view p).1)
    (queue : ∀ p, (view (act p).2).2.queue = (view p).2.queue) : LostBySuspension view now act := by
  intro p still
  refine ⟨(congrArg DelayQueue.now (queue p)).trans still,[],(uses p).trans (List.append_nil _).symm,?_⟩
  exact ⟨fun overflow => absurd overflow (returns p),fun ⟨_,member,_⟩ => absurd member List.not_mem_nil⟩

theorem pure (a : α) : LostBySuspension view now (pure a : Act ρ ε α) := unused (fun _ => nofun) (fun _ => rfl) fun _ => rfl

theorem fail (e : ε) : LostBySuspension view now (Act.fail e : Act ρ ε α) := unused (fun _ => nofun) (fun _ => rfl) fun _ => rfl

theorem bind {f : α → Act ρ ε β} (first : LostBySuspension view now act) (rest : ∀ a, LostBySuspension view now (f a)) :
    LostBySuspension view now (act >>= f) := by
  intro p still
  obtain ⟨still',more,uses,lost⟩ := first p still
  rw [bind_apply]
  revert still' uses lost
  rcases act p with ⟨e | a,q⟩ <;> intro still' uses lost
  · refine ⟨still',more,uses,Iff.trans ?_ lost⟩
    exact ⟨fun overflow => by cases overflow; rfl,fun overflow => by cases overflow; rfl⟩
  · obtain ⟨still'',others,uses',lost'⟩ := rest a q still'
    refine ⟨still'',more ++ others,by rw [uses',uses,List.append_assoc],?_⟩
    -- What has returned a value has asked for no such suspension.
    have none : ¬∃ use ∈ more, use.Overruns now := fun overruns => nomatch lost.mpr overruns
    rw [lost']
    simp only [List.mem_append,or_and_right,exists_or,none,false_or]

/-- An action that is another one on a part of its states, and leaves the calendar where that one does. -/
theorem through {ρ' : Type} {view' : ρ' → List Use × Engine κ} {act' : Act ρ' δ β} (lost : LostBySuspension view now act) (into : ρ' → ρ)
    (enters : ∀ p, view (into p) = view' p) (leaves : ∀ p, view' (act' p).2 = view (act (into p)).2)
    (result : ∀ p, (act' p).1 = .error .overflow ↔ (act (into p)).1 = .error .overflow) : LostBySuspension view' now act' := by
  intro p still
  rw [leaves,result,← enters]
  exact lost (into p) (enters p ▸ still)

theorem attempt (lost : LostBySuspension view now act) : LostBySuspension view now (Act.attempt act : Act ρ δ (Except ε α)) :=
  lost.through id (fun _ => rfl) (fun p => congrArg view (attempt_snd act p)) fun _ => attempt_overflow_iff

theorem mapFault (f : ε → δ) (lost : LostBySuspension view now act) : LostBySuspension view now (Act.mapFault f act) :=
  lost.through id (fun _ => rfl) (fun _ => rfl) fun _ => mapFault_overflow_iff

theorem mapM {f : β → Act ρ ε α} (each : ∀ b, LostBySuspension view now (f b)) (xs : List β) : LostBySuspension view now (xs.mapM f) := by
  induction xs with
  | nil => exact .pure _
  | cons b rest ih =>
    rw [List.mapM_cons]
    exact (each b).bind fun _ => ih.bind fun _ => .pure _

theorem call (outside : Outside κ) (request : Call) : LostBySuspension id now ((capabilities outside).noted.call request) := by
  rintro ⟨uses,s⟩ still
  refine ⟨still,[.call request],rfl,?_⟩
  have returns : ((capabilities outside).noted.call request (uses,s)).1 ≠ .error .overflow := by
    change (outside request s.outside).1.mapError Failure.cause ≠ _
    rcases (outside request s.outside).1 with e | answer <;> nofun
  simp only [List.mem_singleton,exists_eq_left,Use.Overruns,iff_false]
  exact returns

theorem suspend (outside : Outside κ) (minutes : Float) (left : Suspension) :
    LostBySuspension id now ((capabilities outside).noted.suspend minutes left) := by
  rintro ⟨uses,s⟩ rfl
  change _ ∧ ∃ more, _ ∧ (((capabilities outside).suspend minutes left s).1 = _ ↔ _)
  have answered : (((capabilities outside).suspend minutes left s).1 = .error .overflow ↔ s.queue.now.OverrunBy minutes) ∧
      ((capabilities outside).suspend minutes left s).2.queue.now = s.queue.now := by
    rw [suspend_apply,← resumption_eq_overflow_iff]
    rcases resumption s.queue.now minutes with e | runAt
    · exact ⟨⟨fun same => by cases same; rfl,fun same => by cases same; rfl⟩,rfl⟩
    · exact ⟨⟨nofun,nofun⟩,rfl⟩
  refine ⟨answered.2,[.suspend minutes left],rfl,answered.1.trans ?_⟩
  simp only [List.mem_singleton,exists_eq_left]
  exact .rfl

theorem step {act : Act (List Use × Engine κ) NodeFault α} (lost : LostBySuspension id now act) :
    LostBySuspension Prod.snd now (Step.outside act) := lost.through Prod.snd (fun _ => rfl) (fun _ => rfl) fun _ => .rfl

theorem law (outside : Outside κ) (now : Instant) (id : String) :
    Step.Law (capabilities outside).noted id (LostBySuspension Prod.snd now) where
  pure := .pure
  fail := .fail
  bind := .bind
  context := .unused (fun _ => nofun) (fun _ => rfl) fun _ => rfl
  note _ := .unused (fun _ => nofun) (fun _ => rfl) fun _ => rfl
  merge := .unused (fun _ => nofun) (fun _ => rfl) fun _ => rfl
  mark := .unused (fun _ => nofun) (fun _ => rfl) fun _ => rfl
  transform steps := .unused (fun p => by rw [Action.transform_apply]; nofun) (fun p => by rw [Action.transform_apply])
    fun p => by rw [Action.transform_apply]
  call request := (call outside request).step
  attempt request := (call outside request).attempt.step
  suspend minutes left := (suspend outside minutes left).step

theorem walk (outside : Outside κ) (config : EngineConfig) (nodes : List Node) (node : Node) :
    LostBySuspension Prod.snd now (Flowgraph.walk (terrain (backend outside).noted config nodes) node) := by
  refine Walk.Law.visit (Q := LostBySuspension Prod.snd now) ⟨.pure,.fail,.bind,fun _ _ _ => ?_,fun node => ?_⟩ (config.maxDepth + 1) node
  · exact .unused (fun _ => nofun) (fun _ => rfl) fun _ => rfl
  · exact ((law outside now node.id).perform config.batchSize nodes).attempt

theorem update (outside : Outside κ) (name : String) (u : RunUpdate) : LostBySuspension id now ((backend outside).noted.update name u) := by
  have stored (s : Engine κ) : (Engine.update name u s).1 ≠ .error .overflow ∧ (Engine.update name u s).2.queue = s.queue := by
    unfold Engine.update
    rw [bind_apply,get_apply]
    dsimp only
    split
    · exact ⟨nofun,rfl⟩
    · exact ⟨nofun,rfl⟩
  exact .unused (fun p => (stored p.2).1) (fun _ => rfl) fun p => (stored p.2).2

theorem persist (outside : Outside κ) (made : Context → Instant → RunUpdate) :
    LostBySuspension Prod.snd now (Execution.persist (backend outside).noted made) :=
  fun p still => update outside p.1.executionId (made p.1 p.2.2.clock) p.2 still

theorem recordFailure (outside : Outside κ) (fault : EngineFault) :
    LostBySuspension Prod.snd now (Execution.recordFailure (backend outside).noted fault : Walk (List Use × Engine κ) α) :=
  (persist outside _).attempt.bind fun _ => .fail _

theorem finish (outside : Outside κ) (status : Status) : LostBySuspension Prod.snd now (Execution.finish (backend outside).noted status) :=
  (persist outside _).mapFault _

theorem onContext {act : Walk (List Use × Engine κ) α} (c : Context) (lost : LostBySuspension Prod.snd now act) :
    LostBySuspension id now (Execution.onContext c act) := lost.through (c,·) (fun _ => rfl) (fun _ => rfl) fun _ => .rfl

theorem branch (outside : Outside κ) (config : EngineConfig) (nodes : List Node) (c : Context) (trigger : Node) :
    LostBySuspension id now (Execution.branch (terrain (backend outside).noted config nodes) c trigger) := by
  refine (walk outside config nodes trigger).through (c.fork,·) (fun _ => rfl) (fun p => ?_) fun p => ?_
  all_goals
    unfold Execution.branch
    rcases Flowgraph.walk (terrain (backend outside).noted config nodes) trigger (c.fork,p) with ⟨(fault | _) | jobs,d,q⟩
  · rfl
  · rfl
  · rfl
  · exact ⟨nofun,nofun⟩
  · exact ⟨fun _ => rfl,fun _ => rfl⟩
  · exact ⟨nofun,nofun⟩

theorem runTriggers (outside : Outside κ) (config : EngineConfig) (nodes : List Node) (c : Context) :
    LostBySuspension id now (Execution.runTriggers (backend outside).noted config nodes c) := by
  refine (mapM (branch outside config nodes c) _).bind fun branches => ?_
  cases outcome branches with
  | ok jobs => exact (finish outside _).onContext _
  | error fault => exact (recordFailure outside fault).onContext _

theorem execute (outside : Outside κ) (config : EngineConfig) (d : Definition) (input : Json) (id? : Option String) :
    LostBySuspension id now (Execution.execute (backend outside).noted config d input id?) := by
  have named : LostBySuspension (ε := EngineFault) id now (ExceptT.lift (backend outside).noted.freshRunId) :=
    .unused (fun _ => nofun) (fun _ => rfl) fun _ => rfl
  have read : LostBySuspension (ε := EngineFault) id now (get : Act (List Use × Engine κ) EngineFault _) :=
    .unused (fun _ => nofun) (fun _ => rfl) fun _ => rfl
  have created (r : RunRecord) : LostBySuspension id now ((backend outside).noted.create r) :=
    .unused (fun _ => nofun) (fun _ => rfl) fun _ => rfl
  unfold Execution.execute
  cases id?
  case' none => refine named.bind fun name => ?_
  case' some name => refine bind (.pure name) fun name => ?_
  -- The id is known now, and the rest of both cases is the same.
  all_goals
    refine read.bind fun p => ((created _).mapFault _).bind fun _ => ?_
    split
    · exact ((update outside _ _).mapFault _).bind fun _ => .pure _
    · cases Validation.checkRunnable d.nodes with
      | error fault => exact ((recordFailure outside _).onContext _).bind fun _ => .pure _
      | ok _ => exact (runTriggers outside config d.nodes _).bind fun _ => .pure _

theorem continueAt (outside : Outside κ) (config : EngineConfig) (nodes : List Node) (node : Node) :
    LostBySuspension Prod.snd now (Execution.continueAt (backend outside).noted config nodes node) := by
  refine (walk outside config nodes node).attempt.bind fun result => ?_
  cases result with
  | ok jobs => exact finish outside _
  | error fault => exact recordFailure outside fault

theorem continueAll (outside : Outside κ) (config : EngineConfig) (nodes : List Node) (ids : List String) :
    LostBySuspension Prod.snd now (Execution.continueAll (backend outside).noted config nodes ids) := by
  induction ids with
  | nil => exact .pure _
  | cons head rest ih =>
    unfold Execution.continueAll
    cases Node.find? nodes head with
    | none => exact recordFailure outside _
    | some node => exact (continueAt outside config nodes node).bind fun _ => ih

theorem resume (outside : Outside κ) (config : EngineConfig) (k : Continuation) :
    LostBySuspension id now (Execution.resume (backend outside).noted config k) := by
  have looked (name : Uuid) : LostBySuspension id now ((backend outside).noted.automation? name) :=
    .unused (fun _ => nofun) (fun _ => rfl) fun _ => rfl
  have found : LostBySuspension id now (resumeNodes (backend outside).noted config k.automationId k.nodes) := by
    unfold resumeNodes
    split
    · exact .pure _
    · refine ((looked _).mapFault _).bind fun found => ?_
      cases found with
      | none => exact .fail _
      | some d => exact .pure _
  refine found.attempt.bind fun result => ?_
  cases result with
  | error fault => exact (recordFailure outside fault).onContext _
  | ok nodes =>
    dsimp only
    split
    · exact (finish outside _).onContext _
    · exact (continueAll outside config nodes k.next).onContext _

theorem takeup (outside : Outside κ) (config : EngineConfig) (taken : Takeup) :
    LostBySuspension id now (taken.run (backend outside).noted config) := by
  cases taken with
  | resume k => exact resume outside config k
  | continueAt nodes node left => exact (continueAt outside config nodes node).onContext _

/-- From no notes on, the notes tell whether the action is lost. -/
theorem lost_iff {act : Act (List Use × Engine κ) ε α} {s : Engine κ} (lost : LostBySuspension id s.queue.now act) :
    (act ([],s)).1 = .error .overflow ↔ ∃ use ∈ (act ([],s)).2.1, use.Overruns s.queue.now := by
  obtain ⟨-,more,uses,lost⟩ := lost ([],s) rfl
  have whole : (act ([],s)).2.1 = more := uses
  rw [whole]
  exact lost

end LostBySuspension

/-- Scheduling goes wrong in one way only. A job is put off, or refused as too late or unknown, unless its delay can be counted and
leads out of the calendar; a delay node suspends its run or fails to schedule it with the same exception. Where a run is lost, whether
it has been started or taken up again, it has asked for such a suspension, and where it asks for one it is lost. -/
theorem scheduling_leaves_calendar_iff (outside : Outside κ) (config : EngineConfig) :
    (∀ delay payload q, let x := DelayQueue.enqueue delay payload q
      (x.1 = .error .overflow ↔ q.now.Overrun delay) ∧ (x.1 ≠ .error .overflow → (∃ id, x.1 = .ok id) ∨ x.1 = .error (.cause .invalidDelay))) ∧
    (∀ id error backoff q, let x := DelayQueue.retry id error backoff q
      (x.1 = .error .overflow ↔ q.now.Overrun backoff) ∧ (x.1 ≠ .error .overflow →
        x.1 = .ok () ∨ x.1 = .error (.cause .invalidDelay) ∨ x.1 = .error (.cause (.jobNotFound id)))) ∧
    (∀ nodes node minutes c s, Action.isLength minutes = true → let x := Action.delay (capabilities outside) nodes node minutes (c,s)
      (x.1 = .error .overflow ↔ s.queue.now.OverrunBy minutes) ∧ (x.1 ≠ .error .overflow →
        (∃ job, x.1 = .ok (.suspend job)) ∨ ∃ message, x.1 = .error (.cause (.scheduling message)))) ∧
    (∀ d input id? s, (execute (backend outside) config d input id? s).1 = .error .overflow ↔
      ∃ use ∈ (execute (backend outside).noted config d input id? ([],s)).2.1, use.Overruns s.queue.now) ∧
    ∀ taken s, (Takeup.run (backend outside) config taken s).1 = .error .overflow ↔
      ∃ use ∈ (Takeup.run (backend outside).noted config taken ([],s)).2.1, use.Overruns s.queue.now := by
  refine ⟨DelayQueue.enqueue_outcome,DelayQueue.retry_outcome,fun nodes node minutes c s fit => delay_outcome outside nodes node fit c s,?_,?_⟩
  · intro d input id? s
    rw [← (execute_bare (backend outside) config d input id? [] s).result]
    exact (LostBySuspension.execute outside config d input id?).lost_iff
  · intro taken s
    rw [← (takeup_bare (backend outside) config taken [] s).result]
    exact (LostBySuspension.takeup outside config taken).lost_iff

def lasting (minutes : Float) : Definition := ⟨.nil,.nil,"lasting",true,
  [⟨"start",["pause"],.trigger ⟨"crm","new",none⟩⟩,⟨"pause",[],.delay minutes⟩],⟨0,false⟩,⟨0,false⟩⟩

/-- A delay of five minutes stays in the calendar. -/
theorem short_delay_suspends :
    let x := Action.delay (capabilities silent) (lasting 5).nodes ⟨"pause",[],.delay 5⟩ 5 (openingContext (lasting 5) .null none (after []),after [])
    Action.isLength 5 = true ∧ ¬(after []).queue.now.OverrunBy 5 ∧
      ((∃ job, x.1 = .ok (.suspend job)) ∨ ∃ message, x.1 = .error (.cause (.scheduling message))) := by
  have fit : Action.isLength 5 = true := by decide +kernel
  obtain ⟨-,-,delay,-,-⟩ := scheduling_leaves_calendar_iff silent standard
  obtain ⟨lost,settled⟩ := delay (lasting 5).nodes ⟨"pause",[],.delay 5⟩ 5 (openingContext (lasting 5) .null none (after [])) (after []) fit
  have short : ¬(after []).queue.now.OverrunBy 5 := by
    rintro ⟨delay,found,overrun⟩
    have counted : Continuation.delay? 5 = some (Duration.ofSeconds 300) := by decide +kernel
    cases counted.symm.trans found
    revert overrun
    decide
  exact ⟨fit,short,settled (mt lost.mp short)⟩

/-- Ten million million seconds can be counted, and no job can be put off by as much; nor can a run wait as many minutes, of which
its definition says nothing amiss. -/
theorem long_delay_leaves_calendar :
    let far := Duration.ofSeconds 10000000000000
    (DelayQueue.enqueue far .null (.start ⟨0,false⟩)).1 = .error .overflow ∧
      (DelayQueue.retry ⟨1⟩ "busy" far (.start ⟨0,false⟩)).1 = .error .overflow ∧
      Action.isLength 10000000000000 = true ∧
      (execute (backend silent) standard (lasting 10000000000000) .null (some "run") (after [])).1 = .error .overflow := by
  refine ⟨by decide +kernel,by decide +kernel,by decide +kernel,by decide +kernel⟩

end Engine
end Flowgraph
