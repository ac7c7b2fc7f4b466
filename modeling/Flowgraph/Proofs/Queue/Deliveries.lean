import Flowgraph.Proofs.Queue.Memory
import Flowgraph.Queue.Worker

/-! Deliveries of a worker to a handler that answers as it likes. The slot of a job tells what its deliveries have been
answered. Where a failure cannot be given back, for want of a time, the job stays claimed: it comes back when the lease
is over, and the delivery counts like any other. -/

namespace Flowgraph
open Act

/-- A queue with a worker, the state of the worker's handler, and what that has answered so far to which jobs. -/
structure Workplace (κ : Type) where
  queue : DelayQueue
  inner : κ
  answers : List (JobId × Except String Unit)

namespace Workplace

variable {κ : Type}

def start (now : Instant) (inner : κ) : Workplace κ := ⟨.start now,inner,[]⟩

def queueOperations : QueueOperations (Workplace κ) := DelayQueue.operations.zoom (·.queue) fun queue s => { s with queue }

def handler (respond : Job JobId → κ → Except String Unit × κ) : Handler (Workplace κ) := fun job s =>
  let (answer,inner) := respond job s.inner
  (answer.mapError .cause,{ s with inner, answers := s.answers ++ [(job.id,answer)] })

inductive Event where
  | enqueue (delay : Duration) (payload : Json)
  | advance (by_ : Duration)
  | work

/-- The state after an event, whatever the event itself reports. -/
def apply (respond : Job JobId → κ → Except String Unit × κ) (config : WorkerConfig) (s : Workplace κ) : Event → Workplace κ
  | .enqueue delay payload => (queueOperations.enqueue delay payload s).2
  | .advance by_ => { s with queue := (DelayQueue.advance by_ s.queue).2 }
  | .work => (Worker.runOnce queueOperations (handler respond) config s).2

def run (respond : Job JobId → κ → Except String Unit × κ) (config : WorkerConfig) (events : List Event) (s : Workplace κ) : Workplace κ :=
  events.foldl (apply respond config) s

/-- What the handler has answered to the deliveries of a job, in their order. -/
def answersTo (s : Workplace κ) (id : JobId) : List (Except String Unit) := (s.answers.filter (·.1 = id)).map (·.2)

def limit (config : WorkerConfig) : Nat := max 1 config.maxAttempts

/-- The answers to a job that stands in a slot: failures, fewer than the limit, as long as it is live; then a success, or the last
failure that the limit allows. -/
def Accounts (limit : Nat) (answers : List (Except String Unit)) : Slot → Prop
  | .completed => ∃ failures : List String, failures.length < limit ∧ answers = failures.map .error ++ [.ok ()]
  | .deadLettered error => ∃ failures : List String, failures.length + 1 = limit ∧ answers = failures.map .error ++ [.error error]
  | _ => ∃ failures : List String, failures.length < limit ∧ answers = failures.map .error

structure Accounted (config : WorkerConfig) (s : Workplace κ) : Prop where
  numbered : s.queue.Numbered
  known : ∀ answer ∈ s.answers, ∃ e ∈ s.queue.entries, e.job.id = answer.1
  attempts : ∀ e ∈ s.queue.entries, e.job.attempts = (s.answersTo e.job.id).length
  slots : ∀ e ∈ s.queue.entries, Accounts (limit config) (s.answersTo e.job.id) e.slot

/-- Where the answer to a delivery puts its job; a failure may also leave it claimed. -/
def Settles (config : WorkerConfig) (attempts : Nat) (slot : Slot) : Except String Unit → Prop
  | .ok _ => slot = .completed
  | .error error => config.maxAttempts ≤ attempts ∧ slot = .deadLettered error ∨
      attempts < config.maxAttempts ∧ (slot = .pending ∨ ∃ since, slot = .claimed since)

section steps

variable {respond : Job JobId → κ → Except String Unit × κ} {config : WorkerConfig} {s : Workplace κ}

theorem transition_delivered {e : QueueEntry} {f : QueueEntry → QueueEntry} {q : DelayQueue} :
    (DelayQueue.transition e.job.id f (q.update e.job.id fun _ => DelayQueue.delivered e q.now)).2 =
      q.update e.job.id fun _ => f (DelayQueue.delivered e q.now) := by
  rw [DelayQueue.transition_snd]
  exact DelayQueue.update_update rfl

/-- An entry whose delivery has failed. A failure that cannot be given back leaves it claimed. -/
def givenBack (config : WorkerConfig) (now : Instant) (e : QueueEntry) (error : String) : QueueEntry :=
  if config.maxAttempts ≤ e.job.attempts + 1 then { DelayQueue.delivered e now with slot := .deadLettered error }
  else match dueResult now (Duration.times config.retryBackoff (e.job.attempts + 1)) with
    | .ok runAt => ⟨{ (DelayQueue.delivered e now).job with runAt },.pending⟩
    | .error _ => DelayQueue.delivered e now

/-- An entry that has been delivered once more, and answered. -/
def answered (config : WorkerConfig) (now : Instant) (e : QueueEntry) : Except String Unit → QueueEntry
  | .ok _ => { DelayQueue.delivered e now with slot := .completed }
  | .error error => givenBack config now e error

theorem answered_cases (config : WorkerConfig) (now : Instant) (e : QueueEntry) (answer : Except String Unit) :
    (answered config now e answer).job.id = e.job.id ∧ (answered config now e answer).job.attempts = e.job.attempts + 1 ∧
      Settles config (e.job.attempts + 1) (answered config now e answer).slot answer := by
  cases answer with
  | ok _ => exact ⟨rfl,rfl,rfl⟩
  | error error =>
    rw [answered]
    unfold givenBack
    split
    · next enough => exact ⟨rfl,rfl,.inl ⟨enough,rfl⟩⟩
    · next more =>
      have fewer : e.job.attempts + 1 < config.maxAttempts := Nat.lt_of_not_le more
      cases dueResult now (Duration.times config.retryBackoff (e.job.attempts + 1)) with
      | error failure => exact ⟨rfl,rfl,.inr ⟨fewer,.inr ⟨now,rfl⟩⟩⟩
      | ok runAt => exact ⟨rfl,rfl,.inr ⟨fewer,.inl rfl⟩⟩

/-- What becomes of a delivered job when a failure is given back. -/
theorem giveBack_delivered {e : QueueEntry} (config : WorkerConfig) (error : String) (inner : κ) (answers : List (JobId × Except String Unit))
    (q : DelayQueue) :
    (Worker.giveBack queueOperations config (DelayQueue.delivered e q.now).job error
        ⟨q.update e.job.id fun _ => DelayQueue.delivered e q.now,inner,answers⟩).2 =
      ⟨q.update e.job.id fun _ => givenBack config q.now e error,inner,answers⟩ := by
  unfold Worker.giveBack
  split
  · next enough =>
    have last : givenBack config q.now e error = { DelayQueue.delivered e q.now with slot := .deadLettered error } := if_pos enough
    rw [state_bind_pure _ fun _ => _,last]
    exact congrArg (Workplace.mk · inner answers) transition_delivered
  · next more =>
    have last : givenBack config q.now e error = match dueResult q.now (Duration.times config.retryBackoff (e.job.attempts + 1)) with
      | .ok runAt => ⟨{ (DelayQueue.delivered e q.now).job with runAt },.pending⟩
      | .error _ => DelayQueue.delivered e q.now := if_neg more
    rw [state_bind_pure _ fun _ => _,last]
    change Workplace.mk (DelayQueue.retry e.job.id error (Duration.times config.retryBackoff (e.job.attempts + 1)) _).2 inner answers = _
    rw [DelayQueue.retry_eq]
    change Workplace.mk (match dueResult q.now _ with
      | .ok _ => _
      | .error _ => _ : Except (Failure QueueFault) Unit × DelayQueue).2 inner answers = _
    cases dueResult q.now (Duration.times config.retryBackoff (e.job.attempts + 1)) with
    | error failure => rfl
    | ok runAt => exact congrArg (Workplace.mk · inner answers) transition_delivered

/-- A round of the worker either finds nothing, or delivers one job that is due and puts it where the answer says. -/
theorem work_delivers (respond : Job JobId → κ → Except String Unit × κ) (config : WorkerConfig) (s : Workplace κ) :
    apply respond config s .work = s ∨ ∃ e ∈ s.queue.entries, e.claimable s.queue.now config.lease = true ∧ ∃ answer inner,
      apply respond config s .work =
        ⟨s.queue.update e.job.id fun _ => answered config s.queue.now e answer,inner,s.answers ++ [(e.job.id,answer)]⟩ := by
  have claimed : queueOperations.claim config.lease s =
      ((DelayQueue.claim config.lease s.queue).1,{ s with queue := (DelayQueue.claim config.lease s.queue).2 }) := rfl
  simp only [apply,Worker.runOnce]
  rw [bind_apply,claimed]
  obtain nothing | ⟨e,member,due,found⟩ := DelayQueue.claim_cases config.lease s.queue
  · left
    rw [nothing]
    rfl
  · right
    refine ⟨e,member,due,?_⟩
    rw [found]
    dsimp only
    rw [bind_apply]
    simp only [attempt,handler]
    rcases respond (DelayQueue.delivered e s.queue.now).job s.inner with ⟨error | _,inner⟩
    · refine ⟨.error error,inner,?_⟩
      exact (state_bind_pure _ _ _).trans (giveBack_delivered config error inner (s.answers ++ [(e.job.id,.error error)]) s.queue)
    · refine ⟨.ok (),inner,?_⟩
      have done : (DelayQueue.complete e.job.id (s.queue.update e.job.id fun _ => DelayQueue.delivered e s.queue.now)).2 = _ :=
        transition_delivered
      rw [answered,← done]
      exact state_bind_pure _ _ _

/-- A round of the worker either finds nothing, or one live job is delivered once more and put where the answer says. -/
theorem work_cases (respond : Job JobId → κ → Except String Unit × κ) (config : WorkerConfig) (s : Workplace κ) :
    apply respond config s .work = s ∨ ∃ e ∈ s.queue.entries, e.isLive = true ∧ ∃ last answer inner,
      apply respond config s .work = ⟨s.queue.update e.job.id fun _ => last,inner,s.answers ++ [(e.job.id,answer)]⟩ ∧
        last.job.id = e.job.id ∧ last.job.attempts = e.job.attempts + 1 ∧ Settles config (e.job.attempts + 1) last.slot answer := by
  refine (work_delivers respond config s).imp id fun ⟨e,member,due,answer,inner,state⟩ => ?_
  exact ⟨e,member,DelayQueue.isLive_of_claimable due,_,answer,inner,state,answered_cases config s.queue.now e answer⟩

theorem answersTo_append (s : Workplace κ) (queue : DelayQueue) (inner : κ) (id other : JobId) (answer : Except String Unit) :
    answersTo ⟨queue,inner,s.answers ++ [(other,answer)]⟩ id = s.answersTo id ++ if other = id then [answer] else [] := by
  simp only [answersTo,List.filter_append,List.map_append]
  split <;> simp [*]

theorem Accounts.live {answers : List (Except String Unit)} {n : Nat} {e : QueueEntry} (accounts : Accounts n answers e.slot)
    (live : e.isLive = true) : ∃ failures : List String, failures.length < n ∧ answers = failures.map .error := by
  unfold QueueEntry.isLive at live
  cases slot : e.slot with
  | pending => simpa [slot,Accounts] using accounts
  | claimed since => simpa [slot,Accounts] using accounts
  | _ => simp [slot] at live

theorem Accounts.settle {failures : List String} {slot : Slot} {answer : Except String Unit} (fewer : failures.length < limit config)
    (settles : Settles config (failures.length + 1) slot answer) : Accounts (limit config) (failures.map .error ++ [answer]) slot := by
  cases answer with
  | ok _ =>
    have completed : slot = .completed := settles
    subst completed
    exact ⟨failures,fewer,rfl⟩
  | error error =>
    have more : (failures ++ [error]).map (.error : String → Except String Unit) = failures.map .error ++ [.error error] := by simp
    unfold limit at fewer ⊢
    obtain ⟨enough,rfl⟩ | ⟨short,rfl | ⟨since,rfl⟩⟩ := settles
    · exact ⟨failures,by omega,rfl⟩
    · exact ⟨failures ++ [error],by simp; omega,more.symm⟩
    · exact ⟨failures ++ [error],by simp; omega,more.symm⟩

namespace Accounted

theorem start (config : WorkerConfig) (now : Instant) (inner : κ) : Accounted config (start now inner) :=
  ⟨rfl,by simp [Workplace.start],by simp [Workplace.start,DelayQueue.start],by simp [Workplace.start,DelayQueue.start]⟩

theorem enqueue (accounted : Accounted config s) (delay : Duration) (payload : Json) :
    Accounted config (apply respond config s (.enqueue delay payload)) := by
  have state : apply respond config s (.enqueue delay payload) = { s with queue := (DelayQueue.enqueue delay payload s.queue).2 } := rfl
  rw [state,DelayQueue.enqueue_apply]
  cases dueResult s.queue.now delay with
  | error e => exact accounted
  | ok runAt =>
    -- Nothing has been delivered under the number of the new job.
    have fresh : s.answersTo s.queue.nextId = [] := by
      simp only [answersTo,List.map_eq_nil_iff,List.filter_eq_nil_iff,decide_eq_true_eq]
      intro answer member same
      obtain ⟨e,inside,own⟩ := accounted.known answer member
      have bound := accounted.numbered.le_length inside
      rw [own,same] at bound
      simp only [DelayQueue.nextId] at bound
      omega
    have inherited (e : QueueEntry) : e ∈ (s.queue.push payload runAt).entries ↔
        e ∈ s.queue.entries ∨ e = ⟨⟨s.queue.nextId,payload,runAt,0⟩,.pending⟩ := by simp [DelayQueue.push]
    refine ⟨accounted.numbered.append rfl,?_,?_,?_⟩
    · intro answer member
      obtain ⟨e,inside,own⟩ := accounted.known answer member
      exact ⟨e,(inherited e).mpr (.inl inside),own⟩
    · intro e member
      obtain old | rfl := (inherited e).mp member
      · exact accounted.attempts e old
      · exact (congrArg List.length fresh).symm
    · intro e member
      obtain old | rfl := (inherited e).mp member
      · exact accounted.slots e old
      · have allowed : 0 < limit config := Nat.lt_of_lt_of_le Nat.one_pos (Nat.le_max_left ..)
        exact ⟨[],allowed,fresh⟩

theorem advance (accounted : Accounted config s) (by_ : Duration) : Accounted config (apply respond config s (.advance by_)) := by
  obtain ⟨now,moved⟩ := DelayQueue.advance_state by_ s.queue
  simp only [apply,moved]
  exact ⟨accounted.numbered,accounted.known,accounted.attempts,accounted.slots⟩

theorem work (accounted : Accounted config s) : Accounted config (apply respond config s .work) := by
  obtain idle | ⟨e,member,live,last,answer,inner,state,id,attempts,settles⟩ := work_cases respond config s
  · rw [idle]
    exact accounted
  · obtain ⟨failures,fewer,failed⟩ := (accounted.slots e member).live live
    have counted : e.job.attempts = failures.length := by
      rw [accounted.attempts e member,failed,List.length_map]
    have here : answersTo (apply respond config s .work) e.job.id = failures.map .error ++ [answer] := by
      rw [state,answersTo_append,failed,if_pos rfl]
    have elsewhere (other : JobId) (apart : e.job.id ≠ other) : answersTo (apply respond config s .work) other = s.answersTo other := by
      rw [state,answersTo_append,if_neg apart,List.append_nil]
    -- The delivered job has its entry replaced; all others are as they were.
    have entries (x : QueueEntry) (inside : x ∈ (apply respond config s .work).queue.entries) :
        x = last ∨ x ∈ s.queue.entries ∧ e.job.id ≠ x.job.id := by
      rw [state] at inside
      obtain ⟨old,was,rfl⟩ := DelayQueue.mem_update.mp inside
      split
      · exact .inl rfl
      · next apart => exact .inr ⟨was,Ne.symm apart⟩
    refine ⟨?_,?_,?_,?_⟩
    · rw [state]
      exact accounted.numbered.update fun _ _ _ => id
    · rw [state]
      intro given inside
      have present : ∃ old ∈ s.queue.entries, old.job.id = given.1 := by
        obtain before | now := List.mem_append.mp inside
        · exact accounted.known given before
        · rw [List.mem_singleton.mp now]
          exact ⟨e,member,rfl⟩
      obtain ⟨old,was,own⟩ := present
      refine ⟨_,DelayQueue.mem_update.mpr ⟨old,was,rfl⟩,?_⟩
      split
      · next same => exact id.trans (same.symm.trans own)
      · exact own
    · intro x inside
      obtain rfl | ⟨was,apart⟩ := entries x inside
      · rw [id,here,attempts,counted]
        simp
      · rw [elsewhere _ apart]
        exact accounted.attempts x was
    · intro x inside
      obtain rfl | ⟨was,apart⟩ := entries x inside
      · rw [id,here]
        exact .settle fewer (counted ▸ settles)
      · rw [elsewhere _ apart]
        exact accounted.slots x was

theorem apply (accounted : Accounted config s) (event : Event) : Accounted config (Workplace.apply respond config s event) := by
  cases event with
  | enqueue delay payload => exact accounted.enqueue delay payload
  | advance by_ => exact accounted.advance by_
  | work => exact accounted.work

theorem run (accounted : Accounted config s) (events : List Event) : Accounted config (run respond config events s) := by
  induction events generalizing s with
  | nil => exact accounted
  | cons event rest ih => exact ih (accounted.apply event)

/-- The slot of a job, where the queue has one of that id; where it has none, none has been delivered. -/
theorem slot_or_absent (accounted : Accounted config s) (id : JobId) :
    (∃ e ∈ s.queue.entries, e.job.id = id ∧ (∀ e' ∈ s.queue.entries, e'.job.id = id → e' = e) ∧ Accounts (limit config) (s.answersTo id) e.slot) ∨
      (∀ e ∈ s.queue.entries, e.job.id ≠ id) ∧ s.answersTo id = [] := by
  by_cases present : ∃ e ∈ s.queue.entries, e.job.id = id
  · obtain ⟨e,member,rfl⟩ := present
    have unique (e' : QueueEntry) (inside : e' ∈ s.queue.entries) (same : e'.job.id = e.job.id) : e' = e :=
      accounted.numbered.eq_of_id inside member same
    exact .inl ⟨e,member,rfl,unique,accounted.slots e member⟩
  · have absent : ∀ e ∈ s.queue.entries, e.job.id ≠ id := by simpa using present
    refine .inr ⟨absent,?_⟩
    simp only [answersTo,List.map_eq_nil_iff,List.filter_eq_nil_iff,decide_eq_true_eq]
    intro answer member same
    obtain ⟨e,inside,own⟩ := accounted.known answer member
    exact absent e inside (own.trans same)

end Accounted

end steps

namespace Accounts

variable {n : Nat} {answers : List (Except String Unit)} {slot : Slot}

theorem length_le (accounts : Accounts n answers slot) : answers.length ≤ n := by
  cases slot with
  | completed =>
    obtain ⟨failures,fewer,rfl⟩ := accounts
    simp
    omega
  | deadLettered error =>
    obtain ⟨failures,all,rfl⟩ := accounts
    simp
    omega
  | _ =>
    obtain ⟨failures,fewer,rfl⟩ := accounts
    simp
    omega

theorem last_of_ok (accounts : Accounts n answers slot) {earlier later : List (Except String Unit)}
    (shape : answers = earlier ++ .ok () :: later) : later = [] := by
  have failed (failures : List String) : .ok () ∉ failures.map (.error : String → Except String Unit) := by simp
  cases slot with
  | completed =>
    obtain ⟨failures,-,rfl⟩ := accounts
    obtain rfl | ⟨init,last,rfl⟩ := List.eq_nil_or_concat later
    · rfl
    · have before : failures.map .error = earlier ++ .ok () :: init := by
        have lasts : failures.map .error ++ [.ok ()] = (earlier ++ .ok () :: init) ++ [last] := by simpa using shape
        exact List.append_inj_left' lasts rfl
      exact absurd (before ▸ List.mem_append_right _ (List.mem_cons_self ..)) (failed failures)
  | deadLettered error =>
    obtain ⟨failures,-,rfl⟩ := accounts
    have inside : Except.ok () ∈ failures.map Except.error ++ [Except.error error] := shape ▸ List.mem_append_right _ (List.mem_cons_self ..)
    simp at inside
  | _ =>
    obtain ⟨failures,-,rfl⟩ := accounts
    exact absurd (shape ▸ List.mem_append_right _ (List.mem_cons_self ..)) (failed failures)

theorem completed_iff (accounts : Accounts n answers slot) : slot = .completed ↔ answers.getLast? = some (.ok ()) := by
  cases slot with
  | completed =>
    obtain ⟨failures,-,rfl⟩ := accounts
    simp
  | deadLettered error =>
    obtain ⟨failures,-,rfl⟩ := accounts
    simp
  | _ =>
    obtain ⟨failures,-,rfl⟩ := accounts
    simp [List.getLast?_map]

theorem deadLettered_iff (accounts : Accounts n answers slot) (error : String) : slot = .deadLettered error ↔
    answers.length = n ∧ (∀ answer ∈ answers, ∃ e, answer = .error e) ∧ answers.getLast? = some (.error error) := by
  cases slot with
  | completed =>
    obtain ⟨failures,-,rfl⟩ := accounts
    simp
  | deadLettered last =>
    obtain ⟨failures,all,rfl⟩ := accounts
    simp [all,or_imp,forall_and]
  | _ =>
    obtain ⟨failures,fewer,rfl⟩ := accounts
    have short : failures.length ≠ n := Nat.ne_of_lt fewer
    simp [short]

end Accounts

theorem mem_completed {q : DelayQueue} {id : JobId} :
    (∃ job ∈ q.completed, job.id = id) ↔ ∃ e ∈ q.entries, e.job.id = id ∧ e.slot = .completed := by
  simp only [DelayQueue.completed,DelayQueue.inSlot,List.mem_map,List.mem_filter,beq_iff_eq]
  constructor
  · intro ⟨job,⟨e,⟨member,slot⟩,of⟩,own⟩
    exact ⟨e,member,of ▸ own,slot⟩
  · intro ⟨e,member,own,slot⟩
    exact ⟨e.job,⟨e,⟨member,slot⟩,rfl⟩,own⟩

theorem mem_deadLettered {q : DelayQueue} {id : JobId} {error : String} :
    (∃ job, (job,error) ∈ q.deadLettered ∧ job.id = id) ↔ ∃ e ∈ q.entries, e.job.id = id ∧ e.slot = .deadLettered error := by
  simp only [DelayQueue.deadLettered,List.mem_filterMap]
  constructor
  · intro ⟨job,⟨e,member,of⟩,own⟩
    cases slot : e.slot with
    | deadLettered last =>
      simp only [slot,Option.some.injEq,Prod.mk.injEq] at of
      obtain ⟨rfl,rfl⟩ := of
      exact ⟨e,member,own,slot⟩
    | _ => simp [slot] at of
  · intro ⟨e,member,own,slot⟩
    exact ⟨e.job,⟨e,member,by simp [slot]⟩,own⟩

/-- A job is delivered up to the limit and never again after a success; it is completed once its last delivery has succeeded, and
given up with the last failure once the limit has been reached without a success. -/
theorem deliveries_within_limit (respond : Job JobId → κ → Except String Unit × κ) (config : WorkerConfig) (now : Instant) (inner : κ)
    (events : List Event) (id : JobId) :
    let s := run respond config events (start now inner)
    let answers := s.answersTo id
    answers.length ≤ limit config ∧
      (∀ earlier later, answers = earlier ++ .ok () :: later → later = []) ∧
      ((∃ job ∈ s.queue.completed, job.id = id) ↔ answers.getLast? = some (.ok ())) ∧
      ∀ error, (∃ job, (job,error) ∈ s.queue.deadLettered ∧ job.id = id) ↔
        answers.length = limit config ∧ (∀ answer ∈ answers, ∃ e, answer = .error e) ∧ answers.getLast? = some (.error error) := by
  intro s answers
  have accounted : Accounted config s := (Accounted.start config now inner).run events
  have positive : 0 < limit config := Nat.lt_of_lt_of_le Nat.one_pos (Nat.le_max_left ..)
  obtain ⟨e,member,own,unique,accounts⟩ | ⟨absent,none⟩ := accounted.slot_or_absent id
  · have only (slot : Slot) : (∃ e ∈ s.queue.entries, e.job.id = id ∧ e.slot = slot) ↔ e.slot = slot := by
      constructor
      · intro ⟨e',inside,same,here⟩
        rw [← unique e' inside same]
        exact here
      · intro here
        exact ⟨e,member,own,here⟩
    refine ⟨accounts.length_le,fun _ _ => accounts.last_of_ok,?_,?_⟩
    · rw [mem_completed,only]
      exact accounts.completed_iff
    · intro error
      rw [mem_deadLettered,only]
      exact accounts.deadLettered_iff error
  · have unslotted (slot : Slot) : ¬∃ e ∈ s.queue.entries, e.job.id = id ∧ e.slot = slot :=
      fun ⟨e,member,own,_⟩ => absurd own (absent e member)
    simp only [answers,none,mem_completed,mem_deadLettered,unslotted]
    simp [Nat.ne_of_lt positive]

end Workplace
end Flowgraph
