import Flowgraph.Proofs.Queue.Finality
import Flowgraph.Store.Row

/-! The jobs of the queue in memory, whatever is done with it and in whatever order. An operation adds a job, changes one or leaves
all as they are, so what has been done tells what is there: which jobs, how often each has been delivered, and for when it was put
down last. -/

namespace Flowgraph

/-- What a queue answers. -/
inductive QueueReply where
  | done
  | enqueued (id : JobId)
  | claimed (job? : Option (Job JobId))

/-- The status of a job in a slot. -/
def Slot.status : Slot → JobStatus
  | .pending => .pending
  | .claimed _ => .processing
  | .completed => .completed
  | .deadLettered _ => .deadLettered

namespace DelayQueue
open Act

/-- The jobs that have a status, as the queue lists them; it has no list of its own for those that are claimed. -/
def standing (q : DelayQueue) : JobStatus → List (Job JobId)
  | .pending => q.pending
  | .processing => (q.inSlot (·.status = .processing)).map (·.job)
  | .completed => q.completed
  | .deadLettered => q.deadLettered.map (·.1)

namespace Operation

/-- What an operation answers. -/
def reply (q : DelayQueue) : Operation → Except (Failure QueueFault) QueueReply
  | enqueue delay payload => .enqueued <$> (DelayQueue.enqueue delay payload q).1
  | claim lease => .claimed <$> (DelayQueue.claim lease q).1
  | complete id => (fun _ => .done) <$> (DelayQueue.complete id q).1
  | retry id error backoff => (fun _ => .done) <$> (DelayQueue.retry id error backoff q).1
  | deadLetter id error => (fun _ => .done) <$> (DelayQueue.deadLetter id error q).1
  | advance by_ => (fun _ => .done) <$> (DelayQueue.advance by_ q).1

/-- The job that an operation puts into the queue. -/
def enqueued? (q : DelayQueue) : Operation → Option (JobId × Json)
  | enqueue delay payload => match (DelayQueue.enqueue delay payload q).1 with
    | .ok id => some (id,payload)
    | .error _ => none
  | _ => none

/-- The time that an operation puts a job down for: a delay or a backoff after its own. -/
def due? (q : DelayQueue) (id : JobId) : Operation → Option Instant
  | enqueue delay payload => if (DelayQueue.enqueue delay payload q).1 = .ok id then q.now.shift? delay else none
  | retry job error backoff =>
    if job = id ∧ (DelayQueue.retry job error backoff q).1 = .ok () then q.now.shift? backoff else none
  | _ => none

end Operation

/-- Anything done to a queue from its start on; the past holds the operations with the states they met, the latest first. -/
inductive Course : List (DelayQueue × Operation) → DelayQueue → Prop where
  | start (now : Instant) : Course [] (DelayQueue.start now)
  | step {past q} (course : Course past q) (op : Operation) : Course ((q,op) :: past) (op.apply q)

/-- The jobs enqueued so far with their payloads, the first one first. -/
def enqueuedIn (past : List (DelayQueue × Operation)) : List (JobId × Json) :=
  past.reverse.filterMap fun at_ => at_.2.enqueued? at_.1

/-- How many claims have returned a job. -/
def deliveriesIn (past : List (DelayQueue × Operation)) (id : JobId) : Nat :=
  past.countP fun at_ => at_.2.claimed? at_.1 = some id

/-- The time that a job has been put down for last. -/
def dueIn (past : List (DelayQueue × Operation)) (id : JobId) : Option Instant :=
  past.findSome? fun at_ => at_.2.due? at_.1 id

theorem dueResult_eq_ok {now t : Instant} {delay : Duration} (due : dueResult now delay = .ok t) : now.shift? delay = some t := by
  unfold dueResult at due
  split at due
  · cases due
  · cases shifted : now.shift? delay with
    | none => rw [shifted] at due; cases due
    | some t' => rw [shifted] at due; cases due; rfl

/-- Of entries with different ids an update changes one. -/
theorem Numbered.update_eq {q : DelayQueue} {e : QueueEntry} (numbered : q.Numbered) (member : e ∈ q.entries) (f : QueueEntry → QueueEntry) :
    q.update e.job.id f = q.update e.job.id fun _ => f e := by
  unfold DelayQueue.update
  congr 1
  refine List.map_congr_left fun other inside => ?_
  split
  · next same => rw [numbered.eq_of_id inside member same]
  · rfl

/-- What an operation does to the jobs of a queue. -/
inductive Operation.Effect (q : DelayQueue) (op : Operation) : Prop where
  | nothing (same : (op.apply q).entries = q.entries) (old : op.enqueued? q = none) (unclaimed : op.claimed? q = none)
      (undue : ∀ id, op.due? q id = none)
  | added {payload : Json} {runAt : Instant} (shape : op.apply q = q.push payload runAt) (new : op.enqueued? q = some (q.nextId,payload))
      (unclaimed : op.claimed? q = none) (due : op.due? q q.nextId = some runAt) (undue : ∀ id ≠ q.nextId, op.due? q id = none)
  | changed {e e' : QueueEntry} (member : e ∈ q.entries) (shape : op.apply q = q.update e.job.id fun _ => e') (id : e'.job.id = e.job.id)
      (payload : e'.job.payload = e.job.payload) (old : op.enqueued? q = none)
      (attempts : e'.job.attempts = e.job.attempts + if op.claimed? q = some e.job.id then 1 else 0)
      (runAt : e'.job.runAt = (op.due? q e.job.id).getD e.job.runAt)
      (others : ∀ id ≠ e.job.id, op.claimed? q ≠ some id ∧ op.due? q id = none)

/-- A job that is answered, where there is one of that id, keeps all but its slot. -/
theorem Operation.effect_answer {q : DelayQueue} {op : Operation} {id : JobId} {slot : Slot} (numbered : q.Numbered)
    (shape : op.apply q = q.update id ({ · with slot })) (old : op.enqueued? q = none) (unclaimed : op.claimed? q = none)
    (undue : ∀ id, op.due? q id = none) : op.Effect q := by
  by_cases known : ∃ e ∈ q.entries, e.job.id = id
  · obtain ⟨e,member,rfl⟩ := known
    refine .changed member (shape.trans (numbered.update_eq member _)) rfl rfl old ?_ ?_ fun other _ => ⟨?_,undue other⟩
    · rw [unclaimed]
      rfl
    · rw [undue]
      rfl
    · rw [unclaimed]
      exact nofun
  · have absent : ∀ e ∈ q.entries, e.job.id ≠ id := fun e member same => known ⟨e,member,same⟩
    refine .nothing ?_ old unclaimed undue
    rw [shape,update_absent absent]

theorem Operation.effect {q : DelayQueue} (numbered : q.Numbered) (op : Operation) : op.Effect q := by
  cases op with
  | enqueue delay payload =>
    cases due : dueResult q.now delay with
    | error e =>
      have refused : DelayQueue.enqueue delay payload q = (.error e,q) := by rw [enqueue_apply,due]
      refine .nothing ?_ ?_ rfl ?_ <;> simp [apply,enqueued?,due?,refused]
    | ok runAt =>
      have accepted : DelayQueue.enqueue delay payload q = (.ok q.nextId,q.push payload runAt) := by rw [enqueue_apply,due]
      have shape : (enqueue delay payload).apply q = q.push payload runAt := congrArg Prod.snd accepted
      refine .added shape ?_ rfl ?_ ?_
      · simp [enqueued?,accepted]
      · simp [due?,accepted,dueResult_eq_ok due]
      · intro id other
        simp [due?,accepted,Ne.symm other]
  | claim lease =>
    obtain idle | ⟨e,member,-,claimed⟩ := claim_cases lease q
    · refine .nothing ?_ rfl ?_ fun _ => rfl
      · rw [apply,idle]
      · rw [claimed?,idle]
        rfl
    · have shape : (claim lease).apply q = q.update e.job.id fun _ => delivered e q.now := congrArg Prod.snd claimed
      refine .changed member shape rfl rfl rfl ?_ rfl fun id other => ⟨?_,rfl⟩
      · simp [claimed?,claimed,delivered]
      · simpa [claimed?,claimed,delivered] using Ne.symm other
  | complete id => exact effect_answer numbered (transition_snd ..) rfl rfl fun _ => rfl
  | retry id error backoff =>
    by_cases known : ∃ e ∈ q.entries, e.job.id = id
    · obtain ⟨e,member,rfl⟩ := known
      have answered := retry_apply error backoff ⟨e,member,rfl⟩
      cases due : dueResult q.now backoff with
      | error failure =>
        rw [due] at answered
        refine .nothing ?_ rfl rfl ?_ <;> simp [apply,due?,answered]
      | ok runAt =>
        rw [due] at answered
        have shape : (retry e.job.id error backoff).apply q = q.update e.job.id fun _ => ⟨{ e.job with runAt },.pending⟩ :=
          (congrArg Prod.snd answered).trans (numbered.update_eq member _)
        refine .changed member shape rfl rfl rfl rfl ?_ fun id other => ⟨(Option.some_ne_none _).symm,?_⟩
        · simp [due?,answered,dueResult_eq_ok due]
        · simp [due?,Ne.symm other]
    · have absent : ∀ e ∈ q.entries, e.job.id ≠ id := fun e member same => known ⟨e,member,same⟩
      have refused : ∀ f, (transition id f q).1 ≠ .ok () := fun f accepted => known (known_of_transition accepted)
      refine .nothing ?_ rfl rfl fun other => ?_
      · rw [apply,retry_eq]
        cases dueResult q.now backoff with
        | error failure => rfl
        | ok runAt =>
          dsimp only
          rw [transition_snd,update_absent absent]
      · refine if_neg ?_
        rintro ⟨-,accepted⟩
        rw [retry_eq] at accepted
        cases due : dueResult q.now backoff with
        | error failure => rw [due] at accepted; cases accepted
        | ok runAt => rw [due] at accepted; exact refused _ accepted
  | deadLetter id error => exact effect_answer numbered (transition_snd ..) rfl rfl fun _ => rfl
  | advance by_ =>
    obtain ⟨now,moved⟩ := advance_state by_ q
    exact .nothing (by rw [apply,moved]) rfl rfl fun _ => rfl

theorem enqueuedIn_cons (q : DelayQueue) (op : Operation) (past : List (DelayQueue × Operation)) :
    enqueuedIn ((q,op) :: past) = enqueuedIn past ++ (op.enqueued? q).toList := by
  rw [enqueuedIn,List.reverse_cons,List.filterMap_append,List.filterMap_cons]
  cases op.enqueued? q <;> rfl

theorem deliveriesIn_cons (q : DelayQueue) (op : Operation) (past : List (DelayQueue × Operation)) (id : JobId) :
    deliveriesIn ((q,op) :: past) id = deliveriesIn past id + if op.claimed? q = some id then 1 else 0 := by
  simp [deliveriesIn,List.countP_cons]

theorem dueIn_cons (q : DelayQueue) (op : Operation) (past : List (DelayQueue × Operation)) (id : JobId) :
    dueIn ((q,op) :: past) id = (op.due? q id).or (dueIn past id) := by
  rw [dueIn,List.findSome?_cons]
  cases op.due? q id <;> rfl

/-- The jobs of a queue are those that its past tells of, in the state that it tells of. -/
structure Conserved (past : List (DelayQueue × Operation)) (q : DelayQueue) : Prop where
  numbered : q.Numbered
  jobs : q.entries.map (fun e => (e.job.id,e.job.payload)) = enqueuedIn past
  delivered : ∀ id, deliveriesIn past id ≠ 0 → ∃ e ∈ q.entries, e.job.id = id
  attempts : ∀ e ∈ q.entries, e.job.attempts = deliveriesIn past e.job.id
  due : ∀ e ∈ q.entries, dueIn past e.job.id = some e.job.runAt

namespace Conserved

variable {past : List (DelayQueue × Operation)} {q : DelayQueue} {op : Operation}

theorem start (now : Instant) : Conserved [] (DelayQueue.start now) := ⟨rfl,rfl,by simp [deliveriesIn],nofun,nofun⟩

theorem nothing (conserved : Conserved past q) (same : (op.apply q).entries = q.entries) (old : op.enqueued? q = none)
    (unclaimed : op.claimed? q = none) (undue : ∀ id, op.due? q id = none) : Conserved ((q,op) :: past) (op.apply q) := by
  have deliveries (id : JobId) : deliveriesIn ((q,op) :: past) id = deliveriesIn past id := by
    rw [deliveriesIn_cons,unclaimed,if_neg nofun,Nat.add_zero]
  refine ⟨conserved.numbered.apply op,?_,?_,?_,?_⟩
  · rw [same,enqueuedIn_cons,old,Option.toList_none,List.append_nil]
    exact conserved.jobs
  · simpa only [same,deliveries] using conserved.delivered
  · simpa only [same,deliveries] using conserved.attempts
  · simpa only [same,dueIn_cons,undue,Option.none_or] using conserved.due

theorem added {payload : Json} {runAt : Instant} (conserved : Conserved past q) (shape : op.apply q = q.push payload runAt)
    (new : op.enqueued? q = some (q.nextId,payload)) (unclaimed : op.claimed? q = none) (due : op.due? q q.nextId = some runAt)
    (undue : ∀ id ≠ q.nextId, op.due? q id = none) : Conserved ((q,op) :: past) (op.apply q) := by
  have entries : (op.apply q).entries = q.entries ++ [⟨⟨q.nextId,payload,runAt,0⟩,.pending⟩] := congrArg entries shape
  have deliveries (id : JobId) : deliveriesIn ((q,op) :: past) id = deliveriesIn past id := by
    rw [deliveriesIn_cons,unclaimed,if_neg nofun,Nat.add_zero]
  -- The id of the new job is behind those of all the others.
  have fresh (e : QueueEntry) (member : e ∈ q.entries) : e.job.id ≠ q.nextId := by
    intro same
    have bound := conserved.numbered.le_length member
    rw [same,nextId] at bound
    exact absurd bound (Nat.not_succ_le_self _)
  have undelivered : deliveriesIn past q.nextId = 0 := by
    by_contra delivered
    obtain ⟨e,member,own⟩ := conserved.delivered _ delivered
    exact fresh e member own
  refine ⟨conserved.numbered.apply op,?_,?_,?_,?_⟩
  · rw [entries,List.map_append,conserved.jobs,enqueuedIn_cons,new]
    rfl
  · intro id delivered
    rw [deliveries] at delivered
    obtain ⟨e,member,own⟩ := conserved.delivered id delivered
    exact ⟨e,entries ▸ List.mem_append_left _ member,own⟩
  · intro e member
    rw [entries,List.mem_append,List.mem_singleton] at member
    rw [deliveries]
    obtain old | rfl := member
    · exact conserved.attempts e old
    · exact undelivered.symm
  · intro e member
    rw [entries,List.mem_append,List.mem_singleton] at member
    rw [dueIn_cons]
    obtain old | rfl := member
    · rw [undue _ (fresh e old),Option.none_or]
      exact conserved.due e old
    · rw [due,Option.some_or]

theorem changed {e e' : QueueEntry} (conserved : Conserved past q) (member : e ∈ q.entries)
    (shape : op.apply q = q.update e.job.id fun _ => e') (id : e'.job.id = e.job.id) (payload : e'.job.payload = e.job.payload)
    (old : op.enqueued? q = none) (attempts : e'.job.attempts = e.job.attempts + if op.claimed? q = some e.job.id then 1 else 0)
    (runAt : e'.job.runAt = (op.due? q e.job.id).getD e.job.runAt)
    (others : ∀ id ≠ e.job.id, op.claimed? q ≠ some id ∧ op.due? q id = none) : Conserved ((q,op) :: past) (op.apply q) := by
  have entries (x : QueueEntry) (inside : x ∈ (op.apply q).entries) : x = e' ∨ x ∈ q.entries ∧ x.job.id ≠ e.job.id := by
    rw [shape] at inside
    obtain ⟨was,before,rfl⟩ := mem_update.mp inside
    split
    · exact .inl rfl
    · next apart => exact .inr ⟨before,apart⟩
  have present (x : QueueEntry) (before : x ∈ q.entries) : ∃ y ∈ (op.apply q).entries, y.job.id = x.job.id := by
    rw [shape]
    refine ⟨_,mem_update.mpr ⟨x,before,rfl⟩,?_⟩
    split
    · next same => exact id.trans same.symm
    · rfl
  refine ⟨conserved.numbered.apply op,?_,?_,?_,?_⟩
  · rw [enqueuedIn_cons,old,Option.toList_none,List.append_nil,← conserved.jobs,shape,update,List.map_map]
    refine List.map_congr_left fun x before => ?_
    by_cases same : x.job.id = e.job.id
    · obtain rfl := conserved.numbered.eq_of_id before member same
      simp [id,payload]
    · simp [same]
  · intro other delivered
    by_cases same : other = e.job.id
    · subst same
      exact present e member
    · rw [deliveriesIn_cons,if_neg (others other same).1] at delivered
      obtain ⟨x,before,rfl⟩ := conserved.delivered other delivered
      exact present x before
  · intro x inside
    rw [deliveriesIn_cons]
    obtain rfl | ⟨before,apart⟩ := entries x inside
    · rw [id,attempts,conserved.attempts e member]
    · rw [if_neg (others _ apart).1]
      exact conserved.attempts x before
  · intro x inside
    rw [dueIn_cons]
    obtain rfl | ⟨before,apart⟩ := entries x inside
    · rw [id,runAt,conserved.due e member]
      cases op.due? q e.job.id <;> rfl
    · rw [(others _ apart).2,Option.none_or]
      exact conserved.due x before

theorem of_course (course : Course past q) : Conserved past q := by
  induction course with
  | start now => exact start now
  | step course op ih =>
    cases op.effect ih.numbered with
    | nothing same old unclaimed undue => exact ih.nothing same old unclaimed undue
    | added shape new unclaimed due undue => exact ih.added shape new unclaimed due undue
    | changed member shape id payload old attempts runAt others =>
      exact ih.changed member shape id payload old attempts runAt others

end Conserved

theorem Course.after (ops : List Operation) : Course (met ops) (DelayQueue.after ops) := by
  induction ops with
  | nil => exact .start _
  | cons op earlier ih => exact .step ih op

end DelayQueue
end Flowgraph
