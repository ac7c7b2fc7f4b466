import Flowgraph.Proofs.Queue.Memory

/-! Finished jobs of the queue in memory. Leases may be over before claims are answered, so a job can have several
claims at a time, and answers come in any order. An answer does not look at the slot that it finds its job in: a
late retry puts a finished job back, and nothing else does. -/

namespace Flowgraph.DelayQueue
open Act

inductive Operation where
  | enqueue (delay : Duration) (payload : Json)
  | claim (lease : Duration)
  | complete (id : JobId)
  | retry (id : JobId) (error : String) (backoff : Duration)
  | deadLetter (id : JobId) (error : String)
  | advance (by_ : Duration)

namespace Operation

/-- The state after an operation, whatever the operation itself reports. -/
def apply (q : DelayQueue) : Operation → DelayQueue
  | enqueue delay payload => (DelayQueue.enqueue delay payload q).2
  | claim lease => (DelayQueue.claim lease q).2
  | complete id => (DelayQueue.complete id q).2
  | retry id error backoff => (DelayQueue.retry id error backoff q).2
  | deadLetter id error => (DelayQueue.deadLetter id error q).2
  | advance by_ => (DelayQueue.advance by_ q).2

def lease? : Operation → Option Duration
  | claim lease => some lease
  | _ => none

/-- The job that the operation returns, which only claims do. -/
def claimed? (q : DelayQueue) : Operation → Option JobId
  | claim lease => match (DelayQueue.claim lease q).1 with
    | .ok job => job.map (·.id)
    | .error _ => none
  | _ => none

/-- The job that the operation answers a claim of. -/
def answered? : Operation → Option JobId
  | complete id => some id
  | retry id _ _ => some id
  | deadLetter id _ => some id
  | _ => none

def Finishes (q : DelayQueue) (id : JobId) : Operation → Prop
  | complete job => job = id ∧ (DelayQueue.complete job q).1 = .ok ()
  | deadLetter job error => job = id ∧ (DelayQueue.deadLetter job error q).1 = .ok ()
  | _ => False

def PutsBack (q : DelayQueue) (id : JobId) : Operation → Prop
  | retry job error backoff => job = id ∧ (DelayQueue.retry job error backoff q).1 = .ok ()
  | _ => False

/-- Leases are positive. An answer is to an earlier claim of its job, and every claim has at most one: of all the claims of the
job so far one at least has none yet. -/
def Orderly (past : List (DelayQueue × Operation)) (op : Operation) : Prop :=
  (∀ lease ∈ op.lease?, 0 < lease) ∧
    ∀ id ∈ op.answered?, past.countP (fun at_ => at_.2.answered? = some id) < past.countP fun at_ => at_.2.claimed? at_.1 = some id

instance (past : List (DelayQueue × Operation)) (op : Operation) : Decidable (op.Orderly past) := by
  unfold Orderly
  infer_instance

end Operation

/-- A history from an empty queue on; the past holds the operations with the states they met, the latest first. -/
inductive History : List (DelayQueue × Operation) → DelayQueue → Prop where
  | start (now : Instant) : History [] (DelayQueue.start now)
  | step {past q op} (history : History past q) (orderly : op.Orderly past) : History ((q,op) :: past) (op.apply q)

def Finished (q : DelayQueue) (id : JobId) : Prop := ∃ e ∈ q.entries, e.job.id = id ∧ e.isLive = false

theorem Numbered.apply {q : DelayQueue} (numbered : q.Numbered) (op : Operation) : (op.apply q).Numbered := by
  cases op with
  | enqueue delay payload =>
    simp only [Operation.apply,enqueue_apply]
    cases dueResult q.now delay with
    | error e => exact numbered
    | ok runAt => exact numbered.append rfl
  | claim lease =>
    simp only [Operation.apply]
    obtain nothing | ⟨e,member,-,claimed⟩ := claim_cases lease q
    · rw [nothing]
      exact numbered
    · rw [claimed]
      exact numbered.update fun _ _ _ => rfl
  | complete id =>
    simp only [Operation.apply,DelayQueue.complete,transition_snd]
    exact numbered.update fun _ _ same => same
  | retry id error backoff =>
    simp only [Operation.apply,retry_eq]
    cases dueResult q.now backoff with
    | error e => exact numbered
    | ok runAt =>
      simp only [transition_snd]
      exact numbered.update fun _ _ same => same
  | deadLetter id error =>
    simp only [Operation.apply,DelayQueue.deadLetter,transition_snd]
    exact numbered.update fun _ _ same => same
  | advance by_ =>
    obtain ⟨now,moved⟩ := advance_state by_ q
    simp only [Operation.apply,moved]
    exact numbered

theorem History.numbered {past : List (DelayQueue × Operation)} {q : DelayQueue} (history : History past q) : q.Numbered := by
  induction history with
  | start now => rfl
  | step _ _ ih => exact ih.apply _

namespace Finished

variable {q : DelayQueue} {id : JobId}

theorem ne_live {e : QueueEntry} (numbered : q.Numbered) (finished : q.Finished id) (member : e ∈ q.entries) (live : e.isLive = true) :
    e.job.id ≠ id := by
  intro same
  obtain ⟨done,inside,own,closed⟩ := finished
  obtain rfl := numbered.eq_of_id member inside (same.trans own.symm)
  rw [live] at closed
  cases closed

/-- A change of one entry keeps a job finished, unless it takes the entry of the job out of the finished slots. -/
theorem update {job : JobId} {f : QueueEntry → QueueEntry} (finished : q.Finished id)
    (keeps : ∀ e ∈ q.entries, e.job.id = id → job = id → (f e).job.id = id ∧ (f e).isLive = false) : (q.update job f).Finished id := by
  obtain ⟨e,member,own,closed⟩ := finished
  refine ⟨if e.job.id = job then f e else e,mem_update.mpr ⟨e,member,rfl⟩,?_⟩
  split
  · next here => exact keeps e member own (here.symm.trans own)
  · exact ⟨own,closed⟩

theorem apply (numbered : q.Numbered) (finished : q.Finished id) {op : Operation} (kept : ¬op.PutsBack q id) : (op.apply q).Finished id := by
  cases op with
  | enqueue delay payload =>
    simp only [Operation.apply,enqueue_apply]
    cases dueResult q.now delay with
    | error e => exact finished
    | ok runAt =>
      obtain ⟨e,member,rest⟩ := finished
      exact ⟨e,List.mem_append_left _ member,rest⟩
  | claim lease =>
    simp only [Operation.apply]
    obtain nothing | ⟨e,member,due,claimed⟩ := claim_cases lease q
    · rw [nothing]
      exact finished
    · rw [claimed]
      have apart := finished.ne_live numbered member (isLive_of_claimable due)
      exact finished.update fun _ _ _ same => absurd same apart
  | complete job =>
    simp only [Operation.apply,DelayQueue.complete,transition_snd]
    exact finished.update fun _ _ own _ => ⟨own,rfl⟩
  | retry job error backoff =>
    by_cases same : job = id
    · -- A retry of the job itself has not been accepted, so it has changed nothing.
      subst same
      obtain ⟨e,member,own,-⟩ := id finished
      have answered := retry_apply error backoff ⟨e,member,own⟩
      simp only [Operation.PutsBack,true_and,answered] at kept
      simp only [Operation.apply,answered]
      cases due : dueResult q.now backoff with
      | error e => exact finished
      | ok runAt => simp [due] at kept
    · simp only [Operation.apply,retry_eq]
      cases dueResult q.now backoff with
      | error e => exact finished
      | ok runAt =>
        simp only [transition_snd]
        exact finished.update fun _ _ _ here => absurd here same
  | deadLetter job error =>
    simp only [Operation.apply,DelayQueue.deadLetter,transition_snd]
    exact finished.update fun _ _ own _ => ⟨own,rfl⟩
  | advance by_ =>
    obtain ⟨now,moved⟩ := advance_state by_ q
    simp only [Operation.apply,moved]
    exact finished

theorem claimed?_ne (numbered : q.Numbered) (finished : q.Finished id) (op : Operation) : op.claimed? q ≠ some id := by
  cases op with
  | claim lease =>
    simp only [Operation.claimed?]
    obtain nothing | ⟨e,member,due,claimed⟩ := claim_cases lease q
    · simp [nothing]
    · have apart := finished.ne_live numbered member (isLive_of_claimable due)
      simpa [claimed,delivered] using apart
  | _ => simp [Operation.claimed?]

theorem of_finishes {op : Operation} (finishes : op.Finishes q id) : (op.apply q).Finished id := by
  cases op with
  | complete job =>
    obtain ⟨rfl,accepted⟩ := finishes
    obtain ⟨e,member,own⟩ := known_of_transition accepted
    simp only [Operation.apply,DelayQueue.complete,transition_snd]
    exact ⟨_,mem_update.mpr ⟨e,member,rfl⟩,by rw [if_pos own]; exact ⟨own,rfl⟩⟩
  | deadLetter job error =>
    obtain ⟨rfl,accepted⟩ := finishes
    obtain ⟨e,member,own⟩ := known_of_transition accepted
    simp only [Operation.apply,DelayQueue.deadLetter,transition_snd]
    exact ⟨_,mem_update.mpr ⟨e,member,rfl⟩,by rw [if_pos own]; exact ⟨own,rfl⟩⟩
  | _ => exact finishes.elim

theorem not_of_putsBack {op : Operation} (putsBack : op.PutsBack q id) : ¬(op.apply q).Finished id := by
  cases op with
  | retry job error backoff =>
    obtain ⟨rfl,accepted⟩ := putsBack
    intro ⟨e,member,own,closed⟩
    rw [retry_eq] at accepted
    rw [Operation.apply,retry_eq] at member
    cases due : dueResult q.now backoff with
    | error failure =>
      rw [due] at accepted
      cases accepted
    | ok runAt =>
      rw [due] at member
      dsimp only at member
      rw [transition_snd] at member
      obtain ⟨old,-,shape⟩ := mem_update.mp member
      by_cases here : old.job.id = job
      · simp [shape,here,QueueEntry.isLive] at closed
      · simp [shape,here] at own
  | _ => exact putsBack.elim

end Finished

/-- A job that has been completed or given up stays so, and is returned by no claim, exactly as long as no retry of it is accepted. -/
theorem finished_until_retried {past later earlier : List (DelayQueue × Operation)} {q q₀ : DelayQueue} {op : Operation} {id : JobId}
    (history : History past q) (shape : past = later ++ (q₀,op) :: earlier) (finishes : op.Finishes q₀ id) :
    ((∀ at_ ∈ later, at_.1.Finished id ∧ at_.2.claimed? at_.1 ≠ some id) ∧ q.Finished id) ↔ ∀ at_ ∈ later, ¬at_.2.PutsBack at_.1 id := by
  induction later generalizing past q with
  | nil =>
    subst shape
    cases history with
    | step history orderly =>
      have closed : (op.apply q₀).Finished id := .of_finishes finishes
      simpa using closed
  | cons last rest ih =>
    obtain ⟨before,op'⟩ := last
    subst shape
    cases history with
    | step history orderly =>
      have numbered := history.numbered
      have earlier := ih history rfl
      simp only [List.forall_mem_cons]
      constructor
      · intro ⟨⟨⟨closed,_⟩,others⟩,still⟩
        exact ⟨fun putsBack => Finished.not_of_putsBack putsBack still,earlier.mp ⟨others,closed⟩⟩
      · intro ⟨kept,others⟩
        obtain ⟨stayed,closed⟩ := earlier.mpr others
        exact ⟨⟨⟨closed,closed.claimed?_ne numbered op'⟩,stayed⟩,closed.apply numbered kept⟩

/-- The state after some operations on an empty queue, the first of them last. -/
def after : List Operation → DelayQueue
  | [] => DelayQueue.start ⟨0,false⟩
  | op :: earlier => op.apply (after earlier)

/-- The operations with the states they met. -/
def met : List Operation → List (DelayQueue × Operation)
  | [] => []
  | op :: earlier => (after earlier,op) :: met earlier

def InOrder : List Operation → Prop
  | [] => True
  | op :: earlier => op.Orderly (met earlier) ∧ InOrder earlier

instance decidableInOrder : (ops : List Operation) → Decidable (InOrder ops)
  | [] => .isTrue trivial
  | op :: earlier =>
    have := decidableInOrder earlier
    inferInstanceAs (Decidable (op.Orderly (met earlier) ∧ InOrder earlier))

theorem History.after {ops : List Operation} (orderly : InOrder ops) : History (met ops) (DelayQueue.after ops) := by
  induction ops with
  | nil => exact .start _
  | cons op earlier ih => exact .step (ih orderly.2) orderly.1

/-- A job that is claimed, claimed again when the lease of the first claim is over, and then completed. -/
def claimedTwice : List Operation := [.complete ⟨1⟩,.claim 10,.advance 10,.claim 10,.enqueue 0 .null]

theorem claimedTwice_finishes : (Operation.complete ⟨1⟩).Finishes (after claimedTwice.tail) ⟨1⟩ := by
  refine ⟨rfl,?_⟩
  decide +kernel

/-- If the late answer is that the job is done as well, it is claimed no more. -/
theorem completed_twice_stays_finished :
    let late : List Operation := [.claim 10,.advance 10,.complete ⟨1⟩]
    (∀ at_ ∈ (met (late ++ claimedTwice)).take 3, at_.1.Finished ⟨1⟩ ∧ at_.2.claimed? at_.1 ≠ some ⟨1⟩) ∧
      (after (late ++ claimedTwice)).Finished ⟨1⟩ := by
  intro late
  have orderly : InOrder (late ++ claimedTwice) := by decide +kernel
  apply (finished_until_retried (History.after orderly) rfl claimedTwice_finishes).mpr
  simp [late,claimedTwice,met,Operation.PutsBack]

/-- If it is that the job has failed, a later claim returns the completed job. -/
theorem finished_job_can_be_claimed : ¬∀ past later earlier q q₀ op id, History past q → past = later ++ (q₀,op) :: earlier →
    op.Finishes q₀ id → ∀ at_ ∈ later, at_.2.claimed? at_.1 ≠ some id := by
  intro always
  let late : List Operation := [.claim 10,.retry ⟨1⟩ "too late" 0]
  have orderly : InOrder (late ++ claimedTwice) := by decide +kernel
  have again : (Operation.claim 10).claimed? (after (late ++ claimedTwice).tail) = some ⟨1⟩ := by decide +kernel
  have never := always _ ((met (late ++ claimedTwice)).take 2) _ _ _ _ _ (History.after orderly) rfl claimedTwice_finishes
  exact never (after (late ++ claimedTwice).tail,.claim 10) (List.mem_cons_self ..) again

end Flowgraph.DelayQueue
