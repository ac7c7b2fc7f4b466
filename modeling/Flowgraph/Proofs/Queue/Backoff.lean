import Flowgraph.Proofs.Queue.Deliveries

/-! How long a job waits after a failure. A failure that is given back puts its job down for a time ahead, by the backoff as many times
as the job has been delivered, and no claim returns it before. -/

namespace Flowgraph.Workplace

/-- A delivery: of which job, when, and what the handler answered. -/
structure Delivery where
  id : JobId
  time : Instant
  answer : Except String Unit

variable {κ : Type}

/-- The deliveries that lead from a state to the next, at the time of the first. -/
def made (s next : Workplace κ) : List Delivery :=
  (next.answers.drop s.answers.length).map fun (id,answer) => ⟨id,s.queue.now,answer⟩

/-- The deliveries that events make from a state on, in their order. -/
def deliveries (respond : Job JobId → κ → Except String Unit × κ) (config : WorkerConfig) (s : Workplace κ) : List Event → List Delivery
  | [] => []
  | event :: rest => made s (apply respond config s event) ++ deliveries respond config (apply respond config s event) rest

/-- The time that a delivery, the `n`-th of its job, puts the job down for: a failure is given back, unless there is no such time. -/
def Delivery.comeback? (config : WorkerConfig) (n : Nat) (d : Delivery) : Option Instant :=
  match d.answer with
  | .ok _ => none
  | .error _ => (dueResult d.time (Duration.times config.retryBackoff n)).toOption

/-- Deliveries of one job, none of them before the time that the last failure put the job down for. -/
def Spaced (config : WorkerConfig) (ds : List Delivery) : Prop :=
  ∀ k d next due, ds[k]? = some d → ds[k + 1]? = some next → d.comeback? config (k + 1) = some due → due.le next.time = true

theorem Delivery.comeback?_of_error {config : WorkerConfig} {n : Nat} {d : Delivery} {error : String} {due : Instant} (failed : d.answer = .error error)
    (short : config.retryBackoff * n ≤ Duration.longestShift) (dated : d.time.shift? (config.retryBackoff * n : Nat) = some due) :
    d.comeback? config n = some due := by
  have within : Duration.longestShift ≤ Duration.limit - 1 := by decide
  have whole : Duration.times config.retryBackoff n = config.retryBackoff * n := Nat.min_eq_left (short.trans within)
  rw [comeback?,failed,whole,dueResult,if_neg (Nat.not_lt.mpr short),dated]
  rfl

/-- A job that has been put down for a time is not returned before. -/
theorem le_of_claimable_answered {config : WorkerConfig} {e : QueueEntry} {d : Delivery} {due now : Instant} {lease : Duration}
    (comeback : d.comeback? config (e.job.attempts + 1) = some due) (claimable : (answered config d.time e d.answer).claimable now lease = true) :
    due.le now = true := by
  unfold Delivery.comeback? at comeback
  cases answer : d.answer with
  | ok _ => simp [answer] at comeback
  | error error =>
    rw [answer] at comeback claimable
    rw [answered] at claimable
    unfold givenBack at claimable
    cases back : dueResult d.time (Duration.times config.retryBackoff (e.job.attempts + 1)) with
    | error failure => simp [back,Except.toOption] at comeback
    | ok runAt =>
      simp only [back,Except.toOption,Option.some.injEq] at comeback
      rw [back,comeback] at claimable
      split at claimable
      · cases claimable
      · exact claimable

theorem Spaced.concat {config : WorkerConfig} {ds : List Delivery} {next : Delivery} (spaced : Spaced config ds)
    (last : ∀ d due, ds.getLast? = some d → d.comeback? config ds.length = some due → due.le next.time = true) :
    Spaced config (ds ++ [next]) := by
  intro k d later due here there comeback
  have bound : k + 1 < (ds ++ [next]).length := (List.getElem?_eq_some_iff.mp there).1
  rw [List.length_append,List.length_singleton] at bound
  have before : k < ds.length := by omega
  rw [List.getElem?_append_left before] at here
  obtain inner | whole := Nat.lt_or_eq_of_le (show k + 1 ≤ ds.length from before)
  · rw [List.getElem?_append_left inner] at there
    exact spaced k d later due here there comeback
  · have final : ds.getLast? = some d := by rw [List.getLast?_eq_getElem?,← whole,Nat.add_sub_cancel,here]
    rw [whole,List.getElem?_concat_length,Option.some.injEq] at there
    exact there ▸ last d due final (whole ▸ comeback)

/-- The deliveries so far are spaced, and a job whose last one has put it down for a time is not returned before. -/
structure BackedOff (config : WorkerConfig) (s : Workplace κ) (log : List Delivery) : Prop where
  accounted : Accounted config s
  answers : s.answers = log.map fun d => (d.id,d.answer)
  spaced : ∀ id, Spaced config (log.filter (·.id = id))
  held : ∀ e ∈ s.queue.entries, ∀ d due, (log.filter (·.id = e.job.id)).getLast? = some d → d.comeback? config e.job.attempts = some due →
    ∀ now lease, e.claimable now lease = true → due.le now = true

namespace BackedOff

variable {respond : Job JobId → κ → Except String Unit × κ} {config : WorkerConfig} {s : Workplace κ} {log : List Delivery}

theorem start (config : WorkerConfig) (now : Instant) (inner : κ) : BackedOff config (start now inner) [] :=
  ⟨.start config now inner,rfl,fun _ _ _ _ _ => nofun,nofun⟩

theorem attempts (backed : BackedOff config s log) {e : QueueEntry} (member : e ∈ s.queue.entries) :
    e.job.attempts = (log.filter (·.id = e.job.id)).length := by
  rw [backed.accounted.attempts e member,answersTo,backed.answers,List.filter_map,List.length_map,List.length_map]
  rfl

/-- An event that delivers nothing leaves the entries, but for new ones. -/
theorem quiet {event : Event} (backed : BackedOff config s log) (silent : (apply respond config s event).answers = s.answers)
    (entries : ∀ e ∈ (apply respond config s event).queue.entries, e ∈ s.queue.entries ∨ ∀ old ∈ s.queue.entries, old.job.id ≠ e.job.id) :
    BackedOff config (apply respond config s event) (log ++ made s (apply respond config s event)) := by
  have nothing : made s (apply respond config s event) = [] := by rw [made,silent,List.drop_length,List.map_nil]
  rw [nothing,List.append_nil]
  refine ⟨backed.accounted.apply event,silent.trans backed.answers,backed.spaced,fun e member => ?_⟩
  obtain old | fresh := entries e member
  · exact backed.held e old
  · intro d due last
    obtain ⟨inside,own⟩ := List.mem_filter.mp (List.mem_of_getLast? last)
    have given : (d.id,d.answer) ∈ s.answers := backed.answers ▸ List.mem_map_of_mem inside
    obtain ⟨old,was,same⟩ := backed.accounted.known _ given
    exact absurd (same.trans (of_decide_eq_true own)) (fresh old was)

theorem enqueue (backed : BackedOff config s log) (delay : Duration) (payload : Json) :
    BackedOff config (apply respond config s (.enqueue delay payload)) (log ++ made s (apply respond config s (.enqueue delay payload))) := by
  have state : apply respond config s (.enqueue delay payload) = { s with queue := (DelayQueue.enqueue delay payload s.queue).2 } := rfl
  refine backed.quiet rfl fun e member => ?_
  rw [state,DelayQueue.enqueue_apply] at member
  cases due : dueResult s.queue.now delay with
  | error failure => rw [due] at member; exact .inl member
  | ok runAt =>
    rw [due] at member
    obtain old | new := List.mem_append.mp member
    · exact .inl old
    · right
      intro old was same
      have bound := backed.accounted.numbered.le_length was
      rw [same,List.mem_singleton.mp new] at bound
      simp only [DelayQueue.nextId] at bound
      omega

theorem advance (backed : BackedOff config s log) (by_ : Duration) :
    BackedOff config (apply respond config s (.advance by_)) (log ++ made s (apply respond config s (.advance by_))) := by
  refine backed.quiet rfl fun e member => .inl ?_
  obtain ⟨now,moved⟩ := DelayQueue.advance_state by_ s.queue
  simp only [Workplace.apply,moved] at member
  exact member

theorem work (backed : BackedOff config s log) :
    BackedOff config (apply respond config s .work) (log ++ made s (apply respond config s .work)) := by
  have accounted : Accounted config (apply respond config s .work) := backed.accounted.apply .work
  obtain idle | ⟨e,member,due,answer,inner,state⟩ := work_delivers respond config s
  · exact backed.quiet (by rw [idle]) fun e inside => .inl (idle ▸ inside)
  · let d : Delivery := ⟨e.job.id,s.queue.now,answer⟩
    have delivery : made s (apply respond config s .work) = [d] := by
      rw [made,state,List.drop_left]
      rfl
    have here : (log ++ [d]).filter (·.id = e.job.id) = log.filter (·.id = e.job.id) ++ [d] := by
      simp [List.filter_append,d]
    have elsewhere (id : JobId) (apart : e.job.id ≠ id) : (log ++ [d]).filter (·.id = id) = log.filter (·.id = id) := by
      simp [List.filter_append,d,apart]
    obtain ⟨id,attempts,-⟩ := answered_cases config s.queue.now e answer
    rw [delivery]
    refine ⟨accounted,?_,fun id => ?_,fun x inside => ?_⟩
    · rw [state,backed.answers,List.map_append]
      rfl
    · by_cases own : e.job.id = id
      · subst own
        rw [here]
        refine (backed.spaced e.job.id).concat fun last at_ final comeback => ?_
        exact backed.held e member last at_ final (backed.attempts member ▸ comeback) _ _ due
      · rw [elsewhere id own]
        exact backed.spaced id
    · rw [state] at inside
      obtain ⟨old,was,rfl⟩ := DelayQueue.mem_update.mp inside
      split
      · rw [id,here,attempts]
        intro last at_ final comeback now lease claimable
        rw [List.getLast?_concat,Option.some.injEq] at final
        subst final
        exact le_of_claimable_answered comeback claimable
      · next apart =>
        rw [elsewhere old.job.id (Ne.symm apart)]
        exact backed.held old was

theorem apply (backed : BackedOff config s log) (event : Event) :
    BackedOff config (Workplace.apply respond config s event) (log ++ made s (Workplace.apply respond config s event)) := by
  cases event with
  | enqueue delay payload => exact backed.enqueue delay payload
  | advance by_ => exact backed.advance by_
  | work => exact backed.work

theorem run (backed : BackedOff config s log) (events : List Event) :
    BackedOff config (run respond config events s) (log ++ deliveries respond config s events) := by
  induction events generalizing s log with
  | nil => exact (List.append_nil log).symm ▸ backed
  | cons event rest ih =>
    rw [deliveries,← List.append_assoc]
    exact ih (backed.apply event)

end BackedOff

/-- If the k-th delivery of a job fails, and k times the backoff can be counted and leads to a time in the calendar, then the next
delivery of the job is at that time at the earliest. -/
theorem failed_job_backs_off (respond : Job JobId → κ → Except String Unit × κ) (config : WorkerConfig) (begun : Instant) (inner : κ)
    (events : List Event) {id : JobId} {k : Nat} {failed next : Delivery} {error : String} {due : Instant}
    (delivered : ((deliveries respond config (start begun inner) events).filter (·.id = id))[k]? = some failed)
    (failure : failed.answer = .error error) (short : config.retryBackoff * (k + 1) ≤ Duration.longestShift)
    (dated : failed.time.shift? (config.retryBackoff * (k + 1) : Nat) = some due)
    (again : ((deliveries respond config (start begun inner) events).filter (·.id = id))[k + 1]? = some next) :
    due.le next.time = true := by
  have backed : BackedOff config (run respond config events (start begun inner)) (deliveries respond config (start begun inner) events) :=
    (BackedOff.start config begun inner).run events
  exact backed.spaced id k failed next due delivered again (Delivery.comeback?_of_error failure short dated)

/-- The first job fails twice, another one is done in between; the rounds before each time that the first is put down for find nothing. -/
def wait : List Event :=
  [.enqueue 0 (.string "first"),.enqueue 0 (.string "second"),.work,.work,.work,.advance 10,.work,.advance 19,.work,.advance 1,.work]

def failTwice (job : Job JobId) (_ : Unit) : Except String Unit × Unit :=
  (if job.id = ⟨1⟩ ∧ job.attempts < 3 then .error "busy" else .ok (),())

theorem twice_failed_job_backs_off : let log := (deliveries failTwice ⟨3,300,10⟩ (start ⟨0,false⟩ ()) wait).filter (·.id = ⟨1⟩)
    log[1]? = some ⟨⟨1⟩,⟨10,false⟩,.error "busy"⟩ ∧ log[2]? = some ⟨⟨1⟩,⟨30,false⟩,.ok ()⟩ ∧
      10 * (1 + 1) ≤ Duration.longestShift ∧ (⟨10,false⟩ : Instant).shift? (10 * (1 + 1) : Nat) = some ⟨30,false⟩ ∧
      (⟨30,false⟩ : Instant).le ⟨30,false⟩ = true := by
  intro log
  have failed : log[1]? = some ⟨⟨1⟩,⟨10,false⟩,.error "busy"⟩ := by rfl
  have next : log[2]? = some ⟨⟨1⟩,⟨30,false⟩,.ok ()⟩ := by rfl
  have short : 10 * (1 + 1) ≤ Duration.longestShift := by decide
  have dated : (⟨10,false⟩ : Instant).shift? (10 * (1 + 1) : Nat) = some ⟨30,false⟩ := by decide
  exact ⟨failed,next,short,dated,failed_job_backs_off failTwice ⟨3,300,10⟩ ⟨0,false⟩ () wait failed rfl short dated next⟩

end Flowgraph.Workplace
