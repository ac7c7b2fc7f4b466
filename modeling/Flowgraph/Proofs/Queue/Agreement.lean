import Flowgraph.Proofs.Queue.Conservation
import Flowgraph.Queue.Table
import Mathlib.Data.List.Forall2
import Mathlib.Tactic.MkIffOfInductiveProp

/-! The queue that is a table beside the queue in memory. A claim is over on the one side when its end has come, and on the other when
it was made before the latest time that a claim can have been made to be over; for the times that a clock shows the two are the same.
So the rows of the table stand for the entries of the queue in memory at all times, and both answer every call alike. -/

namespace Flowgraph
open Act

/-- A call of a queue. -/
inductive QueueCall where
  | enqueue (delay : Duration) (payload : Json)
  | claim (lease : Duration)
  | complete (id : JobId)
  | retry (id : JobId) (error : String) (backoff : Duration)
  | deadLetter (id : JobId) (error : String)

/-- A call with the state that it meets, the reply to it and the state that it leaves. -/
structure Passage (σ : Type) where
  call : QueueCall
  before : σ
  reply : Except (Failure QueueFault) QueueReply
  after : σ

namespace QueueOperations

variable {σ : Type}

def perform (queue : QueueOperations σ) : QueueCall → Act σ QueueFault QueueReply
  | .enqueue delay payload => .enqueued <$> queue.enqueue delay payload
  | .claim lease => .claimed <$> queue.claim lease
  | .complete id => (fun _ => .done) <$> queue.complete id
  | .retry id error backoff => (fun _ => .done) <$> queue.retry id error backoff
  | .deadLetter id error => (fun _ => .done) <$> queue.deadLetter id error

/-- What becomes of calls one after the other, each of them made when the clock shows the time beside it. -/
def course (queue : QueueOperations σ) (setClock : Instant → σ → σ) : List (Instant × QueueCall) → σ → List (Passage σ)
  | [],_ => []
  | (now,call) :: rest,s =>
    let before := setClock now s
    let (reply,after) := queue.perform call before
    ⟨call,before,reply,after⟩ :: queue.course setClock rest after

end QueueOperations

def DelayQueue.setClock (now : Instant) (q : DelayQueue) : DelayQueue := { q with now }

def JobTable.setClock (now : Instant) (t : JobTable) : JobTable := { t with now }

namespace Instant

/-- A time as a clock shows it: in the calendar, but not its first, and in no leap second. -/
@[mk_iff]
structure OnClock (now : Instant) : Prop where
  leap : now.leap = false
  late : earliest.nanos < now.nanos
  early : now.nanos ≤ latest.nanos

instance (now : Instant) : Decidable now.OnClock := decidable_of_iff' _ (onClock_iff now)

end Instant

/-- Rows are asked for in the order of the times that they are due. Which of those comes first that are due at the same time is open. -/
structure JobServer.InOrder (server : JobServer) : Prop where
  found : ∀ rows, server.first rows = none → rows = []
  first : ∀ rows r, server.first rows = some r → r ∈ rows ∧ ∀ other ∈ rows, r.runAt.le other.runAt = true

/-- The server takes what a call has for it, and gives it back: documents and texts of errors, and the points in time that come of the
delay, the lease or the backoff. -/
def QueueCall.Kept [server : JobServer] (now : Instant) : QueueCall → Prop
  | enqueue delay payload => server.json payload = .ok payload ∧ ∀ runAt ∈ now.shift? delay, server.time runAt = .ok runAt
  | claim lease => server.time (JobTable.abandonedBefore now lease) = .ok (JobTable.abandonedBefore now lease)
  | complete _ => True
  | retry _ error backoff => server.text error = .ok error ∧ ∀ runAt ∈ now.shift? backoff, server.time runAt = .ok runAt
  | deadLetter _ error => server.text error = .ok error

/-- The jobs that a claim can return are due at different times. -/
def QueueCall.Untied (q : DelayQueue) : QueueCall → Prop
  | claim lease => ((q.entries.filter (·.claimable q.now lease)).map (·.job.runAt)).Nodup
  | _ => True

instance (q : DelayQueue) : (call : QueueCall) → Decidable (call.Untied q)
  | .claim .. => inferInstanceAs (Decidable (List.Nodup _))
  | .enqueue .. | .complete .. | .retry .. | .deadLetter .. => .isTrue trivial

/-- The row of a job: of its status and with its data, changed last when it was claimed or with the error that it was given up for. -/
structure JobRow.Mirrors (r : JobRow JobId) (e : QueueEntry) : Prop where
  id : r.id = e.job.id
  payload : r.payload = e.job.payload
  runAt : r.runAt = e.job.runAt
  attempts : r.attempts = e.job.attempts
  status : r.status = e.slot.status.column
  claimed : ∀ since, e.slot = .claimed since → r.updatedAt = since ∧ since.OnClock
  error : ∀ error, e.slot = .deadLettered error → r.lastError = some error

theorem Instant.OnClock.inRange {now : Instant} (reading : now.OnClock) : now.inRange = true := inRange_iff.mpr ⟨reading.late.le,reading.early⟩

theorem le_abandonedBefore_iff {since now : Instant} (claimed : since.OnClock) (reading : now.OnClock) {lease : Duration} :
    since.le (JobTable.abandonedBefore now lease) = true ↔ since.nanos + lease ≤ now.nanos := by
  have width := Instant.width_le_longestShift
  obtain ⟨since,_⟩ := since
  obtain ⟨now,_⟩ := now
  obtain ⟨rfl,late,-⟩ := claimed
  obtain ⟨rfl,-,early⟩ := reading
  dsimp only at late early ⊢
  have unclaimed : ¬(⟨since,false⟩ : Instant).le .earliest = true := fun before => not_le.mpr late (Instant.mk_le_mk.mp before)
  unfold JobTable.abandonedBefore
  by_cases short : lease ≤ Duration.longestShift
  · rw [if_pos short,Instant.shift?]
    by_cases inside : (⟨now + -lease,false⟩ : Instant).inRange = true
    · rw [if_pos inside,Option.getD_some,Instant.mk_le_mk]
      dsimp only
      omega
    · rw [if_neg inside,Option.getD_none]
      rw [Instant.inRange_iff] at inside
      dsimp only at inside
      exact ⟨fun before => absurd before unclaimed,fun ended => by omega⟩
  · rw [if_neg short]
    have long : (Duration.longestShift : Int) < lease := Int.ofNat_lt.mpr (Nat.lt_of_not_le short)
    exact ⟨fun before => absurd before unclaimed,fun ended => by omega⟩

namespace JobRow.Mirrors

variable {r : JobRow JobId} {e : QueueEntry} {now : Instant}

theorem job (mirrors : r.Mirrors e) : r.job = e.job := by
  obtain ⟨id,payload,runAt,attempts,-,-,-⟩ := mirrors
  rw [JobRow.job,id,payload,runAt,attempts,Int.toNat_natCast]

theorem isDue (mirrors : r.Mirrors e) (reading : now.OnClock) (lease : Duration) :
    r.isDue now (JobTable.abandonedBefore now lease) = e.claimable now lease := by
  unfold JobRow.isDue QueueEntry.claimable
  rw [mirrors.status]
  cases slot : e.slot with
  | pending =>
    rw [mirrors.runAt]
    simp [Slot.status,JobStatus.column]
  | claimed since =>
    obtain ⟨changed,claimed⟩ := mirrors.claimed since slot
    have ended : since.le (JobTable.abandonedBefore now lease) = leaseIsOver since now lease := by
      rw [Bool.eq_iff_iff,le_abandonedBefore_iff claimed reading,
        leaseIsOver_iff (claimed.leap.trans reading.leap.symm) claimed.inRange reading.inRange]
    rw [changed,ended]
    simp [Slot.status,JobStatus.column]
  | completed => simp [Slot.status,JobStatus.column]
  | deadLettered error => simp [Slot.status,JobStatus.column]

theorem taken (mirrors : r.Mirrors e) (reading : now.OnClock) : (JobTable.taken r now).Mirrors (DelayQueue.delivered e now) where
  id := mirrors.id
  payload := mirrors.payload
  runAt := mirrors.runAt
  attempts := by simp [JobTable.taken,DelayQueue.delivered,mirrors.attempts]
  status := rfl
  claimed since same := by cases same; exact ⟨rfl,reading⟩
  error _ same := by cases same

end JobRow.Mirrors

theorem exists_related {R : α → β → Prop} {xs : List α} {ys : List β} (related : List.Forall₂ R xs ys) {a : α} (member : a ∈ xs) :
    ∃ b ∈ ys, R a b := by
  induction related with
  | nil => cases member
  | @cons x y xs ys head tail ih =>
    obtain rfl | inside := List.mem_cons.mp member
    · exact ⟨y,List.mem_cons_self ..,head⟩
    · exact (ih inside).imp fun b found => ⟨List.mem_cons_of_mem _ found.1,found.2⟩

/-- The row that comes first is that of the entry that is due first, if no other entry is due at the same time. -/
theorem JobServer.InOrder.first_mirrors {server : JobServer} (ordered : server.InOrder) {rows : List (JobRow JobId)}
    {entries : List QueueEntry} (mirrors : List.Forall₂ JobRow.Mirrors rows entries) (untied : (entries.map (·.job.runAt)).Nodup) :
    Option.Rel JobRow.Mirrors (server.first rows) (DelayQueue.earliest? entries) := by
  cases first : server.first rows with
  | none =>
    obtain rfl := ordered.found rows first
    cases mirrors
    exact .none
  | some r =>
    obtain ⟨member,least⟩ := ordered.first rows r first
    obtain ⟨e,inside,mirror⟩ := exists_related mirrors member
    cases earliest : DelayQueue.earliest? entries with
    | none =>
      rw [Instant.eq_nil_of_earliestBy earliest] at inside
      cases inside
    | some e' =>
      -- Neither of the two is due before the other, as seen from the row of the one and from the entry of the other.
      have inside' := Instant.mem_of_earliestBy earliest
      obtain ⟨r',member',mirror'⟩ := exists_related mirrors.flip inside'
      have before : e.job.runAt.le e'.job.runAt = true := by
        rw [← mirror.runAt,← JobRow.Mirrors.runAt mirror']
        exact least r' member'
      have behind := Instant.le_of_earliestBy earliest e inside
      obtain rfl := List.inj_on_of_nodup_map untied inside inside' (Instant.le_antisymm before behind)
      exact .some mirror


/-- The rows of a table are those of the entries of a queue in memory. -/
def JobTable.Mirrors (t : JobTable) (q : DelayQueue) : Prop := List.Forall₂ JobRow.Mirrors t.rows q.entries

/-- A reply of the table and one of the queue in memory are the same, and the rows are those of the entries after them. -/
def JobTable.Agrees (x : Except (Failure QueueFault) α × JobTable) (y : Except (Failure QueueFault) α × DelayQueue) : Prop :=
  x.1 = y.1 ∧ x.2.Mirrors y.2

namespace JobTable

variable {t : JobTable} {q : DelayQueue} {id : JobId}

theorem change_apply (t : JobTable) (id : JobId) (f : JobRow JobId → JobRow JobId) :
    change id f t = if (t.row? id).isSome then (.ok (),t.update id f) else (.error (.cause .rowNotFound),t) := by
  unfold change
  rw [bind_ok (get_apply t)]
  split <;> rfl

theorem Mirrors.known (mirrors : t.Mirrors q) (id : JobId) : (t.row? id).isSome = (q.find? id).isSome := by
  rw [row?,DelayQueue.find?,List.isSome_find?,List.isSome_find?]
  unfold Mirrors at mirrors
  generalize t.rows = rows at mirrors ⊢
  generalize q.entries = entries at mirrors ⊢
  induction mirrors with
  | nil => rfl
  | cons mirror _ ih => rw [List.any_cons,List.any_cons,ih,mirror.id]

theorem Mirrors.update {f : JobRow JobId → JobRow JobId} {g : QueueEntry → QueueEntry} (mirrors : t.Mirrors q) (id : JobId)
    (each : ∀ r e, r.Mirrors e → (f r).Mirrors (g e)) : (t.update id f).Mirrors (q.update id g) := by
  refine List.forall₂_map_left_iff.mpr (List.forall₂_map_right_iff.mpr (mirrors.imp fun r e mirror => ?_))
  rw [mirror.id]
  split
  · exact each r e mirror
  · exact mirror

/-- An answer finds its job in both or in neither, and changes the row as it changes the entry. -/
theorem Mirrors.answer {f : JobRow JobId → JobRow JobId} {g : QueueEntry → QueueEntry} (mirrors : t.Mirrors q)
    (each : ∀ r e, r.Mirrors e → (f r).Mirrors (g e)) :
    Agrees (Act.mapFault (answerFault id) (change id f) t) (DelayQueue.transition id g q) := by
  rw [mapFault,change_apply,DelayQueue.transition_eq,mirrors.known]
  by_cases known : (q.find? id).isSome = true
  · rw [if_pos known,if_pos known]
    exact ⟨rfl,mirrors.update id each⟩
  · rw [if_neg known,if_neg known]
    exact ⟨rfl,mirrors⟩

theorem Agrees.map {x : Except (Failure QueueFault) α × JobTable} {y : Except (Failure QueueFault) α × DelayQueue} (agrees : Agrees x y)
    (f : α → β) : Agrees (f <$> x.1,x.2) (f <$> y.1,y.2) := ⟨congrArg (f <$> ·) agrees.1,agrees.2⟩

section
variable [server : JobServer]

theorem currentTime_apply (now : server.time t.now = .ok t.now) : currentTime t = (.ok t.now,t) := by
  rw [currentTime,bind_ok (get_apply t),ofExcept_ok now]

theorem insert_apply {payload : Json} {runAt : Instant} (document : server.json payload = .ok payload)
    (time : server.time runAt = .ok runAt) (now : server.time t.now = .ok t.now) :
    let row : JobRow JobId := ⟨⟨t.rows.length + 1⟩,JobStatus.pending.column,0,payload,runAt,none,t.now,t.now⟩
    insert payload runAt t = (.ok row,{ t with rows := t.rows ++ [row] }) := by
  rw [insert,bind_ok (ofExcept_ok document t),bind_ok (ofExcept_ok time t),bind_ok (currentTime_apply now),bind_ok (get_apply t)]
  rfl

theorem fetchDue_apply {now abandonedBefore : Instant} (time : server.time now = .ok now)
    (cut : server.time abandonedBefore = .ok abandonedBefore) :
    fetchDue now abandonedBefore t = match server.first (t.rows.filter (·.isDue now abandonedBefore)) with
      | none => (.ok none,t)
      | some r => (.ok (some { taken r now with updatedAt := r.updatedAt }),t.update r.id (taken · now)) := by
  rw [fetchDue,bind_ok (ofExcept_ok time t),bind_ok (ofExcept_ok cut t),bind_ok (get_apply t)]
  cases server.first (t.rows.filter (·.isDue now abandonedBefore)) <;> rfl

theorem claim_apply {lease : Duration} (now : server.time t.now = .ok t.now) (kept : (QueueCall.claim lease).Kept t.now) :
    operations.claim lease t = match server.first (t.rows.filter (·.isDue t.now (abandonedBefore t.now lease))) with
      | none => (.ok none,t)
      | some r => (.ok (some (taken r t.now).job),t.update r.id (taken · t.now)) := by
  have fetched := fetchDue_apply (t := t) now kept
  rw [operations]
  dsimp only
  rw [bind_ok (get_apply t)]
  cases first : server.first (t.rows.filter (·.isDue t.now (abandonedBefore t.now lease))) with
  | none =>
    rw [first] at fetched
    rw [bind_ok (mapFault_ok QueueFault.database fetched)]
    rfl
  | some r =>
    rw [first] at fetched
    rw [bind_ok (mapFault_ok QueueFault.database fetched)]
    rfl

theorem settle_apply {status : JobStatus} {error : Option String} (text : error.mapM server.text = .ok error)
    (now : server.time t.now = .ok t.now) : settle id status error t =
      change id (fun r => { r with status := status.column, lastError := error <|> r.lastError, updatedAt := t.now }) t := by
  rw [settle,bind_ok (ofExcept_ok text t),bind_ok (currentTime_apply now)]

theorem postpone_apply {error : String} {runAt : Instant} (text : server.text error = .ok error) (time : server.time runAt = .ok runAt)
    (now : server.time t.now = .ok t.now) : postpone id error runAt t =
      change id (fun r => { r with status := JobStatus.pending.column, lastError := some error, runAt, updatedAt := t.now }) t := by
  rw [postpone,bind_ok (ofExcept_ok text t),bind_ok (ofExcept_ok time t),bind_ok (currentTime_apply now)]

/-- A table and a queue in memory with the same jobs, at the same time as their clock shows it and as the server keeps it. -/
structure InStep (t : JobTable) (q : DelayQueue) : Prop where
  mirrors : t.Mirrors q
  numbered : q.Numbered
  clock : t.now = q.now
  reading : q.now.OnClock
  time : server.time t.now = .ok t.now

namespace InStep

variable {error : String}

theorem enqueue {delay : Duration} {payload : Json} (step : InStep t q) (kept : (QueueCall.enqueue delay payload).Kept q.now) :
    Agrees (operations.enqueue delay payload t) (DelayQueue.enqueue delay payload q) := by
  obtain ⟨document,times⟩ := kept
  rw [DelayQueue.enqueue_apply,operations]
  dsimp only
  rw [bind_ok (get_apply t),bind_apply,dueAfter_apply,step.clock]
  cases due : dueResult q.now delay with
  | error failure => exact ⟨rfl,step.mirrors⟩
  | ok runAt =>
    have inserted := insert_apply document (times runAt (DelayQueue.dueResult_eq_ok due)) step.time
    dsimp only
    rw [bind_ok (mapFault_ok QueueFault.database inserted)]
    have fresh : (⟨t.rows.length + 1⟩ : JobId) = q.nextId := by rw [DelayQueue.nextId,step.mirrors.length_eq]
    have row : JobRow.Mirrors ⟨⟨t.rows.length + 1⟩,JobStatus.pending.column,0,payload,runAt,none,t.now,t.now⟩
        ⟨⟨q.nextId,payload,runAt,0⟩,.pending⟩ :=
      ⟨fresh,rfl,rfl,rfl,rfl,(fun _ same => by cases same),fun _ same => by cases same⟩
    exact ⟨congrArg Except.ok fresh,List.rel_append step.mirrors (.cons row .nil)⟩

theorem claim {lease : Duration} (step : InStep t q) (ordered : server.InOrder) (kept : (QueueCall.claim lease).Kept q.now)
    (untied : (QueueCall.claim lease).Untied q) : Agrees (operations.claim lease t) (DelayQueue.claim lease q) := by
  have due : List.Forall₂ JobRow.Mirrors (t.rows.filter (·.isDue q.now (abandonedBefore q.now lease)))
      (q.entries.filter (·.claimable q.now lease)) :=
    List.rel_filter (fun r e mirror => Bool.eq_iff_iff.mp (mirror.isDue step.reading lease)) step.mirrors
  have first := ordered.first_mirrors due untied
  have present (e : QueueEntry) (found : DelayQueue.earliest? (q.entries.filter (·.claimable q.now lease)) = some e) :
      e ∈ q.entries := (List.mem_filter.mp (Instant.mem_of_earliestBy found)).1
  rw [claim_apply step.time (step.clock ▸ kept),DelayQueue.claim_apply,step.clock]
  generalize server.first (t.rows.filter (·.isDue q.now (abandonedBefore q.now lease))) = row? at first ⊢
  generalize DelayQueue.earliest? (q.entries.filter (·.claimable q.now lease)) = entry? at first present ⊢
  cases first with
  | none => exact ⟨rfl,step.mirrors⟩
  | @some r e mirror =>
    have taken := step.mirrors.update e.job.id fun r e mirror => mirror.taken step.reading
    rw [step.numbered.update_eq (present e rfl)] at taken
    dsimp only
    rw [(mirror.taken step.reading).job,mirror.id]
    exact ⟨rfl,taken⟩

theorem complete (step : InStep t q) : Agrees (operations.complete id t) (DelayQueue.complete id q) := by
  rw [operations,DelayQueue.complete]
  dsimp only
  rw [mapFault,JobTable.complete,settle_apply rfl step.time]
  exact step.mirrors.answer fun r e mirror => { mirror with
    status := rfl
    claimed := fun _ same => by cases same
    error := fun _ same => by cases same }

theorem deadLetter (step : InStep t q) (kept : (QueueCall.deadLetter id error).Kept q.now) :
    Agrees (operations.deadLetter id error t) (DelayQueue.deadLetter id error q) := by
  have text : (some error).mapM server.text = .ok (some error) := by rw [Option.mapM_some,show server.text error = _ from kept]; rfl
  rw [operations,DelayQueue.deadLetter]
  dsimp only
  rw [mapFault,JobTable.deadLetter,settle_apply text step.time]
  exact step.mirrors.answer fun r e mirror => { mirror with
    status := rfl
    claimed := fun _ same => by cases same
    error := fun _ same => congrArg some (Slot.deadLettered.inj same) }

theorem retry {backoff : Duration} (step : InStep t q) (kept : (QueueCall.retry id error backoff).Kept q.now) :
    Agrees (operations.retry id error backoff t) (DelayQueue.retry id error backoff q) := by
  obtain ⟨text,times⟩ := kept
  rw [DelayQueue.retry_eq,operations]
  dsimp only
  rw [bind_ok (get_apply t),bind_apply,dueAfter_apply,step.clock]
  cases due : dueResult q.now backoff with
  | error failure => exact ⟨rfl,step.mirrors⟩
  | ok runAt =>
    dsimp only
    rw [mapFault,postpone_apply text (times runAt (DelayQueue.dueResult_eq_ok due)) step.time]
    exact step.mirrors.answer fun r e mirror => { mirror with
      runAt := rfl
      status := rfl
      claimed := fun _ same => by cases same
      error := fun _ same => by cases same }

theorem perform {call : QueueCall} (step : InStep t q) (ordered : server.InOrder) (kept : call.Kept q.now) (untied : call.Untied q) :
    Agrees (operations.perform call t) (DelayQueue.operations.perform call q) := by
  cases call <;> rw [QueueOperations.perform,QueueOperations.perform,map_apply,map_apply]
  case enqueue delay payload => exact (step.enqueue kept).map _
  case claim lease => exact (step.claim ordered kept untied).map _
  case complete id => exact step.complete.map _
  case retry id error backoff => exact (step.retry kept).map _
  case deadLetter id error => exact (step.deadLetter kept).map _

end InStep
end
end JobTable

namespace QueueCall

end QueueCall

namespace QueueOperations

/-- A time of the year 2001, some seconds on. -/
def shiftTime (seconds : Nat) : Instant := ⟨1000000000 * Duration.second + Duration.ofSeconds seconds,false⟩

/-- Two jobs: both are claimed, the second one is left and claimed again when the lease is over, the first is put back and given up.
Meanwhile there is a claim too early, an answer to a job that there is not, and a delay that is too long. -/
def shift : List (Instant × QueueCall) := [
  (shiftTime 0,.enqueue (.ofSeconds 2) (.string "first")),(shiftTime 0,.enqueue (.ofSeconds 1) (.string "second")),
  (shiftTime 0,.claim (.ofSeconds 5)),(shiftTime 3,.claim (.ofSeconds 5)),(shiftTime 3,.claim (.ofSeconds 5)),
  (shiftTime 4,.retry ⟨1⟩ "late" (.ofSeconds 1)),(shiftTime 4,.complete ⟨9⟩),(shiftTime 4,.enqueue (Duration.longestShift + 1) .null),
  (shiftTime 8,.claim (.ofSeconds 5)),(shiftTime 8,.claim (.ofSeconds 5)),(shiftTime 9,.complete ⟨2⟩),(shiftTime 9,.deadLetter ⟨1⟩ "gone")]

end QueueOperations
end Flowgraph
