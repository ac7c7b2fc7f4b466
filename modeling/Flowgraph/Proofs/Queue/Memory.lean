import Flowgraph.Queue.Memory
import Flowgraph.Proofs.Effect.Act
import Flowgraph.Proofs.Time.Instant
import Mathlib.Data.List.Nodup

/-! The operations of the queue in memory as equations on its entries. Entries are numbered by their place,
keep their number and their payload, and leave the live slots only when they are answered. -/

namespace Flowgraph
open Act

def dueResult (now : Instant) (delay : Duration) : Except (Failure QueueFault) Instant :=
  if Duration.longestShift < delay then .error (.cause .invalidDelay)
  else match now.shift? delay with
    | some t => .ok t
    | none => .error .overflow

theorem dueAfter_apply (now : Instant) (delay : Duration) (s : σ) : dueAfter now delay s = (dueResult now delay,s) := by
  unfold dueAfter dueResult
  split
  · rfl
  · cases now.shift? delay <;> rfl

def QueueEntry.isLive (e : QueueEntry) : Bool :=
  match e.slot with
  | .pending => true
  | .claimed _ => true
  | _ => false

theorem le_of_leaseIsOver {since now : Instant} {lease : Duration} (still : since.leap = now.leap) (ended : leaseIsOver since now lease = true) :
    since.nanos + lease ≤ now.nanos := by
  rw [leaseIsOver,Bool.and_eq_true,decide_eq_true_eq,Option.any_eq_true] at ended
  obtain ⟨-,expiry,shifted,ahead⟩ := ended
  obtain ⟨rfl,-⟩ := Instant.shift?_eq_some shifted
  obtain ⟨now,leap⟩ := now
  obtain rfl : since.leap = leap := still
  exact Instant.mk_le_mk.mp ahead

/-- Between times of the calendar a lease is over when it has gone by; one that is too long to be counted never has. -/
theorem leaseIsOver_iff {since now : Instant} {lease : Duration} (still : since.leap = now.leap) (claimed : since.inRange = true)
    (reading : now.inRange = true) : leaseIsOver since now lease = true ↔ since.nanos + lease ≤ now.nanos := by
  refine ⟨le_of_leaseIsOver still,fun ended => ?_⟩
  rw [Instant.inRange_iff] at claimed reading
  have width := Instant.width_le_longestShift
  have short : (lease : Int) ≤ Duration.longestShift := by omega
  have inside : (⟨since.nanos + lease,since.leap⟩ : Instant).inRange = true := Instant.inRange_iff.mpr (by dsimp only; omega)
  rw [leaseIsOver,decide_eq_true (Int.ofNat_le.mp short),Bool.true_and,Option.any_eq_true]
  exact ⟨_,if_pos inside,Instant.le_of_nanos still ended⟩

namespace DelayQueue

/-- Every entry is numbered by its place, from one on. -/
def Numbered (q : DelayQueue) : Prop := q.entries.map (·.job.id.number) = List.range' 1 q.entries.length

/-- The entries carry on the numbers of a queue. -/
def Follows (q : DelayQueue) (added : List QueueEntry) : Prop :=
  added.map (·.job.id.number) = List.range' (q.entries.length + 1) added.length

theorem Numbered.append {q : DelayQueue} {added : List QueueEntry} (numbered : q.Numbered) (follows : q.Follows added) :
    ({ q with entries := q.entries ++ added } : DelayQueue).Numbered := by
  unfold Numbered at numbered ⊢
  unfold Follows at follows
  rw [List.map_append,numbered,follows,List.length_append,← List.range'_append_1,Nat.add_comm q.entries.length 1]

theorem Numbered.update {q : DelayQueue} {id : JobId} {f : QueueEntry → QueueEntry} (numbered : q.Numbered)
    (keeps : ∀ e ∈ q.entries, e.job.id = id → (f e).job.id = id) : (q.update id f).Numbered := by
  unfold Numbered at numbered ⊢
  rw [DelayQueue.update,List.length_map,← numbered,List.map_map]
  refine List.map_congr_left fun e member => ?_
  simp only [Function.comp_apply]
  split
  · next same => rw [keeps e member same,same]
  · rfl

theorem Numbered.eq_of_id {q : DelayQueue} {e e' : QueueEntry} (numbered : q.Numbered) (member : e ∈ q.entries) (also : e' ∈ q.entries)
    (same : e.job.id = e'.job.id) : e = e' := by
  have distinct : (q.entries.map (·.job.id.number)).Nodup := numbered ▸ List.nodup_range'
  exact List.inj_on_of_nodup_map distinct member also (congrArg JobId.number same)

/-- An update of one entry leaves those before and behind it. -/
theorem Numbered.entries_update {q : DelayQueue} {e : QueueEntry} {before after : List QueueEntry} (numbered : q.Numbered)
    (shape : q.entries = before ++ e :: after) (f : QueueEntry → QueueEntry) : (q.update e.job.id f).entries = before ++ f e :: after := by
  have distinct : (q.entries.map (·.job.id.number)).Nodup := numbered ▸ List.nodup_range'
  rw [shape,List.map_append,List.map_cons] at distinct
  obtain ⟨-,others,apart⟩ := List.nodup_append.mp distinct
  have stays {x : QueueEntry} (other : x.job.id.number ≠ e.job.id.number) : (if x.job.id = e.job.id then f x else x) = x :=
    if_neg fun same => other (congrArg JobId.number same)
  have left : before.map (fun x => if x.job.id = e.job.id then f x else x) = before :=
    (List.map_congr_left fun x inside => stays (apart _ (List.mem_map_of_mem inside) _ (List.mem_cons_self ..))).trans (List.map_id _)
  have right : after.map (fun x => if x.job.id = e.job.id then f x else x) = after :=
    (List.map_congr_left fun x inside => stays fun same =>
      (List.nodup_cons.mp others).1 (same ▸ List.mem_map_of_mem inside)).trans (List.map_id _)
  change q.entries.map (fun x => if x.job.id = e.job.id then f x else x) = _
  rw [shape,List.map_append,List.map_cons,left,right,if_pos rfl]

theorem Numbered.split {q : DelayQueue} {e : QueueEntry} (numbered : q.Numbered) (member : e ∈ q.entries) :
    ∃ before after, q.entries = before ++ e :: after ∧ ∀ f, (q.update e.job.id f).entries = before ++ f e :: after := by
  obtain ⟨before,after,shape⟩ := List.append_of_mem member
  exact ⟨before,after,shape,numbered.entries_update shape⟩

theorem Numbered.le_length {q : DelayQueue} {e : QueueEntry} (numbered : q.Numbered) (member : e ∈ q.entries) :
    e.job.id.number ≤ q.entries.length := by
  have inside : e.job.id.number ∈ List.range' 1 q.entries.length := numbered ▸ List.mem_map_of_mem member
  have bounds := List.mem_range'_1.mp inside
  omega

theorem Follows.nil (q : DelayQueue) : q.Follows [] := rfl

theorem Follows.append {q : DelayQueue} {added more : List QueueEntry} (first : q.Follows added)
    (then_ : ({ q with entries := q.entries ++ added } : DelayQueue).Follows more) : q.Follows (added ++ more) := by
  unfold Follows at first then_ ⊢
  rw [List.map_append,first,then_,List.length_append,List.length_append,← List.range'_append_1]
  congr 2
  omega

theorem Follows.lt_number {q : DelayQueue} {added : List QueueEntry} {e : QueueEntry} (follows : q.Follows added) (member : e ∈ added) :
    q.entries.length < e.job.id.number := by
  have inside : e.job.id.number ∈ List.range' (q.entries.length + 1) added.length := follows ▸ List.mem_map_of_mem member
  exact (List.mem_range'_1.mp inside).1

theorem enqueue_apply (delay : Duration) (payload : Json) (q : DelayQueue) :
    enqueue delay payload q = match dueResult q.now delay with
      | .ok runAt => (.ok q.nextId,q.push payload runAt)
      | .error e => (.error e,q) := by
  rw [enqueue,bind_ok (get_apply q),bind_apply,dueAfter_apply]
  rcases dueResult q.now delay with e | runAt <;> rfl

theorem claim_apply (lease : Duration) (q : DelayQueue) :
    claim lease q = match earliest? (q.entries.filter (·.claimable q.now lease)) with
      | none => (.ok none,q)
      | some e => (.ok (some (delivered e q.now).job),q.update e.job.id fun _ => delivered e q.now) := by
  rw [claim,bind_ok (get_apply q)]
  cases earliest? (q.entries.filter (·.claimable q.now lease)) <;> rfl

/-- A claim either finds nothing and changes nothing, or delivers one entry that is due. -/
theorem claim_cases (lease : Duration) (q : DelayQueue) :
    claim lease q = (.ok none,q) ∨ ∃ e ∈ q.entries, e.claimable q.now lease = true ∧
      claim lease q = (.ok (some (delivered e q.now).job),q.update e.job.id fun _ => delivered e q.now) := by
  rw [claim_apply]
  cases found : earliest? (q.entries.filter (·.claimable q.now lease)) with
  | none => exact .inl rfl
  | some e =>
    obtain ⟨member,due⟩ := List.mem_filter.mp (Instant.mem_of_earliestBy found)
    exact .inr ⟨e,member,due,rfl⟩

theorem not_claimable_of_claim {lease : Duration} {q : DelayQueue} (idle : (claim lease q).1 = .ok none) :
    ∀ e ∈ q.entries, e.claimable q.now lease = false := by
  rw [claim_apply] at idle
  cases found : earliest? (q.entries.filter (·.claimable q.now lease)) with
  | none => simpa using Instant.eq_nil_of_earliestBy found
  | some e => rw [found] at idle; cases idle

theorem isLive_of_claimable {e : QueueEntry} {now : Instant} {lease : Duration} (due : e.claimable now lease = true) : e.isLive = true := by
  unfold QueueEntry.claimable at due
  unfold QueueEntry.isLive
  cases slot : e.slot <;> simp_all

theorem mem_update {q : DelayQueue} {id : JobId} {f : QueueEntry → QueueEntry} {e : QueueEntry} :
    e ∈ (q.update id f).entries ↔ ∃ old ∈ q.entries, e = if old.job.id = id then f old else old := by
  simp only [update,List.mem_map,eq_comm]

theorem update_update {q : DelayQueue} {id : JobId} {e : QueueEntry} {g : QueueEntry → QueueEntry} (same : e.job.id = id) :
    (q.update id fun _ => e).update id g = q.update id fun _ => g e := by
  simp only [update,List.map_map]
  congr 1
  refine List.map_congr_left fun old _ => ?_
  by_cases here : old.job.id = id
  · simp only [Function.comp_apply,if_pos here,if_pos same]
  · simp only [Function.comp_apply,if_neg here]

theorem update_append {q : DelayQueue} {id : JobId} {g : QueueEntry → QueueEntry} {added : List QueueEntry} (follows : q.Follows added)
    (early : id.number ≤ q.entries.length) :
    ({ q with entries := q.entries ++ added } : DelayQueue).update id g =
      { q.update id g with entries := (q.update id g).entries ++ added } := by
  have fresh : added.map (fun e => if e.job.id = id then g e else e) = added := by
    refine (List.map_congr_left fun e member => if_neg ?_).trans (List.map_id _)
    intro same
    have late := follows.lt_number member
    rw [same] at late
    omega
  simp only [update,List.map_append,fresh]

theorem update_absent {q : DelayQueue} {id : JobId} {f : QueueEntry → QueueEntry} (absent : ∀ e ∈ q.entries, e.job.id ≠ id) :
    q.update id f = q := by
  have same : (q.entries.map fun e => if e.job.id = id then f e else e) = q.entries :=
    (List.map_congr_left fun e member => if_neg (absent e member)).trans (List.map_id _)
  rw [update,same]

theorem find?_isSome_iff {q : DelayQueue} {id : JobId} : (q.find? id).isSome = true ↔ ∃ e ∈ q.entries, e.job.id = id := by
  simp [find?]

theorem transition_eq (id : JobId) (f : QueueEntry → QueueEntry) (q : DelayQueue) :
    transition id f q = if (q.find? id).isSome then (.ok (),q.update id f) else (.error (.cause (.jobNotFound id)),q) := by
  rw [transition,bind_ok (get_apply q)]
  split <;> rfl

theorem transition_apply {q : DelayQueue} {id : JobId} {f : QueueEntry → QueueEntry} (known : ∃ e ∈ q.entries, e.job.id = id) :
    transition id f q = (.ok (),q.update id f) := by
  rw [transition_eq,if_pos (find?_isSome_iff.mpr known)]

/-- An answer changes the entry of its job, if there is one, and nothing else. -/
theorem transition_snd (id : JobId) (f : QueueEntry → QueueEntry) (q : DelayQueue) : (transition id f q).2 = q.update id f := by
  rw [transition_eq]
  split
  · rfl
  · next missing => exact (update_absent fun e member same => missing (find?_isSome_iff.mpr ⟨e,member,same⟩)).symm

theorem known_of_transition {q : DelayQueue} {id : JobId} {f : QueueEntry → QueueEntry} (accepted : (transition id f q).1 = .ok ()) :
    ∃ e ∈ q.entries, e.job.id = id := by
  rw [transition_eq] at accepted
  split at accepted
  · next found => exact find?_isSome_iff.mp found
  · cases accepted

theorem retry_eq (id : JobId) (error : String) (backoff : Duration) (q : DelayQueue) :
    retry id error backoff q = match dueResult q.now backoff with
      | .ok runAt => transition id (fun e => ⟨{ e.job with runAt },.pending⟩) q
      | .error e => (.error e,q) := by
  rw [retry,bind_ok (get_apply q),bind_apply,dueAfter_apply]
  rcases dueResult q.now backoff with e | runAt <;> rfl

theorem retry_apply {q : DelayQueue} {id : JobId} (error : String) (backoff : Duration) (known : ∃ e ∈ q.entries, e.job.id = id) :
    retry id error backoff q = match dueResult q.now backoff with
      | .ok runAt => (.ok (),q.update id fun e => ⟨{ e.job with runAt },.pending⟩)
      | .error e => (.error e,q) := by
  rw [retry_eq]
  cases dueResult q.now backoff with
  | error e => rfl
  | ok runAt => exact transition_apply known

theorem advance_apply (by_ : Duration) (q : DelayQueue) :
    advance by_ q = if Duration.longestShift < by_ then (.ok (),q) else match q.now.shift? by_ with
      | some now => (.ok (),{ q with now })
      | none => (.error .overflow,q) := by
  rw [advance,bind_ok (get_apply q)]
  split
  · rfl
  · cases q.now.shift? by_ <;> rfl

theorem advance_state (by_ : Duration) (q : DelayQueue) : ∃ now, (advance by_ q).2 = { q with now } := by
  rw [advance_apply]
  split
  · exact ⟨q.now,rfl⟩
  · cases q.now.shift? by_ with
    | some now => exact ⟨now,rfl⟩
    | none => exact ⟨q.now,rfl⟩

theorem advance_leap (by_ : Duration) (q : DelayQueue) : (advance by_ q).2.now.leap = q.now.leap := by
  rw [advance_apply]
  split
  · rfl
  · cases moved : q.now.shift? by_ with
    | some now =>
      obtain ⟨rfl,-⟩ := Instant.shift?_eq_some moved
      rfl
    | none => rfl

/-- The clock of a queue can be moved to any time that it is not past. -/
theorem advance_to (q : DelayQueue) {due : Instant} (now : q.now.inRange = true) (inRange : due.inRange = true)
    (leap : due.leap = q.now.leap) : ∃ now', advance (due.nanos - q.now.nanos).toNat q = (.ok (),{ q with now := now' }) ∧
      now'.inRange = true ∧ now'.leap = q.now.leap ∧ due.le now' = true := by
  have bounds := Instant.inRange_iff.mp inRange
  have limits := Instant.inRange_iff.mp now
  let moved : Instant := ⟨q.now.nanos + ((due.nanos - q.now.nanos).toNat : Int),q.now.leap⟩
  have inside : moved.inRange = true := by
    rw [Instant.inRange_iff]
    dsimp only [moved]
    omega
  have width := Instant.width_le_longestShift
  have short : ¬Duration.longestShift < (due.nanos - q.now.nanos).toNat := by omega
  have shifted : q.now.shift? ((due.nanos - q.now.nanos).toNat : Int) = some moved := if_pos inside
  refine ⟨moved,?_,inside,rfl,Instant.le_of_nanos leap (by dsimp only [moved]; omega)⟩
  rw [advance_apply,if_neg short,shifted]

end DelayQueue
end Flowgraph
