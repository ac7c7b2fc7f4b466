import Flowgraph.Proofs.Queue.Exclusion

/-! Claiming all that is due. While the clock stands still a claim takes the first of the due entries out of them and leaves the others as
they are, so claims come to an end and return the due jobs, each once, in the order of their times and of their enqueueing. -/

namespace Flowgraph

/-- The order of delivery: by the times that jobs are put down for, and where these are the same by their numbers. -/
def Job.Before (a b : Job JobId) : Prop := a.runAt.le b.runAt = true ∧ (a.runAt = b.runAt → a.id.number < b.id.number)

/-- A pending entry is due when its time has come, and a claimed one when the lease has gone by since its claim. -/
def QueueEntry.isDue (e : QueueEntry) (now : Instant) (lease : Duration) : Bool :=
  match e.slot with
  | .pending => e.job.runAt.le now
  | .claimed since => since.nanos + lease ≤ now.nanos
  | _ => false

namespace DelayQueue
open Act

/-- Claims one after another until one of them finds nothing, with the jobs that they return. -/
inductive Drains (lease : Duration) : DelayQueue → List (Job JobId) → Prop where
  | idle {q} (nothing : claim lease q = (.ok none,q)) : Drains lease q []
  | next {q q' job jobs} (claimed : claim lease q = (.ok (some job),q')) (rest : Drains lease q' jobs) : Drains lease q (job :: jobs)

/-- The entries that a claim chooses from. -/
def due (q : DelayQueue) (lease : Duration) : List QueueEntry := q.entries.filter (·.claimable q.now lease)

variable {q : DelayQueue} {lease : Duration}

theorem Numbered.increasing (numbered : q.Numbered) : q.entries.Pairwise fun e e' => e.job.id.number < e'.job.id.number := by
  have ordered : (q.entries.map (·.job.id.number)).Pairwise (· < ·) := numbered ▸ List.pairwise_lt_range'
  exact List.pairwise_map.mp ordered

/-- What has just been claimed is not due again. -/
theorem not_claimable_delivered (positive : 0 < lease) (e : QueueEntry) (now : Instant) : (delivered e now).claimable now lease = false := by
  rw [Bool.eq_false_iff]
  intro again
  have ended : now.nanos + lease ≤ now.nanos := le_of_leaseIsOver rfl again
  have some : (0 : Int) < lease := Int.ofNat_lt.mpr positive
  omega

/-- A claim takes one entry out of those that are due: no other is earlier, and those as early stand behind it. -/
theorem claim_step (numbered : q.Numbered) (positive : 0 < lease) : claim lease q = (.ok none,q) ∧ q.due lease = [] ∨
    ∃ e before after q', claim lease q = (.ok (some (delivered e q.now).job),q') ∧ q'.Numbered ∧ q'.now = q.now ∧
      q.due lease = before ++ e :: after ∧ q'.due lease = before ++ after ∧ ∀ other ∈ before ++ after, e.job.Before other.job := by
  rw [claim_apply]
  cases found : earliest? (q.entries.filter (·.claimable q.now lease)) with
  | none => exact .inl ⟨rfl,Instant.eq_nil_of_earliestBy found⟩
  | some e =>
    obtain ⟨before,after,shape,behind,least⟩ := Instant.earliestBy_split found
    obtain ⟨left,right,entries,rfl,rest⟩ := List.filter_eq_append_iff.mp shape
    obtain ⟨passed,others,rfl,undue,-,rfl⟩ := List.filter_eq_cons_iff.mp rest
    rw [← List.append_assoc] at entries
    refine .inr ⟨e,_,_,_,rfl,numbered.update fun _ _ _ => rfl,rfl,shape,?_,?_⟩
    · have stale : (delivered e q.now).claimable q.now lease = false := not_claimable_delivered positive e q.now
      change List.filter (·.claimable q.now lease) (q.update e.job.id fun _ => delivered e q.now).entries = _
      rw [numbered.entries_update entries,List.filter_append,List.filter_append,List.filter_eq_nil_iff.mpr undue,List.append_nil,
        List.filter_cons,if_neg (Bool.eq_false_iff.mp stale)]
    · have increasing : (q.due lease).Pairwise fun e e' => e.job.id.number < e'.job.id.number := numbered.increasing.filter _
      rw [due,shape] at increasing
      refine List.forall_mem_append.mpr ⟨fun other inside => ⟨Instant.le_of_not_le (behind other inside),fun same => ?_⟩,
        fun other inside => ⟨least other inside,fun _ => ?_⟩⟩
      · exact absurd (same ▸ Instant.le_refl _) (behind other inside)
      · exact (List.pairwise_cons.mp (List.pairwise_append.mp increasing).2.1).1 other inside

/-- Claims come to an end, and return what was due. -/
theorem drains_due (numbered : q.Numbered) (positive : 0 < lease) : ∃ jobs, Drains lease q jobs ∧
    jobs.Perm ((q.due lease).map fun e => (delivered e q.now).job) ∧ jobs.Pairwise Job.Before := by
  induction size : (q.due lease).length using Nat.strong_induction_on generalizing q with
  | _ n ih =>
    obtain ⟨idle,nothing⟩ | ⟨e,before,after,q',claimed,numbered',now,shape,rest,first⟩ := claim_step numbered positive
    · exact ⟨[],.idle idle,by rw [nothing]; exact .nil,.nil⟩
    · have fewer : (q'.due lease).length < n := by
        rw [← size,shape,rest,List.length_append,List.length_append,List.length_cons]
        omega
      obtain ⟨jobs,drains,all,ordered⟩ := ih _ fewer numbered' rfl
      rw [rest,now] at all
      refine ⟨_,.next claimed drains,?_,List.pairwise_cons.mpr ⟨fun job member => ?_,ordered⟩⟩
      · rw [shape]
        exact (all.cons _).trans (List.perm_middle.symm.map fun e => (delivered e q.now).job)
      · obtain ⟨other,inside,rfl⟩ := List.mem_map.mp (all.mem_iff.mp member)
        exact first other inside

/-- The times of a queue are times of one clock in the calendar. -/
structure Timely (q : DelayQueue) : Prop where
  now : q.now.inRange = true
  claimed : ∀ e ∈ q.entries, ∀ since, e.slot = .claimed since → since.leap = q.now.leap ∧ since.inRange = true

/-- A claim is made at the time of the clock, and no other operation makes one. -/
theorem Operation.claimed_since {op : Operation} {e : QueueEntry} {since : Instant} (member : e ∈ (op.apply q).entries)
    (held : e.slot = .claimed since) : since = q.now ∨ ∃ old ∈ q.entries, old.slot = .claimed since := by
  have answered {id : JobId} {f : QueueEntry → QueueEntry} (free : ∀ old since, (f old).slot ≠ .claimed since)
      (inside : e ∈ (q.update id f).entries) : ∃ old ∈ q.entries, old.slot = .claimed since := by
    obtain ⟨old,before,shape⟩ := mem_update.mp inside
    split at shape
    · exact absurd held (shape ▸ free old since)
    · exact ⟨old,before,shape ▸ held⟩
  cases op with
  | enqueue delay payload =>
    rw [apply,enqueue_apply] at member
    cases due : dueResult q.now delay with
    | error failure => rw [due] at member; exact .inr ⟨e,member,held⟩
    | ok runAt =>
      rw [due] at member
      obtain old | new := List.mem_append.mp member
      · exact .inr ⟨e,old,held⟩
      · rw [List.mem_singleton.mp new] at held
        cases held
  | claim lease =>
    rw [apply] at member
    obtain idle | ⟨old,inside,-,claimed⟩ := claim_cases lease q
    · rw [idle] at member
      exact .inr ⟨e,member,held⟩
    · rw [claimed] at member
      obtain ⟨other,before,shape⟩ := mem_update.mp member
      split at shape
      · rw [shape] at held
        exact .inl (Slot.claimed.inj held).symm
      · exact .inr ⟨e,shape ▸ before,held⟩
  | complete id =>
    rw [apply,DelayQueue.complete,transition_snd] at member
    exact .inr (answered (by intro _ _ same; cases same) member)
  | retry id error backoff =>
    rw [apply,retry_eq] at member
    cases due : dueResult q.now backoff with
    | error failure => rw [due] at member; exact .inr ⟨e,member,held⟩
    | ok runAt =>
      rw [due] at member
      dsimp only at member
      rw [transition_snd] at member
      exact .inr (answered (by intro _ _ same; cases same) member)
  | deadLetter id error =>
    rw [apply,DelayQueue.deadLetter,transition_snd] at member
    exact .inr (answered (by intro _ _ same; cases same) member)
  | advance by_ =>
    obtain ⟨now,moved⟩ := advance_state by_ q
    rw [apply,moved] at member
    exact .inr ⟨e,member,held⟩

theorem advance_inRange (by_ : Duration) (now : q.now.inRange = true) : (advance by_ q).2.now.inRange = true := by
  rw [advance_apply]
  split
  · exact now
  · cases moved : q.now.shift? by_ with
    | some later => exact (Instant.shift?_eq_some moved).2
    | none => exact now

theorem inRange_apply (op : Operation) (now : q.now.inRange = true) : (op.apply q).now.inRange = true := by
  by_cases moves : ∃ by_, op = .advance by_
  · obtain ⟨by_,rfl⟩ := moves
    exact advance_inRange by_ now
  · rwa [now_apply q fun by_ same => moves ⟨by_,same⟩]

namespace Timely

theorem start {begun : Instant} (inside : begun.inRange = true) : Timely (DelayQueue.start begun) := ⟨inside,nofun⟩

theorem apply (timely : q.Timely) (op : Operation) : (op.apply q).Timely where
  now := inRange_apply op timely.now
  claimed e member since held := by
    rw [leap_apply]
    obtain rfl | ⟨old,before,same⟩ := Operation.claimed_since member held
    · exact ⟨rfl,timely.now⟩
    · exact timely.claimed old before since same

theorem claimable_eq (timely : q.Timely) (lease : Duration) {e : QueueEntry} (member : e ∈ q.entries) :
    e.claimable q.now lease = e.isDue q.now lease := by
  unfold QueueEntry.claimable QueueEntry.isDue
  cases slot : e.slot with
  | claimed since =>
    obtain ⟨leap,claimed⟩ := timely.claimed e member since slot
    rw [Bool.eq_iff_iff,leaseIsOver_iff leap claimed timely.now,decide_eq_true_eq]
  | _ => rfl

end Timely

/-- The state that operations lead to from the start of a queue. -/
def reached (begun : Instant) (ops : List Operation) : DelayQueue := ops.foldl (fun q op => op.apply q) (start begun)

/-- Claims with one lease while the clock stands still come to an end, and return the jobs that wait for their time no longer or whose
claim is as old as the lease, each once and in the order of their times, those of one time as they were enqueued. -/
theorem due_jobs_are_drained {begun : Instant} (inside : begun.inRange = true) (ops : List Operation) (positive : 0 < lease) :
    let q := reached begun ops
    ∃ jobs, Drains lease q jobs ∧ jobs.Perm ((q.entries.filter (·.isDue q.now lease)).map fun e => (delivered e q.now).job) ∧
      jobs.Pairwise Job.Before := by
  intro q
  have whole : q.Numbered ∧ q.Timely := List.foldlRecOn (motive := fun q : DelayQueue => q.Numbered ∧ q.Timely) ops _ ⟨rfl,.start inside⟩
    fun _ fit op _ => ⟨fit.1.apply op,fit.2.apply op⟩
  obtain ⟨numbered,timely⟩ := whole
  obtain ⟨jobs,drains,all,ordered⟩ := drains_due numbered positive
  refine ⟨jobs,drains,?_,ordered⟩
  rwa [due,List.filter_congr fun e member => timely.claimable_eq lease member] at all

/-- Five jobs, of which the first is claimed and left, the third put back for the time of the second, and the last completed; the
fourth is for later. -/
def backlog : List Operation :=
  [.enqueue 0 (.string "first"),.enqueue 4 (.string "second"),.enqueue 0 (.string "third"),.enqueue 90 (.string "fourth"),
    .enqueue 0 (.string "fifth"),.claim 9,.claim 9,.claim 9,.complete ⟨5⟩,.retry ⟨3⟩ "again" 4,.advance 9]

theorem backlog_is_drained : ∃ jobs, Drains 9 (reached ⟨0,false⟩ backlog) jobs ∧
    (jobs.map fun job => (job.id,job.runAt,job.attempts)).Perm [(⟨1⟩,⟨0,false⟩,2),(⟨2⟩,⟨4,false⟩,1),(⟨3⟩,⟨4,false⟩,2)] ∧
      jobs.Pairwise Job.Before := by
  obtain ⟨jobs,drains,all,ordered⟩ := due_jobs_are_drained (by decide : (⟨0,false⟩ : Instant).inRange = true) backlog (by decide : 0 < 9)
  refine ⟨jobs,drains,(all.map fun job => (job.id,job.runAt,job.attempts)).trans ?_,ordered⟩
  rw [List.map_map]
  decide +kernel

end DelayQueue
end Flowgraph
