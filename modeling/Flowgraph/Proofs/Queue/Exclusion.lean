import Flowgraph.Proofs.Queue.Conservation

/-! How long a claim keeps its job from other claims. A claimed job stays claimed since the time of its claim until it is answered or
claimed anew, and a claim takes a claimed job only if its own lease has gone by since that time. -/

namespace Flowgraph.DelayQueue

variable {q : DelayQueue} {id : JobId} {since : Instant}

def ClaimedAt (q : DelayQueue) (id : JobId) (since : Instant) : Prop := ∃ e ∈ q.entries, e.job.id = id ∧ e.slot = .claimed since

namespace ClaimedAt

theorem of_claimed? {lease : Duration} (claimed : (Operation.claim lease).claimed? q = some id) :
    ((Operation.claim lease).apply q).ClaimedAt id q.now := by
  obtain idle | ⟨e,member,-,taken⟩ := claim_cases lease q
  · simp [Operation.claimed?,idle] at claimed
  · simp only [Operation.claimed?,taken,Option.map_some,Option.some.injEq] at claimed
    rw [Operation.apply,taken]
    exact ⟨delivered e q.now,mem_update.mpr ⟨e,member,(if_pos rfl).symm⟩,claimed,rfl⟩

theorem update {job : JobId} {f : QueueEntry → QueueEntry} (held : q.ClaimedAt id since) (other : job ≠ id) :
    (q.update job f).ClaimedAt id since := by
  obtain ⟨e,member,own,slot⟩ := held
  refine ⟨e,mem_update.mpr ⟨e,member,(if_neg ?_).symm⟩,own,slot⟩
  exact fun same => other (same.symm.trans own)

/-- Only an answer to the job itself ends its claim, or another claim that returns it. -/
theorem apply {op : Operation} (held : q.ClaimedAt id since) (unclaimed : op.claimed? q ≠ some id) (unfinished : ¬op.Finishes q id)
    (kept : ¬op.PutsBack q id) : (op.apply q).ClaimedAt id since := by
  have known : ∃ e ∈ q.entries, e.job.id = id := held.imp fun e rest => ⟨rest.1,rest.2.1⟩
  cases op with
  | enqueue delay payload =>
    rw [Operation.apply,enqueue_apply]
    cases dueResult q.now delay with
    | error e => exact held
    | ok runAt =>
      obtain ⟨e,member,rest⟩ := held
      exact ⟨e,List.mem_append_left _ member,rest⟩
  | claim lease =>
    rw [Operation.apply]
    obtain idle | ⟨e,-,-,taken⟩ := claim_cases lease q
    · rw [idle]
      exact held
    · rw [taken]
      simp only [Operation.claimed?,taken,Option.map_some,ne_eq,Option.some.injEq] at unclaimed
      exact held.update unclaimed
  | complete job =>
    rw [Operation.apply,DelayQueue.complete,transition_snd]
    refine held.update fun same => unfinished ?_
    exact ⟨same,congrArg Prod.fst (transition_apply (same ▸ known))⟩
  | retry job error backoff =>
    rw [Operation.apply,retry_eq]
    cases due : dueResult q.now backoff with
    | error e => exact held
    | ok runAt =>
      dsimp only
      rw [transition_snd]
      refine held.update fun same => kept ⟨same,?_⟩
      rw [retry_apply error backoff (same ▸ known),due]
  | deadLetter job error =>
    rw [Operation.apply,DelayQueue.deadLetter,transition_snd]
    refine held.update fun same => unfinished ?_
    exact ⟨same,congrArg Prod.fst (transition_apply (same ▸ known))⟩
  | advance by_ =>
    obtain ⟨now,moved⟩ := advance_state by_ q
    rw [Operation.apply,moved]
    exact held

/-- A claim that takes a claimed job has a lease that is over. -/
theorem lease_ended {lease : Duration} (held : q.ClaimedAt id since) (numbered : q.Numbered)
    (claimed : (Operation.claim lease).claimed? q = some id) : leaseIsOver since q.now lease = true := by
  obtain ⟨e,member,own,slot⟩ := held
  obtain idle | ⟨e',inside,due,taken⟩ := claim_cases lease q
  · simp [Operation.claimed?,idle] at claimed
  · simp only [Operation.claimed?,taken,Option.map_some,Option.some.injEq] at claimed
    have same : e' = e := numbered.eq_of_id inside member (Eq.trans claimed own.symm)
    rw [same,QueueEntry.claimable,slot] at due
    exact due

end ClaimedAt

/-- The clock moves only when it is told to. -/
theorem now_apply (q : DelayQueue) {op : Operation} (still : ∀ by_, op ≠ .advance by_) : (op.apply q).now = q.now := by
  cases op with
  | enqueue delay payload =>
    rw [Operation.apply,enqueue_apply]
    cases dueResult q.now delay <;> rfl
  | claim lease =>
    rw [Operation.apply]
    obtain idle | ⟨e,-,-,taken⟩ := claim_cases lease q
    · rw [idle]
    · rw [taken]
      rfl
  | complete id => rw [Operation.apply,DelayQueue.complete,transition_snd]; rfl
  | retry id error backoff =>
    rw [Operation.apply,retry_eq]
    cases dueResult q.now backoff with
    | error e => rfl
    | ok runAt => dsimp only; rw [transition_snd]; rfl
  | deadLetter id error => rw [Operation.apply,DelayQueue.deadLetter,transition_snd]; rfl
  | advance by_ => exact absurd rfl (still by_)

theorem leap_apply (q : DelayQueue) (op : Operation) : (op.apply q).now.leap = q.now.leap := by
  by_cases moves : ∃ by_, op = .advance by_
  · obtain ⟨by_,rfl⟩ := moves
    exact advance_leap by_ q
  · rw [now_apply q fun by_ same => moves ⟨by_,same⟩]

instance (q : DelayQueue) (id : JobId) : (op : Operation) → Decidable (op.PutsBack q id)
  | .retry .. => inferInstanceAs (Decidable (_ ∧ _))
  | .enqueue .. | .claim .. | .complete .. | .deadLetter .. | .advance .. => inferInstanceAs (Decidable False)

/-- From a claim on that nothing has put its job back after, the job is either claimed since then or finished. -/
theorem Course.held_or_finished {past between earlier : List (DelayQueue × Operation)} {q q₁ : DelayQueue} {id : JobId} {first : Duration}
    (course : Course past q) (shape : past = between ++ (q₁,.claim first) :: earlier)
    (claimed : (Operation.claim first).claimed? q₁ = some id) (apart : ∀ at_ ∈ between, at_.2.claimed? at_.1 ≠ some id)
    (kept : ∀ at_ ∈ between, ¬at_.2.PutsBack at_.1 id) :
    q.now.leap = q₁.now.leap ∧ (q.Finished id ∨ q.ClaimedAt id q₁.now ∧ ∀ at_ ∈ between, ¬at_.2.Finishes at_.1 id) := by
  induction between generalizing past q with
  | nil =>
    subst shape
    cases course with
    | step course op => exact ⟨leap_apply ..,.inr ⟨.of_claimed? claimed,nofun⟩⟩
  | cons last rest ih =>
    obtain ⟨before,op⟩ := last
    subst shape
    cases course with
    | step course op =>
      obtain ⟨unclaimed,apart⟩ := List.forall_mem_cons.mp apart
      obtain ⟨stays,kept⟩ := List.forall_mem_cons.mp kept
      obtain ⟨leap,state⟩ := ih course rfl apart kept
      refine ⟨(leap_apply ..).trans leap,?_⟩
      obtain finished | ⟨held,open_⟩ := state
      · exact .inl (finished.apply (Conserved.of_course course).numbered stays)
      · by_cases finishes : op.Finishes before id
        · exact .inl (.of_finishes finishes)
        · exact .inr ⟨held.apply unclaimed finishes stays,List.forall_mem_cons.mpr ⟨finishes,open_⟩⟩

/-- If a job is returned by a claim and next by another one, then a retry of it was accepted in between, or the lease of the other claim
has gone by since the first and the job was neither completed nor given up in between. -/
theorem claim_is_exclusive {between earlier : List (DelayQueue × Operation)} {q q₁ q₂ : DelayQueue} {id : JobId} {first lease : Duration}
    (course : Course ((q₂,.claim lease) :: (between ++ (q₁,.claim first) :: earlier)) q)
    (claimed : (Operation.claim first).claimed? q₁ = some id) (again : (Operation.claim lease).claimed? q₂ = some id)
    (apart : ∀ at_ ∈ between, at_.2.claimed? at_.1 ≠ some id) :
    (∃ at_ ∈ between, at_.2.PutsBack at_.1 id) ∨
      q₁.now.nanos + lease ≤ q₂.now.nanos ∧ ∀ at_ ∈ between, ¬at_.2.Finishes at_.1 id := by
  by_cases back : ∃ at_ ∈ between, at_.2.PutsBack at_.1 id
  · exact .inl back
  · right
    have kept : ∀ at_ ∈ between, ¬at_.2.PutsBack at_.1 id := fun at_ member put => back ⟨at_,member,put⟩
    cases course with
    | step course op =>
      have numbered := (Conserved.of_course course).numbered
      obtain ⟨leap,finished | ⟨held,open_⟩⟩ := course.held_or_finished rfl claimed apart kept
      · exact absurd again (finished.claimed?_ne numbered _)
      · have ended := held.lease_ended numbered again
        exact ⟨le_of_leaseIsOver leap.symm ended,open_⟩

/-- Two jobs: the first is claimed and left, while the second is claimed, put back and claimed again; answers to the first that are
refused, and then a claim when its lease is over. -/
def abandonment : List Operation :=
  [.claim 9,.advance 6,.complete ⟨7⟩,.retry ⟨1⟩ "never" (Duration.longestShift + 1),.claim 9,.retry ⟨2⟩ "soon" 0,.claim 9,.advance 3,
    .claim 1,.enqueue 1 (.string "second"),.enqueue 0 (.string "first")]

theorem abandoned_claim_is_over : let between := (met abandonment.tail).take 7
    let q₁ := after (abandonment.drop 9)
    let q₂ := after abandonment.tail
    (Operation.claim 1).claimed? q₁ = some ⟨1⟩ ∧ (Operation.claim 9).claimed? q₂ = some ⟨1⟩ ∧
      (∀ at_ ∈ between, at_.2.claimed? at_.1 ≠ some ⟨1⟩) ∧
      q₁.now.nanos + (9 : Nat) ≤ q₂.now.nanos ∧ ∀ at_ ∈ between, ¬at_.2.Finishes at_.1 ⟨1⟩ := by
  intro between q₁ q₂
  have course : Course ((q₂,.claim 9) :: (between ++ (q₁,.claim 1) :: met (abandonment.drop 9))) (after abandonment) := .after abandonment
  have claimed : (Operation.claim 1).claimed? q₁ = some ⟨1⟩ := by decide +kernel
  have again : (Operation.claim 9).claimed? q₂ = some ⟨1⟩ := by decide +kernel
  have apart : ∀ at_ ∈ between, at_.2.claimed? at_.1 ≠ some ⟨1⟩ := by decide +kernel
  have kept : ¬∃ at_ ∈ between, at_.2.PutsBack at_.1 ⟨1⟩ := by decide +kernel
  exact ⟨claimed,again,apart,(claim_is_exclusive course claimed again apart).resolve_left kept⟩

end Flowgraph.DelayQueue
