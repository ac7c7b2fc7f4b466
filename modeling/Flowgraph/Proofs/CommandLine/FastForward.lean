import Flowgraph.CommandLine.Session
import Flowgraph.Proofs.Engine.Underway

/-! Fast-forwarding a run of a validated automation. The heights of its live jobs bound both loops, the one over the jobs
that are due and the one over the times at which some are; so enough rounds come to an end, and leave nothing to do. -/

namespace Flowgraph.CommandLine
open Act Engine

variable {κ : Type} {d : Definition} {order : List String} {run : String} {s : Engine κ}

theorem workOff_succ (outside : Outside κ) (config : EngineConfig) (n : Nat) (s : Engine κ) :
    workOff outside config (n + 1) s = match workOnce outside config .standard s with
      | (.ok (some _),t) => workOff outside config n t
      | (.ok none,t) => (.ok (),t)
      | (.error e,t) => (.error e,t) := by
  rw [workOff,bind_apply]
  rcases workOnce outside config .standard s with ⟨e | _ | _,t⟩ <;> rfl

theorem fastForward_succ (outside : Outside κ) (config : EngineConfig) (n : Nat) (s : Engine κ) :
    fastForward outside config (n + 1) s = match nextDue? s.queue with
      | none => (.ok (),s)
      | some due => (onQueue (DelayQueue.advance (due.nanos - s.queue.now.nanos).toNat) >>= fun _ =>
          workOff outside config (n + 1) >>= fun _ => fastForward outside config n) s := by
  rw [fastForward,bind_apply,get_apply]
  dsimp only
  cases nextDue? s.queue <;> rfl

theorem fastForward_advanced {outside : Outside κ} {config : EngineConfig} {due : Instant} {t : Engine κ} (n : Nat) (next : nextDue? s.queue = some due)
    (advanced : onQueue (DelayQueue.advance (due.nanos - s.queue.now.nanos).toNat) s = (.ok (),t)) :
    fastForward outside config (n + 1) s = (workOff outside config (n + 1) >>= fun _ => fastForward outside config n) t := by
  rw [fastForward_succ,next]
  dsimp only
  rw [bind_ok advanced]

theorem mem_pending_of_nextDue? {q : DelayQueue} {due : Instant} (found : nextDue? q = some due) :
    ∃ e ∈ q.entries, e.slot = .pending ∧ e.job.runAt = due := by
  obtain ⟨job,listed,rfl⟩ := List.mem_map.mp (Instant.mem_of_earliestBy found)
  obtain ⟨e,inside,rfl⟩ := List.mem_map.mp listed
  obtain ⟨member,pending⟩ := List.mem_filter.mp inside
  exact ⟨e,member,by simpa using pending,rfl⟩

theorem ne_pending_of_nextDue? {q : DelayQueue} (none_ : nextDue? q = none) : ∀ e ∈ q.entries, e.slot ≠ .pending := by
  have empty := Instant.eq_nil_of_earliestBy none_
  simpa [DelayQueue.pending,DelayQueue.inSlot] using empty

/-- With enough rounds the jobs that are due are worked off; unless there are none, the heights go down. -/
theorem workOff_ends (valid : WellOrdered d.nodes order) (outside : Outside κ) (config : EngineConfig) (underway : Underway d order run s) :
    ∃ rounds result t, (∀ n ≥ rounds, workOff outside config n s = (result,t)) ∧
      (result = .error .overflow ∨ result = .ok () ∧ Underway d order run t ∧
        ((t = s ∧ ∀ e ∈ s.queue.entries, e.claimable s.queue.now WorkerConfig.standard.lease = false) ∨
          (t.heights order).IsDershowitzMannaLT (s.heights order))) := by
  induction s using (heights_wellFounded order).induction with
  | _ s ih =>
    have first (n : Nat) (enough : n ≥ 1) : ∃ m, n = m + 1 := Nat.exists_eq_add_of_le' enough
    by_cases finished : (workOnce outside config .standard s).1 = .error .overflow
    · refine ⟨1,.error .overflow,(workOnce outside config .standard s).2,fun n enough => ?_,.inl rfl⟩
      obtain ⟨m,rfl⟩ := first n enough
      rw [workOff_succ]
      revert finished
      rcases workOnce outside config .standard s with ⟨result,t⟩
      rintro rfl
      rfl
    · obtain ⟨nothing,idle⟩ | ⟨t,delivered,further,-,lower⟩ := underway.work valid outside config .standard finished
      · refine ⟨1,.ok (),s,fun n enough => ?_,.inr ⟨rfl,underway,.inl ⟨rfl,idle⟩⟩⟩
        obtain ⟨m,rfl⟩ := first n enough
        rw [workOff_succ,nothing]
      · obtain ⟨rounds,result,u,same,ended⟩ := ih t lower further
        refine ⟨rounds + 1,result,u,fun n enough => ?_,ended.imp id ?_⟩
        · obtain ⟨m,rfl⟩ := Nat.exists_eq_add_of_le' (Nat.le_of_add_left_le enough)
          rw [workOff_succ,delivered]
          exact same m (by omega)
        · rintro ⟨done,last,⟨rfl,-⟩ | below⟩
          · exact ⟨done,last,.inr lower⟩
          · exact ⟨done,last,.inr (.trans below lower)⟩

/-- With enough rounds the clock has been moved past all jobs, and none is left. -/
theorem fastForward_ends (valid : WellOrdered d.nodes order) (outside : Outside κ) (config : EngineConfig) (underway : Underway d order run s) :
    ∃ rounds result t, (∀ n ≥ rounds, fastForward outside config n s = (result,t)) ∧
      (result = .error .overflow ∨ result = .ok () ∧ Underway d order run t ∧ ∀ e ∈ t.queue.entries, e.slot ≠ .pending) := by
  induction s using (heights_wellFounded order).induction with
  | _ s ih =>
    cases next : nextDue? s.queue with
    | none =>
      refine ⟨1,.ok (),s,fun n enough => ?_,.inr ⟨rfl,underway,ne_pending_of_nextDue? next⟩⟩
      obtain ⟨m,rfl⟩ := Nat.exists_eq_add_of_le' enough
      rw [fastForward_succ,next]
    | some due =>
      obtain ⟨e,member,pending,rfl⟩ := mem_pending_of_nextDue? next
      obtain ⟨t,advanced,moved,entries,claimable⟩ := underway.advance member pending
      have level : t.heights order = s.heights order := by rw [heights,entries,heights]
      obtain ⟨rounds,result,u,worked,ended⟩ := workOff_ends valid outside config moved
      obtain rfl | ⟨rfl,further,⟨rfl,idle⟩ | lower⟩ := ended
      · refine ⟨rounds + 1,.error .overflow,u,fun n enough => ?_,.inl rfl⟩
        obtain ⟨m,rfl⟩ := Nat.exists_eq_add_of_le' (Nat.le_of_add_left_le enough)
        rw [fastForward_advanced m next advanced,bind_apply,worked _ (by omega)]
      · -- The job that the clock has moved to is due, so that it cannot be that nothing was done.
        exact absurd (idle e (entries ▸ member)) (by rw [claimable]; decide)
      · obtain ⟨rounds',result,v,same,ended⟩ := ih u (level ▸ lower) further
        refine ⟨max rounds rounds' + 1,result,v,fun n enough => ?_,ended⟩
        obtain ⟨m,rfl⟩ := Nat.exists_eq_add_of_le' (Nat.le_of_add_left_le enough)
        rw [fastForward_advanced m next advanced,bind_ok (worked _ (by omega))]
        exact same m (by omega)

/-- The run that is reported is the one that has been tried. -/
theorem runId_execute (outside : Outside κ) (config : EngineConfig) (d : Definition) (k : κ) (clock : Instant) (input : Json) (id? : Option String) :
    let launched := Execution.execute (backend outside) config d input id? (putAutomation d (Engine.start k clock))
    runId launched.1 launched.2 = nameFor id? (Engine.start k clock) := by
  intro launched
  obtain ⟨added,extended,r,recorded,-⟩ := execute_launched outside config d input id? (putAutomation d (Engine.start k clock))
  have only : ∀ r ∈ launched.2.records, r.executionId = nameFor id? (Engine.start k clock) := by
    intro r member
    by_contra other
    have absent : launched.2.record? r.executionId = none := extended.records _ other
    exact absurd (List.find?_eq_none.mp absent r member) (by simp)
  unfold runId
  cases ended : launched.1 with
  | ok name =>
    rw [show launched = _ from execute_apply d input id? _,bind_apply] at ended
    revert ended
    rcases carryOut (backend outside) config d _ id? _ _ with ⟨_ | _,_⟩ <;> rintro ⟨⟩
    rfl
  | error _ =>
    dsimp only
    cases records : launched.2.records with
    | nil =>
      have absent : launched.2.record? (openingContext d input id? (putAutomation d (Engine.start k clock))).executionId = none := by
        rw [record?,records,List.find?_nil]
      cases absent.symm.trans recorded
    | cons r rest => exact only r (records ▸ List.mem_cons_self ..)

/-- Fast-forwarding a run of a validated automation ends, unless the calendar does not go as far: with enough rounds the loop stops by
itself. All jobs are completed then, and the run has come to an end. -/
theorem fast_forward_drains (valid : Validation.validate d.nodes = .ok order) {clock : Instant} (proper : clock.Proper) (outside : Outside κ)
    (config : EngineConfig) (k : κ) (input : Json) (id? : Option String) :
    let launched := Execution.execute (backend outside) config d input id? (putAutomation d (Engine.start k clock))
    launched.1 ≠ .error .overflow → ∃ rounds ended final, (∀ n ≥ rounds, fastForward outside config n launched.2 = (ended,final)) ∧
      (ended ≠ .error .overflow → ended = .ok () ∧ (∀ e ∈ final.queue.entries, e.slot = .completed) ∧
        ∃ r, final.record? (runId launched.1 launched.2) = some r ∧ r.status.isFinal = true) := by
  intro launched finished
  have ordered := WellOrdered.of_validate valid
  have underway := Underway.of_execute proper ordered outside config input id? finished
  obtain ⟨rounds,ended,final,same,outcome⟩ := fastForward_ends ordered outside config underway
  refine ⟨rounds,ended,final,same,fun inside => ?_⟩
  obtain overflow | ⟨rfl,last,none_⟩ := outcome
  · exact absurd overflow inside
  have completed : ∀ e ∈ final.queue.entries, e.slot = .completed :=
    fun e member => ((last.headed e member).slot).resolve_left (none_ e member)
  obtain ⟨r,found,begun⟩ := last.begun
  refine ⟨rfl,completed,r,(runId_execute outside config d k clock input id?) ▸ found,?_⟩
  have waiting : r.status ≠ .waiting := by
    intro waiting
    obtain ⟨e,member,live,-⟩ := last.suspended _ r found waiting
    rw [QueueEntry.isLive,completed e member] at live
    cases live
  cases status : r.status with
  | running => exact absurd status begun
  | waiting => exact absurd status waiting
  | _ => rfl

/-- A loop over a single job: the clock moves to it, it is delivered, and nothing else comes up. -/
theorem fastForward_single {outside : Outside κ} {config : EngineConfig} {due : Instant} {s t u v : Engine κ} (outcome : JobOutcome) (n : Nat)
    (next : nextDue? s.queue = some due)
    (advanced : onQueue (DelayQueue.advance (due.nanos - s.queue.now.nanos).toNat) s = (.ok (),t))
    (delivered : workOnce outside config .standard t = (.ok (some outcome),u)) (idle : workOnce outside config .standard u = (.ok none,v))
    (last : nextDue? v.queue = none) : fastForward outside config (n + 2) s = (.ok (),v) := by
  rw [fastForward_advanced _ next advanced,bind_apply,workOff_succ,delivered]
  dsimp only
  rw [workOff_succ,idle]
  dsimp only
  rw [fastForward_succ,last]

/-- The run of the one delay, as it is left to the loop. -/
def pausedRun : Except (Failure EngineFault) String × Engine Unit :=
  Execution.execute (backend silent) standard pausing .null (some "run") (putAutomation pausing (Engine.start () ⟨0,false⟩))

theorem pausedRun_forwarded (n : Nat) : (fastForward silent standard (n + 2) pausedRun.2).1 = .ok () := by
  have whole {α : Type} {x : α × Engine Unit} {a : α} (result : x.1 = a) : x = (a,x.2) := Prod.ext result rfl
  have next : nextDue? pausedRun.2.queue = some ⟨0,false⟩ := by decide +kernel
  exact congrArg Prod.fst (fastForward_single .completed n next (whole (by decide +kernel)) (whole (by decide +kernel))
    (whole (by decide +kernel)) (by decide +kernel))

theorem pausing_drains : ∃ rounds final, (∀ n ≥ rounds, fastForward silent standard n pausedRun.2 = (.ok (),final)) ∧
    (∀ e ∈ final.queue.entries, e.slot = .completed) ∧ ∃ r, final.record? (runId pausedRun.1 pausedRun.2) = some r ∧ r.status.isFinal = true := by
  have proper : (⟨0,false⟩ : Instant).Proper := ⟨by decide,nofun⟩
  have finished : pausedRun.1 ≠ .error .overflow := by decide +kernel
  obtain ⟨rounds,ended,final,same,drained⟩ := fast_forward_drains pausing_validated proper silent standard () .null (some "run") finished
  have result : ended = .ok () := (congrArg Prod.fst (same (rounds + 2) (Nat.le_add_right ..))).symm.trans (pausedRun_forwarded rounds)
  obtain ⟨rfl,completed,recorded⟩ := drained (by simp [result])
  exact ⟨rounds,final,same,completed,recorded⟩

end Flowgraph.CommandLine
