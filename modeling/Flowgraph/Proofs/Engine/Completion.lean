import Flowgraph.Proofs.Engine.History

/-! Completed runs with suspended paths. The status that a delivery writes comes from its own walks alone, so a
run of several suspended paths is reported completed when one of them ends. This is all that goes wrong: a
history has no such run exactly if every delivery that completes a run was of the run's last job. -/

namespace Flowgraph.Engine

variable {κ : Type} {outside : Outside κ} {config : EngineConfig} {s s' : Engine κ}

/-- Nothing of a completed run is still suspended. -/
def Settled (s : Engine κ) : Prop :=
  ∀ id r, s.record? id = some r → r.status = .completed → ∀ e ∈ s.queue.entries, e.isLive = true → ¬e.Carries id

/-- Runs get ids that are not on record, and rounds of the worker come to an end. -/
def Orderly (outside : Outside κ) (config : EngineConfig) (s : Engine κ) : Event → Prop
  | .execute _ _ id? => s.record? (nameFor id? s) = none
  | .work worker => (workOnce outside config worker s).1 ≠ .error .overflow
  | _ => True

/-- A delivery that leaves its run completed has taken the only live job of the run, and has left none. -/
def ClosesLast (outside : Outside κ) (config : EngineConfig) (s : Engine κ) (event : Event) : Prop :=
  ∀ worker job k r, event = .work worker → (DelayQueue.claim worker.lease s.queue).1 = .ok (some job) →
    Continuation.decoder .direct job.payload = .ok k → (event.apply outside config s).record? k.executionId = some r → r.status = .completed →
    (event.apply outside config s).queue.entries.length = s.queue.entries.length ∧
      ∀ e ∈ s.queue.entries, e.isLive = true → e.Carries k.executionId → e.job.id = job.id

theorem ClosesLast.other {event : Event} (other : ∀ worker, event ≠ .work worker) : ClosesLast outside config s event :=
  fun worker _ _ _ same => absurd same (other worker)

namespace Settled

theorem start (k : κ) (clock : Instant) : Settled (Engine.start k clock) := by
  intro id r found
  simp [record?,Engine.start] at found

theorem execute (sound : Sound s) (before : Settled s) (d : Definition) (input : Json) (id? : Option String)
    (fresh : s.record? (nameFor id? s) = none) : Settled (Event.apply outside config s (.execute d input id?)) := by
  intro id r found completed e member live carries
  obtain ⟨added,extended,own,stored,-,none⟩ := execute_launched outside config d input id? s
  change e ∈ (Execution.execute (backend outside) config d input id? s).2.queue.entries at member
  rw [extended.queue] at member
  obtain old | new := List.mem_append.mp member
  · obtain ⟨k,decoded,-,-,recorded⟩ := sound.readable e old
    obtain rfl := carries.unique ⟨k,decoded,rfl⟩
    -- A new run has no entry from before, since the runs of all entries are on record.
    have other : k.executionId ≠ (openingContext d input id? s).executionId := by
      intro same
      rw [same] at recorded
      exact absurd (recorded.symm.trans (congrArg Option.isSome fresh)) (by decide)
    exact before _ r ((extended.records _ other).symm.trans found) completed e old live carries
  · have own := (extended.left e new).carries (show (openingContext d input id? s).startedAt.Proper from sound.clock)
    obtain rfl := carries.unique own
    cases stored.symm.trans found
    exact absurd new (none completed ▸ List.not_mem_nil)

end Settled

/-- Given that all was settled before, a finished round of the worker keeps it so exactly if it closes no run too early. -/
theorem settled_work_iff (sound : Sound s) (before : Settled s) (worker : WorkerConfig)
    (finished : (workOnce outside config worker s).1 ≠ .error .overflow) :
    Settled (Event.apply outside config s (.work worker)) ↔ ClosesLast outside config s (.work worker) := by
  obtain ⟨nothing,idle⟩ | ⟨e,last,k,added,delivery,same,proper,-⟩ := sound.workOnce_cases outside config worker
  · refine iff_of_true (by simpa only [Event.apply,nothing] using before) ?_
    rintro _ job k r ⟨⟩ claimed
    cases idle.symm.trans claimed
  have extended := delivery.extended
  have entries : (Event.apply outside config s (.work worker)).queue.entries = (replaced e.job.id last s).queue.entries ++ added := by
    rw [Event.apply,extended.queue]
  have leaves (new : QueueEntry) (inside : new ∈ added) : new.isLive = true ∧ new.Carries k.executionId :=
    ⟨(extended.left new inside).isLive,same ▸ (extended.left new inside).carries proper⟩
  have stays (other : QueueEntry) (was : other ∈ s.queue.entries) (apart : other.job.id ≠ e.job.id) :
      other ∈ (Event.apply outside config s (.work worker)).queue.entries :=
    entries ▸ List.mem_append_left _ (DelayQueue.mem_update.mpr ⟨other,was,(if_neg apart).symm⟩)
  constructor
  · rintro settled _ job k' r ⟨⟩ claimed decoded found completed
    cases delivery.claimed.symm.trans claimed
    cases delivery.decoded.symm.trans decoded
    constructor
    · have none : added = [] := List.eq_nil_iff_forall_not_mem.mpr fun new inside =>
        settled _ r found completed new (entries ▸ List.mem_append_right _ inside) (leaves new inside).1 (leaves new inside).2
      rw [entries,none,List.append_nil]
      exact List.length_map _
    · intro other was live carries
      by_contra apart
      exact settled _ r found completed other (stays other was apart) live carries
  · intro closes id r found completed other inside live carries
    rw [entries] at inside
    by_cases own : id = k.executionId
    · subst own
      obtain ⟨length,only⟩ := closes worker _ k r rfl delivery.claimed delivery.decoded found completed
      obtain ⟨overflow,-⟩ | ⟨r',stored,failed | ⟨answered,-⟩⟩ := delivery.answered
      · exact finished overflow
      · rw [same] at stored
        cases stored.symm.trans found
        exact absurd (failed.symm.trans completed) (by decide)
      · have none : added = [] := by
          rw [entries,List.length_append] at length
          have kept : (replaced e.job.id last s).queue.entries.length = s.queue.entries.length := List.length_map _
          exact List.length_eq_zero_iff.mp (by omega)
        rw [none,List.append_nil] at inside
        obtain ⟨old,was,shape⟩ := DelayQueue.mem_update.mp inside
        split at shape
        · rw [shape,QueueEntry.isLive,answered] at live
          cases live
        · next apart =>
          subst shape
          exact apart (only other was live carries)
    · have stored : s.record? id = some r := (extended.records id (fun clash => own (clash.trans same))).symm.trans found
      obtain old | new := List.mem_append.mp inside
      · obtain ⟨old,was,shape⟩ := DelayQueue.mem_update.mp old
        split at shape
        · subst shape
          exact own ((carries.unique (delivery.carries same)).trans same)
        · subst shape
          exact before id r stored completed other was live carries
      · exact own (carries.unique (leaves other new).2)

/-- In an orderly history nothing of a completed run is ever suspended exactly if every delivery that completed its run was
that of the run's last job. -/
theorem history_settled_iff {past : List (Engine κ × Event)} (history : History outside config (Orderly outside config) past s) :
    ((∀ at_ ∈ past, Settled at_.1) ∧ Settled s) ↔ ∀ at_ ∈ past, ClosesLast outside config at_.1 at_.2 := by
  induction history with
  | start k proper =>
    exact iff_of_true ⟨fun _ member => absurd member List.not_mem_nil,.start k _⟩ fun _ member => absurd member List.not_mem_nil
  | @step past s event history possible orderly ih =>
    have sound := Sound.history history
    have next (before : Settled s) : Settled (event.apply outside config s) ↔ ClosesLast outside config s event := by
      cases event with
      | work worker => exact settled_work_iff sound before worker orderly
      | execute d input id? => exact iff_of_true (before.execute sound d input id? orderly) (.other fun _ => Event.noConfusion)
      | put d => exact iff_of_true before (.other fun _ => Event.noConfusion)
      | remove id => exact iff_of_true before (.other fun _ => Event.noConfusion)
      | tick now => exact iff_of_true before (.other fun _ => Event.noConfusion)
      | advance by_ =>
        obtain ⟨now,state⟩ := Event.apply_advance outside config by_ s
        refine iff_of_true ?_ (.other fun _ => Event.noConfusion)
        rw [state]
        exact before
    rw [List.forall_mem_cons,List.forall_mem_cons]
    constructor
    · rintro ⟨⟨before,earlier⟩,now⟩
      exact ⟨(next before).mp now,ih.mp ⟨earlier,before⟩⟩
    · rintro ⟨closes,others⟩
      obtain ⟨earlier,before⟩ := ih.mpr others
      exact ⟨⟨before,earlier⟩,(next before).mpr closes⟩

/-- A run that is suspended once and then taken up, the first event last. -/
def takenUp (d : Definition) : List Event := [.work .standard,.execute d .null (some "run"),.put d]

theorem takenUp_possible (d : Definition) : ∀ event ∈ takenUp d, event.Possible := by simp [takenUp,Event.Possible]

theorem pausing_orderly : ∀ at_ ∈ met (takenUp pausing), Orderly silent standard at_.1 at_.2 := by
  simp only [takenUp,met,List.forall_mem_cons,Orderly]
  exact ⟨by decide +kernel,by decide +kernel,trivial,fun _ member => absurd member List.not_mem_nil⟩

theorem pausing_closesLast : ClosesLast silent standard (after [.execute pausing .null (some "run"),.put pausing]) (.work .standard) := by
  have length : (Event.apply silent standard (after [.execute pausing .null (some "run"),.put pausing]) (.work .standard)).queue.entries.length =
      (after [.execute pausing .null (some "run"),.put pausing]).queue.entries.length := by decide +kernel
  have single : ∀ e ∈ (after [.execute pausing .null (some "run"),.put pausing]).queue.entries, e.job.id = ⟨1⟩ := by decide +kernel
  have first : (DelayQueue.claim WorkerConfig.standard.lease (after [.execute pausing .null (some "run"),.put pausing]).queue).1.toOption.map
      (·.map (·.id)) = some (some ⟨1⟩) := by decide +kernel
  intro worker job k r same claimed _ _ _
  cases same
  have read := congrArg (fun result => result.toOption.map (·.map (·.id))) claimed
  exact ⟨length,fun e member _ _ => (single e member).trans (Option.some.inj (Option.some.inj (first.symm.trans read)))⟩

/-- With a single path there is nothing that a delivery could leave suspended. -/
theorem paused_run_stays_settled : Settled (after (takenUp pausing)) := by
  refine ((history_settled_iff (History.after (takenUp pausing) (takenUp_possible _) pausing_orderly)).mpr ?_).2
  simp only [takenUp,met,List.forall_mem_cons]
  exact ⟨pausing_closesLast,.other fun _ => Event.noConfusion,.other fun _ => Event.noConfusion,
    fun _ member => absurd member List.not_mem_nil⟩

/-- A trigger with two delays behind it, the second of which ends later. -/
def forking : Definition := ⟨.nil,.nil,"forking",true,
  [⟨"start",["left","right"],.trigger ⟨"crm","new",none⟩⟩,⟨"left",[],.delay 0⟩,⟨"right",[],.delay 5⟩],⟨0,false⟩,⟨0,false⟩⟩

theorem forking_orderly : ∀ at_ ∈ met (takenUp forking), Orderly silent standard at_.1 at_.2 := by
  simp only [takenUp,met,List.forall_mem_cons,Orderly]
  exact ⟨by decide +kernel,by decide +kernel,trivial,fun _ member => absurd member List.not_mem_nil⟩

/-- The first of two suspended paths ends and the run counts as completed, while the job of the second one is pending. -/
theorem completed_run_can_be_suspended : ¬∀ past s, History silent standard (Orderly silent standard) past s → Settled s := by
  intro always
  have settled := always _ _ (History.after (takenUp forking) (takenUp_possible _) forking_orderly)
  have completed : ((after (takenUp forking)).record? "run").map (·.status) = some .completed := by decide +kernel
  obtain ⟨r,found,status⟩ := Option.map_eq_some_iff.mp completed
  have suspended : ∃ e ∈ (after (takenUp forking)).queue.entries, e.isLive = true ∧ e.Carries "run" := by decide +kernel
  obtain ⟨e,member,live,carries⟩ := suspended
  exact settled "run" r found status e member live carries

end Flowgraph.Engine
