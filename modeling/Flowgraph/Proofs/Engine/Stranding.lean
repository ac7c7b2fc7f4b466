import Flowgraph.Proofs.Engine.History

/-! No suspended run is stranded. The last status of a run comes from the last walk over it, and a walk that
leaves the run waiting has left a live entry; an entry leaves the live slots only in a delivery, which writes
the status of its run anew. -/

namespace Flowgraph.Engine

variable {κ : Type} {outside : Outside κ} {config : EngineConfig} {s s' : Engine κ}

/-- For every waiting run there is a job that can still take it up. -/
def NoneStranded (s : Engine κ) : Prop :=
  ∀ id r, s.record? id = some r → r.status = .waiting → ∃ e ∈ s.queue.entries, e.isLive = true ∧ e.Carries id

namespace NoneStranded

theorem start (k : κ) (clock : Instant) : NoneStranded (Engine.start k clock) := by
  intro id r found
  simp [record?,Engine.start] at found

theorem execute (sound : Sound s) (before : NoneStranded s) (d : Definition) (input : Json) (id? : Option String) :
    NoneStranded (Event.apply outside config s (.execute d input id?)) := by
  intro id r found waiting
  obtain ⟨added,extended,own,stored,suspended,-⟩ := execute_launched outside config d input id? s
  by_cases same : id = (openingContext d input id? s).executionId
  · rw [same] at found
    cases stored.symm.trans found
    obtain ⟨e,rest,shape⟩ := List.exists_cons_of_ne_nil (suspended waiting)
    have new : e ∈ added := shape ▸ List.mem_cons_self ..
    refine ⟨e,?_,(extended.left e new).isLive,same ▸ (extended.left e new).carries sound.clock⟩
    exact extended.queue ▸ List.mem_append_right _ new
  · obtain ⟨e,member,live,carries⟩ := before id r ((extended.records id same).symm.trans found) waiting
    exact ⟨e,extended.queue ▸ List.mem_append_left _ member,live,carries⟩

theorem work (sound : Sound s) (before : NoneStranded s) (worker : WorkerConfig) :
    NoneStranded (Event.apply outside config s (.work worker)) := by
  obtain ⟨nothing,-⟩ | ⟨e,last,k,added,delivery,same,proper,-⟩ := sound.workOnce_cases outside config worker
  · simpa only [Event.apply,nothing] using before
  intro id r found waiting
  have extended := delivery.extended
  by_cases own : id = k.context.executionId
  · subst own
    obtain ⟨-,live⟩ | ⟨r',stored,failed | ⟨-,completed | ⟨-,some⟩⟩⟩ := delivery.answered
    · -- The round did not come to its end, so its own entry is still there.
      exact ⟨last,extended.mem_replaced ⟨e,delivery.member,rfl⟩,live,delivery.carries same⟩
    · cases stored.symm.trans found
      exact absurd (failed.symm.trans waiting) (by decide)
    · cases stored.symm.trans found
      exact absurd (completed.symm.trans waiting) (by decide)
    · obtain ⟨new,rest,shape⟩ := List.exists_cons_of_ne_nil some
      have inside : new ∈ added := shape ▸ List.mem_cons_self ..
      have left := extended.left new inside
      exact ⟨new,extended.queue ▸ List.mem_append_right _ inside,left.isLive,left.carries proper⟩
  · obtain ⟨other,was,live,carries⟩ := before id r ((extended.records id own).symm.trans found) waiting
    -- The entry that is delivered belongs to another run, so this one has stayed as it was.
    have apart : other.job.id ≠ e.job.id := by
      intro clash
      obtain rfl := sound.numbered.eq_of_id was delivery.member clash
      exact own ((carries.unique ⟨k,delivery.decoded,rfl⟩).trans same.symm)
    refine ⟨other,?_,live,carries⟩
    exact extended.queue ▸ List.mem_append_left _ (DelayQueue.mem_update.mpr ⟨other,was,(if_neg apart).symm⟩)

theorem apply (sound : Sound s) (before : NoneStranded s) (event : Event) : NoneStranded (event.apply outside config s) := by
  cases event with
  | execute d input id? => exact execute sound before d input id?
  | work worker => exact work sound before worker
  | put d => exact before
  | remove id => exact before
  | advance by_ =>
    obtain ⟨now,state⟩ := Event.apply_advance outside config by_ s
    rw [state]
    exact before
  | tick now => exact before

end NoneStranded

/-- Whatever has happened, a run that is on record as waiting has a live job that carries its id. -/
theorem waiting_run_has_live_job {past : List (Engine κ × Event)} (history : History outside config (fun _ _ => True) past s) :
    NoneStranded s := by
  have both : Sound s ∧ NoneStranded s := by
    induction history with
    | start k proper => exact ⟨.start k proper,.start k _⟩
    | step _ possible _ ih => exact ⟨ih.1.apply _ possible,ih.2.apply ih.1 _⟩
  exact both.2

theorem paused_run_has_live_job :
    let s := after [.execute pausing .null (some "run")]
    (s.record? "run").map (·.status) = some .waiting ∧ NoneStranded s :=
  ⟨by decide +kernel,waiting_run_has_live_job (History.after _ (by simp [Event.Possible]) fun _ _ => trivial)⟩

end Flowgraph.Engine
