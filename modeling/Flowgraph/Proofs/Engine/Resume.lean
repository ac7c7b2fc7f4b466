import Flowgraph.Proofs.Engine.Memory

/-! How runs stand in memory after they have been taken up again. The status in the record is that of the last
walk: a waiting run has left a new entry in the queue, and a run that failed is marked so. -/

namespace Flowgraph.Engine
open Act Execution

variable {κ : Type} {outside : Outside κ} {config : EngineConfig} {nodes : List Node} {c : Context} {s : Engine κ}

/-- How the status of a run goes with the result of taking it up and the entries this has left. -/
def Standing (result : Except (Failure EngineFault) α) (status : Status) (added : List QueueEntry) : Prop :=
  match result with
  | .ok _ => status = .completed ∨ status = .waiting ∧ added ≠ []
  | .error (.cause _) => status = .failed
  | .error .overflow => True

theorem Standing.append {result : Except (Failure EngineFault) α} {status : Status} {more : List QueueEntry}
    (standing : Standing result status more) (added : List QueueEntry) : Standing result status (added ++ more) := by
  obtain (fault | _) | a := result
  · exact standing
  · trivial
  · exact standing.imp id (And.imp_right (List.append_ne_nil_of_right_ne_nil added))

/-- What taking up a run comes to: the state is extended, and the run is on record as it stands. -/
structure Outcome (nodes : List Node) (c : Context) (s s' : Engine κ) (result : Except (Failure EngineFault) α) (added : List QueueEntry) : Prop where
  extended : Extended nodes c s s' added
  standing : ∃ r, s'.record? c.executionId = some r ∧ Standing result r.status added

def updated (id : String) (u : RunUpdate) (s : Engine κ) : Engine κ := { s with records := applyTo id u s.records }

theorem record?_updated {id : String} {u : RunUpdate} {r : RunRecord} (found : s.record? id = some r) :
    (updated id u s).record? id = some (r.apply u) := by
  rw [updated,record?_applyTo,if_pos rfl,found,Option.map_some]

section equipped
variable {caps : Capabilities (Engine κ)}

theorem persist_equipped {update : Context → Instant → RunUpdate} (recorded : (s.record? c.executionId).isSome = true) :
    persist (equipped caps) update (c,s) = (.ok (),c.fork,updated c.executionId (update c (caps.now s)) s) := by
  unfold persist
  change (match Engine.update c.executionId (update c (caps.now s)) s with
    | (result,s) => (result,c.fork,s)) = _
  rw [update_apply _ recorded]
  rfl

theorem finish_equipped (status : Status) (recorded : (s.record? c.executionId).isSome = true) :
    finish (equipped caps) status (c,s) = (.ok (),c.fork,updated c.executionId (.finished status c (caps.now s)) s) := by
  unfold finish mapFault
  rw [persist_equipped recorded]
  rfl

theorem recordFailure_equipped (fault : EngineFault) (recorded : (s.record? c.executionId).isSome = true) :
    (recordFailure (equipped caps) fault : Walk (Engine κ) α) (c,s) =
      (.error (.cause fault),c.fork,updated c.executionId (.failed fault.message c (caps.now s)) s) := by
  unfold recordFailure
  rw [bind_apply,attempt,persist_equipped recorded]
  rfl

theorem store_equipped {id : String} (u : RunUpdate) (recorded : (s.record? id).isSome = true) :
    mapFault EngineFault.store ((equipped caps).update id u) s = (.ok (),updated id u s) := by
  change mapFault EngineFault.store (Engine.update id u) s = _
  rw [mapFault,update_apply u recorded]
  rfl

/-- A run that has been walked on is stored as the walk has ended. -/
theorem continueAt_equipped {node : Node} (same : (walk (terrain (equipped caps) config nodes) node (c,s)).2.1.executionId = c.executionId)
    (recorded : ((walk (terrain (equipped caps) config nodes) node (c,s)).2.2.record? c.executionId).isSome = true) :
    continueAt (equipped caps) config nodes node (c,s) = match walk (terrain (equipped caps) config nodes) node (c,s) with
      | (.ok jobs,d,t) => (.ok (),d.fork,updated c.executionId (.finished (.ofSuspended jobs) d (caps.now t)) t)
      | (.error (.cause fault),d,t) => (.error (.cause fault),d.fork,updated c.executionId (.failed fault.message d (caps.now t)) t)
      | (.error .overflow,d,t) => (.error .overflow,d,t) := by
  unfold continueAt
  rw [bind_apply,attempt]
  revert same recorded
  rcases walk (terrain (equipped caps) config nodes) node (c,s) with ⟨(fault | _) | jobs,d,t⟩ <;> intro same recorded
  · rw [← same] at recorded ⊢
    exact recordFailure_equipped fault recorded
  · rfl
  · rw [← same] at recorded ⊢
    exact finish_equipped _ recorded

/-- The walks of a run that is started are stored together. -/
theorem runTriggers_equipped
    (recorded : (((nodes.filter Node.isTrigger).mapM (branch (terrain (equipped caps) config nodes) c) s).2.record? c.executionId).isSome = true) :
    runTriggers (equipped caps) config nodes c s =
      match (nodes.filter Node.isTrigger).mapM (branch (terrain (equipped caps) config nodes) c) s with
        | (.error e,t) => (.error e,t)
        | (.ok branches,t) => match outcome branches with
          | .ok jobs => (.ok (),updated c.executionId (.finished (.ofSuspended jobs) (joined c branches) (caps.now t)) t)
          | .error fault => (.error (.cause fault),updated c.executionId (.failed fault.message (joined c branches) (caps.now t)) t) := by
  unfold runTriggers
  rw [bind_apply]
  revert recorded
  rcases (nodes.filter Node.isTrigger).mapM (branch (terrain (equipped caps) config nodes) c) s with ⟨e | branches,t⟩ <;> intro recorded
  · rfl
  · have known : (t.record? (joined c branches).executionId).isSome = true := recorded
    dsimp only
    cases outcome branches with
    | ok jobs =>
      simp only [onContext,finish_equipped _ known]
      rfl
    | error fault =>
      simp only [onContext,recordFailure_equipped _ known]
      rfl

end equipped

theorem persist_apply {update : Context → Instant → RunUpdate} (recorded : (s.record? c.executionId).isSome = true) :
    persist (backend outside) update (c,s) = (.ok (),c.fork,updated c.executionId (update c s.clock) s) := persist_equipped recorded

theorem finish_apply (status : Status) (recorded : (s.record? c.executionId).isSome = true) :
    finish (backend outside) status (c,s) = (.ok (),c.fork,updated c.executionId (.finished status c s.clock) s) :=
  finish_equipped status recorded

theorem recordFailure_apply (fault : EngineFault) (recorded : (s.record? c.executionId).isSome = true) :
    (recordFailure (backend outside) fault : Walk (Engine κ) α) (c,s) =
      (.error (.cause fault),c.fork,updated c.executionId (.failed fault.message c s.clock) s) := recordFailure_equipped fault recorded

theorem store_apply {id : String} (u : RunUpdate) (recorded : (s.record? id).isSome = true) :
    mapFault EngineFault.store ((backend outside).update id u) s = (.ok (),updated id u s) := store_equipped u recorded

theorem continueAt_apply {node : Node} (same : (walk (terrain (backend outside) config nodes) node (c,s)).2.1.executionId = c.executionId)
    (recorded : ((walk (terrain (backend outside) config nodes) node (c,s)).2.2.record? c.executionId).isSome = true) :
    continueAt (backend outside) config nodes node (c,s) = match walk (terrain (backend outside) config nodes) node (c,s) with
      | (.ok jobs,d,t) => (.ok (),d.fork,updated c.executionId (.finished (.ofSuspended jobs) d t.clock) t)
      | (.error (.cause fault),d,t) => (.error (.cause fault),d.fork,updated c.executionId (.failed fault.message d t.clock) t)
      | (.error .overflow,d,t) => (.error .overflow,d,t) := continueAt_equipped same recorded

theorem runTriggers_apply
    (recorded : (((nodes.filter Node.isTrigger).mapM (branch (terrain (backend outside) config nodes) c) s).2.record? c.executionId).isSome = true) :
    runTriggers (backend outside) config nodes c s =
      match (nodes.filter Node.isTrigger).mapM (branch (terrain (backend outside) config nodes) c) s with
        | (.error e,t) => (.error e,t)
        | (.ok branches,t) => match outcome branches with
          | .ok jobs => (.ok (),updated c.executionId (.finished (.ofSuspended jobs) (joined c branches) t.clock) t)
          | .error fault => (.error (.cause fault),updated c.executionId (.failed fault.message (joined c branches) t.clock) t) :=
  runTriggers_equipped recorded

theorem walk_growth (outside : Outside κ) (config : EngineConfig) (node : Node) (member : node ∈ nodes) (c : Context) (s : Engine κ) :
    ∃ jobs, Growth nodes jobs (c,s) (walk (terrain (backend outside) config nodes) node (c,s)).2 ∧
      ∀ xs, (walk (terrain (backend outside) config nodes) node (c,s)).1 = .ok xs → jobs = xs :=
  (frame outside config nodes).visit _ member (c,s)

theorem jobTexts_isEmpty (added : List QueueEntry) : (jobTexts added).isEmpty = true ↔ added = [] := by
  simp [jobTexts]

theorem standing_finished (added : List QueueEntry) :
    Standing (.ok () : Except (Failure EngineFault) Unit) (.ofSuspended (jobTexts added)) added := by
  unfold Status.ofSuspended
  split
  · exact .inl rfl
  · next some => exact .inr ⟨rfl,fun none => some ((jobTexts_isEmpty added).mpr none)⟩

theorem Outcome.store {t : Engine κ} {u : RunUpdate} {status : Status} {added : List QueueEntry}
    {result : Except (Failure EngineFault) α} (extended : Extended nodes c s t added)
    (recorded : (s.record? c.executionId).isSome = true) (written : u.status = some status) (standing : Standing result status added) :
    Outcome nodes c s (updated c.executionId u t) result added := by
  obtain ⟨r,found⟩ := Option.isSome_iff_exists.mp (extended.recorded recorded)
  refine ⟨?_,r.apply u,record?_updated found,?_⟩
  · have both := extended.trans (.applyTo nodes c t u)
    rw [List.append_nil] at both
    exact both
  · simpa [RunRecord.apply,written] using standing

theorem continueAt_outcome (outside : Outside κ) (config : EngineConfig) (node : Node) (member : node ∈ nodes) (recorded : (s.record? c.executionId).isSome = true) :
    let x := continueAt (backend outside) config nodes node (c,s)
    c.SameRun x.2.1 ∧ ∃ added, Outcome nodes c s x.2.2 x.1 added := by
  obtain ⟨jobs,⟨run,-,added,extended,rfl⟩,accounted⟩ := walk_growth outside config node member c s
  rw [continueAt_apply run.executionId (extended.recorded recorded)]
  revert run extended accounted
  rcases walk (terrain (backend outside) config nodes) node (c,s) with ⟨(fault | _) | jobs,d,t⟩ <;> intro run extended accounted
  · exact ⟨run.trans ⟨rfl,rfl,rfl,rfl⟩,added,.store extended recorded rfl rfl⟩
  · obtain ⟨r,found⟩ := Option.isSome_iff_exists.mp (extended.recorded recorded)
    exact ⟨run,added,extended,r,found,trivial⟩
  · obtain rfl := accounted jobs rfl
    exact ⟨run.trans ⟨rfl,rfl,rfl,rfl⟩,added,.store extended recorded rfl (standing_finished added)⟩

/-- The walks of a run at each of its ids; the last one that is stored tells how the run stands. -/
theorem continueAll_outcome {ids : List String} (some : ids ≠ []) (recorded : (s.record? c.executionId).isSome = true) :
    let x := continueAll (backend outside) config nodes ids (c,s)
    ∃ added, Outcome nodes c s x.2.2 x.1 added := by
  induction ids generalizing c s with
  | nil => exact absurd rfl some
  | cons id rest ih =>
    unfold continueAll
    cases found : Node.find? nodes id with
    | none =>
      dsimp only
      rw [recordFailure_apply _ recorded]
      exact ⟨[],.store (.refl s) recorded rfl rfl⟩
    | some node =>
      dsimp only
      obtain ⟨run,added,outcome⟩ := continueAt_outcome outside config node (List.mem_of_find?_eq_some found) recorded
      rw [bind_apply]
      revert run outcome
      rcases continueAt (backend outside) config nodes node (c,s) with ⟨e | _,d,t⟩ <;> intro run outcome
      · exact ⟨added,outcome.extended,outcome.standing⟩
      · cases rest with
        | nil => exact ⟨added,outcome⟩
        | cons next others =>
          have known : (t.record? d.executionId).isSome = true := run.executionId ▸ outcome.extended.recorded recorded
          obtain ⟨more,last⟩ := ih (List.cons_ne_nil _ _) known
          refine ⟨added ++ more,outcome.extended.trans (last.extended.of_sameRun run),?_⟩
          obtain ⟨r,stored,standing⟩ := last.standing
          exact ⟨r,run.executionId ▸ stored,standing.append added⟩

def nodesFor (config : EngineConfig) (automation : Uuid) (captured : List Node) (s : Engine κ) : Option (List Node) :=
  if config.resumeNodes = .captured && !captured.isEmpty then some captured
  else (s.automations.find? (·.id == automation)).map (·.nodes)

theorem resumeNodes_equipped (caps : Capabilities (Engine κ)) (automation : Uuid) (captured : List Node) :
    resumeNodes (equipped caps) config automation captured s = match nodesFor config automation captured s with
      | some nodes => (.ok nodes,s)
      | none => (.error (.cause (.automationNotFound automation)),s) := by
  unfold resumeNodes nodesFor
  split
  · rfl
  · have looked : mapFault EngineFault.store ((equipped caps).automation? automation) s =
        (.ok (s.automations.find? (·.id == automation)),s) := rfl
    rw [bind_apply,looked]
    cases s.automations.find? (·.id == automation) <;> rfl

theorem resumeNodes_apply (automation : Uuid) (captured : List Node) :
    resumeNodes (backend outside) config automation captured s = match nodesFor config automation captured s with
      | some nodes => (.ok nodes,s)
      | none => (.error (.cause (.automationNotFound automation)),s) := resumeNodes_equipped (capabilities outside) automation captured

theorem resume_outcome (outside : Outside κ) (config : EngineConfig) (k : Continuation) (recorded : (s.record? k.context.executionId).isSome = true) :
    let x := resume (backend outside) config k s
    ∃ added, Outcome ((nodesFor config k.automationId k.nodes s).getD []) (Context.restore k.context) s x.2 x.1 added := by
  have known : (s.record? (Context.restore k.context).executionId).isSome = true := recorded
  unfold resume
  dsimp only
  rw [bind_apply,attempt,resumeNodes_apply]
  cases nodesFor config k.automationId k.nodes s with
  | none =>
    simp only [onContext,recordFailure_apply _ known]
    exact ⟨[],.store (.refl s) known rfl rfl⟩
  | some nodes =>
    dsimp only [Option.getD_some]
    split
    · simp only [onContext,finish_apply _ known]
      exact ⟨[],.store (.refl s) known rfl (.inl rfl)⟩
    · next some =>
      exact continueAll_outcome (by simpa using some) known

end Flowgraph.Engine
