import Flowgraph.Proofs.Engine.Alongside

/-! The loop that takes a run up at each of its ids, storing it in between, beside the loop of a walk over the same ids. -/

namespace Flowgraph.Engine
open Act Execution

variable {κ : Type} {outside : Outside κ} {config : EngineConfig} {nodes : List Node} {name : String} {before after : List LogEntry} {now now' : Instant}

/-- The record of a run has all of its trace, and its data as output. -/
def StoredRun (p : Context × List Use × Engine κ) : Prop :=
  ∃ r, p.2.2.record? p.1.executionId = some r ∧ r.output = some p.1.data ∧ p.1.logs = []

theorem Alongside.persist {c : Context} {uses : List Use} {s : Engine κ} {q : Context × List Use × Engine κ}
    (along : Alongside name before after now now' (c,uses,s) q) (outside : Outside κ) (update : Context → Instant → RunUpdate)
    (logs : (update c s.clock).logs = c.logs) (output : (update c s.clock).output = some c.data) :
    ∃ p, Execution.persist (backend outside).noted update (c,uses,s) = (.ok (),p) ∧ Alongside name before after now now' p q ∧ StoredRun p := by
  obtain ⟨named,run,data,same,equal,clock,clock',r,xs,ys,found,whole,logs',entries⟩ := along
  have found : s.record? c.executionId = some r := named ▸ found
  have recorded : (s.record? c.executionId).isSome = true := Option.isSome_iff_exists.mpr ⟨r,found⟩
  refine ⟨(c.fork,uses,updated c.executionId (update c s.clock) s),?_,?_,?_⟩
  · change (match Execution.persist (backend outside) update (c,s) with
      | (result,c,s) => (result,c,uses,s)) = _
    rw [persist_apply recorded]
  · have stored := record?_updated (u := update c s.clock) found
    refine ⟨named,⟨run.executionId,run.automationId,run.organizationId,run.startedAt⟩,data,same,equal,clock,clock',_,xs,ys,
      (congrArg (Engine.record? _) named.symm).trans stored,?_,logs',entries⟩
    change (r.logs ++ (update c s.clock).logs) ++ [] = _
    rw [List.append_nil,logs]
    exact whole
  · refine ⟨_,record?_updated found,?_,rfl⟩
    change ((update c s.clock).output <|> r.output) = _
    rw [output]
    rfl

theorem Alongside.finish {p q : Context × List Use × Engine κ} (along : Alongside name before after now now' p q) (outside : Outside κ)
    (status : Status) :
    ∃ p', Execution.finish (backend outside).noted status p = (.ok (),p') ∧ Alongside name before after now now' p' q ∧ StoredRun p' := by
  obtain ⟨c,uses,s⟩ := p
  obtain ⟨p',persisted,rest⟩ := along.persist outside (RunUpdate.finished status) rfl rfl
  refine ⟨p',?_,rest⟩
  rw [Execution.finish,mapFault,persisted]
  rfl

theorem Alongside.recordFailure {p q : Context × List Use × Engine κ} (along : Alongside name before after now now' p q) (outside : Outside κ)
    (fault : EngineFault) :
    ∃ p', (Execution.recordFailure (backend outside).noted fault : Walk _ α) p = (.error (.cause fault),p') ∧
      Alongside name before after now now' p' q ∧ StoredRun p' := by
  obtain ⟨c,uses,s⟩ := p
  obtain ⟨p',persisted,rest⟩ := along.persist outside (RunUpdate.failed fault.message) rfl rfl
  refine ⟨p',?_,rest⟩
  rw [Execution.recordFailure,bind_apply,attempt,persisted]
  rfl

/-- A failure is reported even where it cannot be recorded. -/
theorem recordFailure_result (outside : Outside κ) (fault : EngineFault) (p : Context × List Use × Engine κ) :
    ((recordFailure (backend outside).noted fault : Walk _ α) p).1 = .error (.cause fault) := by
  obtain ⟨c,uses,s⟩ := p
  have noError : (Execution.persist (backend outside).noted (RunUpdate.failed fault.message) (c,uses,s)).1 ≠ .error .overflow := by
    unfold Execution.persist
    change (Engine.update c.executionId _ s).1 ≠ _
    unfold Engine.update
    rw [bind_apply,get_apply]
    dsimp only
    split <;> nofun
  revert noError
  rw [Execution.recordFailure,bind_apply,attempt]
  rcases Execution.persist (backend outside).noted (RunUpdate.failed fault.message) (c,uses,s) with ⟨(e | _) | _,q⟩ <;> intro noError
  · rfl
  · exact absurd rfl noError
  · rfl

/-- How a run that is taken up at some ids comes out beside one that has walked on to them at once. -/
inductive Rejoined (t : Terrain (List Use × Engine κ)) (name : String) (before after : List LogEntry) (now now' : Instant) (origin : Node) (ids : List String) :
    Except (Failure EngineFault) Unit × Context × List Use × Engine κ →
    Except (Failure EngineFault) (List String) × Context × List Use × Engine κ → Prop where
  | done {p q jobs} (along : Alongside name before after now now' p q) (stored : StoredRun p) :
    Rejoined t name before after now now' origin ids (.ok (),p) (.ok jobs,q)
  | failed {p q} (fault : EngineFault) (along : Alongside name before after now now' p q) (stored : StoredRun p) :
    Rejoined t name before after now now' origin ids (.error (.cause fault),p) (.error (.cause fault),q)
  /-- Only the walk at once tells of an edge that leads nowhere. -/
  | dangling {p q id} (edge : id ∈ ids) (missing : Node.find? t.nodes id = none) (along : Alongside name before after now now' p q)
    (stored : StoredRun p) : Rejoined t name before after now now' origin ids (.error (.cause (.missingNode id)),p)
      (.error (.cause (.missingNode id)),(Walk.log t origin .error (EngineFault.missingNode id).message q).2)
  | overflow {p q} (along : Alongside name before after now now' p q) :
    Rejoined t name before after now now' origin ids (.error .overflow,p) (.error .overflow,q)
  | apart {x y} (lenient : now ≠ now') (beyond : x.1 = .error .overflow ∨ y.1 = .error .overflow) :
    Rejoined t name before after now now' origin ids x y
  | deep {x y} (deep : TooDeep x.1 ∨ TooDeep y.1) : Rejoined t name before after now now' origin ids x y

namespace Rejoined

variable {t : Terrain (List Use × Engine κ)} {origin : Node} {ids ids' : List String}

theorem mono {x : Except (Failure EngineFault) Unit × Context × List Use × Engine κ}
    {y : Except (Failure EngineFault) (List String) × Context × List Use × Engine κ}
    (rejoined : Rejoined t name before after now now' origin ids x y) (subset : ids ⊆ ids') : Rejoined t name before after now now' origin ids' x y := by
  cases rejoined with
  | done along stored => exact .done along stored
  | failed fault along stored => exact .failed fault along stored
  | dangling edge missing along stored => exact .dangling (subset edge) missing along stored
  | overflow along => exact .overflow along
  | apart lenient beyond => exact .apart lenient beyond
  | deep deep => exact .deep deep

/-- What is done with the jobs of a walk afterwards plays no part. -/
theorem map {x : Except (Failure EngineFault) Unit × Context × List Use × Engine κ} {act : Walk (List Use × Engine κ) (List String)}
    {q : Context × List Use × Engine κ} (rejoined : Rejoined t name before after now now' origin ids x (act q)) (f : List String → List String) :
    Rejoined t name before after now now' origin ids x ((act >>= fun jobs => pure (f jobs)) q) := by
  generalize result : act q = y at rejoined
  cases rejoined with
  | done along stored => rw [bind_ok result]; exact .done along stored
  | failed fault along stored => rw [bind_error result]; exact .failed fault along stored
  | dangling edge missing along stored => rw [bind_error result]; exact .dangling edge missing along stored
  | overflow along => rw [bind_error result]; exact .overflow along
  | apart lenient beyond => subst result; exact .apart lenient (beyond.imp id bind_fst)
  | deep deep => subst result; exact .deep (deep.imp id TooDeep.bind)

theorem bind {act : Walk (List Use × Engine κ) Unit} {act' : Walk (List Use × Engine κ) (List String)}
    {f : Unit → Walk (List Use × Engine κ) Unit} {f' : List String → Walk (List Use × Engine κ) (List String)}
    {p q : Context × List Use × Engine κ} (first : Rejoined t name before after now now' origin ids (act p) (act' q))
    (rest : ∀ jobs p q, Alongside name before after now now' p q → StoredRun p → Rejoined t name before after now now' origin ids (f () p) (f' jobs q)) :
    Rejoined t name before after now now' origin ids ((act >>= f) p) ((act' >>= f') q) := by
  generalize result : act p = x,result' : act' q = y at first
  cases first with
  | done along stored => rw [bind_ok result,bind_ok result']; exact rest _ _ _ along stored
  | failed fault along stored => rw [bind_error result,bind_error result']; exact .failed fault along stored
  | dangling edge missing along stored => rw [bind_error result,bind_error result']; exact .dangling edge missing along stored
  | overflow along => rw [bind_error result,bind_error result']; exact .overflow along
  | apart lenient beyond => subst result result'; exact .apart lenient (beyond.imp bind_fst bind_fst)
  | deep deep => subst result result'; exact .deep (deep.imp TooDeep.bind TooDeep.bind)

end Rejoined

theorem continueAt_rejoined {p q : Context × List Use × Engine κ} (along : Alongside name before after now now' p q) (outside : Outside κ)
    (config : EngineConfig) (nodes : List Node) (n : Nat) (origin node : Node) (ids : List String) :
    Rejoined (terrain (backend outside).noted config nodes) name before after now now' origin ids
      (continueAt (backend outside).noted config nodes node p) (Walk.visit (terrain (backend outside).noted config nodes) n node q) := by
  have abreast := (Alongside.tracks outside config nodes name before after now now').visit True (absurd trivial) (config.maxDepth + 1) n
    (absurd trivial) node along
  unfold continueAt walk
  rw [bind_apply,attempt]
  change Abreast _ _ _ _ (Walk.visit _ ((terrain (backend outside).noted config nodes).maxDepth + 1) node p) _ at abreast
  generalize Walk.visit (terrain (backend outside).noted config nodes) ((terrain (backend outside).noted config nodes).maxDepth + 1) node p = x,
    Walk.visit (terrain (backend outside).noted config nodes) n node q = y at abreast
  obtain ⟨-,⟨fault,failed,limit⟩ | deep⟩ | agree := abreast
  · obtain ⟨_,p⟩ := x
    cases failed
    exact .deep (.inl ⟨fault,recordFailure_result outside fault p,limit⟩)
  · exact .deep (.inr deep)
  · cases agree with
    | @ok jobs jobs' p q _ along =>
      obtain ⟨p',finished,along,stored⟩ := along.finish outside (.ofSuspended jobs)
      dsimp only
      rw [finished]
      exact .done along stored
    | @error p q e along =>
      cases e with
      | cause fault =>
        obtain ⟨p',failed,along,stored⟩ := along.recordFailure outside fault
        dsimp only
        rw [failed]
        exact .failed fault along stored
      | overflow => exact .overflow along
    | left lenient => exact .apart lenient (.inl rfl)
    | right lenient => exact .apart lenient (.inr rfl)

/-- Taking a run up at each of the ids comes out as the loop of the walk over them. -/
theorem continueAll_rejoined {p q : Context × List Use × Engine κ} (along : Alongside name before after now now' p q) (outside : Outside κ)
    (config : EngineConfig) (nodes : List Node) (n : Nat) (origin : Node) (ids : List String) (ready : ids = [] → StoredRun p) :
    Rejoined (terrain (backend outside).noted config nodes) name before after now now' origin ids
      (continueAll (backend outside).noted config nodes ids p)
      (Walk.follow (terrain (backend outside).noted config nodes) (Walk.visit (terrain (backend outside).noted config nodes) n) origin ids q) := by
  induction ids generalizing p q with
  | nil => exact .done along (ready rfl)
  | cons id rest ih =>
    unfold continueAll
    cases found : Node.find? nodes id with
    | none =>
      obtain ⟨p',failed,along,stored⟩ := along.recordFailure (α := Unit) outside (.missingNode id)
      rw [Walk.follow_missing found]
      dsimp only
      rw [failed]
      exact .dangling (List.mem_cons_self ..) found along stored
    | some node =>
      unfold Walk.follow
      rw [show Node.find? (terrain (backend outside).noted config nodes).nodes id = some node from found]
      refine (continueAt_rejoined along outside config nodes n origin node (id :: rest)).bind ?_
      intro jobs p q along stored
      exact ((ih along fun _ => stored).mono (List.subset_cons_self ..)).map (jobs ++ ·)

theorem Alongside.stored {p q : Context × List Use × Engine κ} (along : Alongside name before after now now' p q) (stored : StoredRun p) :
    ∃ r xs ys, p.2.2.record? name = some r ∧ r.output = some q.1.data ∧ r.logs = before ++ xs ∧ q.1.logs = after ++ ys ∧
      List.Forall₂ LogEntry.Alike xs ys := by
  obtain ⟨r,found,output,fresh⟩ := stored
  obtain ⟨r',xs,ys,found',logs,logs',alike⟩ := along.trace
  rw [along.name] at found
  cases found.symm.trans found'
  rw [fresh,List.append_nil] at logs
  exact ⟨r,xs,ys,found,output.trans (congrArg some along.data.symm),logs,logs',alike⟩

end Flowgraph.Engine
