import Flowgraph.Proofs.Engine.History
import Flowgraph.Proofs.Engine.Integrity

/-! The jobs that descend from a run: those that it has scheduled itself, and those scheduled when one of them was
taken up. Where the automation has been validated, each of their payloads leads on within the order of its nodes. -/

namespace Flowgraph.Engine
open EngineFault (Harmless)

variable {κ : Type} {outside : Outside κ} {config : EngineConfig} {s s' : Engine κ} {d : Definition} {order : List String}

/-- The entries of the queue before and after some steps: the old ones with their ids and payloads, then new ones. -/
structure Grown (s s' : Engine κ) (kept added : List QueueEntry) : Prop where
  entries : s'.queue.entries = kept ++ added
  length : kept.length = s.queue.entries.length
  same : ∀ e ∈ kept, ∃ old ∈ s.queue.entries, e.job.id = old.job.id ∧ e.job.payload = old.job.payload
  follows : s.queue.Follows added

theorem Extended.grown {nodes : List Node} {c : Context} {added : List QueueEntry} (extended : Extended nodes c s s' added) :
    Grown s s' s.queue.entries added :=
  ⟨by rw [extended.queue],rfl,fun e member => ⟨e,member,rfl,rfl⟩,extended.follows⟩

theorem Delivery.grown {worker : WorkerConfig} {e last : QueueEntry} {k : Continuation} {added : List QueueEntry}
    (delivery : Delivery outside config worker s e last k added) :
    Grown s (workOnce outside config worker s).2 (replaced e.job.id last s).queue.entries added := by
  have length : (replaced e.job.id last s).queue.entries.length = s.queue.entries.length := List.length_map _
  refine ⟨by rw [delivery.extended.queue],length,?_,?_⟩
  · intro x inside
    obtain ⟨old,was,shape⟩ := DelayQueue.mem_update.mp inside
    subst shape
    split
    · exact ⟨e,delivery.member,delivery.id,delivery.payload⟩
    · exact ⟨old,was,rfl,rfl⟩
  · have follows := delivery.extended.follows
    unfold DelayQueue.Follows at follows ⊢
    rw [follows,length]

theorem Event.grown (outside : Outside κ) (config : EngineConfig) (sound : Sound s) (event : Event) : ∃ kept added, Grown s (event.apply outside config s) kept added := by
  have nothing {t : Engine κ} (entries : t.queue.entries = s.queue.entries) : Grown s t s.queue.entries [] :=
    ⟨by rw [entries,List.append_nil],rfl,fun e member => ⟨e,member,rfl,rfl⟩,.nil _⟩
  cases event with
  | execute d input id? =>
    obtain ⟨added,extended,-⟩ := execute_launched outside config d input id? s
    exact ⟨_,added,extended.grown⟩
  | work worker =>
    obtain ⟨idle,-⟩ | ⟨e,last,k,added,delivery,-⟩ := sound.workOnce_cases outside config worker
    · exact ⟨_,_,nothing (by rw [Event.apply,idle])⟩
    · exact ⟨_,added,delivery.grown⟩
  | put d => exact ⟨_,_,nothing rfl⟩
  | remove id => exact ⟨_,_,nothing rfl⟩
  | advance by_ =>
    obtain ⟨now,state⟩ := Event.apply_advance outside config by_ s
    exact ⟨_,_,nothing (by rw [state])⟩
  | tick now => exact ⟨_,_,nothing rfl⟩

def scheduled (s s' : Engine κ) : List JobId := (s'.queue.entries.drop s.queue.entries.length).map (·.job.id)

theorem Grown.scheduled {kept added : List QueueEntry} (grown : Grown s s' kept added) : scheduled s s' = added.map (·.job.id) := by
  rw [Engine.scheduled,grown.entries,← grown.length,List.drop_left]

/-- The job that an event takes up. -/
def Event.job? (s : Engine κ) : Event → Option JobId
  | work worker => match (DelayQueue.claim worker.lease s.queue).1 with
    | .ok job? => job?.map (·.id)
    | .error _ => none
  | _ => none

def Stored (d : Definition) (s : Engine κ) : Prop := s.automations.find? (·.id == d.id) = some d

/-- A state after a run of an automation, and the jobs that descend from the run so far. The automation is as it was whenever
one of them is taken up; all else may happen in between. -/
inductive Lineage (outside : Outside κ) (config : EngineConfig) (d : Definition) : Engine κ → List JobId → Prop where
  | run {past s} (history : History outside config (fun _ _ => True) past s) (input : Json) (id? : Option String) :
    Lineage outside config d (Event.apply outside config s (.execute d input id?))
      (scheduled s (Event.apply outside config s (.execute d input id?)))
  | step {s ids} {event : Event} (lineage : Lineage outside config d s ids) (possible : event.Possible)
    (stored : ∀ id ∈ ids, event.job? s = some id → Stored d s) :
    Lineage outside config d (event.apply outside config s)
      (ids ++ if ∃ id ∈ ids, event.job? s = some id then scheduled s (event.apply outside config s) else [])

/-- A continuation that belongs to an automation and leads on within an order of its ids. -/
structure LeadsOn (d : Definition) (order : List String) (k : Continuation) : Prop where
  automation : k.automationId = d.id
  context : k.context.automationId = d.id
  ordered : WellOrdered k.nodes order
  next : ∀ id ∈ k.next, id ∈ order

theorem LeadsOn.nodesFor (config : EngineConfig) {k : Continuation} (leads : LeadsOn d order k) (valid : WellOrdered d.nodes order) (stored : Stored d s) :
    ∃ nodes, nodesFor config k.automationId k.nodes s = some nodes ∧ WellOrdered nodes order := by
  unfold Engine.nodesFor
  split
  · exact ⟨_,rfl,leads.ordered⟩
  · refine ⟨d.nodes,?_,valid⟩
    rw [leads.automation,stored]
    rfl

theorem leadsOn_of_leftBy {c : Context} {nodes : List Node} {e : QueueEntry} (ordered : WellOrdered nodes order) (left : e.LeftBy c nodes)
    (proper : c.startedAt.Proper) (same : c.automationId = d.id) :
    ∃ k, Continuation.decoder .direct e.job.payload = .ok k ∧ LeadsOn d order k := by
  obtain ⟨c',node,minutes,run,member,kind,decoded⟩ := left.decoder_payload proper
  have automation : c'.automationId = d.id := run.automationId.trans same
  refine ⟨_,decoded,automation,automation,ordered.canonical,fun id known => ?_⟩
  have successors : node.successors = node.next := by simp [Node.successors,kind]
  exact (ordered.forward node member id (successors ▸ known)).1

/-- The jobs of a lineage are in the queue, with payloads that lead on. -/
structure Guarded (d : Definition) (order : List String) (s : Engine κ) (ids : List JobId) : Prop where
  early : ∀ id ∈ ids, id.number ≤ s.queue.entries.length
  leads : ∀ e ∈ s.queue.entries, e.job.id ∈ ids → ∃ k, Continuation.decoder .direct e.job.payload = .ok k ∧ LeadsOn d order k

namespace Guarded

variable {ids : List JobId} {kept added : List QueueEntry}

theorem keep (guarded : Guarded d order s ids) (grown : Grown s s' kept added) : Guarded d order s' ids where
  early id known := by
    rw [grown.entries,List.length_append,grown.length]
    exact Nat.le_add_right_of_le (guarded.early id known)
  leads e member known := by
    rw [grown.entries] at member
    obtain old | new := List.mem_append.mp member
    · obtain ⟨before,was,id,payload⟩ := grown.same e old
      rw [payload]
      exact guarded.leads before was (id ▸ known)
    · have late := grown.follows.lt_number new
      have early := guarded.early e.job.id known
      omega

theorem grow (sound : Sound s) (guarded : Guarded d order s ids) (grown : Grown s s' kept added)
    (leads : ∀ e ∈ added, ∃ k, Continuation.decoder .direct e.job.payload = .ok k ∧ LeadsOn d order k) :
    Guarded d order s' (ids ++ scheduled s s') := by
  have kept := guarded.keep grown
  rw [grown.scheduled]
  refine ⟨fun id known => ?_,fun e member known => ?_⟩
  · obtain old | new := List.mem_append.mp known
    · exact kept.early id old
    · obtain ⟨e,inside,rfl⟩ := List.mem_map.mp new
      have total : e.job.id.number ∈ added.map (·.job.id.number) := List.mem_map_of_mem inside
      rw [grown.follows] at total
      have bounds := List.mem_range'_1.mp total
      rw [grown.entries,List.length_append,grown.length]
      omega
  · obtain old | new := List.mem_append.mp known
    · exact kept.leads e member old
    · rw [grown.entries] at member
      obtain early | late := List.mem_append.mp member
      · obtain ⟨before,was,id,-⟩ := grown.same e early
        obtain ⟨other,inside,same⟩ := List.mem_map.mp new
        have first := sound.numbered.le_length was
        have second := grown.follows.lt_number inside
        rw [same,id] at second
        omega
      · exact leads e late

theorem lineage (valid : WellOrdered d.nodes order) (lineage : Lineage outside config d s ids) : Sound s ∧ Guarded d order s ids := by
  induction lineage with
  | @run past s history input id? =>
    have sound := Sound.history history
    obtain ⟨added,extended,-⟩ := execute_launched outside config d input id? s
    have none : Guarded d order s [] := ⟨fun _ known => absurd known List.not_mem_nil,fun _ _ known => absurd known List.not_mem_nil⟩
    exact ⟨sound.apply _ trivial,none.grow sound extended.grown fun e new => leadsOn_of_leftBy valid (extended.left e new) sound.clock rfl⟩
  | @step s ids event lineage possible stored ih =>
    obtain ⟨sound,guarded⟩ := ih
    refine ⟨sound.apply event possible,?_⟩
    split
    · next taken =>
      obtain ⟨id,known,job⟩ := taken
      cases event with
      | work worker =>
        obtain ⟨-,idle⟩ | ⟨e,last,k,added,delivery,-,proper,-⟩ := sound.workOnce_cases outside config worker
        · rw [Event.job?,idle] at job
          cases job
        · rw [Event.job?,delivery.claimed] at job
          cases job
          obtain ⟨k',decoded,leads⟩ := guarded.leads e delivery.member known
          cases delivery.decoded.symm.trans decoded
          obtain ⟨nodes,found,ordered⟩ := leads.nodesFor config valid (stored _ known (by rw [Event.job?,delivery.claimed]; rfl))
          have extended := delivery.extended
          rw [found] at extended
          exact guarded.grow sound delivery.grown fun new inside =>
            leadsOn_of_leftBy ordered (extended.left new inside) proper leads.context
      | _ => cases job
    · rw [List.append_nil]
      obtain ⟨kept,added,grown⟩ := Event.grown outside config sound event
      exact guarded.keep grown

end Guarded

theorem resume_raises {k : Continuation} {fault : EngineFault} (valid : WellOrdered d.nodes order) (leads : LeadsOn d order k)
    (stored : Stored d s) (failed : (Execution.resume (backend outside) config k s).1 = .error (.cause fault)) :
    Harmless order.length (config.maxDepth + 1) fault := by
  obtain ⟨nodes,found,ordered⟩ := leads.nodesFor config valid stored
  unfold Execution.resume at failed
  rw [Act.bind_apply,Act.attempt,resumeNodes_apply,found] at failed
  dsimp only at failed
  split at failed
  · exact Execution.onContext_raises Execution.store_raises _ s fault failed
  · exact Execution.onContext_raises (Execution.continueAll_raises ordered leads.next) _ s fault failed

/-- Neither a run of a validated automation nor any run of a job that descends from it fails because the graph is not as it
should be, and with room for every node none goes too deep. -/
theorem validated_run_harmless (valid : Validation.validate d.nodes = .ok order) :
    (∀ s input id? fault, (Execution.execute (backend outside) config d input id? s).1 = .error (.cause fault) →
      Harmless d.nodes.length (config.maxDepth + 1) fault) ∧
    ∀ s ids, Lineage outside config d s ids → ∀ e ∈ s.queue.entries, e.job.id ∈ ids →
      ∃ k, Continuation.decoder .direct e.job.payload = .ok k ∧ ∀ t fault, Stored d t →
        (Execution.resume (backend outside) config k t).1 = .error (.cause fault) → Harmless d.nodes.length (config.maxDepth + 1) fault := by
  have ordered := WellOrdered.of_validate valid
  have length : order.length = d.nodes.length := by rw [(Validation.validate_order valid).1.length_eq,List.length_map]
  obtain ⟨runnable,-⟩ := Validation.conditions_of_validate valid
  rw [← length]
  refine ⟨fun s input id? fault failed => Execution.execute_raises ordered runnable input id? s fault failed,?_⟩
  intro s ids lineage e member known
  obtain ⟨k,decoded,leads⟩ := (Guarded.lineage ordered lineage).2.leads e member known
  exact ⟨k,decoded,fun t fault stored failed => resume_raises ordered leads stored failed⟩

theorem pausing_validated : Validation.validate pausing.nodes = .ok ["start","pause"] := by decide +kernel

/-- The job of the one delay can be taken up as soon as it is there. -/
theorem paused_run_harmless :
    let s := Event.apply silent standard (after [.put pausing]) (.execute pausing .null (some "run"))
    Stored pausing s ∧ ∃ e ∈ s.queue.entries, ∃ k, Continuation.decoder .direct e.job.payload = .ok k ∧ ∀ fault,
      (Execution.resume (backend silent) standard k s).1 = .error (.cause fault) → Harmless pausing.nodes.length (standard.maxDepth + 1) fault := by
  obtain ⟨_,extended,-⟩ := execute_launched silent standard pausing .null (some "run") (after [.put pausing])
  have stored : Stored pausing (Event.apply silent standard (after [.put pausing]) (.execute pausing .null (some "run"))) := by
    rw [Stored,Event.apply,extended.automations]
    rfl
  have one : ∃ e ∈ (Event.apply silent standard (after [.put pausing]) (.execute pausing .null (some "run"))).queue.entries,
      e.job.id ∈ scheduled (after [.put pausing]) (Event.apply silent standard (after [.put pausing]) (.execute pausing .null (some "run"))) := by
    decide +kernel
  obtain ⟨e,member,known⟩ := one
  have lineage := Lineage.run (d := pausing) (History.after [.put pausing] (by simp [Event.Possible]) fun _ _ => trivial) .null (some "run")
  obtain ⟨k,decoded,harmless⟩ := (validated_run_harmless pausing_validated).2 _ _ lineage e member known
  exact ⟨stored,e,member,k,decoded,fun fault failed => harmless _ fault stored failed⟩

end Flowgraph.Engine
