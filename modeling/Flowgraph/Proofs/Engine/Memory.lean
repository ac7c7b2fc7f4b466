import Flowgraph.Engine.Memory
import Flowgraph.Proofs.Engine.Walk
import Flowgraph.Proofs.Queue.Memory

/-! What a walk over the engine in memory changes: the outside, and the end of the queue, where the entries
of the suspended paths stand. Storing the outcome changes one record besides. -/

namespace Flowgraph
open Act

variable {κ : Type}

/-- A pending entry of a path that a run has suspended at one of the nodes. -/
structure QueueEntry.LeftBy (c : Context) (nodes : List Node) (e : QueueEntry) : Prop where
  pending : e.slot = .pending
  payload : ∃ d node minutes, c.SameRun d ∧ node ∈ nodes ∧ node.kind = .delay minutes ∧
    e.job.payload = (Continuation.ofSuspension (Action.suspension nodes node d)).json

theorem QueueEntry.LeftBy.of_sameRun {c d : Context} {nodes : List Node} {e : QueueEntry} (left : e.LeftBy d nodes) (same : c.SameRun d) :
    e.LeftBy c nodes := by
  obtain ⟨pending,other,node,minutes,run,rest⟩ := left
  exact ⟨pending,other,node,minutes,same.trans run,rest⟩

namespace Engine

section records

theorem executionId_of_record? {s : Engine κ} {name : String} {r : RunRecord} (found : s.record? name = some r) : r.executionId = name := by
  simpa using List.find?_some found

theorem record?_congr {s t : Engine κ} (same : t.records = s.records) (name : String) : t.record? name = s.record? name :=
  congrArg (List.find? _) same

/-- Changing records without their ids changes what is found, and nothing else. -/
theorem record?_map (s : Engine κ) (f : RunRecord → RunRecord) (name : String) (keeps : ∀ r, (f r).executionId = r.executionId) :
    ({ s with records := s.records.map f } : Engine κ).record? name = (s.record? name).map f := by
  unfold record?
  have same : ((·.executionId == name) ∘ f) = fun r : RunRecord => r.executionId == name := by
    funext r
    simp [keeps r]
  rw [List.find?_map,same]

theorem record?_applyTo (id name : String) (u : RunUpdate) (s : Engine κ) :
    ({ s with records := applyTo id u s.records } : Engine κ).record? name =
      if name = id then (s.record? name).map (·.apply u) else s.record? name := by
  unfold applyTo
  rw [record?_map s _ name fun r => by split <;> rfl]
  cases found : s.record? name with
  | none => simp
  | some r =>
    rw [Option.map_some,executionId_of_record? found]
    split <;> rfl

theorem record?_putRecord (r : RunRecord) (name : String) (s : Engine κ) :
    ({ s with records := putRecord r s.records } : Engine κ).record? name = if name = r.executionId then some r else s.record? name := by
  unfold putRecord
  split
  · next known =>
    rw [record?_map s _ name fun old => by split <;> simp [*]]
    split
    · next same =>
      obtain ⟨old,member,id⟩ := List.any_eq_true.mp known
      obtain ⟨first,found⟩ := Option.isSome_iff_exists.mp (List.find?_isSome (p := (·.executionId == r.executionId)).mpr ⟨old,member,id⟩)
      have here : s.record? name = some first := same ▸ found
      rw [here,Option.map_some,executionId_of_record? here,if_pos same]
    · next other =>
      cases found : s.record? name with
      | none => rfl
      | some old => rw [Option.map_some,executionId_of_record? found,if_neg other]
  · next unknown =>
    have absent : s.record? r.executionId = none := by
      simpa [record?] using unknown
    unfold record? at absent ⊢
    rw [List.find?_append]
    split
    · next same => simp [same,absent]
    · next other => simp [Ne.symm other]

theorem update_apply {id : String} {s : Engine κ} (u : RunUpdate) (recorded : (s.record? id).isSome = true) :
    update id u s = (.ok (),{ s with records := applyTo id u s.records }) := by
  unfold update
  rw [bind_apply,get_apply]
  dsimp only
  rw [if_pos recorded]
  rfl

end records

/-- The stores in memory with capabilities of any kind. -/
def equipped (caps : Capabilities (Engine κ)) : Backend (Engine κ) := ⟨caps,freshRunId,create,update,findAutomation⟩

/-- The time at which a path that is suspended now goes on, or the failure to suspend it. -/
def resumption (now : Instant) (minutes : Float) : Except (Failure NodeFault) Instant :=
  match Continuation.delay? minutes with
  | none => .error (.cause (.scheduling (s!"invalid delay of {Shortest.prose minutes} minute(s): " ++
      "cannot convert float seconds to Duration: value is either too big or NaN")))
  | some delay => (dueResult now delay).mapError (Failure.map fun e => .scheduling e.message)

theorem suspend_apply (outside : Outside κ) (minutes : Float) (x : Suspension) (s : Engine κ) :
    (capabilities outside).suspend minutes x s = match resumption s.queue.now minutes with
      | .ok runAt => (.ok s.queue.nextId.text,{ s with queue := s.queue.push (Continuation.ofSuspension x).json runAt })
      | .error e => (.error e,s) := by
  change Continuation.schedule queueOperations minutes x s = _
  unfold Continuation.schedule resumption
  cases Continuation.delay? minutes with
  | none => rfl
  | some delay =>
    dsimp only
    rw [bind_apply]
    simp only [mapFault,queueOperations,QueueOperations.zoom,zoom,DelayQueue.operations,DelayQueue.enqueue_apply]
    rcases dueResult s.queue.now delay with e | runAt <;> rfl

/-- Capabilities that tell the time of the engine and leave its records to it. -/
structure Aloof (caps : Capabilities (Engine κ)) : Prop where
  now : ∀ s, caps.now s = s.clock
  call : ∀ request s, (caps.call request s).2.records = s.records
  suspend : ∀ minutes left s, (caps.suspend minutes left s).2.records = s.records

theorem aloof_capabilities (outside : Outside κ) : Aloof (capabilities outside) where
  now _ := rfl
  call _ _ := rfl
  suspend minutes left s := by
    rw [suspend_apply]
    cases resumption s.queue.now minutes with
    | ok runAt => rfl
    | error e => rfl

/-- What is left of a state by one run: its record may differ, there are new entries, and the outside has moved on. -/
structure Extended (nodes : List Node) (c : Context) (s s' : Engine κ) (added : List QueueEntry) : Prop where
  queue : s'.queue = { s.queue with entries := s.queue.entries ++ added }
  left : ∀ e ∈ added, e.LeftBy c nodes
  follows : s.queue.Follows added
  records : ∀ id, id ≠ c.executionId → s'.record? id = s.record? id
  recorded : (s.record? c.executionId).isSome = true → (s'.record? c.executionId).isSome = true
  automations : s'.automations = s.automations
  clock : s'.clock = s.clock

namespace Extended

variable {nodes : List Node} {c : Context} {s s' s'' : Engine κ} {added more : List QueueEntry}

theorem refl (s : Engine κ) : Extended nodes c s s [] :=
  ⟨by simp,nofun,.nil _,fun _ _ => rfl,id,rfl,rfl⟩

theorem trans (first : Extended nodes c s s' added) (second : Extended nodes c s' s'' more) : Extended nodes c s s'' (added ++ more) where
  queue := by rw [second.queue,first.queue,List.append_assoc]
  left e member := (List.mem_append.mp member).elim (first.left e) (second.left e)
  follows := first.follows.append (first.queue ▸ second.follows)
  records id other := (second.records id other).trans (first.records id other)
  recorded := second.recorded ∘ first.recorded
  automations := second.automations.trans first.automations
  clock := second.clock.trans first.clock

theorem of_sameRun {d : Context} (extended : Extended nodes d s s' added) (same : c.SameRun d) : Extended nodes c s s' added where
  queue := extended.queue
  left e member := (extended.left e member).of_sameRun same
  follows := extended.follows
  records id other := extended.records id (same.executionId ▸ other)
  recorded := same.executionId ▸ extended.recorded
  automations := extended.automations
  clock := extended.clock

theorem applyTo (nodes : List Node) (c : Context) (s : Engine κ) (u : RunUpdate) :
    Extended nodes c s { s with records := Engine.applyTo c.executionId u s.records } [] where
  queue := by simp
  left := nofun
  follows := .nil _
  records id other := by rw [record?_applyTo,if_neg other]
  recorded found := by rw [record?_applyTo,if_pos rfl,Option.isSome_map]; exact found
  automations := rfl
  clock := rfl

end Extended

def jobTexts (added : List QueueEntry) : List String := added.map (·.job.id.text)

/-- The frame of a walk: the records stay, and the jobs are those of the new entries. -/
def Growth (nodes : List Node) (jobs : List String) (p q : Context × Engine κ) : Prop :=
  p.1.SameRun q.1 ∧ q.2.records = p.2.records ∧ ∃ added, Extended nodes p.1 p.2 q.2 added ∧ jobs = jobTexts added

theorem frame (outside : Outside κ) (config : EngineConfig) (nodes : List Node) :
    Frame (Execution.terrain (backend outside) config nodes) (Growth nodes) where
  refl p := ⟨.refl _,rfl,[],.refl _,rfl⟩
  trans := by
    rintro _ _ p q r ⟨same,records,added,first,rfl⟩ ⟨same',records',more,second,rfl⟩
    exact ⟨same.trans same',records'.trans records,added ++ more,first.trans (second.of_sameRun same),by simp [jobTexts]⟩
  context s same := ⟨same,rfl,[],.refl _,rfl⟩
  call call c s := by
    have untouched (k : κ) : Extended nodes c s { s with outside := k } [] := ⟨by simp,nofun,.nil _,fun _ _ => rfl,id,rfl,rfl⟩
    exact ⟨.refl _,rfl,[],untouched _,rfl⟩
  suspend := by
    intro node minutes c s member kind
    have run : c.SameRun (c.pausedAt node) := ⟨rfl,rfl,rfl,rfl⟩
    change Growth nodes (jobsOf ((capabilities outside).suspend minutes _ s).1) _ (_,((capabilities outside).suspend minutes _ s).2)
    rw [suspend_apply]
    cases resumption s.queue.now minutes with
    | error e => exact ⟨.refl _,rfl,[],.refl _,rfl⟩
    | ok runAt =>
      refine ⟨.refl _,rfl,[_],⟨rfl,?_,rfl,fun _ _ => rfl,id,rfl,rfl⟩,rfl⟩
      intro e inside
      rw [List.mem_singleton.mp inside]
      exact ⟨rfl,c,node,minutes,⟨rfl,rfl,rfl,rfl⟩,member,kind,rfl⟩

end Engine
end Flowgraph
