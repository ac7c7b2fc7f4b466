import Flowgraph.Proofs.Engine.Notes
import Flowgraph.Proofs.Engine.Resume

/-! A run that is taken up after a delay, alongside a run that walks on at once. The one stores its trace after
every walk, the other keeps it in its context; apart from this and the ids of new jobs they stay alike. -/

namespace Flowgraph
open Act

/-- Entries that differ at most in their times and in the job that a delay tells of. -/
def LogEntry.Alike (e e' : LogEntry) : Prop :=
  e.nodeId = e'.nodeId ∧ e.level = e'.level ∧ e.action = e'.action ∧ (e.message = e'.message ∨ e.action = "delay" ∧
    ∃ minutes job job', e.message = Action.pauseMessage minutes job ∧ e'.message = Action.pauseMessage minutes job')

namespace Engine
open Execution

variable {κ : Type}

/-- Two clocks on which a delay comes to the same, unless one of them is about to leave the calendar. -/
theorem resumption_cases (now now' : Instant) (minutes : Float) :
    (∃ runAt runAt', resumption now minutes = .ok runAt ∧ resumption now' minutes = .ok runAt') ∨
      (∃ e, resumption now minutes = .error e ∧ resumption now' minutes = .error e) ∨
      now ≠ now' ∧ (resumption now minutes = .error .overflow ∨ resumption now' minutes = .error .overflow) := by
  by_cases same : now = now'
  · subst same
    cases resumption now minutes with
    | ok runAt => exact .inl ⟨runAt,runAt,rfl,rfl⟩
    | error e => exact .inr (.inl ⟨e,rfl,rfl⟩)
  · unfold resumption dueResult
    cases Continuation.delay? minutes with
    | none => exact .inr (.inl ⟨_,rfl,rfl⟩)
    | some delay =>
      dsimp only
      split
      · exact .inr (.inl ⟨_,rfl,rfl⟩)
      · cases now.shift? delay with
        | none => exact .inr (.inr ⟨same,.inl rfl⟩)
        | some runAt =>
          cases now'.shift? delay with
          | none => exact .inr (.inr ⟨same,.inr rfl⟩)
          | some runAt' => exact .inl ⟨runAt,runAt',rfl,rfl⟩

/-- The run with its notes on the left has a record that began with the trace `before`, the one on the right had the
trace `after` to begin with. What has been added since is alike, and so is all else but the queues. -/
structure Alongside (id : String) (before after : List LogEntry) (now now' : Instant) (p q : Context × List Use × Engine κ) : Prop where
  name : p.1.executionId = id
  run : p.1.SameRun q.1
  data : q.1.data = p.1.data
  uses : q.2.1 = p.2.1
  outside : q.2.2.outside = p.2.2.outside
  clock : p.2.2.queue.now = now
  clock' : q.2.2.queue.now = now'
  trace : ∃ r xs ys, p.2.2.record? id = some r ∧ r.logs ++ p.1.logs = before ++ xs ∧ q.1.logs = after ++ ys ∧
    List.Forall₂ LogEntry.Alike xs ys

namespace Alongside

variable {id : String} {before after : List LogEntry} {now now' : Instant} {c d : Context} {uses uses' : List Use} {s t : Engine κ}

theorem append {e e' : LogEntry} (along : Alongside id before after now now' (c,uses,s) (d,uses',t)) (alike : e.Alike e') :
    Alongside id before after now now' (c.append e,uses,s) (d.append e',uses',t) := by
  obtain ⟨name,run,data,same,outside,clock,clock',r,xs,ys,found,logs,logs',entries⟩ := along
  refine ⟨name,⟨run.executionId,run.automationId,run.organizationId,run.startedAt⟩,data,same,outside,clock,clock',r,xs ++ [e],ys ++ [e'],found,?_,?_,?_⟩
  · change r.logs ++ (c.logs ++ [e]) = _
    rw [← List.append_assoc,logs,List.append_assoc]
  · change d.logs ++ [e'] = _
    rw [logs',List.append_assoc]
  · exact List.rel_append entries (.cons alike .nil)

theorem change (along : Alongside id before after now now' (c,uses,s) (d,uses',t)) (data : Json) :
    Alongside id before after now now' ({ c with data },uses,s) ({ d with data },uses',t) := by
  obtain ⟨name,run,-,same,outside,clock,clock',trace⟩ := along
  exact ⟨name,⟨run.executionId,run.automationId,run.organizationId,run.startedAt⟩,rfl,same,outside,clock,clock',trace⟩

theorem paused (along : Alongside id before after now now' (c,uses,s) (d,uses',t)) (node : Node) :
    Alongside id before after now now' (c.pausedAt node,uses,s) (d.pausedAt node,uses',t) := by
  obtain ⟨name,run,data,same,outside,clock,clock',trace⟩ := along
  exact ⟨name,⟨run.executionId,run.automationId,run.organizationId,run.startedAt⟩,data,same,outside,clock,clock',trace⟩

theorem noted (along : Alongside id before after now now' (c,uses,s) (d,uses',t)) (use : Use) :
    Alongside id before after now now' (c,uses ++ [use],s) (d,uses' ++ [use],t) := by
  obtain ⟨name,run,data,same,outside,clock,clock',trace⟩ := along
  exact ⟨name,run,data,congrArg (· ++ [use]) same,outside,clock,clock',trace⟩

theorem answered (along : Alongside id before after now now' (c,uses,s) (d,uses',t)) (k : κ) :
    Alongside id before after now now' (c,uses,{ s with outside := k }) (d,uses',{ t with outside := k }) := by
  obtain ⟨name,run,data,same,-,clock,clock',trace⟩ := along
  exact ⟨name,run,data,same,rfl,clock,clock',trace⟩

theorem push (along : Alongside id before after now now' (c,uses,s) (d,uses',t)) (payload : Json) (runAt runAt' : Instant) :
    Alongside id before after now now' (c,uses,{ s with queue := s.queue.push payload runAt }) (d,uses',{ t with queue := t.queue.push payload runAt' }) := by
  obtain ⟨name,run,data,same,outside,clock,clock',trace⟩ := along
  exact ⟨name,run,data,same,outside,clock,clock',trace⟩

theorem suspension (along : Alongside id before after now now' (c,uses,s) (d,uses',t)) (nodes : List Node) (node : Node) :
    Action.suspension nodes node d = Action.suspension nodes node c := by
  obtain ⟨-,run,data,-⟩ := along
  simp only [Action.suspension,Context.pausedAt,Context.snapshot]
  rw [run.executionId,run.automationId,run.organizationId,run.startedAt,data]

theorem coupling (outside : Outside κ) (id : String) (before after : List LogEntry) (now now' : Instant) :
    Coupling (capabilities outside).noted (capabilities outside).noted (now = now') (Alongside id before after now now') where
  data along := along.data.symm
  organization along := along.run.organizationId.symm
  log := by
    rintro c d ⟨uses,s⟩ ⟨uses',t⟩ nodeId level action message along
    exact along.append ⟨rfl,rfl,rfl,.inl rfl⟩
  change := by
    rintro c d ⟨uses,s⟩ ⟨uses',t⟩ data along
    exact along.change data
  call := by
    rintro ⟨c,uses,s⟩ ⟨d,uses',t⟩ request along
    have same : t.outside = s.outside := along.outside
    simp only [Step.outside,zoom,Capabilities.noted,noting,beside,capabilities,Outside.act]
    rw [same]
    rcases outside request s.outside with ⟨e | answer,k⟩
    · exact .error _ ((along.noted _).answered k)
    · exact .ok rfl ((along.noted _).answered k)

theorem delay (outside : Outside κ) {nodes : List Node} {node : Node} {minutes : Float} {p q : Context × List Use × Engine κ}
    (along : Alongside id before after now now' p q) :
    Agree (now = now') (Alongside id before after now now') (Flow.Alike fun _ _ => True)
      (Action.delay (capabilities outside).noted nodes node minutes p) (Action.delay (capabilities outside).noted nodes node minutes q) := by
  obtain ⟨c,uses,s⟩ := p
  obtain ⟨d,uses',t⟩ := q
  cases fit : Action.isLength minutes with
  | false =>
    rw [Action.delay_unfit fit,Action.delay_unfit fit]
    exact .error _ along
  | true =>
    have left := along.suspension nodes node
    have paused := along.paused node
    have clock : s.queue.now = now := along.clock
    have clock' : t.queue.now = now' := along.clock'
    rw [Action.delay_fit fit,Action.delay_fit fit]
    simp only [Capabilities.noted,noting,beside,zoom,suspend_apply,left,clock,clock']
    obtain ⟨runAt,runAt',first,second⟩ | ⟨e,first,second⟩ | ⟨lenient,first | second⟩ := resumption_cases now now' minutes
    · rw [first,second]
      exact .ok (.suspend trivial) (((paused.noted _).push _ runAt runAt').append ⟨rfl,rfl,rfl,.inr ⟨rfl,minutes,_,_,rfl,rfl⟩⟩)
    · rw [first,second]
      exact .error e (paused.noted _)
    · rw [first]
      exact .left lenient
    · rw [second]
      exact .right lenient

theorem tracks (outside : Outside κ) (config : EngineConfig) (nodes : List Node) (id : String) (before after : List LogEntry) (now now' : Instant) :
    Tracks (terrain (backend outside).noted config nodes) (terrain (backend outside).noted config nodes) (now = now') (fun _ _ => True)
      (Alongside id before after now now') where
  toCoupling := coupling outside id before after now now'
  nodes := rfl
  batchSize := rfl
  jobs _ := trivial
  delay _ along := along.delay outside

end Alongside
end Engine
end Flowgraph
