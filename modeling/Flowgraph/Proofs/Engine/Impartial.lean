import Flowgraph.Proofs.Engine.Alongside

/-! Capabilities that answer each request in one way, whatever has been asked before. A walk over them comes to the same from
every state, so that it does not matter what other walks of a run have done. -/

namespace Flowgraph.Engine
open Act Execution

variable {κ : Type}

/-- Answers to a suspension that differ at most in the name of the job. -/
def SameButJob (x y : Except (Failure NodeFault) String) : Prop :=
  (∃ job job', x = .ok job ∧ y = .ok job') ∨ ∃ e, x = .error e ∧ y = .error e

/-- In the states of a kind, the capabilities answer by the request alone, up to the names of jobs. They leave these states never
and the records alone, and the time is that of the engine. -/
structure Impartial (caps : Capabilities (Engine κ)) (stays : Engine κ → Prop) : Prop where
  now : ∀ s, caps.now s = s.clock
  call : ∀ request {s t}, stays s → stays t → (caps.call request s).1 = (caps.call request t).1
  suspend : ∀ minutes left {s t}, stays s → stays t → SameButJob (caps.suspend minutes left s).1 (caps.suspend minutes left t).1
  called : ∀ request {s}, stays s → stays (caps.call request s).2 ∧ (caps.call request s).2.records = s.records
  suspended : ∀ minutes left {s}, stays s → stays (caps.suspend minutes left s).2 ∧ (caps.suspend minutes left s).2.records = s.records

/-- The queue in memory tells its jobs apart by their names only, as long as its clock stands. -/
theorem impartial_capabilities {outside : Outside κ} (answers : ∀ request k k', (outside request k).1 = (outside request k').1) (now : Instant) :
    Impartial (capabilities outside) (·.queue.now = now) where
  now _ := rfl
  call request s t _ _ := by
    change (Outside.act outside request s.outside).1 = (Outside.act outside request t.outside).1
    simp only [Outside.act,answers request s.outside t.outside]
  suspend minutes left s t here there := by
    rw [suspend_apply,suspend_apply,here,there]
    cases resumption now minutes with
    | ok runAt => exact .inl ⟨_,_,rfl,rfl⟩
    | error e => exact .inr ⟨e,rfl,rfl⟩
  called request s here := ⟨here,rfl⟩
  suspended minutes left s here := by
    rw [suspend_apply]
    cases resumption s.queue.now minutes with
    | ok runAt => exact ⟨here,rfl⟩
    | error e => exact ⟨here,rfl⟩

/-- A walk within a run, after `used`, beside the same walk alone. They come from the same run and data, and from then on all
that they have left is alike. -/
structure Beside (stays : Engine κ → Prop) (used : List Use) (records : List RunRecord) (p q : Context × List Use × Engine κ) : Prop where
  run : p.1.SameRun q.1
  data : q.1.data = p.1.data
  trace : List.Forall₂ LogEntry.Alike p.1.logs q.1.logs
  uses : p.2.1 = used ++ q.2.1
  here : stays p.2.2
  there : stays q.2.2
  records : p.2.2.records = records

namespace Beside

variable {stays : Engine κ → Prop} {used uses uses' : List Use} {records : List RunRecord} {c d : Context} {s t s' t' : Engine κ}
  {caps : Capabilities (Engine κ)}

theorem append {e e' : LogEntry} (beside : Beside stays used records (c,uses,s) (d,uses',t)) (alike : e.Alike e') :
    Beside stays used records (c.append e,uses,s) (d.append e',uses',t) := by
  obtain ⟨run,data,trace,same,here,there,kept⟩ := beside
  exact ⟨⟨run.executionId,run.automationId,run.organizationId,run.startedAt⟩,data,List.rel_append trace (.cons alike .nil),same,here,there,kept⟩

theorem change (beside : Beside stays used records (c,uses,s) (d,uses',t)) (data : Json) :
    Beside stays used records ({ c with data },uses,s) ({ d with data },uses',t) := by
  obtain ⟨run,-,trace,same,here,there,kept⟩ := beside
  exact ⟨⟨run.executionId,run.automationId,run.organizationId,run.startedAt⟩,rfl,trace,same,here,there,kept⟩

theorem paused (beside : Beside stays used records (c,uses,s) (d,uses',t)) (node : Node) :
    Beside stays used records (c.pausedAt node,uses,s) (d.pausedAt node,uses',t) := by
  obtain ⟨run,data,trace,same,here,there,kept⟩ := beside
  exact ⟨⟨run.executionId,run.automationId,run.organizationId,run.startedAt⟩,data,trace,same,here,there,kept⟩

/-- Both have used the same and are in states that are left to them. -/
theorem noted (beside : Beside stays used records (c,uses,s) (d,uses',t)) (use : Use) (here : stays s' ∧ s'.records = s.records) (there : stays t') :
    Beside stays used records (c,uses ++ [use],s') (d,uses' ++ [use],t') := by
  obtain ⟨run,data,trace,same,-,-,kept⟩ := beside
  have longer : uses ++ [use] = used ++ (uses' ++ [use]) := by
    rw [← List.append_assoc]
    exact congrArg (· ++ [use]) same
  exact ⟨run,data,trace,longer,here.1,there,here.2.trans kept⟩

theorem suspension (beside : Beside stays used records (c,uses,s) (d,uses',t)) (nodes : List Node) (node : Node) :
    Action.suspension nodes node d = Action.suspension nodes node c := by
  obtain ⟨run,data,-⟩ := beside
  simp only [Action.suspension,Context.pausedAt,Context.snapshot]
  rw [run.executionId,run.automationId,run.organizationId,run.startedAt,data]

theorem coupling (impartial : Impartial caps stays) (used : List Use) (records : List RunRecord) :
    Coupling caps.noted caps.noted True (Beside stays used records) where
  data beside := beside.data.symm
  organization beside := beside.run.organizationId.symm
  log := by
    rintro c d ⟨uses,s⟩ ⟨uses',t⟩ nodeId level action message beside
    exact beside.append ⟨rfl,rfl,rfl,.inl rfl⟩
  change := by
    rintro c d ⟨uses,s⟩ ⟨uses',t⟩ data beside
    exact beside.change data
  call := by
    rintro ⟨c,uses,s⟩ ⟨d,uses',t⟩ request beside
    have here := impartial.called request beside.here
    have there := (impartial.called request beside.there).1
    have answer := impartial.call request beside.here beside.there
    simp only [Step.outside,zoom,Capabilities.noted,noting,Act.beside]
    revert here there answer
    rcases caps.call request s with ⟨x,s'⟩
    rcases caps.call request t with ⟨y,t'⟩
    rintro here there rfl
    cases x with
    | error e => exact .error e (beside.noted _ here there)
    | ok answer => exact .ok rfl (beside.noted _ here there)

theorem delay (impartial : Impartial caps stays) {nodes : List Node} {node : Node} {minutes : Float} {p q : Context × List Use × Engine κ}
    (beside : Beside stays used records p q) :
    Agree True (Beside stays used records) (Flow.Alike fun _ _ => True)
      (Action.delay caps.noted nodes node minutes p) (Action.delay caps.noted nodes node minutes q) := by
  obtain ⟨c,uses,s⟩ := p
  obtain ⟨d,uses',t⟩ := q
  cases fit : Action.isLength minutes with
  | false =>
    rw [Action.delay_unfit fit,Action.delay_unfit fit]
    exact .error _ beside
  | true =>
    rw [Action.delay_fit fit,Action.delay_fit fit,beside.suspension nodes node]
    have here := impartial.suspended minutes (Action.suspension nodes node c) beside.here
    have there := (impartial.suspended minutes (Action.suspension nodes node c) beside.there).1
    have answer := impartial.suspend minutes (Action.suspension nodes node c) beside.here beside.there
    have paused := beside.paused node
    simp only [Capabilities.noted,noting,Act.beside,zoom]
    revert here there answer
    rcases caps.suspend minutes (Action.suspension nodes node c) s with ⟨x,s'⟩
    rcases caps.suspend minutes (Action.suspension nodes node c) t with ⟨y,t'⟩
    rintro here there (⟨job,job',rfl,rfl⟩ | ⟨e,rfl,rfl⟩)
    · exact .ok (.suspend trivial) ((paused.noted _ here there).append ⟨rfl,rfl,rfl,.inr ⟨rfl,minutes,job,job',rfl,rfl⟩⟩)
    · exact .error e (paused.noted _ here there)

theorem tracks (impartial : Impartial caps stays) (config : EngineConfig) (nodes : List Node) (used : List Use) (records : List RunRecord) :
    Tracks (terrain (equipped caps).noted config nodes) (terrain (equipped caps).noted config nodes) True (fun _ _ => True)
      (Beside stays used records) where
  toCoupling := coupling impartial used records
  nodes := rfl
  batchSize := rfl
  jobs _ := trivial
  delay _ beside := beside.delay impartial

theorem walk (impartial : Impartial caps stays) (config : EngineConfig) (nodes : List Node) (node : Node) {p q : Context × List Use × Engine κ}
    (beside : Beside stays used records p q) :
    Agree True (Beside stays used records) (List.Forall₂ fun _ _ => True)
      (Flowgraph.walk (terrain (equipped caps).noted config nodes) node p) (Flowgraph.walk (terrain (equipped caps).noted config nodes) node q) :=
  ((tracks impartial config nodes used records).visit False (fun _ => rfl) _ _ (fun _ => rfl) node beside).resolve_left (·.1)

end Beside
end Flowgraph.Engine
