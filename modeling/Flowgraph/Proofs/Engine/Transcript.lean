import Flowgraph.Proofs.Action.Law
import Flowgraph.Proofs.Engine.Execute
import Flowgraph.Proofs.Engine.Parallel

/-! Transcripts of runs: what is asked of the capabilities, with the answers. A transcript takes nothing away from a run and adds
nothing to it. It tells which paths a run has suspended, and an answer in it is the reason where a run does not come back. -/

namespace Flowgraph
open Act

variable {σ κ : Type}

/-- A use of the capabilities, and how it was answered. -/
inductive Exchange where
  | call (request : Call) (answer : Except (Failure NodeFault) request.Answer)
  | suspend (minutes : Float) (left : Suspension) (answer : Except (Failure NodeFault) String)

namespace Exchange

/-- The job of a path that has been suspended. -/
def job? : Exchange → Option String
  | call .. => none
  | suspend _ _ answer => answer.toOption

theorem job?_suspend (minutes : Float) (left : Suspension) (answer : Except (Failure NodeFault) String) :
    [suspend minutes left answer].filterMap job? = jobsOf answer := by
  cases answer <;> rfl

/-- The answer leaves the calendar, and so the run does not come back. -/
def overflows : Exchange → Bool
  | call _ (.error .overflow) => true
  | suspend _ _ (.error .overflow) => true
  | _ => false

end Exchange

namespace Engine

def beside (past : List Exchange) (s : Engine κ) : Engine (List Exchange × κ) := { s with outside := (past,s.outside) }

def bare (s : Engine (List Exchange × κ)) : Engine κ := { s with outside := s.outside.2 }

/-- An action on the engine that adds to the transcript how it was answered. -/
def transcribing (exchange : Except (Failure NodeFault) α → Exchange) (act : Act (Engine κ) NodeFault α) :
    Act (Engine (List Exchange × κ)) NodeFault α := fun s =>
  let (answer,t) := act s.bare
  (answer,t.beside (s.outside.1 ++ [exchange answer]))

end Engine

def Capabilities.transcribed (caps : Capabilities (Engine κ)) : Capabilities (Engine (List Exchange × κ)) where
  now s := caps.now s.bare
  call request := Engine.transcribing (.call request) (caps.call request)
  suspend minutes left := Engine.transcribing (.suspend minutes left) (caps.suspend minutes left)

namespace Act

/-- Where the action leaves the calendar, it leaves a state with a property. -/
def OverflowsIn (P : σ → Prop) (act : Act σ ε α) : Prop := ∀ s, (act s).1 = .error .overflow → P (act s).2

namespace OverflowsIn

variable {P : σ → Prop} {act : Act σ ε α}

theorem never (returns : ∀ s, (act s).1 ≠ .error .overflow) : OverflowsIn P act := fun s overflow => absurd overflow (returns s)

theorem bind {f : α → Act σ ε β} (first : OverflowsIn P act) (rest : ∀ a, OverflowsIn P (f a)) : OverflowsIn P (act >>= f) := by
  intro s
  have early := first s
  rw [bind_apply]
  revert early
  rcases act s with ⟨e | a,t⟩ <;> intro early overflow
  · cases overflow
    exact early rfl
  · exact rest a t overflow

theorem attempt (overflows : OverflowsIn P act) : OverflowsIn P (Act.attempt act : Act σ δ (Except ε α)) := by
  intro s overflow
  rw [attempt_snd]
  exact overflows s (attempt_overflow_iff.mp overflow)

theorem context {P : Context × σ → Prop} : OverflowsIn P (Step.context : Step σ Context) := by
  intro p overflow
  cases (overflow : (.ok p.1 : Except (Failure NodeFault) Context) = .error .overflow)

theorem mapM {f : β → Act σ ε α} (each : ∀ b, OverflowsIn P (f b)) (xs : List β) : OverflowsIn P (xs.mapM f) := by
  induction xs with
  | nil => exact never fun _ => nofun
  | cons b rest ih =>
    rw [List.mapM_cons]
    exact (each b).bind fun _ => ih.bind fun _ => never fun _ => nofun

end OverflowsIn
end Act

namespace Engine
open Execution

variable {caps : Capabilities (Engine κ)} {config : EngineConfig} {nodes : List Node}

/-- Some answer has left the calendar. -/
def Overran (s : Engine (List Exchange × κ)) : Prop := ∃ e ∈ s.outside.1, e.overflows = true

theorem Overran.last {s : Engine (List Exchange × κ)} {past : List Exchange} {e : Exchange} (shape : s.outside.1 = past ++ [e])
    (overflows : e.overflows = true) : Overran s := ⟨e,shape ▸ List.mem_append_right _ (List.mem_singleton_self e),overflows⟩

theorem Aloof.transcribed (aloof : Aloof caps) : Aloof caps.transcribed where
  now s := aloof.now s.bare
  call request s := aloof.call request s.bare
  suspend minutes left s := aloof.suspend minutes left s.bare

theorem transcribing_bare (exchange : Except (Failure NodeFault) α → Exchange) (act : Act (Engine κ) NodeFault α)
    (p : Engine (List Exchange × κ)) : Agree True (fun p s => p.bare = s) Eq (transcribing exchange act p) (act p.bare) := by
  unfold transcribing
  rcases act p.bare with ⟨e | answer,t⟩
  · exact .error e rfl
  · exact .ok rfl rfl

/-- A run with a transcript is the run without it. -/
theorem parallel_transcribed (caps : Capabilities (Engine κ)) :
    Parallel (equipped caps.transcribed) (equipped caps) (fun _ => True) (fun _ => True) (fun p s => p.bare = s) where
  now := by rintro p _ rfl; rfl
  clock _ := trivial
  call := by rintro request p _ rfl; exact transcribing_bare _ _ p
  suspend := by rintro minutes left p _ - - rfl; exact transcribing_bare _ _ p
  freshRunId := by rintro p _ rfl; exact ⟨rfl,rfl⟩
  create := by rintro r p _ rfl; exact .ok rfl rfl
  update := by
    rintro id u p _ rfl
    simp only [equipped,update,bind_apply,get_apply]
    have same : p.bare.record? id = p.record? id := rfl
    rw [same]
    split
    · exact .ok rfl rfl
    · exact .error _ rfl

theorem transcribed_law (caps : Capabilities (Engine κ)) (id : String) : Step.Law caps.transcribed id (OverflowsIn fun p => Overran p.2) where
  pure _ := .never fun _ => nofun
  fail _ := .never fun _ => nofun
  bind := .bind
  context := .context
  note _ := .never fun _ => nofun
  merge := .never fun _ => nofun
  mark := .never fun _ => nofun
  transform steps := .never fun p => by rw [Action.transform_apply]; nofun
  call request := by
    rintro ⟨c,s⟩
    simp only [Step.outside,zoom,Capabilities.transcribed,transcribing]
    rcases caps.call request s.bare with ⟨answer,t⟩
    rintro ⟨⟩
    exact .last rfl rfl
  attempt request := by
    rintro ⟨c,s⟩
    simp only [Step.outside,zoom,attempt,Capabilities.transcribed,transcribing]
    -- A fault is a result here, so that only an answer outside the calendar gets through.
    rcases caps.call request s.bare with ⟨(fault | _) | answer,t⟩
    · rintro ⟨⟩
    · exact fun _ => .last rfl rfl
    · rintro ⟨⟩
  suspend minutes left := by
    rintro ⟨c,s⟩
    simp only [Step.outside,zoom,Capabilities.transcribed,transcribing]
    rcases caps.suspend minutes left s.bare with ⟨answer,t⟩
    rintro ⟨⟩
    exact .last rfl rfl

theorem transcribed_walkLaw (caps : Capabilities (Engine κ)) (config : EngineConfig) (nodes : List Node) :
    Walk.Law (terrain (equipped caps.transcribed) config nodes) (OverflowsIn fun p => Overran p.2) where
  pure _ := .never fun _ => nofun
  fail _ := .never fun _ => nofun
  bind := .bind
  log _ _ _ := .never fun _ => nofun
  node node := ((transcribed_law caps node.id).perform config.batchSize nodes).attempt

theorem walk_overflowsIn (caps : Capabilities (Engine κ)) (config : EngineConfig) (nodes : List Node) (node : Node) :
    OverflowsIn (fun p => Overran p.2) (walk (terrain (equipped caps.transcribed) config nodes) node) :=
  (transcribed_walkLaw caps config nodes).visit (config.maxDepth + 1) node

theorem branch_overflowsIn (caps : Capabilities (Engine κ)) (config : EngineConfig) (nodes : List Node) (c : Context) (trigger : Node) :
    OverflowsIn Overran (branch (terrain (equipped caps.transcribed) config nodes) c trigger) := by
  intro s
  have inside := walk_overflowsIn caps config nodes trigger (c.fork,s)
  revert inside
  unfold branch
  rcases walk (terrain (equipped caps.transcribed) config nodes) trigger (c.fork,s) with ⟨(fault | _) | jobs,d,t⟩ <;> intro inside overflow
  · cases overflow
  · exact inside rfl
  · cases overflow

/-- The frame of a walk: the records stay, and the jobs are those that the transcript tells of. -/
def Accounted (jobs : List String) (p q : Context × Engine (List Exchange × κ)) : Prop :=
  p.1.SameRun q.1 ∧ q.2.records = p.2.records ∧ ∃ more, q.2.outside.1 = p.2.outside.1 ++ more ∧ more.filterMap Exchange.job? = jobs

theorem Aloof.accounted (aloof : Aloof caps) (config : EngineConfig) (nodes : List Node) :
    Frame (terrain (equipped caps.transcribed) config nodes) Accounted where
  refl p := ⟨.refl _,rfl,[],(List.append_nil _).symm,rfl⟩
  trans := by
    rintro _ _ p q r ⟨same,records,more,added,rfl⟩ ⟨same',records',others,added',rfl⟩
    exact ⟨same.trans same',records'.trans records,more ++ others,by rw [added',added,List.append_assoc],List.filterMap_append⟩
  context s same := ⟨same,rfl,[],(List.append_nil _).symm,rfl⟩
  call request c s := ⟨.refl c,aloof.call request s.bare,[_],rfl,rfl⟩
  suspend {node minutes} c s _ _ :=
    ⟨.refl _,aloof.suspend minutes (Action.suspension nodes node c) s.bare,[_],rfl,Exchange.job?_suspend ..⟩

end Engine
end Flowgraph
