import Flowgraph.Proofs.Engine.Parallel

/-! A backend that notes how its capabilities are used: every call and every suspension, in their order. Apart from the
notes, runs over it are those over the backend itself. -/

namespace Flowgraph
open Act

variable {σ τ : Type}

inductive Use where
  | call (call : Call)
  | suspend (minutes : Float) (left : Suspension)

/-- An action beside the notes. -/
def Act.beside (act : Act σ ε α) : Act (List Use × σ) ε α := Act.zoom Prod.snd (fun s p => (p.1,s)) act

/-- An action that adds to the notes. -/
def Act.noting (use : Use) (act : Act σ ε α) : Act (List Use × σ) ε α := fun p => beside act (p.1 ++ [use],p.2)

def Capabilities.noted (caps : Capabilities σ) : Capabilities (List Use × σ) where
  now p := caps.now p.2
  call request := noting (.call request) (caps.call request)
  suspend minutes left := noting (.suspend minutes left) (caps.suspend minutes left)

def Backend.noted (b : Backend σ) : Backend (List Use × σ) where
  caps := b.caps.noted
  freshRunId p := let (id,s) := b.freshRunId p.2; (id,p.1,s)
  create r := beside (b.create r)
  update id u := beside (b.update id u)
  automation? id := beside (b.automation? id)

namespace Execution

def Bare (p : List Use × σ) (s : σ) : Prop := p.2 = s

/-- The same notes in related states. -/
def Likewise (S : σ → τ → Prop) (p : List Use × σ) (q : List Use × τ) : Prop := p.1 = q.1 ∧ S p.2 q.2

theorem beside_bare (act : Act σ ε α) {p : List Use × σ} {s : σ} (bare : Bare p s) : Agree True Bare Eq (beside act p) (act s) := by
  obtain ⟨uses,t⟩ := p
  obtain rfl : t = s := bare
  unfold beside zoom
  rcases act t with ⟨e | a,u⟩
  · exact .error e rfl
  · exact .ok rfl rfl

/-- Beside the notes, whatever is known of these. -/
theorem beside_agree {U : List Use → List Use → Prop} {S : σ → τ → Prop} {act : Act σ ε α} {act' : Act τ ε β} {Q : α → β → Prop}
    {p : List Use × σ} {q : List Use × τ} (uses : U p.1 q.1) (agree : Agree True S Q (act p.2) (act' q.2)) :
    Agree True (fun p q => U p.1 q.1 ∧ S p.2 q.2) Q (beside act p) (beside act' q) := by
  unfold beside zoom
  generalize act p.2 = x,act' q.2 = y at agree
  cases agree with
  | ok values states => exact .ok values ⟨uses,states⟩
  | error e states => exact .error e ⟨uses,states⟩
  | left lenient => exact absurd trivial lenient
  | right lenient => exact absurd trivial lenient

theorem beside_likewise {S : σ → τ → Prop} {act : Act σ ε α} {act' : Act τ ε β} {Q : α → β → Prop} {p : List Use × σ}
    {q : List Use × τ} (likewise : Likewise S p q) (agree : Agree True S Q (act p.2) (act' q.2)) :
    Agree True (Likewise S) Q (beside act p) (beside act' q) := beside_agree (U := Eq) likewise.1 agree

theorem noting_likewise {S : σ → τ → Prop} (use : Use) {act : Act σ ε α} {act' : Act τ ε α} {p : List Use × σ} {q : List Use × τ}
    (likewise : Likewise S p q) (agree : Agree True S Eq (act p.2) (act' q.2)) :
    Agree True (Likewise S) Eq (noting use act p) (noting use act' q) :=
  beside_likewise ⟨congrArg (· ++ [use]) likewise.1,likewise.2⟩ agree

/-- Storing an update uses nothing. -/
theorem persist_noted (b : Backend σ) (update : Context → Instant → RunUpdate) (c : Context) (uses : List Use) (s : σ) :
    persist b.noted update (c,uses,s) = ((persist b update (c,s)).1,(persist b update (c,s)).2.1,uses,(persist b update (c,s)).2.2) := rfl

theorem finish_noted (b : Backend σ) (status : Status) (c : Context) (uses : List Use) (s : σ) :
    finish b.noted status (c,uses,s) = ((finish b status (c,s)).1,(finish b status (c,s)).2.1,uses,(finish b status (c,s)).2.2) := rfl

theorem recordFailure_noted (b : Backend σ) (fault : EngineFault) (c : Context) (uses : List Use) (s : σ) :
    (recordFailure b.noted fault : Walk (List Use × σ) α) (c,uses,s) =
      let x : Except (Failure EngineFault) α × Context × σ := recordFailure b fault (c,s)
      (x.1,x.2.1,uses,x.2.2) := by
  unfold recordFailure
  rw [bind_apply,bind_apply,attempt,attempt,persist_noted]
  rcases persist b (RunUpdate.failed fault.message) (c,s) with ⟨(e | _) | _,q⟩ <;> rfl

theorem parallel_bare (b : Backend σ) : Parallel b.noted b (fun _ => True) (fun _ => True) Bare where
  now bare := congrArg b.caps.now bare.symm
  clock _ := trivial
  call request _ _ bare := beside_bare (b.caps.call request) bare
  suspend minutes left _ _ _ _ bare := beside_bare (b.caps.suspend minutes left) bare
  freshRunId := by rintro ⟨uses,s⟩ _ rfl; exact ⟨rfl,rfl⟩
  create r _ _ bare := beside_bare (b.create r) bare
  update id u _ _ bare := beside_bare (b.update id u) bare

/-- Backends that answer alike do so with notes, and these are the same. -/
theorem parallel_likewise {b : Backend σ} {b' : Backend τ} {timely : Instant → Prop} {captured : List Node → Prop} {S : σ → τ → Prop}
    (parallel : Parallel b b' timely captured S) : Parallel b.noted b'.noted timely captured (Likewise S) where
  now likewise := parallel.now likewise.2
  clock likewise := parallel.clock likewise.2
  call request _ _ likewise := noting_likewise _ likewise (parallel.call request likewise.2)
  suspend minutes _ _ _ began fit likewise := noting_likewise _ likewise (parallel.suspend minutes began fit likewise.2)
  freshRunId likewise := ⟨(parallel.freshRunId likewise.2).1,likewise.1,(parallel.freshRunId likewise.2).2⟩
  create r _ _ likewise := beside_likewise likewise (parallel.create r likewise.2)
  update id u _ _ likewise := beside_likewise likewise (parallel.update id u likewise.2)

theorem resumeNodes_bare (b : Backend σ) (config : EngineConfig) (automation : Uuid) (captured : List Node) (uses : List Use) (s : σ) :
    Agree True Bare Eq (resumeNodes b.noted config automation captured (uses,s)) (resumeNodes b config automation captured s) := by
  unfold resumeNodes
  split
  · exact .ok rfl rfl
  · refine ((beside_bare (b.automation? automation) rfl).mapFault _).bind ?_
    rintro found _ p s rfl bare
    cases found with
    | none => exact .error _ bare
    | some d => exact .ok rfl bare

/-- What becomes of a resumed run does not depend on whether its uses of the capabilities are noted. -/
theorem resume_bare (b : Backend σ) (config : EngineConfig) (k : Continuation) (uses : List Use) (s : σ) :
    Agree True Bare Eq (resume b.noted config k (uses,s)) (resume b config k s) :=
  (parallel_bare b).resume trivial ((resumeNodes_bare b config k.automationId k.nodes uses s).weaken (fun _ _ same => ⟨same,trivial⟩) fun _ _ => id)

theorem takeup_bare (b : Backend σ) (config : EngineConfig) (taken : Takeup) (uses : List Use) (s : σ) :
    Agree True Bare Eq (taken.run b.noted config (uses,s)) (taken.run b config s) := by
  cases taken with
  | resume k => exact resume_bare b config k uses s
  | continueAt nodes node left => exact Parallel.onContext _ ((parallel_bare b).continueAt config trivial node ⟨rfl,trivial,rfl⟩)

/-- What becomes of a delivery does not depend on whether its uses of the capabilities are noted. -/
theorem handler_bare (b : Backend σ) (config : EngineConfig) (job : Job JobId) (uses : List Use) (s : σ) :
    Agree True Bare Eq (handler b.noted config job (uses,s)) (handler b config job s) :=
  Parallel.handler rfl fun k _ => resume_bare b config k uses s

/-- What becomes of a run does not depend on whether its uses of the capabilities are noted. -/
theorem execute_bare (b : Backend σ) (config : EngineConfig) (d : Definition) (input : Json) (id? : Option String) (uses : List Use) (s : σ) :
    Agree True Bare Eq (execute b.noted config d input id? (uses,s)) (execute b config d input id? s) :=
  (parallel_bare b).execute config (fun _ => trivial) input id? rfl

end Execution
end Flowgraph
