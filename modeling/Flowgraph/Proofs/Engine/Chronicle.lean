import Flowgraph.Proofs.Engine.Delayed
import Flowgraph.Proofs.Engine.Parallel

/-! The trace on record of a run, from the call that starts it through all that take it up again. Every update of the record adds
what the walks before it have logged, whether these went well or not, and takes nothing away. -/

namespace Flowgraph
open Act

variable {σ : Type}

/-- What a walk adds to the trace of its context. -/
def entries (t : Terrain σ) (node : Node) (p : Context × σ) : List LogEntry := (walk t node p).2.1.logs.drop p.1.logs.length

namespace Engine
open Execution

variable {κ : Type} {caps : Capabilities (Engine κ)} {config : EngineConfig} {nodes : List Node} {c d : Context} {s t : Engine κ}
  {trace : List LogEntry}

/-- A walk seen against itself: it stays with its run and leaves the records. -/
def Passing (c : Context) (records : List RunRecord) (p q : Context × Engine κ) : Prop := p = q ∧ c.SameRun p.1 ∧ p.2.records = records

theorem Aloof.tracks (aloof : Aloof caps) (config : EngineConfig) (nodes : List Node) (c : Context) (records : List RunRecord) :
    Tracks (terrain (equipped caps) config nodes) (terrain (equipped caps) config nodes) True Eq (Passing c records) where
  data := by rintro p _ ⟨rfl,-⟩; rfl
  organization := by rintro p _ ⟨rfl,-⟩; rfl
  log := by
    rintro d _ s _ id level action message ⟨⟨⟩,run,kept⟩
    exact ⟨rfl,run.trans ⟨rfl,rfl,rfl,rfl⟩,kept⟩
  change := by
    rintro d _ s _ data ⟨⟨⟩,run,kept⟩
    exact ⟨rfl,run.trans ⟨rfl,rfl,rfl,rfl⟩,kept⟩
  call := by
    rintro ⟨d,s⟩ _ request ⟨rfl,run,kept⟩
    have left := aloof.call request s
    simp only [Step.outside,zoom,terrain,equipped]
    revert left
    rcases caps.call request s with ⟨e | answer,t⟩ <;> intro left
    · exact .error e ⟨rfl,run,left.trans kept⟩
    · exact .ok rfl ⟨rfl,run,left.trans kept⟩
  nodes := rfl
  batchSize := rfl
  jobs _ := rfl
  delay := by
    rintro node minutes ⟨d,s⟩ _ - ⟨rfl,run,kept⟩
    cases fit : Action.isLength minutes with
    | false =>
      rw [Action.delay_unfit fit]
      exact .error _ ⟨rfl,run,kept⟩
    | true =>
      have left := aloof.suspend minutes (Action.suspension nodes node d) s
      rw [Action.delay_fit fit]
      simp only [terrain,equipped]
      revert left
      rcases caps.suspend minutes (Action.suspension nodes node d) s with ⟨e | job,t⟩ <;> intro left
      · exact .error e ⟨rfl,run.trans ⟨rfl,rfl,rfl,rfl⟩,left.trans kept⟩
      · exact .ok (.suspend rfl) ⟨rfl,run.trans ⟨rfl,rfl,rfl,rfl⟩,left.trans kept⟩

theorem Aloof.walk (aloof : Aloof caps) (config : EngineConfig) (nodes : List Node) (node : Node) (c : Context) (s : Engine κ) :
    let x := Flowgraph.walk (terrain (equipped caps) config nodes) node (c,s)
    c.SameRun x.2.1 ∧ x.2.2.records = s.records := by
  have start : Passing c s.records (c,s) (c,s) := ⟨rfl,.refl c,rfl⟩
  have walked := (aloof.tracks config nodes c s.records).visit False (fun _ => rfl) (config.maxDepth + 1) _ (fun _ => rfl) node start
  exact (walked.resolve_left (·.1)).related.2

/-- The run that began with a context is on record, with this trace. -/
def Stands (c : Context) (trace : List LogEntry) (s : Engine κ) : Prop :=
  ∃ r, s.record? c.executionId = some r ∧ r.logs = trace ∧ r.input = c.data ∧ r.startedAt = c.startedAt ∧
    r.automationId = c.automationId ∧ r.organizationId = c.organizationId

namespace Stands

theorem recorded (stands : Stands c trace s) : (s.record? c.executionId).isSome = true := by
  obtain ⟨r,found,-⟩ := stands
  exact Option.isSome_iff_exists.mpr ⟨r,found⟩

theorem congr (stands : Stands c trace s) (same : t.record? c.executionId = s.record? c.executionId) : Stands c trace t := by
  obtain ⟨r,found,rest⟩ := stands
  exact ⟨r,same.trans found,rest⟩

theorem of_records (stands : Stands c trace s) (same : t.records = s.records) : Stands c trace t := stands.congr (record?_congr same _)

theorem updated (stands : Stands c trace s) (u : RunUpdate) : Stands c (trace ++ u.logs) (Engine.updated c.executionId u s) := by
  obtain ⟨r,found,rfl,rest⟩ := stands
  exact ⟨r.apply u,record?_updated found,rfl,rest⟩

/-- Where there is nothing to add, a record stands with the trace it had. -/
theorem still (stands : Stands c trace s) {u : RunUpdate} (nothing : u.logs = []) : Stands c trace (Engine.updated c.executionId u s) := by
  have stands := stands.updated u
  rwa [nothing,List.append_nil] at stands

theorem opened (d : Definition) (input : Json) (id? : Option String) (s : Engine κ) :
    Stands (openingContext d input id? s) [] (Engine.opened d input id? s) :=
  ⟨_,(record?_opened d input id? _).trans (if_pos rfl),rfl,rfl,rfl,rfl,rfl⟩

end Stands

/-- An update of the record of a run: what the walks that it stores have added, and the state that it leaves. -/
structure Stage (κ : Type) where
  traces : List (List LogEntry)
  left : Engine κ

/-- All that has been logged through some stages. -/
def logged (stages : List (Stage κ)) : List LogEntry := (stages.flatMap (·.traces)).flatten

theorem logged_append (stages more : List (Stage κ)) : logged (stages ++ more) = logged stages ++ logged more := by
  rw [logged,List.flatMap_append,List.flatten_append]
  rfl

theorem logged_cons (stage : Stage κ) (rest : List (Stage κ)) : logged (stage :: rest) = stage.traces.flatten ++ logged rest := by
  rw [logged,List.flatMap_cons,List.flatten_append]
  rfl

/-- At every stage the record stands with all that has been logged up to then, after the trace it had before. -/
def Trail (c : Context) : List LogEntry → List (Stage κ) → Prop
  | _, [] => True
  | trace, stage :: rest => Stands c (trace ++ stage.traces.flatten) stage.left ∧ Trail c (trace ++ stage.traces.flatten) rest

theorem Trail.append {stages more : List (Stage κ)} (trail : Trail c trace stages) (then_ : Trail c (trace ++ logged stages) more) :
    Trail c trace (stages ++ more) := by
  induction stages generalizing trace with
  | nil => simpa [logged] using then_
  | cons stage rest ih =>
    rw [logged_cons,← List.append_assoc] at then_
    exact ⟨trail.1,ih trail.2 then_⟩

theorem Trail.stands {earlier later : List (Stage κ)} {stage : Stage κ} (trail : Trail c trace (earlier ++ stage :: later)) :
    Stands c (trace ++ logged (earlier ++ [stage])) stage.left := by
  induction earlier generalizing trace with
  | nil => simpa [logged] using trail.1
  | cons first rest ih =>
    rw [List.cons_append,logged_cons,← List.append_assoc]
    exact ih trail.2

theorem logged_singleton (stage : Stage κ) : logged [stage] = stage.traces.flatten := by
  rw [logged,List.flatMap_singleton]

theorem Trail.single {traces : List (List LogEntry)} (stored : Stands c (trace ++ traces.flatten) s) :
    Trail c trace [⟨traces,s⟩] ∧ Stands c (trace ++ logged [⟨traces,s⟩]) s := by
  rw [logged_singleton]
  exact ⟨⟨stored,trivial⟩,stored⟩

theorem Trail.still (stays : Stands c trace s) : Trail c trace [⟨[],s⟩] ∧ Stands c (trace ++ logged [⟨[],s⟩]) s :=
  Trail.single (by rwa [List.flatten_nil,List.append_nil])

/-- The stages of a run that goes on at some ids. -/
def continueStages (caps : Capabilities (Engine κ)) (config : EngineConfig) (nodes : List Node) : List String → Context × Engine κ → List (Stage κ)
  | [], _ => []
  | id :: rest, p => match Node.find? nodes id with
    | none => [⟨[],(recordFailure (equipped caps) (.missingNode id) p : Except (Failure EngineFault) Unit × Context × Engine κ).2.2⟩]
    | some node => match continueAt (equipped caps) config nodes node p with
      | (.ok _,q) => ⟨[entries (terrain (equipped caps) config nodes) node p],q.2⟩ :: continueStages caps config nodes rest q
      | (.error _,q) => [⟨[entries (terrain (equipped caps) config nodes) node p],q.2⟩]

/-- The stages of a call that takes a run up again. -/
def takeupStages (caps : Capabilities (Engine κ)) (config : EngineConfig) (s : Engine κ) (call : Takeup) : List (Stage κ) :=
  let left := (call.run (equipped caps) config s).2
  match call with
  | .resume k => match nodesFor config k.automationId k.nodes s with
    | none => [⟨[],left⟩]
    | some nodes => if k.next.isEmpty then [⟨[],left⟩] else continueStages caps config nodes k.next (.restore k.context,s)
  | .continueAt nodes node from_ => [⟨[entries (terrain (equipped caps) config nodes) node (.restore from_,s)],left⟩]

/-- What the walks from some triggers add, each to a trace of its own. -/
def branchTraces (caps : Capabilities (Engine κ)) (config : EngineConfig) (nodes : List Node) (c : Context) : List Node → Engine κ → List (List LogEntry)
  | [], _ => []
  | trigger :: rest, s => entries (terrain (equipped caps) config nodes) trigger (c.fork,s) ::
    branchTraces caps config nodes c rest (walk (terrain (equipped caps) config nodes) trigger (c.fork,s)).2.2

/-- What the walks of a run that is started add; there are none where it is skipped or cannot be run. -/
def launchTraces (caps : Capabilities (Engine κ)) (config : EngineConfig) (d : Definition) (input : Json) (id? : Option String) (s : Engine κ) :
    List (List LogEntry) :=
  if !d.isActive && id?.isNone then [] else match Validation.checkRunnable d.nodes with
    | .error _ => []
    | .ok _ => branchTraces caps config d.nodes (openingContext d input id? s) (d.nodes.filter Node.isTrigger) (opened d input id? s)

/-- The stages of a run that is started: it is put on record, and then all of its walks are stored together. -/
def launchStages (caps : Capabilities (Engine κ)) (config : EngineConfig) (d : Definition) (input : Json) (id? : Option String) (s : Engine κ) :
    List (Stage κ) :=
  [⟨[],opened d input id? s⟩,⟨launchTraces caps config d input id? s,(execute (equipped caps) config d input id? s).2⟩]

theorem continueAt_stands (aloof : Aloof caps) (config : EngineConfig) (nodes : List Node) (node : Node) (stands : Stands c trace s)
    (own : d.executionId = c.executionId) (fresh : d.logs = []) (returned : (continueAt (equipped caps) config nodes node (d,s)).1 ≠ .error .overflow) :
    let x := continueAt (equipped caps) config nodes node (d,s)
    Stands c (trace ++ [entries (terrain (equipped caps) config nodes) node (d,s)].flatten) x.2.2 ∧ x.2.1.executionId = c.executionId ∧ x.2.1.logs = [] := by
  obtain ⟨run,records⟩ := aloof.walk config nodes node d s
  have stays : Stands c trace (walk (terrain (equipped caps) config nodes) node (d,s)).2.2 := stands.of_records records
  rw [List.flatten_singleton,entries,fresh,List.length_nil,List.drop_zero]
  rw [continueAt_equipped run.executionId (own ▸ stays.recorded),own] at returned ⊢
  have same := run.executionId.trans own
  revert returned same stays
  rcases walk (terrain (equipped caps) config nodes) node (d,s) with ⟨(fault | _) | jobs,e,t⟩ <;> intro returned stays same
  · exact ⟨stays.updated _,same,rfl⟩
  · exact absurd rfl returned
  · exact ⟨stays.updated _,same,rfl⟩

theorem continueAll_trail (aloof : Aloof caps) (stands : Stands c trace s) (own : d.executionId = c.executionId) (fresh : d.logs = [])
    {ids : List String} (returned : (continueAll (equipped caps) config nodes ids (d,s)).1 ≠ .error .overflow) :
    let stages := continueStages caps config nodes ids (d,s)
    Trail c trace stages ∧ Stands c (trace ++ logged stages) (continueAll (equipped caps) config nodes ids (d,s)).2.2 := by
  induction ids generalizing d s trace with
  | nil =>
    refine ⟨trivial,?_⟩
    rw [continueStages,logged,List.flatMap_nil,List.flatten_nil,List.append_nil]
    exact stands
  | cons id rest ih =>
    revert returned
    unfold continueAll continueStages
    cases Node.find? nodes id with
    | none =>
      intro returned
      have known : (s.record? d.executionId).isSome = true := own ▸ stands.recorded
      have stays : Stands c trace (updated c.executionId (.failed (EngineFault.missingNode id).message d (caps.now s)) s) := stands.still fresh
      dsimp only
      rw [recordFailure_equipped _ known,own]
      exact Trail.still stays
    | some node =>
      have first := continueAt_stands aloof config nodes node stands own fresh
      dsimp only at first ⊢
      rw [bind_apply]
      revert first
      rcases continueAt (equipped caps) config nodes node (d,s) with ⟨e | _,q⟩ <;> intro first returned
      · obtain ⟨stored,-⟩ := first returned
        exact Trail.single stored
      · obtain ⟨stored,same,clean⟩ := first fun same => by cases same
        obtain ⟨trail,last⟩ := ih stored same clean returned
        rw [logged_cons,← List.append_assoc]
        exact ⟨⟨stored,trail⟩,last⟩

theorem takeup_trail (aloof : Aloof caps) (stands : Stands c trace s) {call : Takeup} (own : call.context.executionId = c.executionId)
    (returned : (call.run (equipped caps) config s).1 ≠ .error .overflow) :
    Trail c trace (takeupStages caps config s call) ∧
      Stands c (trace ++ logged (takeupStages caps config s call)) (call.run (equipped caps) config s).2 := by
  cases call with
  | continueAt nodes node left =>
    obtain ⟨stored,-⟩ := continueAt_stands aloof config nodes node stands own rfl returned
    exact Trail.single stored
  | resume k =>
    have known : (s.record? (Context.restore k.context).executionId).isSome = true := own ▸ stands.recorded
    have stays {u : RunUpdate} (nothing : u.logs = []) : Stands c trace (updated (Context.restore k.context).executionId u s) := by
      rw [show (Context.restore k.context).executionId = c.executionId from own]
      exact stands.still nothing
    simp only [takeupStages,Takeup.run] at returned ⊢
    unfold resume at returned ⊢
    rw [bind_apply,attempt,resumeNodes_equipped] at returned ⊢
    revert returned
    cases nodesFor config k.automationId k.nodes s with
    | none =>
      intro returned
      simp only [onContext,recordFailure_equipped _ known]
      exact Trail.still (stays rfl)
    | some nodes =>
      dsimp only
      split
      · intro returned
        simp only [onContext,finish_equipped _ known]
        exact Trail.still (stays rfl)
      · intro returned
        exact continueAll_trail aloof stands own rfl returned

theorem branches_trail (aloof : Aloof caps) (config : EngineConfig) (nodes : List Node) (c : Context) (triggers : List Node) (s : Engine κ) :
    let x := triggers.mapM (branch (terrain (equipped caps) config nodes) c) s
    x.2.records = s.records ∧ (∀ fault, x.1 ≠ .error (.cause fault)) ∧
      ∀ branches, x.1 = .ok branches → branches.map (·.context.logs) = branchTraces caps config nodes c triggers s := by
  induction triggers generalizing s with
  | nil =>
    refine ⟨rfl,fun _ => nofun,?_⟩
    rintro _ ⟨⟩
    rfl
  | cons trigger rest ih =>
    obtain ⟨-,records⟩ := aloof.walk config nodes trigger c.fork s
    rw [List.mapM_cons,branchTraces,entries]
    dsimp only
    rw [bind_apply,branch]
    revert records
    rcases walk (terrain (equipped caps) config nodes) trigger (c.fork,s) with ⟨(fault | _) | jobs,e,t⟩ <;> intro records
    case error.overflow => exact ⟨records,fun _ => nofun,fun _ => nofun⟩
    -- A branch whose walk has failed is a branch like any other.
    all_goals
      obtain ⟨records',faultless,same⟩ := ih t
      dsimp only
      rw [bind_apply]
      revert records' faultless same
      rcases rest.mapM (branch (terrain (equipped caps) config nodes) c) t with ⟨e' | branches,u⟩ <;> intro records' faultless same
      · exact ⟨records'.trans records,faultless,fun _ => nofun⟩
      · refine ⟨records'.trans records,fun _ => nofun,?_⟩
        rintro _ ⟨⟩
        rw [List.map_cons,same branches rfl]
        rfl

theorem runTriggers_stands (aloof : Aloof caps) (config : EngineConfig) (nodes : List Node) (stands : Stands c trace s) (fresh : c.logs = [])
    (returned : (runTriggers (equipped caps) config nodes c s).1 ≠ .error .overflow) :
    Stands c (trace ++ (branchTraces caps config nodes c (nodes.filter Node.isTrigger) s).flatten)
      (runTriggers (equipped caps) config nodes c s).2 := by
  obtain ⟨records,faultless,same⟩ := branches_trail aloof config nodes c (nodes.filter Node.isTrigger) s
  have stays : Stands c trace ((nodes.filter Node.isTrigger).mapM (branch (terrain (equipped caps) config nodes) c) s).2 :=
    stands.of_records records
  rw [runTriggers_equipped stays.recorded] at returned ⊢
  revert returned faultless same stays
  rcases (nodes.filter Node.isTrigger).mapM (branch (terrain (equipped caps) config nodes) c) s with ⟨(fault | _) | branches,t⟩ <;>
    intro returned faultless same stays
  · exact absurd rfl (faultless fault)
  · exact absurd rfl returned
  · have logs : (joined c branches).logs = (branchTraces caps config nodes c (nodes.filter Node.isTrigger) s).flatten := by
      rw [joined,fresh,List.nil_append,← same branches rfl]
      rfl
    rw [← logs]
    dsimp only
    cases outcome branches with
    | ok jobs => exact stays.updated _
    | error fault => exact stays.updated _

theorem launch_trail (aloof : Aloof caps) (config : EngineConfig) (d : Definition) (input : Json) (id? : Option String) (s : Engine κ)
    (returned : (execute (equipped caps) config d input id? s).1 ≠ .error .overflow) :
    let c := openingContext d input id? s
    let stages := launchStages caps config d input id? s
    Trail c [] stages ∧ Stands c (logged stages) (execute (equipped caps) config d input id? s).2 := by
  have opening := Stands.opened d input id? s
  intro c stages
  suffices last : Stands c (launchTraces caps config d input id? s).flatten (execute (equipped caps) config d input id? s).2 by
    refine ⟨⟨opening,last,trivial⟩,?_⟩
    unfold stages launchStages
    rw [logged_cons,logged_singleton]
    exact last
  rw [execute_equipped aloof.now] at returned ⊢
  rw [state_bind_pure]
  have carried : (carryOut (equipped caps) config d c id? s.clock (opened d input id? s)).1 ≠ .error .overflow :=
    fun overflows => returned (bind_fst overflows)
  unfold launchTraces
  unfold carryOut at carried ⊢
  split at carried
  · next skipped =>
    rw [if_pos skipped,if_pos skipped,store_equipped _ opening.recorded]
    exact opening.still rfl
  · next active =>
    rw [if_neg active,if_neg active]
    revert carried
    cases Validation.checkRunnable d.nodes with
    | error fault =>
      intro carried
      simp only [onContext,recordFailure_equipped _ opening.recorded]
      exact opening.still rfl
    | ok _ =>
      intro carried
      exact runTriggers_stands aloof config d.nodes opening rfl carried

/-- A run from the call that starts it on, with all stages of its record. Calls that take it up again may come at any time and from
any context of the run; all of them come back, with a fault or without. Meanwhile anything may happen that leaves its record. -/
inductive Chronicle (caps : Capabilities (Engine κ)) (config : EngineConfig) (d : Definition) (input : Json) (id? : Option String)
    (s₀ : Engine κ) : List (Stage κ) → Engine κ → Prop where
  | execute (returned : (execute (equipped caps) config d input id? s₀).1 ≠ .error .overflow) :
    Chronicle caps config d input id? s₀ (launchStages caps config d input id? s₀) (execute (equipped caps) config d input id? s₀).2
  | takeUp {stages s} (call : Takeup) (chronicle : Chronicle caps config d input id? s₀ stages s)
      (own : call.context.executionId = nameFor id? s₀) (returned : (call.run (equipped caps) config s).1 ≠ .error .overflow) :
    Chronicle caps config d input id? s₀ (stages ++ takeupStages caps config s call) (call.run (equipped caps) config s).2
  | meanwhile {stages s t} (chronicle : Chronicle caps config d input id? s₀ stages s)
      (same : t.record? (nameFor id? s₀) = s.record? (nameFor id? s₀)) : Chronicle caps config d input id? s₀ stages t

theorem Chronicle.trail (aloof : Aloof caps) {d : Definition} {input : Json} {id? : Option String} {s₀ : Engine κ} {stages : List (Stage κ)}
    (chronicle : Chronicle caps config d input id? s₀ stages s) :
    Trail (openingContext d input id? s₀) [] stages ∧ Stands (openingContext d input id? s₀) (logged stages) s := by
  induction chronicle with
  | execute returned => exact launch_trail aloof config d input id? s₀ returned
  | takeUp call _ own returned ih =>
    obtain ⟨trail,stands⟩ := ih
    obtain ⟨trail',last⟩ := takeup_trail aloof stands own returned
    rw [← logged_append] at last
    exact ⟨trail.append trail',last⟩
  | meanwhile _ same ih => exact ⟨ih.1,ih.2.congr same⟩

/-- The record of a run holds all that its walks have logged, each entry once and in the order of the calls, through every stage of it:
what was on record at one stage is at the head of what is there later. What the run was started with never changes. -/
theorem trace_is_complete (aloof : Aloof caps) {d : Definition} {input : Json} {id? : Option String} {s₀ : Engine κ} {stages : List (Stage κ)}
    (chronicle : Chronicle caps config d input id? s₀ stages s) :
    let c := openingContext d input id? s₀
    Stands c (logged stages) s ∧
      (∀ earlier stage later, stages = earlier ++ stage :: later → Stands c (logged (earlier ++ [stage])) stage.left) ∧
      ∀ earlier stage later r r', stages = earlier ++ stage :: later → stage.left.record? c.executionId = some r →
        (s.record? c.executionId = some r' ∨ ∃ next ∈ later, next.left.record? c.executionId = some r') → r.logs <+: r'.logs := by
  obtain ⟨trail,last⟩ := chronicle.trail aloof
  have each : ∀ earlier stage later, stages = earlier ++ stage :: later →
      Stands (openingContext d input id? s₀) (logged (earlier ++ [stage])) stage.left := by
    rintro earlier stage later rfl
    exact trail.stands
  refine ⟨last,each,?_⟩
  intro earlier stage later r r' shape found found'
  have here : r.logs = logged (earlier ++ [stage]) := by
    obtain ⟨_,same,logs,-⟩ := each earlier stage later shape
    cases found.symm.trans same
    exact logs
  have head (more : List (Stage κ)) : logged (earlier ++ [stage]) <+: logged (earlier ++ stage :: more) := by
    refine ⟨logged more,?_⟩
    rw [← logged_append,List.append_assoc,List.singleton_append]
  rw [here]
  obtain now | ⟨next,member,then_⟩ := found'
  · obtain ⟨_,same,logs,-⟩ := last
    cases now.symm.trans same
    rw [logs,shape]
    exact head later
  · obtain ⟨before,after,rfl⟩ := List.append_of_mem member
    obtain ⟨_,same,logs,-⟩ := each (earlier ++ stage :: before) next after (by rw [shape,List.append_assoc,List.cons_append])
    cases then_.symm.trans same
    rw [logs,List.append_assoc,List.cons_append]
    exact head (before ++ [next])

/-- The job of the delay, and a call by hand behind it. -/
def registeringResumed : Takeup := .resume (.ofSuspension (Action.suspension registering.nodes registeringDelay registeringContext))

def registeringRetried : Takeup :=
  .continueAt registering.nodes ⟨"register",[],.contacts ⟨.create,.object []⟩⟩ registeringContext.snapshot

def registeringLaunched : Engine Unit :=
  (execute (equipped (capabilities silent)) standard registering .null (some "run") (after [.put registering])).2

def registeringFailed : Engine Unit := (registeringResumed.run (equipped (capabilities silent)) standard registeringLaunched).2

def registeringStages : List (Stage Unit) :=
  launchStages (capabilities silent) standard registering .null (some "run") (after [.put registering]) ++
    takeupStages (capabilities silent) standard registeringLaunched registeringResumed ++
    takeupStages (capabilities silent) standard registeringFailed registeringRetried

/-- The run is taken up twice and fails both times; the entries of both walks are on record, behind those of the first. -/
theorem registering_trace_is_complete :
    Stands registeringContext (logged registeringStages) (registeringRetried.run (equipped (capabilities silent)) standard registeringFailed).2 ∧
      registeringStages.map (·.traces.map List.length) = [[],[5],[2],[2]] := by
  have launched : Chronicle (capabilities silent) standard registering .null (some "run") (after [.put registering])
      (launchStages (capabilities silent) standard registering .null (some "run") (after [.put registering])) registeringLaunched :=
    .execute (by decide +kernel)
  have failed := launched.takeUp registeringResumed rfl (by decide +kernel)
  have retried := failed.takeUp registeringRetried rfl (by decide +kernel)
  exact ⟨(trace_is_complete (aloof_capabilities silent) retried).1,by decide +kernel⟩

end Engine
end Flowgraph
