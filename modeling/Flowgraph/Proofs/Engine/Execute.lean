import Flowgraph.Proofs.Engine.Resume

/-! How runs stand in memory after they have been carried out. All walks of a run count: it is waiting where one
of them has left an entry in the queue, and completed only where none has. -/

namespace Flowgraph.Engine
open Act Execution

variable {κ : Type} {outside : Outside κ} {config : EngineConfig} {nodes : List Node} {c : Context} {s : Engine κ}

theorem branches_growth (outside : Outside κ) (config : EngineConfig) (c : Context) (triggers : List Node) (members : triggers ⊆ nodes) (s : Engine κ) :
    let x := triggers.mapM (branch (terrain (backend outside) config nodes) c) s
    ∃ added, Extended nodes c s x.2 added ∧ x.2.records = s.records ∧ (∀ e, x.1 = .error e → e = .overflow) ∧
      ∀ branches, x.1 = .ok branches → ∀ jobs, outcome branches = .ok jobs → jobs = jobTexts added := by
  obtain ⟨_,⟨-,records,added,extended,rfl⟩,faultless,accounted⟩ := (frame outside config nodes).branches And.left c members s
  exact ⟨added,extended,records,faultless,accounted⟩

structure Launched (nodes : List Node) (c : Context) (s s' : Engine κ) (added : List QueueEntry) : Prop where
  extended : Extended nodes c s s' added
  recorded : ∃ r, s'.record? c.executionId = some r ∧ (r.status = .waiting → added ≠ []) ∧ (r.status = .completed → added = [])

theorem Launched.store {t : Engine κ} {u : RunUpdate} {status : Status} {added : List QueueEntry}
    (extended : Extended nodes c s t added) (recorded : (s.record? c.executionId).isSome = true)
    (written : u.status = some status) (waiting : status = .waiting → added ≠ []) (completed : status = .completed → added = []) :
    Launched nodes c s (updated c.executionId u t) added := by
  obtain ⟨r,found⟩ := Option.isSome_iff_exists.mp (extended.recorded recorded)
  refine ⟨?_,r.apply u,record?_updated found,?_⟩
  · have both := extended.trans (.applyTo nodes c t u)
    rw [List.append_nil] at both
    exact both
  · have stands : (r.apply u).status = status := by simp [RunRecord.apply,written]
    rw [stands]
    exact ⟨waiting,completed⟩

theorem runTriggers_launched {r : RunRecord} (found : s.record? c.executionId = some r) (running : r.status = .running) :
    ∃ added, Launched nodes c s (runTriggers (backend outside) config nodes c s).2 added := by
  have recorded : (s.record? c.executionId).isSome = true := Option.isSome_iff_exists.mpr ⟨r,found⟩
  obtain ⟨added,extended,records,-,account⟩ := branches_growth outside config c (nodes.filter Node.isTrigger)
    (List.filter_subset_self _) s
  refine ⟨added,?_⟩
  rw [runTriggers_apply (extended.recorded recorded)]
  revert extended records account
  rcases (nodes.filter Node.isTrigger).mapM (branch (terrain (backend outside) config nodes) c) s with ⟨e | branches,t⟩ <;>
    intro extended records account
  · have kept : t.record? c.executionId = s.record? c.executionId := record?_congr records _
    exact ⟨extended,r,kept.trans found,by simp [running],by simp [running]⟩
  · dsimp only
    cases sum : outcome branches with
    | error fault => exact .store extended recorded rfl (by rintro ⟨⟩) (by rintro ⟨⟩)
    | ok jobs =>
      obtain rfl := account branches rfl jobs sum
      refine .store extended recorded rfl ?_ ?_
      · exact fun waiting none => by rw [none] at waiting; cases waiting
      · exact fun completed => by_contra fun some => by
          rw [Status.ofSuspended,if_neg (mt (jobTexts_isEmpty added).mp some)] at completed
          cases completed

def nameFor (id? : Option String) (s : Engine κ) : String := id?.getD (RunRecord.numberedId (s.runs + 1))

def openingContext (d : Definition) (input : Json) (id? : Option String) (s : Engine κ) : Context :=
  .start (nameFor id? s) d.id d.organizationId input s.clock

/-- A run is on record before any node of it, and nothing else has happened. -/
def opened (d : Definition) (input : Json) (id? : Option String) (s : Engine κ) : Engine κ :=
  { s with records := putRecord (.running (openingContext d input id? s)) s.records, runs := if id?.isSome then s.runs else s.runs + 1 }

theorem record?_opened (d : Definition) (input : Json) (id? : Option String) (name : String) :
    (opened d input id? s).record? name = if name = nameFor id? s then some (.running (openingContext d input id? s)) else s.record? name :=
  record?_putRecord (.running (openingContext d input id? s)) name s

/-- What is left of a run once it is on record. -/
def carryOut (b : Backend σ) (config : EngineConfig) (d : Definition) (c : Context) (id? : Option String) (now : Instant) :
    Act σ EngineFault Unit :=
  if !d.isActive && id?.isNone then mapFault .store (b.update c.executionId (.skipped now))
  else match Validation.checkRunnable d.nodes with
    | .error fault => onContext c (recordFailure b (.graph fault))
    | .ok _ => runTriggers b config d.nodes c

theorem execute_equipped {caps : Capabilities (Engine κ)} (now : ∀ s, caps.now s = s.clock) (d : Definition) (input : Json)
    (id? : Option String) (s : Engine κ) :
    execute (equipped caps) config d input id? s =
      (carryOut (equipped caps) config d (openingContext d input id? s) id? s.clock >>= fun _ => pure (nameFor id? s)) (opened d input id? s) := by
  obtain ⟨clock,call,suspend⟩ := caps
  obtain rfl : clock = (·.clock) := funext now
  unfold execute carryOut
  cases id? <;> cases active : d.isActive <;> cases Validation.checkRunnable d.nodes <;> rfl

theorem execute_apply (d : Definition) (input : Json) (id? : Option String) (s : Engine κ) :
    execute (backend outside) config d input id? s =
      (carryOut (backend outside) config d (openingContext d input id? s) id? s.clock >>= fun _ => pure (nameFor id? s)) (opened d input id? s) :=
  execute_equipped (fun _ => rfl) d input id? s

theorem carryOut_launched (outside : Outside κ) (config : EngineConfig) {d : Definition} {c : Context} {r : RunRecord} (id? : Option String) (now : Instant)
    (found : s.record? c.executionId = some r) (running : r.status = .running) :
    ∃ added, Launched d.nodes c s (carryOut (backend outside) config d c id? now s).2 added := by
  have recorded : (s.record? c.executionId).isSome = true := Option.isSome_iff_exists.mpr ⟨r,found⟩
  unfold carryOut
  split
  · rw [store_apply _ recorded]
    exact ⟨[],.applyTo d.nodes c s _,_,record?_updated found,by rintro ⟨⟩,by rintro ⟨⟩⟩
  · cases Validation.checkRunnable d.nodes with
    | error fault =>
      simp only [onContext,recordFailure_apply _ recorded]
      exact ⟨[],.applyTo d.nodes c s _,_,record?_updated found,by rintro ⟨⟩,by rintro ⟨⟩⟩
    | ok _ => exact runTriggers_launched found running

theorem execute_launched (outside : Outside κ) (config : EngineConfig) (d : Definition) (input : Json) (id? : Option String) (s : Engine κ) :
    ∃ added, Launched d.nodes (openingContext d input id? s) s (execute (backend outside) config d input id? s).2 added := by
  have found : (opened d input id? s).record? (openingContext d input id? s).executionId = some (.running (openingContext d input id? s)) :=
    (record?_opened d input id? _).trans (if_pos rfl)
  have opening : Extended d.nodes (openingContext d input id? s) s (opened d input id? s) [] :=
    ⟨by simp [opened],nofun,.nil _,fun name other => (record?_opened d input id? name).trans (if_neg other),
      fun _ => Option.isSome_iff_exists.mpr ⟨_,found⟩,rfl,rfl⟩
  obtain ⟨added,launched⟩ := carryOut_launched outside config (d := d) id? s.clock found rfl
  rw [execute_apply,state_bind_pure]
  exact ⟨added,opening.trans launched.extended,launched.recorded⟩

end Flowgraph.Engine
