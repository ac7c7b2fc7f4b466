import Flowgraph.Proofs.Automation.Cycle
import Flowgraph.Proofs.Engine.History
import Flowgraph.Proofs.Engine.Transcript

/-! What a run reports when it comes back, and what is on record of it then. Every way out of a run stores how the run stands, and
whatever the nodes are it stands so by its result and by the paths that it has suspended. -/

namespace Flowgraph.Engine
open Act Execution

variable {κ : Type} {caps : Capabilities (Engine κ)} {config : EngineConfig} {d : Definition} {c : Context} {id? : Option String}

/-- How a run is on record that has come back with a result, given how it stands if all goes well. It comes back, unless the answer
to an exchange does not. -/
structure Reported (result : Except (Failure EngineFault) α) (record? : Option RunRecord) (exchanges : List Exchange) (well : Status) : Prop where
  returned : ∀ a, result = .ok a → ∃ r, record? = some r ∧ r.status = well
  failed : ∀ fault, result = .error (.cause fault) → ∃ r, record? = some r ∧ r.status = .failed ∧ r.error = some fault.message
  lost : result = .error .overflow → ∃ e ∈ exchanges, e.overflows = true

/-- How a run stands whose walks have all gone well. -/
def standing (exchanges : List Exchange) : Status := if ∃ e ∈ exchanges, e.job?.isSome = true then .waiting else .completed

theorem ofSuspended_job? (exchanges : List Exchange) : Status.ofSuspended (exchanges.filterMap Exchange.job?) = standing exchanges := by
  unfold Status.ofSuspended standing
  by_cases suspended : ∃ e ∈ exchanges, e.job?.isSome = true
  · have left : exchanges.filterMap Exchange.job? ≠ [] := by
      obtain ⟨e,member,some⟩ := suspended
      obtain ⟨job,left⟩ := Option.isSome_iff_exists.mp some
      exact List.ne_nil_of_mem (List.mem_filterMap.mpr ⟨e,member,left⟩)
    rw [if_pos suspended,if_neg (mt List.isEmpty_iff.mp left)]
  · have none : exchanges.filterMap Exchange.job? = [] := by
      refine List.filterMap_eq_nil_iff.mpr fun e member => ?_
      exact Option.not_isSome_iff_eq_none.mp fun some => suspended ⟨e,member,some⟩
    rw [if_neg suspended,none,List.isEmpty_nil,if_pos rfl]

namespace Reported

variable {record? : Option RunRecord} {exchanges : List Exchange} {well : Status} {r : RunRecord}

theorem ok (found : record? = some r) (status : r.status = well) : Reported (α := α) (.ok a) record? exchanges well :=
  ⟨fun _ _ => ⟨r,found,status⟩,fun _ => nofun,nofun⟩

theorem error {fault : EngineFault} (found : record? = some r) (status : r.status = .failed) (error : r.error = some fault.message) :
    Reported (α := α) (.error (.cause fault)) record? exchanges well := by
  refine ⟨fun _ => nofun,?_,nofun⟩
  rintro _ ⟨⟩
  exact ⟨r,found,status,error⟩

theorem overflow (overflows : ∃ e ∈ exchanges, e.overflows = true) : Reported (α := α) (.error .overflow) record? exchanges well :=
  ⟨fun _ => nofun,fun _ => nofun,fun _ => overflows⟩

theorem map {result : Except (Failure EngineFault) α} (reported : Reported result record? exchanges well) (f : α → β) :
    Reported (result.map f) record? exchanges well := by
  rcases result with (fault | _) | a
  · exact ⟨fun _ => nofun,by rintro _ ⟨⟩; exact reported.failed fault rfl,nofun⟩
  · exact overflow (reported.lost rfl)
  · obtain ⟨r,found,status⟩ := reported.returned a rfl
    exact ok found status

end Reported

theorem runTriggers_reported (aloof : Aloof caps) (config : EngineConfig) (nodes : List Node) {s : Engine (List Exchange × κ)} {r : RunRecord}
    (found : s.record? c.executionId = some r) (untouched : s.outside.1 = []) :
    let x := runTriggers (equipped caps.transcribed) config nodes c s
    Reported x.1 (x.2.record? c.executionId) x.2.outside.1 (standing x.2.outside.1) := by
  obtain ⟨jobs,⟨-,records,exchanges,added,rfl⟩,faultless,accounted⟩ :=
    (aloof.accounted config nodes).branches And.left c (show nodes.filter Node.isTrigger ⊆ nodes from List.filter_subset_self _) s
  have overran := OverflowsIn.mapM (branch_overflowsIn caps config nodes c) (nodes.filter Node.isTrigger) s
  rw [untouched,List.nil_append] at added
  have kept := (record?_congr records c.executionId).trans found
  rw [runTriggers_equipped (Option.isSome_iff_exists.mpr ⟨r,kept⟩)]
  revert kept added faultless accounted overran
  rcases (nodes.filter Node.isTrigger).mapM (branch (terrain (equipped caps.transcribed) config nodes) c) s with ⟨e | branches,t⟩ <;>
    intro added faultless accounted overran kept
  · obtain rfl := faultless e rfl
    exact .overflow (overran rfl)
  · dsimp only
    cases sum : outcome branches with
    | error fault => exact .error (record?_updated kept) rfl rfl
    | ok jobs =>
      refine .ok (record?_updated kept) ?_
      rw [accounted branches rfl jobs sum,ofSuspended_job?,← added]
      rfl

/-- There is nothing for the run to do: it is skipped, or it cannot be run. -/
def Idle (d : Definition) (id? : Option String) : Prop :=
  (d.isActive = false ∧ id? = none) ∨ ¬(d.nodes.map Node.id).Nodup ∨ ∀ node ∈ d.nodes, node.isTrigger = false

theorem carryOut_reported (aloof : Aloof caps) (config : EngineConfig) (d : Definition) (id? : Option String) (now : Instant)
    {s : Engine (List Exchange × κ)} (found : s.record? c.executionId = some (.running c)) (fresh : c.logs = []) (untouched : s.outside.1 = []) :
    let x := carryOut (equipped caps.transcribed) config d c id? now s
    Reported x.1 (x.2.record? c.executionId) x.2.outside.1 (if d.isActive = false ∧ id? = none then .skipped else standing x.2.outside.1) ∧
      (Idle d id? → x.2.outside.1 = [] ∧ ∃ r, x.2.record? c.executionId = some r ∧ r.logs = []) := by
  have known : (s.record? c.executionId).isSome = true := Option.isSome_iff_exists.mpr ⟨_,found⟩
  unfold carryOut
  by_cases skipped : d.isActive = false ∧ id? = none
  · rw [if_pos (by simp [skipped]),store_equipped _ known]
    dsimp only
    rw [if_pos skipped]
    exact ⟨.ok (record?_updated found) rfl,fun _ => ⟨untouched,_,record?_updated found,rfl⟩⟩
  · rw [if_neg (by simpa using skipped)]
    dsimp only
    rw [if_neg skipped]
    cases runnable : Validation.checkRunnable d.nodes with
    | error fault =>
      simp only [onContext,recordFailure_equipped _ known]
      refine ⟨.error (record?_updated found) rfl rfl,fun _ => ⟨untouched,_,record?_updated found,?_⟩⟩
      exact fresh
    | ok _ =>
      refine ⟨runTriggers_reported aloof config d.nodes found untouched,fun idle => ?_⟩
      -- A run with nothing to do does not get as far as its triggers.
      obtain ⟨distinct,trigger,member,is⟩ := Validation.checkRunnable_eq_ok_iff.mp runnable
      obtain skips | repeats | none := idle
      · exact absurd skips skipped
      · exact absurd distinct repeats
      · rw [none trigger member] at is
        cases is

/-- The transcript of a run that is started. -/
def transcript (caps : Capabilities (Engine κ)) (config : EngineConfig) (d : Definition) (input : Json) (id? : Option String) (s : Engine κ) :
    List Exchange := (execute (equipped caps.transcribed) config d input id? (s.beside [])).2.outside.1

/-- What is on record of a run agrees with its result. A run that comes back is skipped if its automation is inactive and it is given
no id; otherwise it is waiting if some path of it has been suspended, and completed if none has. One that fails is on record with the
text of its fault. It never stays running: it comes back, unless some answer that it was given does not. If it is skipped or cannot be
run, nothing is asked of the capabilities and there is no trace. -/
theorem record_agrees_with_result (aloof : Aloof caps) (config : EngineConfig) (d : Definition) (input : Json) (id? : Option String) (s : Engine κ) :
    let x := execute (equipped caps) config d input id? s
    let exchanges := transcript caps config d input id? s
    let record? := x.2.record? (nameFor id? s)
    Reported x.1 record? exchanges (if d.isActive = false ∧ id? = none then .skipped else
        if ∃ e ∈ exchanges, e.job?.isSome = true then .waiting else .completed) ∧
      (∀ id, x.1 = .ok id → id = nameFor id? s) ∧
      (Idle d id? → exchanges = [] ∧ ∃ r, record? = some r ∧ r.logs = []) := by
  have opening : (opened d input id? (s.beside [])).record? (openingContext d input id? (s.beside [])).executionId =
      some (.running (openingContext d input id? (s.beside []))) := (record?_opened d input id? _).trans (if_pos rfl)
  obtain ⟨reported,idle⟩ := carryOut_reported aloof config d id? (s.beside []).clock opening rfl rfl
  -- With the transcript the run comes to the same, and there it is what is left to do once it is on record.
  have alike : Agree True (fun p t => p.bare = t) Eq (execute (equipped caps.transcribed) config d input id? (s.beside []))
      (execute (equipped caps) config d input id? s) := (parallel_transcribed caps).execute config (fun _ => trivial) input id? rfl
  unfold transcript
  dsimp only
  rw [← alike.result,← alike.related,execute_equipped aloof.transcribed.now,bind_apply]
  revert reported idle
  rcases carryOut (equipped caps.transcribed) config d (openingContext d input id? (s.beside [])) id? (s.beside []).clock
    (opened d input id? (s.beside [])) with ⟨e | _,t⟩ <;> intro reported idle
  · exact ⟨reported.map fun _ => nameFor id? s,fun _ => nofun,idle⟩
  · refine ⟨reported.map fun _ => nameFor id? s,?_,idle⟩
    rintro _ ⟨⟩
    rfl

/-- Two triggers, behind one of them a delay and behind the other a contact to create. -/
def halfway : Definition := ⟨.nil,.nil,"halfway",true,[⟨"first",["pause"],.trigger ⟨"crm","new",none⟩⟩,
  ⟨"second",["register"],.trigger ⟨"crm","new",none⟩⟩,⟨"pause",[],.delay 0⟩,⟨"register",[],.contacts ⟨.create,.object []⟩⟩],
  ⟨0,false⟩,⟨0,false⟩⟩

/-- One run has suspended its only path and is waiting. Another has suspended a path as well, but nobody answers the call on its
second one: it has failed, and its record tells of the fault. -/
theorem halfway_record_agrees :
    (let x := execute (equipped (capabilities silent)) standard pausing .null none (after [])
      let exchanges := transcript (capabilities silent) standard pausing .null none (after [])
      x.1 = .ok (nameFor none (after [])) ∧ exchanges.map Exchange.job? = [some (after []).queue.nextId.text] ∧
        ∃ r, x.2.record? (nameFor none (after [])) = some r ∧ r.status = .waiting) ∧
    let x := execute (equipped (capabilities silent)) standard halfway .null (some "run") (after [])
    let exchanges := transcript (capabilities silent) standard halfway .null (some "run") (after [])
    x.1 = .error (.cause (.nodeFailed "register" (.effect "nobody answers"))) ∧
      exchanges.map Exchange.job? = [some (after []).queue.nextId.text,none] ∧
      ∃ r, x.2.record? "run" = some r ∧ r.status = .failed ∧ r.error = some "node 'register' failed: nobody answers" := by
  have aloof := aloof_capabilities silent
  constructor
  · have result : (execute (equipped (capabilities silent)) standard pausing .null none (after [])).1 = .ok (nameFor none (after [])) := by
      decide +kernel
    obtain ⟨r,found,status⟩ := (record_agrees_with_result aloof standard pausing .null none (after [])).1.returned _ result
    refine ⟨result,by decide +kernel,r,found,status.trans ?_⟩
    decide +kernel
  · have result : (execute (equipped (capabilities silent)) standard halfway .null (some "run") (after [])).1 =
        .error (.cause (.nodeFailed "register" (.effect "nobody answers"))) := by decide +kernel
    obtain ⟨r,found,status,error⟩ := (record_agrees_with_result aloof standard halfway .null (some "run") (after [])).1.failed _ result
    exact ⟨result,by decide +kernel,r,found,status,error⟩

end Flowgraph.Engine
