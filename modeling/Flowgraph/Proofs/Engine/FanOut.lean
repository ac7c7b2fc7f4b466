import Flowgraph.Proofs.Action.Bag
import Flowgraph.Proofs.Automation.Cycle
import Flowgraph.Proofs.Engine.History
import Flowgraph.Proofs.Engine.Impartial

/-! Runs with several triggers. What is walked from one trigger does not show in what is walked from another, and the run is put
together from its walks: their traces one after another, what they have changed of the data with the later over the earlier, and
the first of their faults. -/

namespace Flowgraph

/-- The value of a key, where the data have one and it is not what the seed has there. -/
def Json.changed? (seed data : Json) (key : String) : Option Json := (data.field? key).filter (seed.field? key != some ·)

/-- The value of a key after all changes of a seed: that of the last to change it, or else the seed's. -/
def Json.lastLeft (seed : Json) (lefts : List Json) (key : String) : Option Json :=
  (lefts.reverse.findSome? (seed.changed? · key)).or (seed.field? key)

namespace Execution
open Act

theorem lookup_changes {data : Json} (bag : data.IsBag) (seed : Json) (key : String) :
    (changes seed data).reverse.lookup key = seed.changed? data key := by
  obtain ⟨fields,rfl,ordered⟩ := bag
  unfold changes Json.changed?
  rw [Path.entries,Fields.lookup_reverse (Fields.ordered_filter ordered _),Fields.lookup_filter ordered]
  rfl

theorem lookup_foldl_changes (seed : Json) {branches : List Branch} (bags : ∀ b ∈ branches, b.context.data.IsBag) (base : Fields) (key : String) :
    (branches.foldl (fun data b => Fields.merge data (changes seed b.context.data)) base).lookup key =
      ((branches.map (·.context.data)).reverse.findSome? (seed.changed? · key)).or (base.lookup key) := by
  induction branches generalizing base with
  | nil => rfl
  | cons b rest ih =>
    rw [List.foldl_cons,ih (fun b member => bags b (List.mem_cons_of_mem _ member)),Fields.lookup_merge,
      lookup_changes (bags b (List.mem_cons_self ..)),List.map_cons,List.reverse_cons,List.findSome?_append,Option.or_assoc]
    simp

theorem ordered_foldl_changes (seed : Json) {base : Fields} (ordered : Fields.Ordered base) (branches : List Branch) :
    Fields.Ordered (branches.foldl (fun data b => Fields.merge data (changes seed b.context.data)) base) := by
  induction branches generalizing base with
  | nil => exact ordered
  | cons b rest ih => exact ih (Fields.ordered_merge ordered)

/-- The data of a run are a bag, in which every key has the value that was left to it last. -/
theorem joined_data {c : Context} (bag : c.data.IsBag) {branches : List Branch} (bags : ∀ b ∈ branches, b.context.data.IsBag) :
    ∃ data, (joined c branches).data = .object data ∧ Fields.Ordered data ∧
      ∀ key, data.lookup key = c.data.lastLeft (branches.map (·.context.data)) key := by
  obtain ⟨fields,seed,ordered⟩ := bag
  refine ⟨_,rfl,?_,?_⟩
  · rw [seed]
    exact ordered_foldl_changes _ ordered branches
  · intro key
    rw [lookup_foldl_changes c.data bags,seed]
    rfl

end Execution

namespace Engine
open Act Execution

variable {κ : Type}

/-- What a walk has come to, what it has used on the way and where it has left the context and the engine. -/
abbrev Walked (κ : Type) := Except (Failure EngineFault) (List String) × Context × List Use × Engine κ

def Walked.fault? (w : Walked κ) : Option EngineFault :=
  match w.1 with
  | .error (.cause fault) => some fault
  | _ => none

def Walked.jobs (w : Walked κ) : List String :=
  match w.1 with
  | .ok jobs => jobs
  | _ => []

/-- A branch of a run that is as the walk from its trigger alone. -/
structure Mirrors (b : Branch) (w : Walked κ) : Prop where
  data : b.context.data = w.2.1.data
  trace : List.Forall₂ LogEntry.Alike b.context.logs w.2.1.logs
  result : (∃ jobs jobs', b.result = .ok jobs ∧ w.1 = .ok jobs' ∧ jobs.length = jobs'.length) ∨
    ∃ fault, b.result = .error fault ∧ w.1 = .error (.cause fault)

section branches

variable {caps : Capabilities (Engine κ)} {stays : Engine κ → Prop} {config : EngineConfig} {nodes : List Node} {c : Context}
  {s s₀ : Engine κ}

/-- The walk from a trigger alone, by itself in a state of its own. -/
def alone (caps : Capabilities (Engine κ)) (config : EngineConfig) (nodes : List Node) (c : Context) (s₀ : Engine κ) (trigger : Node) :
    Walked κ := walk (terrain (equipped caps).noted config nodes) trigger (c,[],s₀)

theorem branch_mirrors (impartial : Impartial caps stays) (config : EngineConfig) (nodes : List Node) (fresh : c.logs = []) (here : stays s)
    (there : stays s₀) (used : List Use) (trigger : Node) :
    let w := alone caps config nodes c s₀ trigger
    let x := branch (terrain (equipped caps).noted config nodes) c trigger (used,s)
    (w.1 = .error .overflow ∧ x.1 = .error .overflow) ∨
      w.1 ≠ .error .overflow ∧ ∃ b s', x = (.ok b,used ++ w.2.2.1,s') ∧ Mirrors b w ∧ stays s' ∧ s'.records = s.records := by
  have start : Beside stays used s.records (c.fork,used,s) (c,[],s₀) :=
    ⟨⟨rfl,rfl,rfl,rfl⟩,rfl,by rw [fresh]; exact .nil,(List.append_nil used).symm,here,there,rfl⟩
  have agree := start.walk impartial config nodes trigger
  unfold branch alone
  revert agree
  rcases walk (terrain (equipped caps).noted config nodes) trigger (c.fork,used,s) with ⟨x,d,uses,t⟩
  rcases walk (terrain (equipped caps).noted config nodes) trigger (c,[],s₀) with ⟨y,d',uses',t'⟩
  intro agree
  cases agree with
  | ok jobs beside =>
    obtain ⟨-,data,trace,same,stays,-,records⟩ := beside
    dsimp only at same
    subst same
    exact .inr ⟨nofun,_,t,rfl,⟨data.symm,trace,.inl ⟨_,_,rfl,rfl,jobs.length_eq⟩⟩,stays,records⟩
  | error e beside =>
    obtain ⟨-,data,trace,same,stays,-,records⟩ := beside
    cases e with
    | cause fault =>
      dsimp only at same
      subst same
      exact .inr ⟨nofun,_,t,rfl,⟨data.symm,trace,.inr ⟨fault,rfl,rfl⟩⟩,stays,records⟩
    | overflow => exact .inl ⟨rfl,rfl⟩
  | left lenient => exact absurd trivial lenient
  | right lenient => exact absurd trivial lenient

theorem branches_mirror (impartial : Impartial caps stays) (config : EngineConfig) (nodes : List Node) (fresh : c.logs = []) (here : stays s)
    (there : stays s₀) (used : List Use) (triggers : List Node) :
    let walks := triggers.map (alone caps config nodes c s₀)
    let x := triggers.mapM (branch (terrain (equipped caps).noted config nodes) c) (used,s)
    ((∃ w ∈ walks, w.1 = .error .overflow) ∧ x.1 = .error .overflow) ∨
      (∀ w ∈ walks, w.1 ≠ .error .overflow) ∧ ∃ branches s', x = (.ok branches,used ++ walks.flatMap (·.2.2.1),s') ∧
        List.Forall₂ Mirrors branches walks ∧ s'.records = s.records := by
  induction triggers generalizing s used with
  | nil =>
    refine .inr ⟨fun w member => absurd member List.not_mem_nil,[],s,?_,.nil,rfl⟩
    rw [List.map_nil,List.flatMap_nil,List.append_nil]
    rfl
  | cons trigger rest ih =>
    dsimp only
    rw [List.mapM_cons,List.map_cons]
    obtain ⟨overflows,stopped⟩ | ⟨fits,b,t,walked,mirrors,stays,records⟩ := branch_mirrors impartial config nodes fresh here there used trigger
    · rw [bind_error (Prod.ext stopped rfl)]
      exact .inl ⟨⟨_,List.mem_cons_self ..,overflows⟩,rfl⟩
    rw [bind_ok walked]
    obtain ⟨⟨w,member,overflows⟩,stopped⟩ | ⟨others,branches,u,walked,mirror,records'⟩ := ih stays (used ++ (alone caps config nodes c s₀ trigger).2.2.1)
    · rw [bind_error (Prod.ext stopped rfl)]
      exact .inl ⟨⟨w,List.mem_cons_of_mem _ member,overflows⟩,rfl⟩
    · rw [bind_ok walked]
      refine .inr ⟨List.forall_mem_cons.mpr ⟨fits,others⟩,b :: branches,u,?_,.cons mirrors mirror,records'.trans records⟩
      rw [List.flatMap_cons,← List.append_assoc]
      rfl

theorem outcome_mirrors {branches : List Branch} {walks : List (Walked κ)} (mirror : List.Forall₂ Mirrors branches walks) :
    match walks.findSome? Walked.fault? with
    | some fault => outcome branches = .error fault
    | none => ∃ jobs, outcome branches = .ok jobs ∧ jobs.length = (walks.flatMap Walked.jobs).length := by
  induction mirror with
  | nil => exact ⟨[],rfl,rfl⟩
  | @cons b w branches walks first rest ih =>
    rw [List.findSome?_cons,outcome]
    obtain ⟨jobs,jobs',here,there,same⟩ | ⟨fault,here,there⟩ := first.result
    · have well : Walked.fault? w = none := by rw [Walked.fault?,there]
      have left : Walked.jobs w = jobs' := by rw [Walked.jobs,there]
      rw [here,well]
      dsimp only
      revert ih
      cases walks.findSome? Walked.fault? with
      | some fault =>
        intro failed
        dsimp only at failed ⊢
        rw [failed]
        rfl
      | none =>
        rintro ⟨more,done,others⟩
        refine ⟨jobs ++ more,by rw [done]; rfl,?_⟩
        rw [List.flatMap_cons,List.length_append,List.length_append,same,others,left]
    · have failed : Walked.fault? w = some fault := by rw [Walked.fault?,there]
      rw [here,failed]
      rfl

theorem ofSuspended_congr {jobs jobs' : List String} (same : jobs.length = jobs'.length) : Status.ofSuspended jobs = .ofSuspended jobs' := by
  cases jobs with
  | nil =>
    cases jobs' with
    | nil => rfl
    | cons _ _ => cases same
  | cons _ _ =>
    cases jobs' with
    | nil => cases same
    | cons _ _ => rfl

/-- How a run ends that is put together from walks done alone: with the first fault that there is, or with all of their jobs. -/
def EndsAs (walks : List (Walked κ)) (value : α) (result : Except (Failure EngineFault) α) (r : RunRecord) : Prop :=
  match walks.findSome? Walked.fault? with
  | some fault => result = .error (.cause fault) ∧ r.status = .failed ∧ r.error = some fault.message
  | none => result = .ok value ∧ r.status = .ofSuspended (walks.flatMap Walked.jobs) ∧ r.error = none

/-- A run that is put together from walks done alone. The jobs that it leaves are among the uses that it has made of the
capabilities. -/
structure Assembled (c : Context) (walks : List (Walked κ)) (value : α) (result : Except (Failure EngineFault) α) (used : List Use)
    (s : Engine κ) : Prop where
  used : used = walks.flatMap (·.2.2.1)
  record : ∃ r data, s.record? c.executionId = some r ∧ List.Forall₂ LogEntry.Alike r.logs (walks.flatMap (·.2.1.logs)) ∧
    r.output = some (.object data) ∧ Fields.Ordered data ∧ (∀ key, data.lookup key = c.data.lastLeft (walks.map (·.2.1.data)) key) ∧
    EndsAs walks value result r

theorem Assembled.fits {walks : List (Walked κ)} {value : α} {result : Except (Failure EngineFault) α} {used : List Use}
    (assembled : Assembled c walks value result used s) : result ≠ .error .overflow := by
  obtain ⟨-,r,data,-,-,-,-,-,ends⟩ := assembled
  unfold EndsAs at ends
  intro overflows
  split at ends
  · cases overflows.symm.trans ends.1
  · cases overflows.symm.trans ends.1

theorem Assembled.value {walks : List (Walked κ)} {act : Act (List Use × Engine κ) EngineFault Unit} {p : List Use × Engine κ}
    (assembled : Assembled c walks () (act p).1 (act p).2.1 (act p).2.2) (value : α) :
    let x := (act >>= fun _ => pure value) p
    Assembled c walks value x.1 x.2.1 x.2.2 := by
  obtain ⟨used,r,data,found,trace,output,ordered,each,ends⟩ := assembled
  have state : ((act >>= fun _ => pure value) p).2 = (act p).2 := state_bind_pure act (fun _ => value) p
  dsimp only
  rw [state]
  refine ⟨used,r,data,found,trace,output,ordered,each,?_⟩
  unfold EndsAs at ends ⊢
  cases ended : walks.findSome? Walked.fault? with
  | some fault =>
    rw [ended] at ends
    exact ⟨bind_fst ends.1,ends.2⟩
  | none =>
    rw [ended] at ends
    have done : act p = (.ok (),(act p).2) := Prod.ext ends.1 rfl
    exact ⟨by rw [bind_ok done]; rfl,ends.2⟩

theorem runTriggers_assembled (impartial : Impartial caps stays) (config : EngineConfig) (nodes : List Node) (fresh : c.logs = [])
    (bag : c.data.IsBag) (here : stays s) (there : stays s₀) (found : s.record? c.executionId = some (.running c)) :
    let walks := (nodes.filter Node.isTrigger).map (alone caps config nodes c s₀)
    let x := runTriggers (equipped caps).noted config nodes c ([],s)
    ((∃ w ∈ walks, w.1 = .error .overflow) ∧ x.1 = .error .overflow) ∨
      (∀ w ∈ walks, w.1 ≠ .error .overflow) ∧ Assembled c walks () x.1 x.2.1 x.2.2 := by
  intro walks x
  obtain ⟨overflows,stopped⟩ | ⟨fits,branches,t,walked,mirror,records⟩ :=
    branches_mirror impartial config nodes fresh here there [] (nodes.filter Node.isTrigger)
  · exact .inl ⟨overflows,bind_fst stopped⟩
  refine .inr ⟨fits,?_⟩
  have kept : t.record? (joined c branches).executionId = some (.running c) := (record?_congr records _).trans found
  have known : (t.record? (joined c branches).executionId).isSome = true := Option.isSome_iff_exists.mpr ⟨_,kept⟩
  have lefts : branches.map (·.context.data) = walks.map (·.2.1.data) := by
    rw [← List.forall₂_eq_eq_eq,List.forall₂_map_left_iff,List.forall₂_map_right_iff]
    exact mirror.imp fun b w mirrors => mirrors.data
  have bags : ∀ b ∈ branches, b.context.data.IsBag := by
    intro b member
    have left : b.context.data ∈ walks.map (·.2.1.data) := lefts ▸ List.mem_map_of_mem member
    obtain ⟨w,inside,same⟩ := List.mem_map.mp left
    obtain ⟨trigger,-,rfl⟩ := List.mem_map.mp inside
    rw [← same]
    exact walk_isBag _ trigger bag
  have trace : List.Forall₂ LogEntry.Alike ((RunRecord.running c).logs ++ (joined c branches).logs) (walks.flatMap (·.2.1.logs)) := by
    have logs : (joined c branches).logs = branches.flatMap (·.context.logs) := by
      rw [joined,fresh,List.nil_append]
    rw [logs]
    exact List.rel_flatMap mirror fun _ _ mirrors => mirrors.trace
  obtain ⟨data,shape,ordered,each⟩ := joined_data bag bags
  rw [lefts] at each
  have whole : x = _ := bind_ok walked
  rw [whole]
  have sum := outcome_mirrors mirror
  cases ended : walks.findSome? Walked.fault? with
  | some fault =>
    rw [ended] at sum
    dsimp only at sum
    rw [sum]
    simp only [onContext,recordFailure_noted,recordFailure_equipped _ known]
    refine ⟨rfl,_,data,record?_updated kept,trace,congrArg some shape,ordered,each,?_⟩
    rw [EndsAs,ended]
    exact ⟨rfl,rfl,rfl⟩
  | none =>
    rw [ended] at sum
    obtain ⟨jobs,all,length⟩ := sum
    rw [all]
    simp only [onContext,finish_noted,finish_equipped _ known]
    refine ⟨rfl,_,data,record?_updated kept,trace,congrArg some shape,ordered,each,?_⟩
    rw [EndsAs,ended]
    exact ⟨rfl,ofSuspended_congr length,rfl⟩

theorem execute_noted (config : EngineConfig) (now : ∀ s, caps.now s = s.clock) {d : Definition} (runnable : Validation.checkRunnable d.nodes = .ok ())
    (input : Json) {id? : Option String} (executed : d.isActive = true ∨ id?.isSome = true) (s : Engine κ) :
    execute (equipped caps).noted config d input id? ([],s) =
      (runTriggers (equipped caps).noted config d.nodes (openingContext d input id? s) >>= fun _ => pure (nameFor id? s))
        ([],opened d input id? s) := by
  obtain ⟨clock,call,suspend⟩ := caps
  obtain rfl : clock = (·.clock) := funext now
  unfold execute
  cases id? with
  | some id =>
    simp only [runnable,Option.isNone_some,Bool.and_false]
    rfl
  | none =>
    obtain active | given := executed
    · simp only [runnable,active,Bool.not_true,Bool.false_and]
      rfl
    · cases given

/-- Trigger subtrees are independent of each other: a run is put together from the walks of its triggers, each of them done alone, from
the seed and in any state in which the capabilities answer as they do. It leaves the calendar exactly if one of them does. -/
theorem run_assembled (impartial : Impartial caps stays) {d : Definition} (unique : (d.nodes.map Node.id).Nodup)
    (triggered : ∃ node ∈ d.nodes, node.isTrigger = true) (id? : Option String) (executed : d.isActive = true ∨ id?.isSome = true)
    {payload : Fields} (ordered : Fields.Ordered payload) (here : stays (opened d (.object payload) id? s)) (there : stays s₀) :
    let c := openingContext d (.object payload) id? s
    let walks := (d.nodes.filter Node.isTrigger).map (alone caps config d.nodes c s₀)
    let x := execute (equipped caps) config d (.object payload) id? s
    let used := (execute (equipped caps).noted config d (.object payload) id? ([],s)).2.1
    (x.1 = .error .overflow ↔ ∃ w ∈ walks, w.1 = .error .overflow) ∧
      (x.1 ≠ .error .overflow → Assembled c walks (nameFor id? s) x.1 used x.2) := by
  intro c walks x used
  have runnable : Validation.checkRunnable d.nodes = .ok () := Validation.checkRunnable_eq_ok_iff.mpr ⟨unique,triggered⟩
  have found : (opened d (.object payload) id? s).record? c.executionId = some (.running c) :=
    (record?_opened d (.object payload) id? _).trans (if_pos rfl)
  -- The run with notes has all that the run itself has.
  have bare := execute_bare (equipped caps) config d (.object payload) id? [] s
  have result : _ = x.1 := bare.result
  have state : _ = x.2 := bare.related
  have whole := execute_noted config impartial.now runnable (.object payload) executed s
  obtain ⟨overflows,stopped⟩ | ⟨fits,assembled⟩ :=
    runTriggers_assembled impartial config d.nodes rfl ⟨payload,rfl,ordered⟩ here there found
  · rw [← result,whole]
    exact ⟨iff_of_true (bind_fst stopped) overflows,fun goes => absurd (bind_fst stopped) goes⟩
  · have done : Assembled c walks (nameFor id? s) x.1 used x.2 := by
      rw [← result,← state]
      unfold used
      rw [whole]
      exact assembled.value (nameFor id? s)
    refine ⟨iff_of_false done.fits ?_,fun _ => done⟩
    rintro ⟨w,member,overflows⟩
    exact fits w member overflows

end branches

/-- Two triggers write to the same field; then the first leads to a delay and the second to a node that fails, like the third. -/
def threefold : Definition := ⟨.nil,.nil,"threefold",true,
  [⟨"first",["left"],.trigger ⟨"crm","new",none⟩⟩,⟨"second",["right"],.trigger ⟨"crm","new",none⟩⟩,
    ⟨"third",["notify"],.trigger ⟨"crm","new",none⟩⟩,⟨"left",["pause"],.transform [⟨"side","'left'"⟩]⟩,
    ⟨"right",["register"],.transform [⟨"side","'right'"⟩]⟩,⟨"pause",[],.delay 5⟩,⟨"register",[],.contacts ⟨.create,.object []⟩⟩,
    ⟨"notify",[],.sendEmail ⟨"","hello","",none⟩⟩],⟨0,false⟩,⟨0,false⟩⟩

def undecided : Fields := [("side",.string "none")]

/-- The walks are done in an engine that has the job of another run in its queue. -/
def threefoldWalks : List (Walked Unit) :=
  (threefold.nodes.filter Node.isTrigger).map (alone (capabilities silent) standard threefold.nodes
    (openingContext threefold (.object undecided) (some "run") (Engine.start () ⟨0,false⟩))
    (after [.execute pausing .null (some "other"),.put pausing]))

/-- The run fails for what the second trigger leads to, after all three have been walked from. -/
theorem threefold_run_assembled :
    let x := execute (equipped (capabilities silent)) standard threefold (.object undecided) (some "run") (Engine.start () ⟨0,false⟩)
    let used := (execute (equipped (capabilities silent)).noted standard threefold (.object undecided) (some "run") ([],Engine.start () ⟨0,false⟩)).2.1
    x.1 = .error (.cause (.nodeFailed "register" (.effect "nobody answers"))) ∧ used.length = 2 ∧
      ∃ r data, x.2.record? "run" = some r ∧ r.status = .failed ∧ r.logs.length = 17 ∧ r.output = some (.object data) ∧
        (data.lookup "side").map Json.plain = some "right" := by
  intro x used
  have unique : (threefold.nodes.map Node.id).Nodup := by decide
  have triggered : ∃ node ∈ threefold.nodes, node.isTrigger = true := by decide
  have ordered : Fields.Ordered undecided := List.pairwise_singleton ..
  have here : (opened threefold (.object undecided) (some "run") (Engine.start () ⟨0,false⟩)).queue.now = ⟨0,false⟩ := rfl
  have there : (after [.execute pausing .null (some "other"),.put pausing]).queue.now = ⟨0,false⟩ := by decide +kernel
  have impartial : Impartial (capabilities silent) (·.queue.now = ⟨0,false⟩) := impartial_capabilities (fun _ _ _ => rfl) _
  have whole : (x.1 = .error .overflow ↔ ∃ w ∈ threefoldWalks, w.1 = .error .overflow) ∧ (x.1 ≠ .error .overflow →
      Assembled (openingContext threefold (.object undecided) (some "run") (Engine.start () ⟨0,false⟩)) threefoldWalks "run" x.1 used x.2) :=
    run_assembled impartial unique triggered (some "run") (.inl rfl) ordered here there
  have fits : x.1 ≠ .error .overflow := by decide +kernel
  have fault : threefoldWalks.findSome? Walked.fault? = some (.nodeFailed "register" (.effect "nobody answers")) := by decide +kernel
  have counts : (threefoldWalks.flatMap (·.2.2.1)).length = 2 ∧ (threefoldWalks.flatMap (·.2.1.logs)).length = 17 := by decide +kernel
  have left : ((Json.object undecided).lastLeft (threefoldWalks.map (·.2.1.data)) "side").map Json.plain = some "right" := by decide +kernel
  obtain ⟨uses,r,data,found,trace,output,-,each,ends⟩ := whole.2 fits
  rw [EndsAs,fault] at ends
  refine ⟨ends.1,(congrArg List.length uses).trans counts.1,r,data,found,ends.2.1,trace.length_eq.trans counts.2,output,?_⟩
  rw [each]
  exact left

end Engine
end Flowgraph
