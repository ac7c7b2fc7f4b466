import Flowgraph.Proofs.Action.Bag
import Flowgraph.Proofs.Engine.Coherence
import Flowgraph.Proofs.Engine.Redelivery

/-! The fields of the output on record. A walk takes no field out of the data of its run, but a delivery goes on from the data that
its job was left with and stores these in place of what is on record. So a field can be lost that has come to the record meanwhile. -/

namespace Flowgraph
open Act

theorem walk_keepsKeys (t : Terrain σ) (node : Node) (p : Context × σ) : p.1.data.keys ⊆ (walk t node p).2.1.data.keys :=
  (Edits.walk (T := Json.KeepsKeys) t).visit (t.maxDepth + 1) node p

/-- The fields of the output on record; there are none before a first update. -/
def RunRecord.fields (r : RunRecord) : List String := (r.output.map Json.keys).getD []

namespace Engine
open Execution

variable {κ : Type} {outside : Outside κ} {config : EngineConfig} {s s' : Engine κ} {nodes : List Node} {c : Context} {k : Continuation}

/-- Records of a run that each have all fields of those before them, and from the first on all keys of some data. -/
structure Gathers (data : Json) (records : Nat → RunRecord) : Prop where
  start : data.keys ⊆ (records 0).fields
  grow : ∀ {m n}, m ≤ n → (records m).fields ⊆ (records n).fields

theorem Gathers.const {data : Json} {r : RunRecord} (start : data.keys ⊆ r.fields) : Gathers data fun _ => r := ⟨start,fun _ _ => id⟩

theorem Gathers.cons {data : Json} {r : RunRecord} {records : Nat → RunRecord} (start : data.keys ⊆ r.fields)
    (more : r.fields ⊆ (records 0).fields) (rest : ∀ {m n}, m ≤ n → (records m).fields ⊆ (records n).fields) :
    Gathers data fun count => Nat.casesOn count r records where
  start := start
  grow := by
    intro m n le
    cases m with
    | zero =>
      cases n with
      | zero => exact fun _ => id
      | succ n => exact fun _ member => rest (Nat.zero_le n) (more member)
    | succ m =>
      cases n with
      | zero => exact absurd le (Nat.not_succ_le_zero m)
      | succ n => exact rest (Nat.le_of_succ_le_succ le)

/-- One walk of a run: its outcome is stored with the data that it has led to. -/
theorem continueAt_output (outside : Outside κ) (config : EngineConfig) {node : Node} (member : node ∈ nodes)
    (recorded : (s.record? c.executionId).isSome = true)
    (returned : (continueAt (backend outside) config nodes node (c,s)).1 ≠ .error .overflow) :
    let x := continueAt (backend outside) config nodes node (c,s)
    c.data.keys ⊆ x.2.1.data.keys ∧ ∃ r, x.2.2.record? c.executionId = some r ∧ r.output = some x.2.1.data := by
  have kept := walk_keepsKeys (terrain (backend outside) config nodes) node (c,s)
  obtain ⟨jobs,⟨run,-,added,extended,-⟩,-⟩ := walk_growth outside config node member c s
  obtain ⟨r,found⟩ := Option.isSome_iff_exists.mp (extended.recorded recorded)
  rw [continueAt_apply run.executionId (extended.recorded recorded)] at returned ⊢
  revert returned kept found
  rcases walk (terrain (backend outside) config nodes) node (c,s) with ⟨(fault | _) | jobs,d,t⟩ <;> intro returned kept found
  · exact ⟨kept,_,record?_updated found,rfl⟩
  · exact absurd rfl returned
  · exact ⟨kept,_,record?_updated found,rfl⟩

theorem fields_of_output {r : RunRecord} {data : Json} (output : r.output = some data) : r.fields = data.keys := by
  rw [RunRecord.fields,output]
  rfl

theorem continueAll_gathers {ids : List String} (nonempty : ids ≠ []) (recorded : (s.record? c.executionId).isSome = true)
    (returned : (continueAll (backend outside) config nodes ids (c,s)).1 ≠ .error .overflow) :
    ∃ records, Gathers c.data records ∧ ∀ count,
      (continueAll (backend outside) config nodes (ids.take (count + 1)) (c,s)).2.2.record? c.executionId = some (records count) := by
  induction ids generalizing c s with
  | nil => exact absurd rfl nonempty
  | cons id rest ih =>
    simp only [List.take_succ_cons]
    cases present : Node.find? nodes id with
    | none =>
      obtain ⟨r,found⟩ := Option.isSome_iff_exists.mp recorded
      simp only [continueAll_missing _ _ present,recordFailure_apply _ recorded]
      refine ⟨_,?_,fun _ => record?_updated found⟩
      exact .const fun _ inside => inside
    | some node =>
      have member := List.mem_of_find?_eq_some present
      obtain ⟨run,-⟩ := continueAt_outcome outside config node member recorded
      have first := continueAt_output outside config member recorded
      rw [continueAll_cons _ _ present] at returned
      simp only [continueAll_cons _ _ present]
      revert run first returned
      rcases continueAt (backend outside) config nodes node (c,s) with ⟨e | _,d,t⟩ <;> intro returned run first
      · obtain ⟨kept,r,stored,output⟩ := first returned
        exact ⟨_,.const (fields_of_output output ▸ kept),fun _ => stored⟩
      · obtain ⟨kept,r,stored,output⟩ := first nofun
        have start : c.data.keys ⊆ r.fields := fields_of_output output ▸ kept
        cases rest with
        | nil =>
          simp only [List.take_nil]
          exact ⟨_,.const start,fun _ => stored⟩
        | cons next others =>
          have own : d.executionId = c.executionId := run.executionId
          have known : (t.record? d.executionId).isSome = true := own ▸ Option.isSome_iff_exists.mpr ⟨r,stored⟩
          obtain ⟨records,gathers,each⟩ := ih (List.cons_ne_nil _ _) known returned
          refine ⟨_,.cons start (fields_of_output output ▸ gathers.start) gathers.grow,fun count => ?_⟩
          cases count with
          | zero => exact stored
          | succ count => exact own ▸ each count

/-- All that a delivery stores has the fields of what it has stored before, and those of the data that its job was left with. -/
theorem resume_gathers (outside : Outside κ) (config : EngineConfig) (recorded : (s.record? k.context.executionId).isSome = true)
    (returned : (resume (backend outside) config k s).1 ≠ .error .overflow) :
    ∃ records, Gathers k.context.data records ∧ ∀ more, storedAfter outside config k s more = some (records more) := by
  have known : (s.record? (Context.restore k.context).executionId).isSome = true := recorded
  obtain ⟨r,found⟩ := Option.isSome_iff_exists.mp known
  unfold storedAfter
  unfold resume at returned ⊢
  dsimp only at returned ⊢
  simp only [bind_apply,attempt,resumeNodes_apply] at returned ⊢
  revert returned
  cases nodesFor config k.automationId k.nodes s with
  | none =>
    intro returned
    simp only [onContext,recordFailure_apply _ known]
    refine ⟨_,?_,fun _ => record?_updated found⟩
    exact .const fun _ => id
  | some nodes =>
    dsimp only
    cases k.next with
    | nil =>
      intro returned
      simp only [List.take_nil,List.isEmpty_nil,if_true,onContext,finish_apply _ known]
      refine ⟨_,?_,fun _ => record?_updated found⟩
      exact .const fun _ => id
    | cons id rest =>
      intro returned
      simp only [List.take_succ_cons,List.isEmpty_cons] at returned ⊢
      exact continueAll_gathers (List.cons_ne_nil id rest) known returned

/-! ### All records of a run -/

/-- The event starts a run with this id. -/
def Event.starts (s : Engine κ) (id : String) : Event → Bool
  | .execute _ _ id? => nameFor id? s == id
  | _ => false

/-- The records of a run that an event stores, one after another. A delivery stores one for each of the ids that it goes on at, up to
the first that fails, which stands for the rest; and one where there are no ids. -/
def Event.stored (outside : Outside κ) (config : EngineConfig) (s : Engine κ) (id : String) : Event → List RunRecord
  | .execute d input id? => if nameFor id? s = id then
      ((Event.execute d input id?).apply outside config s |>.record? id).toList
    else []
  | .work worker => match taken? worker s with
    | some k => if k.context.executionId = id then
        (List.range (max 1 k.next.length)).filterMap
          (storedAfter outside config k { s with queue := (DelayQueue.claim worker.lease s.queue).2 })
      else []
    | none => []
  | _ => []

/-- All that has been stored of a run since it was last started, the latest first. -/
def storedRecords (outside : Outside κ) (config : EngineConfig) (id : String) : List (Engine κ × Event) → List RunRecord
  | [] => []
  | (s,event) :: earlier => (event.stored outside config s id).reverse ++
      if event.starts s id then [] else storedRecords outside config id earlier

/-- No record of a run lacks a field of one before it. -/
def Gathered (outside : Outside κ) (config : EngineConfig) (past : List (Engine κ × Event)) : Prop :=
  ∀ id, (storedRecords outside config id past).Pairwise fun later earlier => earlier.fields ⊆ later.fields

/-- What has come to the record of a run since its job was left is written again by the first walk of the delivery. -/
def WritesAgain (outside : Outside κ) (config : EngineConfig) (s : Engine κ) (event : Event) : Prop :=
  ∀ worker k before r, event = .work worker → taken? worker s = some k → s.record? k.context.executionId = some before →
    storedAfter outside config k { s with queue := (DelayQueue.claim worker.lease s.queue).2 } 0 = some r →
    ∀ key ∈ before.fields, key ∉ k.context.data.keys → key ∈ r.fields

theorem WritesAgain.other {event : Event} (other : ∀ worker, event ≠ .work worker) : WritesAgain outside config s event :=
  fun worker _ _ _ same => absurd same (other worker)

/-- A job that was left with all that is on record needs to write nothing again. -/
theorem WritesAgain.of_kept {worker : WorkerConfig} (id : String) (keys fields : List String)
    (stands : (taken? worker s).map (fun k => (k.context.executionId,k.context.data.keys)) = some (id,keys) ∧
      (s.record? id).map RunRecord.fields = some fields) (kept : fields ⊆ keys) :
    WritesAgain outside config s (.work worker) := by
  obtain ⟨shape,recorded⟩ := stands
  rintro _ k before r ⟨⟩ taken found - key member apart
  rw [taken] at shape
  cases shape
  rw [found] at recorded
  cases recorded
  exact absurd (kept member) apart

/-- What an event makes of the record of a run: it leaves it, puts a new one there, or delivers a job of the run. -/
inductive Event.Stores (outside : Outside κ) (config : EngineConfig) (s : Engine κ) (id : String) (event : Event) : Prop where
  | nothing (other : event.starts s id = false) (none : event.stored outside config s id = [])
      (same : (event.apply outside config s).record? id = s.record? id)
  | start {r : RunRecord} (own : event.starts s id = true) (stored : event.stored outside config s id = [r])
      (now : (event.apply outside config s).record? id = some r)
  | delivery {worker : WorkerConfig} {k : Continuation} {before : RunRecord} {records : Nat → RunRecord} (last : Nat)
      (work : event = .work worker) (taken : taken? worker s = some k) (own : k.context.executionId = id) (found : s.record? id = some before)
      (gathers : Gathers k.context.data records)
      (each : ∀ more, storedAfter outside config k { s with queue := (DelayQueue.claim worker.lease s.queue).2 } more = some (records more))
      (stored : event.stored outside config s id = (List.range (last + 1)).map records)
      (now : (event.apply outside config s).record? id = some (records last))

theorem Event.stores_work (sound : Sound s) (worker : WorkerConfig) (finished : (workOnce outside config worker s).1 ≠ .error .overflow)
    (id : String) : (Event.work worker).Stores outside config s id := by
  obtain ⟨idle,claimed⟩ | ⟨e,_,k,added,delivery,same,-,recorded⟩ := sound.workOnce_cases outside config worker
  · refine .nothing rfl ?_ (congrArg (fun x => x.2.record? id) idle)
    rw [stored,taken?_eq_none claimed]
  have taken : taken? worker s = some k := taken?_eq_some.mpr ⟨_,delivery.claimed,delivery.decoded⟩
  by_cases own : k.context.executionId = id
  · subst own
    rw [← same] at recorded
    obtain ⟨before,found⟩ := Option.isSome_iff_exists.mp recorded
    obtain ⟨returned,after⟩ := workOnce_records delivery.claimed delivery.decoded finished
    have known : ({ s with queue := (DelayQueue.claim worker.lease s.queue).2 } : Engine κ).record? k.context.executionId = some before := found
    obtain ⟨records,gathers,each⟩ := resume_gathers outside config (Option.isSome_iff_exists.mpr ⟨before,known⟩) returned
    have count : max 1 k.next.length - 1 + 1 = max 1 k.next.length := Nat.sub_add_cancel (Nat.le_max_left ..)
    refine .delivery (max 1 k.next.length - 1) rfl taken rfl found gathers each ?_ ?_
    · rw [stored,taken,count]
      dsimp only
      rw [if_pos rfl,funext each,List.filterMap_eq_map']
    · -- All the ids that there are make the whole delivery.
      have whole := each (max 1 k.next.length - 1)
      rw [storedAfter,count,List.take_of_length_le (Nat.le_max_right ..)] at whole
      rw [← whole]
      exact record?_congr after _
  · refine .nothing rfl ?_ (delivery.extended.records id (Ne.symm own))
    rw [stored,taken]
    exact if_neg own

theorem Event.stores (sound : Sound s) (event : Event) (finished : Finished outside config s event) (id : String) :
    event.Stores outside config s id := by
  cases event with
  | execute d input id? =>
    obtain ⟨added,extended,r,found,-⟩ := execute_launched outside config d input id? s
    by_cases own : nameFor id? s = id
    · subst own
      refine .start (beq_self_eq_true _) ?_ found
      rw [stored,if_pos rfl,show (Event.apply outside config s (.execute d input id?)).record? (nameFor id? s) = some r from found]
      rfl
    · exact .nothing (beq_false_of_ne own) (if_neg own) (extended.records id (Ne.symm own))
  | put d => exact .nothing rfl rfl rfl
  | remove id => exact .nothing rfl rfl rfl
  | advance by_ =>
    obtain ⟨now,state⟩ := Event.apply_advance outside config by_ s
    exact .nothing rfl rfl (congrArg (·.record? id) state)
  | tick now => exact .nothing rfl rfl rfl
  | work worker => exact stores_work sound worker finished id

/-- The latest of them is the record itself. -/
theorem History.head_storedRecords {past : List (Engine κ × Event)} (history : History outside config (Finished outside config) past s)
    (id : String) : (storedRecords outside config id past).head? = s.record? id := by
  induction history with
  | start k proper => rfl
  | @step past s event history possible finished ih =>
    rw [storedRecords]
    cases Event.stores (Sound.history history) event finished id with
    | nothing other none same =>
      rw [other,none,same,← ih]
      rfl
    | start own stored now =>
      rw [own,stored,now]
      rfl
    | delivery last _ _ _ _ _ _ stored now =>
      rw [stored,now,List.range_succ,List.map_append,List.reverse_append]
      rfl

/-- The records of a delivery join those from before exactly if the first of them has all fields of the latest. -/
theorem Gathers.pairwise_iff {data : Json} {records : Nat → RunRecord} (gathers : Gathers data records) (last : Nat) {older : List RunRecord}
    {latest : RunRecord} (head : older.head? = some latest) (before : older.Pairwise fun later earlier => earlier.fields ⊆ later.fields) :
    (((List.range (last + 1)).map records).reverse ++ older).Pairwise (fun later earlier => earlier.fields ⊆ later.fields) ↔
      latest.fields ⊆ (records 0).fields := by
  obtain ⟨others,rfl⟩ : ∃ others, older = latest :: others := List.head?_eq_some_iff.mp head
  have block : ((List.range (last + 1)).map records).reverse.Pairwise fun later earlier => earlier.fields ⊆ later.fields := by
    rw [List.pairwise_reverse,List.pairwise_map]
    exact List.pairwise_lt_range.imp fun lt => gathers.grow (Nat.le_of_lt lt)
  rw [List.pairwise_append,and_iff_right block,and_iff_right before]
  constructor
  · intro joined
    refine joined _ (List.mem_reverse.mpr (List.mem_map_of_mem ?_)) latest (List.mem_cons_self ..)
    exact List.mem_range.mpr (Nat.zero_lt_succ last)
  · intro kept r member old inside
    obtain ⟨n,-,rfl⟩ := List.mem_map.mp (List.mem_reverse.mp member)
    have first : latest.fields ⊆ (records n).fields := fun _ field => gathers.grow (Nat.zero_le n) (kept field)
    obtain rfl | older := List.mem_cons.mp inside
    · exact first
    · exact fun _ field => first (List.rel_of_pairwise_cons before older field)

theorem gathered_step_iff {past : List (Engine κ × Event)} (history : History outside config (Finished outside config) past s)
    {event : Event} (finished : Finished outside config s event) (before : Gathered outside config past) :
    Gathered outside config ((s,event) :: past) ↔ WritesAgain outside config s event := by
  have sound := Sound.history history
  constructor
  · rintro gathered worker k old r rfl taken found first key member -
    have pairs := gathered k.context.executionId
    rw [storedRecords] at pairs
    cases Event.stores sound (.work worker) finished k.context.executionId with
    | nothing _ none _ =>
      -- A delivery of this run stores at least one record.
      simp only [Event.stored,taken,if_pos] at none
      have nothing := List.filterMap_eq_nil_iff.mp none 0 (List.mem_range.mpr (Nat.lt_of_lt_of_le Nat.one_pos (Nat.le_max_left ..)))
      cases first.symm.trans nothing
    | start starts _ _ => cases starts
    | delivery last work taken' _ _ gathers each stored _ =>
      cases work
      cases taken.symm.trans taken'
      cases (each 0).symm.trans first
      rw [stored] at pairs
      exact (gathers.pairwise_iff last ((history.head_storedRecords _).trans found) (before _)).mp pairs member
  · intro again id
    rw [storedRecords]
    cases Event.stores sound event finished id with
    | nothing other none _ =>
      rw [other,none]
      exact before id
    | start own stored _ =>
      rw [own,stored]
      exact List.pairwise_singleton _ _
    | @delivery worker k old records last work taken own found gathers each stored _ =>
      subst work own
      rw [stored]
      refine (gathers.pairwise_iff last ((history.head_storedRecords _).trans found) (before _)).mpr fun key field => ?_
      by_cases left : key ∈ k.context.data.keys
      · exact gathers.start left
      · exact again worker k old (records 0) rfl taken found (each 0) key field left

/-- In a history no update of a run ever takes a field from its output, through all of its states, exactly if every delivery writes
again what has come to the record since its job was left. -/
theorem history_gathered_iff {past : List (Engine κ × Event)} (history : History outside config (Finished outside config) past s) :
    (∀ earlier, earlier <:+ past → Gathered outside config earlier) ↔ ∀ at_ ∈ past, WritesAgain outside config at_.1 at_.2 := by
  induction history with
  | start k proper =>
    refine iff_of_true ?_ fun _ member => absurd member List.not_mem_nil
    intro earlier part id
    rw [List.suffix_nil.mp part]
    exact .nil
  | @step past s event history possible finished ih =>
    have next := gathered_step_iff history finished
    rw [List.forall_mem_cons]
    constructor
    · intro gathered
      have before : ∀ earlier, earlier <:+ past → Gathered outside config earlier := fun earlier part =>
        gathered earlier (part.trans (List.suffix_cons ..))
      exact ⟨(next (before past List.suffix_rfl)).mp (gathered _ List.suffix_rfl),ih.mp before⟩
    · rintro ⟨again,others⟩ earlier part
      have before := ih.mpr others
      obtain rfl | part := List.suffix_cons_iff.mp part
      · exact (next (before past List.suffix_rfl)).mpr again
      · exact before earlier part

/-- A run that writes a field between two delays. -/
def labelling : Definition := ⟨.nil,.nil,"labelling",true,
  [⟨"start",["pause"],.trigger ⟨"crm","new",none⟩⟩,⟨"pause",["label"],.delay 0⟩,⟨"label",["rest"],.transform [⟨"label","'done'"⟩]⟩,
    ⟨"rest",[],.delay 0⟩],⟨0,false⟩,⟨0,false⟩⟩

/-- The second job is left with the field that the first has written. -/
theorem labelled_run_stays_gathered :
    (∀ earlier, earlier <:+ met (.work .standard :: takenUp labelling) → Gathered silent standard earlier) ∧
      (storedRecords silent standard "run" (met (.work .standard :: takenUp labelling))).map RunRecord.fields = [["label"],["label"],[]] := by
  have finished : ∀ at_ ∈ met (.work .standard :: takenUp labelling), Finished silent standard at_.1 at_.2 := by
    simp only [takenUp,met,List.forall_mem_cons,Finished]
    exact ⟨by decide +kernel,by decide +kernel,trivial,trivial,fun _ member => absurd member List.not_mem_nil⟩
  have history := History.after (.work .standard :: takenUp labelling) (by simp [takenUp,Event.Possible]) finished
  refine ⟨(history_gathered_iff history).mpr ?_,by decide +kernel⟩
  simp only [takenUp,met,List.forall_mem_cons]
  refine ⟨?_,?_,.other fun _ => Event.noConfusion,.other fun _ => Event.noConfusion,fun _ member => absurd member List.not_mem_nil⟩
  · exact .of_kept "run" ["label"] ["label"] (by decide +kernel) (List.Subset.refl _)
  · exact .of_kept "run" [] [] (by decide +kernel) (List.Subset.refl _)

/-- Two triggers, one with a delay behind it and one that writes a field. -/
def siding : Definition := ⟨.nil,.nil,"siding",true,
  [⟨"first",["pause"],.trigger ⟨"crm","new",none⟩⟩,⟨"second",["side"],.trigger ⟨"crm","new",none⟩⟩,⟨"pause",[],.delay 0⟩,
    ⟨"side",[],.transform [⟨"side","'written'"⟩]⟩],⟨0,false⟩,⟨0,false⟩⟩

/-- The job of the delay was left before the other branch wrote its field, and its delivery stores the data without it. -/
theorem field_on_record_can_be_lost :
    ¬∀ past s, History silent standard (Finished silent standard) past s → Gathered silent standard past := by
  intro always
  have finished : ∀ at_ ∈ met (takenUp siding), Finished silent standard at_.1 at_.2 := by
    simp only [takenUp,met,List.forall_mem_cons,Finished]
    exact ⟨by decide +kernel,trivial,trivial,fun _ member => absurd member List.not_mem_nil⟩
  have gathered := always _ _ (History.after (takenUp siding) (takenUp_possible _) finished) "run"
  have lost : ¬(storedRecords silent standard "run" (met (takenUp siding))).Pairwise fun later earlier => earlier.fields ⊆ later.fields := by
    decide +kernel
  exact lost gathered

end Engine
end Flowgraph
