import Flowgraph.Proofs.Engine.Completion

/-! Errors and times of completion on record. Updates only ever set them, and the status goes back and forth: a run that has been
marked failed or ended once keeps the mark. Records are coherent in a history exactly if no delivery takes such a status back. -/

namespace Flowgraph

/-- An error is on record of a failed run, and a time of completion of one that has come to its end; of no other. -/
structure RunRecord.Coherent (r : RunRecord) : Prop where
  error : r.error.isSome = true ↔ r.status = .failed
  completedAt : r.completedAt.isSome = true ↔ r.status.isFinal = true

namespace RunRecord

/-- What updates make of a record: its error and its time of completion stay where they are, and a failure sets the one, an end the other. -/
structure Marked (r r' : RunRecord) (ended : Prop) : Prop where
  error : r'.error.isSome = true ↔ r.error.isSome = true ∨ r'.status = .failed
  completedAt : r'.completedAt.isSome = true ↔ r.completedAt.isSome = true ∨ ended

theorem Marked.congr {r r' : RunRecord} {a b : Prop} (marked : r.Marked r' a) (same : a ↔ b) : r.Marked r' b :=
  ⟨marked.error,by rw [marked.completedAt,same]⟩

theorem Marked.trans {r r' r'' : RunRecord} {a b : Prop} (first : r.Marked r' a) (well : r'.status ≠ .failed) (second : r'.Marked r'' b) :
    r.Marked r'' (a ∨ b) where
  error := by rw [second.error,first.error,or_iff_left well]
  completedAt := by rw [second.completedAt,first.completedAt,or_assoc]

theorem marked_finished (r : RunRecord) (jobs : List String) (c : Context) (now : Instant) :
    let r' := r.apply (.finished (.ofSuspended jobs) c now)
    r.Marked r' (r'.status.isFinal = true) ∧ r'.status ≠ .failed := by
  unfold Status.ofSuspended
  split
  · exact ⟨⟨by simp [RunRecord.apply,RunUpdate.finished],by simp [RunRecord.apply,RunUpdate.finished,Status.isFinal]⟩,
      by simp [RunRecord.apply,RunUpdate.finished]⟩
  · exact ⟨⟨by simp [RunRecord.apply,RunUpdate.finished],by simp [RunRecord.apply,RunUpdate.finished,Status.isFinal]⟩,
      by simp [RunRecord.apply,RunUpdate.finished]⟩

theorem marked_failed (r : RunRecord) (message : String) (c : Context) (now : Instant) :
    let r' := r.apply (.failed message c now)
    r.Marked r' (r'.status.isFinal = true) := by
  constructor <;> simp [RunRecord.apply,RunUpdate.failed,RunUpdate.finished,Status.isFinal]

theorem coherent_running (c : Context) : (running c).Coherent := by
  constructor <;> simp [RunRecord.running,Status.isFinal]

theorem coherent_skipped (c : Context) (now : Instant) : ((running c).apply (.skipped now)).Coherent := by
  constructor <;> simp [RunRecord.running,RunRecord.apply,RunUpdate.skipped,Status.isFinal]

theorem Marked.of_running {c : Context} {r : RunRecord} (marked : (running c).Marked r (r.status.isFinal = true)) : r.Coherent :=
  ⟨by simpa [RunRecord.running] using marked.error,by simpa [RunRecord.running] using marked.completedAt⟩

/-- A coherent record stays so where nothing that it has been marked with is taken back. -/
theorem Marked.coherent_iff {r r' : RunRecord} {ended : Prop} (marked : r.Marked r' ended) (before : r.Coherent)
    (stands : r'.status.isFinal = true → ended) :
    r'.Coherent ↔ (r.status = .failed → r'.status = .failed) ∧ (r.status.isFinal = true → r'.status.isFinal = true) ∧
      (ended → r'.status.isFinal = true) := by
  constructor
  · intro after
    refine ⟨fun failed => ?_,fun final => ?_,fun reached => ?_⟩
    · exact after.error.mp (marked.error.mpr (.inl (before.error.mpr failed)))
    · exact after.completedAt.mp (marked.completedAt.mpr (.inl (before.completedAt.mpr final)))
    · exact after.completedAt.mp (marked.completedAt.mpr (.inr reached))
  · intro ⟨failed,final,reached⟩
    constructor
    · exact marked.error.trans ⟨Or.rec (failed ∘ before.error.mp) id,.inr⟩
    · exact marked.completedAt.trans ⟨Or.rec (final ∘ before.completedAt.mp) reached,.inr ∘ stands⟩

end RunRecord

namespace Engine
open Act Execution

variable {κ : Type} {outside : Outside κ} {config : EngineConfig} {s s' : Engine κ} {nodes : List Node} {c : Context} {k : Continuation}

def Coherent (s : Engine κ) : Prop := ∀ id r, s.record? id = some r → r.Coherent

theorem Coherent.start (k : κ) (clock : Instant) : Coherent (Engine.start k clock) := by
  intro id r found
  simp [record?,Engine.start] at found

/-! ### New runs -/

theorem runTriggers_coherent (found : s.record? c.executionId = some (.running c)) :
    ∃ r, (runTriggers (backend outside) config nodes c s).2.record? c.executionId = some r ∧ r.Coherent := by
  obtain ⟨-,-,records,-,-⟩ := branches_growth outside config c (nodes.filter Node.isTrigger) (List.filter_subset_self _) s
  have kept := (record?_congr records c.executionId).trans found
  rw [runTriggers_apply (Option.isSome_iff_exists.mpr ⟨_,kept⟩)]
  revert kept
  rcases (nodes.filter Node.isTrigger).mapM (branch (terrain (backend outside) config nodes) c) s with ⟨e | branches,t⟩ <;> intro kept
  · exact ⟨_,kept,RunRecord.coherent_running c⟩
  · dsimp only
    cases outcome branches with
    | error fault => exact ⟨_,record?_updated kept,(RunRecord.marked_failed ..).of_running⟩
    | ok jobs => exact ⟨_,record?_updated kept,(RunRecord.marked_finished ..).1.of_running⟩

theorem carryOut_coherent (outside : Outside κ) (config : EngineConfig) (d : Definition) (id? : Option String) (now : Instant)
    (found : s.record? c.executionId = some (.running c)) :
    ∃ r, (carryOut (backend outside) config d c id? now s).2.record? c.executionId = some r ∧ r.Coherent := by
  have known : (s.record? c.executionId).isSome = true := Option.isSome_iff_exists.mpr ⟨_,found⟩
  unfold carryOut
  split
  · rw [store_apply _ known]
    exact ⟨_,record?_updated found,RunRecord.coherent_skipped c now⟩
  · cases Validation.checkRunnable d.nodes with
    | error fault =>
      simp only [onContext,recordFailure_apply _ known]
      exact ⟨_,record?_updated found,(RunRecord.marked_failed ..).of_running⟩
    | ok _ => exact runTriggers_coherent found

theorem Coherent.execute (before : Coherent s) (d : Definition) (input : Json) (id? : Option String) :
    Coherent (Event.apply outside config s (.execute d input id?)) := by
  intro id r found
  by_cases own : id = (openingContext d input id? s).executionId
  · have opening : (opened d input id? s).record? (openingContext d input id? s).executionId = some (.running (openingContext d input id? s)) :=
      (record?_opened d input id? _).trans (if_pos rfl)
    obtain ⟨r',stored,coherent⟩ := carryOut_coherent outside config d id? s.clock opening
    rw [Event.apply,execute_apply,state_bind_pure,own,stored] at found
    cases found
    exact coherent
  · obtain ⟨added,launched⟩ := execute_launched outside config d input id? s
    exact before id r ((launched.extended.records id own).symm.trans found)

/-! ### Deliveries -/

theorem continueAt_marked (outside : Outside κ) (config : EngineConfig) (node : Node) (member : node ∈ nodes) {r : RunRecord}
    (found : s.record? c.executionId = some r) :
    let x := continueAt (backend outside) config nodes node (c,s)
    x.1 = .error .overflow ∨ ∃ r', x.2.2.record? c.executionId = some r' ∧ r.Marked r' (r'.status.isFinal = true) ∧
      (x.1 = .ok () → r'.status ≠ .failed) := by
  obtain ⟨jobs,⟨run,records,-⟩,-⟩ := walk_growth outside config node member c s
  have kept := (record?_congr records c.executionId).trans found
  rw [continueAt_apply run.executionId (Option.isSome_iff_exists.mpr ⟨r,kept⟩)]
  revert kept
  rcases walk (terrain (backend outside) config nodes) node (c,s) with ⟨(fault | _) | jobs,d,t⟩ <;> intro kept
  · exact .inr ⟨_,record?_updated kept,RunRecord.marked_failed ..,fun done => by cases done⟩
  · exact .inl rfl
  · exact .inr ⟨_,record?_updated kept,(RunRecord.marked_finished ..).1,fun _ => (RunRecord.marked_finished ..).2⟩

theorem continueAll_missing (b : Backend σ) (config : EngineConfig) {id : String} (missing : Node.find? nodes id = none) (rest : List String)
    (p : Context × σ) : continueAll b config nodes (id :: rest) p = recordFailure b (.missingNode id) p := by
  rw [continueAll,missing]

theorem continueAll_cons (b : Backend σ) (config : EngineConfig) {id : String} {node : Node} (found : Node.find? nodes id = some node)
    (rest : List String) (p : Context × σ) :
    continueAll b config nodes (id :: rest) p = match continueAt b config nodes node p with
      | (.ok _,q) => continueAll b config nodes rest q
      | (.error e,q) => (.error e,q) := by
  rw [continueAll,found]
  dsimp only
  rw [bind_apply]
  rcases continueAt b config nodes node p with ⟨e | _,q⟩ <;> rfl

/-- Some record that is stored on the way shows the run as ended. -/
def EndsAt (records : Nat → Option RunRecord) : Prop := ∃ count r, records count = some r ∧ r.status.isFinal = true

theorem endsAt_const {r : RunRecord} {records : Nat → Option RunRecord} (constant : ∀ count, records count = some r) :
    r.status.isFinal = true ↔ EndsAt records := by
  constructor
  · exact fun final => ⟨0,r,constant 0,final⟩
  · intro ⟨count,part,stored,final⟩
    cases (constant count).symm.trans stored
    exact final

theorem endsAt_succ {r : RunRecord} {records : Nat → Option RunRecord} (first : records 0 = some r) :
    EndsAt records ↔ r.status.isFinal = true ∨ EndsAt (records ∘ Nat.succ) := by
  constructor
  · rintro ⟨_ | count,part,stored,final⟩
    · cases first.symm.trans stored
      exact .inl final
    · exact .inr ⟨count,part,stored,final⟩
  · rintro (final | ⟨count,part,stored,final⟩)
    · exact ⟨0,r,first,final⟩
    · exact ⟨count + 1,part,stored,final⟩

theorem continueAll_marked {ids : List String} {r : RunRecord} (nonempty : ids ≠ [])
    (found : s.record? c.executionId = some r) :
    (continueAll (backend outside) config nodes ids (c,s)).1 = .error .overflow ∨
      ∃ r', (continueAll (backend outside) config nodes ids (c,s)).2.2.record? c.executionId = some r' ∧
        r.Marked r' (EndsAt fun count => (continueAll (backend outside) config nodes (ids.take (count + 1)) (c,s)).2.2.record? c.executionId) := by
  induction ids generalizing c s r with
  | nil => exact absurd rfl nonempty
  | cons id rest ih =>
    have known : (s.record? c.executionId).isSome = true := Option.isSome_iff_exists.mpr ⟨r,found⟩
    simp only [List.take_succ_cons]
    cases present : Node.find? nodes id with
    | none =>
      simp only [continueAll_missing _ _ present,recordFailure_apply _ known]
      have stored := record?_updated (u := .failed (EngineFault.missingNode id).message c s.clock) found
      exact .inr ⟨_,stored,(RunRecord.marked_failed ..).congr (endsAt_const fun _ => stored)⟩
    | some node =>
      obtain ⟨run,-⟩ := continueAt_outcome outside config node (List.mem_of_find?_eq_some present) known
      have marked := continueAt_marked outside config node (List.mem_of_find?_eq_some present) found
      simp only [continueAll_cons _ _ present]
      revert run marked
      rcases continueAt (backend outside) config nodes node (c,s) with ⟨e | _,d,t⟩ <;> intro run marked
      · obtain overflow | ⟨r',stored,marked,-⟩ := marked
        · exact .inl overflow
        · exact .inr ⟨r',stored,marked.congr (endsAt_const fun _ => stored)⟩
      · obtain overflow | ⟨r',stored,marked,well⟩ := marked
        · cases overflow
        cases rest with
        | nil =>
          simp only [List.take_nil]
          exact .inr ⟨r',stored,marked.congr (endsAt_const fun _ => stored)⟩
        | cons next others =>
          have own : d.executionId = c.executionId := run.executionId
          rw [← own] at stored
          obtain overflow | ⟨r'',last,more⟩ := ih (List.cons_ne_nil _ _) stored
          · exact .inl overflow
          · rw [own] at last
            refine .inr ⟨r'',last,(marked.trans (well rfl) more).congr (Iff.symm ?_)⟩
            rw [← own]
            apply endsAt_succ
            exact stored

/-- The record of a run once it has been taken up at the first of its ids and at some more. -/
def storedAfter (outside : Outside κ) (config : EngineConfig) (k : Continuation) (s : Engine κ) (more : Nat) : Option RunRecord :=
  (resume (backend outside) config { k with next := k.next.take (more + 1) } s).2.record? k.context.executionId

theorem resume_marked (outside : Outside κ) (config : EngineConfig) {r : RunRecord} (found : s.record? k.context.executionId = some r) :
    (resume (backend outside) config k s).1 = .error .overflow ∨
      ∃ r', (resume (backend outside) config k s).2.record? k.context.executionId = some r' ∧
        r.Marked r' (EndsAt (storedAfter outside config k s)) := by
  have present : s.record? (Context.restore k.context).executionId = some r := found
  have known : (s.record? (Context.restore k.context).executionId).isSome = true := Option.isSome_iff_exists.mpr ⟨r,present⟩
  unfold storedAfter resume
  dsimp only
  simp only [bind_apply,attempt,resumeNodes_apply]
  cases nodesFor config k.automationId k.nodes s with
  | none =>
    simp only [onContext,recordFailure_apply _ known]
    have stored := record?_updated (u := .failed (EngineFault.automationNotFound k.automationId).message (Context.restore k.context) s.clock) present
    exact .inr ⟨_,stored,(RunRecord.marked_failed ..).congr (endsAt_const fun _ => stored)⟩
  | some nodes =>
    dsimp only
    cases next : k.next with
    | nil =>
      simp only [List.take_nil,List.isEmpty_nil,if_true,onContext,finish_apply _ known]
      have stored := record?_updated (u := .finished .completed (Context.restore k.context) s.clock) present
      exact .inr ⟨_,stored,(RunRecord.marked_finished r [] ..).1.congr (endsAt_const fun _ => stored)⟩
    | cons id rest =>
      simp only [List.take_succ_cons,List.isEmpty_cons]
      exact continueAll_marked (List.cons_ne_nil id rest) present

theorem answer_records (worker : WorkerConfig) (job : Job JobId) (result : Except String Unit) (s : Engine κ) :
    (answer worker job result s).2.records = s.records := by
  cases result with
  | ok _ =>
    rw [answer,bind_apply,complete_apply]
    rcases DelayQueue.complete job.id s.queue with ⟨e | _,q⟩ <;> rfl
  | error error =>
    rw [answer,state_bind_pure,Worker.giveBack]
    split
    · rw [state_bind_pure _ fun _ => _,deadLetter_apply]
    · rw [state_bind_pure _ fun _ => _,retry_apply]

/-- A finished round leaves the records as taking up the run of its job has left them. -/
theorem workOnce_records {worker : WorkerConfig} {job : Job JobId} (claimed : (DelayQueue.claim worker.lease s.queue).1 = .ok (some job))
    (decoded : Continuation.decoder .direct job.payload = .ok k) (finished : (workOnce outside config worker s).1 ≠ .error .overflow) :
    let x := resume (backend outside) config k { s with queue := (DelayQueue.claim worker.lease s.queue).2 }
    x.1 ≠ .error .overflow ∧ (workOnce outside config worker s).2.records = x.2.records := by
  obtain nothing | ⟨e,-,-,delivered⟩ := DelayQueue.claim_cases worker.lease s.queue
  · rw [nothing] at claimed
    cases claimed
  rw [delivered] at claimed
  cases claimed
  rw [workOnce_claimed delivered decoded] at finished ⊢
  rw [delivered]
  unfold replaced at finished ⊢
  dsimp only at finished ⊢
  revert finished
  rcases resume (backend outside) config k _ with ⟨(fault | _) | _,t⟩ <;> intro finished
  · exact ⟨nofun,answer_records ..⟩
  · exact absurd rfl finished
  · exact ⟨nofun,answer_records ..⟩

/-- What a round of the worker takes up, if anything. -/
def taken? (worker : WorkerConfig) (s : Engine κ) : Option Continuation :=
  match (DelayQueue.claim worker.lease s.queue).1 with
  | .ok (some job) => (Continuation.decoder .direct job.payload).toOption
  | _ => none

theorem taken?_eq_none {worker : WorkerConfig} (idle : (DelayQueue.claim worker.lease s.queue).1 = .ok none) : taken? worker s = none := by
  rw [taken?,idle]

theorem taken?_eq_some {worker : WorkerConfig} : taken? worker s = some k ↔
    ∃ job, (DelayQueue.claim worker.lease s.queue).1 = .ok (some job) ∧ Continuation.decoder .direct job.payload = .ok k := by
  unfold taken?
  rcases (DelayQueue.claim worker.lease s.queue).1 with e | _ | job
  · simp
  · simp
  · rcases decoded : Continuation.decoder .direct job.payload with e | k' <;> simp [decoded,Except.toOption]

/-- A delivery leaves its run failed if it was, and at its end if it was or if the delivery itself has recorded it so on the way. -/
def TakesNothingBack (outside : Outside κ) (config : EngineConfig) (s : Engine κ) (event : Event) : Prop :=
  ∀ worker k before r, event = .work worker → taken? worker s = some k → s.record? k.context.executionId = some before →
    (event.apply outside config s).record? k.context.executionId = some r →
    (before.status = .failed → r.status = .failed) ∧ (before.status.isFinal = true → r.status.isFinal = true) ∧
      (EndsAt (storedAfter outside config k { s with queue := (DelayQueue.claim worker.lease s.queue).2 }) → r.status.isFinal = true)

theorem TakesNothingBack.other {event : Event} (other : ∀ worker, event ≠ .work worker) : TakesNothingBack outside config s event :=
  fun worker _ _ _ same => absurd same (other worker)

/-- Taking up a waiting run at a single id stores its record but once, so that there is nothing to be taken back. -/
theorem TakesNothingBack.single {worker : WorkerConfig} {id : String} {next : List String}
    (finished : (workOnce outside config worker s).1 ≠ .error .overflow)
    (shape : (taken? worker s).map (fun k => (k.context.executionId,k.next)) = some (id,next)) (single : next.length ≤ 1)
    (status : (s.record? id).map (·.status) = some .waiting) : TakesNothingBack outside config s (.work worker) := by
  obtain ⟨k,taken,fields⟩ := Option.map_eq_some_iff.mp shape
  obtain ⟨rfl,rfl⟩ := Prod.mk.inj fields
  obtain ⟨old,found,waiting⟩ := Option.map_eq_some_iff.mp status
  rintro _ k' old' r ⟨⟩ taken' found' now
  cases taken.symm.trans taken'
  cases found.symm.trans found'
  obtain ⟨job,claimed,decoded⟩ := taken?_eq_some.mp taken
  obtain ⟨-,records⟩ := workOnce_records claimed decoded finished
  have stored (more : Nat) : storedAfter outside config k { s with queue := (DelayQueue.claim worker.lease s.queue).2 } more = some r := by
    rw [storedAfter,List.take_of_length_le (single.trans (Nat.le_add_left 1 more))]
    exact (record?_congr records _).symm.trans now
  refine ⟨fun failed => ?_,fun final => ?_,(endsAt_const stored).mpr⟩
  · cases waiting.symm.trans failed
  · rw [waiting] at final
    cases final

/-- Given that all records were coherent before, a finished round of the worker keeps them so exactly if it takes nothing back. -/
theorem coherent_work_iff (sound : Sound s) (before : Coherent s) (worker : WorkerConfig)
    (finished : (workOnce outside config worker s).1 ≠ .error .overflow) :
    Coherent (Event.apply outside config s (.work worker)) ↔ TakesNothingBack outside config s (.work worker) := by
  obtain ⟨nothing,idle⟩ | ⟨e,last,k,added,delivery,same,-,recorded⟩ := sound.workOnce_cases outside config worker
  · refine iff_of_true (by simpa only [Event.apply,nothing] using before) ?_
    rintro _ k old r ⟨⟩ taken
    cases (taken?_eq_none idle).symm.trans taken
  rw [← same] at recorded
  obtain ⟨old,found⟩ := Option.isSome_iff_exists.mp recorded
  obtain ⟨whole,records⟩ := workOnce_records delivery.claimed delivery.decoded finished
  obtain overflow | ⟨r,stored,marked⟩ := resume_marked outside config (k := k)
    (s := { s with queue := (DelayQueue.claim worker.lease s.queue).2 }) found
  · exact absurd overflow whole
  have now : (Event.apply outside config s (.work worker)).record? k.context.executionId = some r :=
    (record?_congr records _).trans stored
  have kept := marked.coherent_iff (before _ old found) fun final => ⟨k.next.length,r,?_,final⟩
  constructor
  · rintro coherent _ k' old' r' ⟨⟩ taken found' now'
    cases (taken?_eq_some.mpr ⟨_,delivery.claimed,delivery.decoded⟩).symm.trans taken
    cases found.symm.trans found'
    cases now.symm.trans now'
    exact kept.mp (coherent _ r now)
  · intro nothing id r' here
    by_cases own : id = k.context.executionId
    · subst own
      cases now.symm.trans here
      exact kept.mpr (nothing worker k old r rfl (taken?_eq_some.mpr ⟨_,delivery.claimed,delivery.decoded⟩) found now)
    · exact before id r' ((delivery.extended.records id own).symm.trans here)
  · rw [storedAfter,List.take_of_length_le (Nat.le_succ _)]
    exact stored

/-- In an orderly history all records are coherent in all states exactly if no delivery takes anything back. -/
theorem history_coherent_iff {past : List (Engine κ × Event)} (history : History outside config (Orderly outside config) past s) :
    ((∀ at_ ∈ past, Coherent at_.1) ∧ Coherent s) ↔ ∀ at_ ∈ past, TakesNothingBack outside config at_.1 at_.2 := by
  apply history.holds_iff
  · exact .start
  · intro s event sound possible orderly before
    cases event with
    | work worker => exact coherent_work_iff sound before worker orderly
    | execute d input id? => exact iff_of_true (before.execute d input id?) (.other fun _ => Event.noConfusion)
    | put d => exact iff_of_true before (.other fun _ => Event.noConfusion)
    | remove id => exact iff_of_true before (.other fun _ => Event.noConfusion)
    | tick now => exact iff_of_true before (.other fun _ => Event.noConfusion)
    | advance by_ =>
      obtain ⟨now,state⟩ := Event.apply_advance outside config by_ s
      refine iff_of_true ?_ (.other fun _ => Event.noConfusion)
      rw [state]
      exact before

/-- A delay with another one behind it. -/
def pausingTwice : Definition := ⟨.nil,.nil,"pausing twice",true,
  [⟨"start",["pause"],.trigger ⟨"crm","new",none⟩⟩,⟨"pause",["again"],.delay 0⟩,⟨"again",[],.delay 0⟩],⟨0,false⟩,⟨0,false⟩⟩

def suspendedOnce : Engine Unit := after [.execute pausingTwice .null (some "run"),.put pausingTwice]

def suspendedAgain : Engine Unit := Event.apply silent standard suspendedOnce (.work .standard)

theorem suspendedOnce_taken : (workOnce silent standard .standard suspendedOnce).1 ≠ .error .overflow ∧
    (taken? .standard suspendedOnce).map (fun k => (k.context.executionId,k.next)) = some ("run",["again"]) ∧
      (suspendedOnce.record? "run").map (·.status) = some .waiting := by decide +kernel

theorem suspendedAgain_taken : (workOnce silent standard .standard suspendedAgain).1 ≠ .error .overflow ∧
    (taken? .standard suspendedAgain).map (fun k => (k.context.executionId,k.next)) = some ("run",[]) ∧
      (suspendedAgain.record? "run").map (·.status) = some .waiting := by decide +kernel

def takenUpTwice : List Event := [.work .standard,.work .standard,.execute pausingTwice .null (some "run"),.put pausingTwice]

theorem takenUpTwice_possible : ∀ event ∈ takenUpTwice, event.Possible := by simp [takenUpTwice,Event.Possible]

theorem takenUpTwice_orderly : ∀ at_ ∈ met takenUpTwice, Orderly silent standard at_.1 at_.2 := by
  simp only [takenUpTwice,met,List.forall_mem_cons,Orderly]
  exact ⟨suspendedAgain_taken.1,suspendedOnce_taken.1,by decide +kernel,trivial,fun _ member => absurd member List.not_mem_nil⟩

/-- A run that is waiting twice and then completed has a coherent record all the time. -/
theorem paused_run_stays_coherent : (∀ at_ ∈ met takenUpTwice, Coherent at_.1) ∧ Coherent (after takenUpTwice) := by
  apply (history_coherent_iff (History.after takenUpTwice takenUpTwice_possible takenUpTwice_orderly)).mpr
  simp only [takenUpTwice,met,List.forall_mem_cons]
  have once : TakesNothingBack silent standard suspendedOnce (.work .standard) :=
    .single suspendedOnce_taken.1 suspendedOnce_taken.2.1 (Nat.le_refl 1) suspendedOnce_taken.2.2
  have again : TakesNothingBack silent standard suspendedAgain (.work .standard) :=
    .single suspendedAgain_taken.1 suspendedAgain_taken.2.1 (Nat.zero_le 1) suspendedAgain_taken.2.2
  exact ⟨again,once,.other fun _ => Event.noConfusion,.other fun _ => Event.noConfusion,
    fun _ member => absurd member List.not_mem_nil⟩

/-- A delay with two paths behind it, the second of which is suspended once more. -/
def splitting : Definition := ⟨.nil,.nil,"splitting",true,
  [⟨"start",["pause"],.trigger ⟨"crm","new",none⟩⟩,⟨"pause",["done","later"],.delay 0⟩,⟨"done",[],.transform []⟩,⟨"later",[],.delay 5⟩],
  ⟨0,false⟩,⟨0,false⟩⟩

/-- The automation of the run is stored only after a first delivery has failed for want of it. -/
def storedLate : List Event := [.work .standard,.put splitting,.advance (.ofSeconds 30),.work .standard,.execute splitting .null (some "run")]

theorem storedLate_possible : ∀ event ∈ storedLate, event.Possible := by simp [storedLate,Event.Possible]

theorem storedLate_orderly : ∀ at_ ∈ met storedLate, Orderly silent standard at_.1 at_.2 := by
  simp only [storedLate,met,List.forall_mem_cons,Orderly]
  exact ⟨by decide +kernel,trivial,trivial,by decide +kernel,by decide +kernel,fun _ member => absurd member List.not_mem_nil⟩

/-- A run is waiting and has both the error of a delivery that was repeated and the time at which its first path was through. -/
theorem waiting_run_can_look_ended : ¬∀ past s, History silent standard (Orderly silent standard) past s →
    ∀ id r, s.record? id = some r → (r.error.isSome = true ↔ r.status = .failed) ∧ (r.completedAt.isSome = true ↔ r.status.isFinal = true) := by
  intro always
  have looks : ((after storedLate).record? "run").map (fun r => (r.status,r.error.isSome,r.completedAt.isSome)) = some (.waiting,true,true) := by
    decide +kernel
  obtain ⟨r,found,shape⟩ := Option.map_eq_some_iff.mp looks
  obtain ⟨status,marks⟩ := Prod.mk.inj shape
  obtain ⟨error,-⟩ := Prod.mk.inj marks
  have coherent := always _ _ (History.after storedLate storedLate_possible storedLate_orderly) "run" r found
  cases status.symm.trans (coherent.1.mp error)

end Engine
end Flowgraph
