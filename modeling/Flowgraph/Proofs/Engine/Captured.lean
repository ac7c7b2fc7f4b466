import Flowgraph.Proofs.Automation.Cycle
import Flowgraph.Proofs.Engine.Redelivery

/-! Runs that go on with the nodes they were left with. Where the engine is set to use them, every job brings nodes along and
every walk hands them on, so that no stored automation is looked for: what is done to these meanwhile does not show in any run. -/

namespace Flowgraph
open Act

/-- A payload that brings nodes along, of a run that has begun at a time of the calendar. -/
def Json.BringsNodes (payload : Json) : Prop :=
  ∀ k, Continuation.decoder .direct payload = .ok k → k.nodes ≠ [] ∧ k.context.startedAt.Proper

theorem Suspension.bringsNodes {left : Suspension} (some : left.nodes ≠ []) (proper : left.context.startedAt.Proper) :
    (Continuation.ofSuspension left).json.BringsNodes := by
  intro k decoded
  rw [Continuation.decoder_json _ _ (show (Continuation.ofSuspension left).context.startedAt.Proper from proper)] at decoded
  cases decoded
  exact ⟨mt List.map_eq_nil_iff.mp some,proper⟩

namespace DelayQueue

/-- An action on the queue that leaves jobs with payloads as there have been. -/
def KeepsPayloads (act : Act DelayQueue ε α) : Prop := ∀ q, ∀ e ∈ (act q).2.entries, ∃ old ∈ q.entries, e.job.payload = old.job.payload

theorem payload_of_mem_update {q : DelayQueue} {id : JobId} {f : QueueEntry → QueueEntry} {e : QueueEntry}
    (keeps : ∀ old ∈ q.entries, old.job.id = id → ∃ was ∈ q.entries, (f old).job.payload = was.job.payload)
    (member : e ∈ (q.update id f).entries) : ∃ old ∈ q.entries, e.job.payload = old.job.payload := by
  obtain ⟨old,was,rfl⟩ := mem_update.mp member
  split
  · next here => exact keeps old was here
  · exact ⟨old,was,rfl⟩

theorem keepsPayloads_transition (id : JobId) {f : QueueEntry → QueueEntry} (keeps : ∀ e, (f e).job.payload = e.job.payload) :
    KeepsPayloads (transition id f) := by
  intro q e member
  rw [transition_snd] at member
  exact payload_of_mem_update (fun old was _ => ⟨old,was,keeps old⟩) member

theorem keepsPayloads_complete (id : JobId) : KeepsPayloads (complete id) := keepsPayloads_transition id fun _ => rfl

theorem keepsPayloads_deadLetter (id : JobId) (error : String) : KeepsPayloads (deadLetter id error) :=
  keepsPayloads_transition id fun _ => rfl

theorem keepsPayloads_retry (id : JobId) (error : String) (backoff : Duration) : KeepsPayloads (retry id error backoff) := by
  intro q e member
  rw [retry_eq] at member
  revert member
  cases dueResult q.now backoff with
  | ok runAt => exact fun member => keepsPayloads_transition id (f := fun e => ⟨{ e.job with runAt },.pending⟩) (fun _ => rfl) q e member
  | error failure => exact fun member => ⟨e,member,rfl⟩

theorem keepsPayloads_advance (by_ : Duration) : KeepsPayloads (advance by_) := by
  intro q e member
  obtain ⟨now,moved⟩ := advance_state by_ q
  rw [moved] at member
  exact ⟨e,member,rfl⟩

end DelayQueue

namespace Engine
open Execution

variable {κ : Type} {outside : Outside κ} {config : EngineConfig} {s t : Engine κ}

/-- Two states that differ in nothing but the automations stored, in which all jobs bring nodes along. -/
structure Twins (s t : Engine κ) : Prop where
  same : ∃ automations, t = { s with automations }
  clock : s.clock.Proper
  jobs : ∀ e ∈ s.queue.entries, e.job.payload.BringsNodes

namespace Twins

theorem start (k : κ) {clock : Instant} (proper : clock.Proper) : Twins (Engine.start k clock) (Engine.start k clock) :=
  ⟨⟨[],rfl⟩,proper,fun _ member => absurd member List.not_mem_nil⟩

theorem edited (twins : Twins s t) (automations : List Definition) : Twins { s with automations } t := by
  obtain ⟨⟨others,rfl⟩,clock,jobs⟩ := twins
  exact ⟨⟨others,rfl⟩,clock,jobs⟩

/-- A change of both that has nothing to do with the automations stored. -/
theorem map (twins : Twins s t) {f : Engine κ → Engine κ} (apart : ∀ automations, f { s with automations } = { f s with automations })
    (clock : (f s).clock.Proper) (jobs : ∀ e ∈ (f s).queue.entries, e.job.payload.BringsNodes) : Twins (f s) (f t) := by
  obtain ⟨⟨automations,rfl⟩,-⟩ := twins
  exact ⟨⟨_,apart automations⟩,clock,jobs⟩

theorem queued (twins : Twins s t) (queue : DelayQueue) (jobs : ∀ e ∈ queue.entries, e.job.payload.BringsNodes) :
    Twins { s with queue } { t with queue } :=
  twins.map (f := fun s => { s with queue }) (fun _ => rfl) twins.clock jobs

theorem recorded (twins : Twins s t) (records : List RunRecord) : Twins { s with records } { t with records } :=
  twins.map (f := fun s => { s with records }) (fun _ => rfl) twins.clock twins.jobs

/-- An action on the queue. -/
theorem onQueue (twins : Twins s t) {act : Act DelayQueue ε α} (keeps : DelayQueue.KeepsPayloads act) :
    Agree True Twins Eq (Engine.onQueue act s) (Engine.onQueue act t) := by
  have kept : ∀ e ∈ (act s.queue).2.entries, e.job.payload.BringsNodes := by
    intro e member
    obtain ⟨old,was,same⟩ := keeps s.queue e member
    exact same ▸ twins.jobs old was
  have queued := twins.queued (act s.queue).2 kept
  obtain ⟨⟨automations,rfl⟩,-⟩ := twins
  simp only [Engine.onQueue,zoom]
  revert queued
  rcases act s.queue with ⟨e | a,queue⟩ <;> intro queued
  · exact .error e queued
  · exact .ok rfl queued

theorem parallel (outside : Outside κ) : Parallel (backend outside) (backend outside) Instant.Proper (· ≠ []) Twins where
  now := by rintro s _ ⟨⟨automations,rfl⟩,-⟩; rfl
  clock twins := twins.clock
  call request s t twins := by
    have moved (k : κ) := twins.map (f := fun s => { s with outside := k }) (fun _ => rfl) twins.clock twins.jobs
    obtain ⟨⟨automations,rfl⟩,-⟩ := twins
    simp only [backend,capabilities,zoom]
    rcases Outside.act outside request s.outside with ⟨e | answer,k⟩
    · exact .error e (moved k)
    · exact .ok rfl (moved k)
  suspend minutes left s t proper some twins := by
    have pushed (runAt : Instant) := twins.queued (s.queue.push (Continuation.ofSuspension left).json runAt) <| by
      intro e member
      obtain old | new := List.mem_append.mp member
      · exact twins.jobs e old
      · rw [List.mem_singleton.mp new]
        exact Suspension.bringsNodes some proper
    have unmoved := twins
    obtain ⟨⟨automations,rfl⟩,-⟩ := twins
    change Agree True Twins Eq ((capabilities outside).suspend minutes left _) ((capabilities outside).suspend minutes left _)
    rw [suspend_apply,suspend_apply]
    dsimp only
    cases resumption s.queue.now minutes with
    | error e => exact .error e unmoved
    | ok runAt => exact .ok rfl (pushed runAt)
  freshRunId twins := by
    have counted := twins.map (f := fun s => { s with runs := s.runs + 1 }) (fun _ => rfl) twins.clock twins.jobs
    obtain ⟨⟨automations,rfl⟩,-⟩ := twins
    exact ⟨rfl,counted⟩
  create r s t twins := by
    have stored := twins.recorded (putRecord r s.records)
    obtain ⟨⟨automations,rfl⟩,-⟩ := twins
    exact .ok rfl stored
  update id u s t twins := by
    have stored := twins.recorded (applyTo id u s.records)
    have unmoved := twins
    obtain ⟨⟨automations,rfl⟩,-⟩ := twins
    simp only [backend,update,bind_apply,get_apply]
    by_cases known : (s.record? id).isSome
    · have also : (({ s with automations } : Engine κ).record? id).isSome := known
      rw [if_pos known,if_pos also]
      exact .ok rfl stored
    · have also : ¬(({ s with automations } : Engine κ).record? id).isSome := known
      rw [if_neg known,if_neg also]
      exact .error _ unmoved

end Twins

/-- Nodes that were brought along are those to go on with, over any backend. -/
theorem resumeNodes_captured (b : Backend σ) (captured : config.resumeNodes = .captured) (automation : Uuid) {nodes : List Node} (some : nodes ≠ [])
    (s : σ) : resumeNodes b config automation nodes s = (.ok nodes,s) := by
  unfold resumeNodes
  rw [if_pos (by simpa [captured] using some)]
  rfl

end Engine

namespace Parallel
open Execution

variable {σ τ : Type} {b : Backend σ} {b' : Backend τ} {S : σ → τ → Prop} {config : EngineConfig} {s : σ} {t : τ}

/-- Over backends that answer alike, a run that brings its nodes along goes on alike, without the automations stored. -/
theorem resume_captured (parallel : Parallel b b' Instant.Proper (· ≠ []) S) (captured : config.resumeNodes = .captured) {k : Continuation}
    (some : k.nodes ≠ []) (proper : k.context.startedAt.Proper) (states : S s t) :
    Agree True S Eq (Execution.resume b config k s) (Execution.resume b' config k t) := by
  refine parallel.resume proper ?_
  rw [Engine.resumeNodes_captured b captured _ some,Engine.resumeNodes_captured b' captured _ some]
  exact .ok ⟨rfl,some⟩ states

/-- So does one that is taken up by hand. -/
theorem takeUp_captured (parallel : Parallel b b' Instant.Proper (· ≠ []) S) (captured : config.resumeNodes = .captured) {call : Takeup}
    (some : call.nodes ≠ []) (proper : call.context.startedAt.Proper) (states : S s t) :
    Agree True S Eq (call.run b config s) (call.run b' config t) := by
  cases call with
  | resume k => exact parallel.resume_captured captured some proper states
  | continueAt nodes node left => exact onContext _ (parallel.continueAt config some node ⟨rfl,proper,states⟩)

theorem handler_captured (parallel : Parallel b b' Instant.Proper (· ≠ []) S) (captured : config.resumeNodes = .captured) {job : Job JobId}
    (brings : job.payload.BringsNodes) (states : S s t) :
    Agree True S Eq (Execution.handler b config job s) (Execution.handler b' config job t) :=
  handler states fun k decoded => parallel.resume_captured captured (brings k decoded).1 (brings k decoded).2 states

theorem execute_captured (parallel : Parallel b b' Instant.Proper (· ≠ []) S) (config : EngineConfig) (d : Definition) (input : Json)
    (id? : Option String) (states : S s t) :
    Agree True S Eq (Execution.execute b config d input id? s) (Execution.execute b' config d input id? t) := by
  refine parallel.execute config ?_ input id? states
  intro runnable none
  obtain ⟨-,node,member,-⟩ := Validation.checkRunnable_eq_ok_iff.mp runnable
  rw [none] at member
  exact absurd member List.not_mem_nil

end Parallel

namespace Engine
open Execution

variable {κ : Type} {outside : Outside κ} {config : EngineConfig} {s t : Engine κ}

/-- A job that is claimed brings nodes along, and it is the same on both sides. -/
theorem Twins.claim (twins : Twins s t) (lease : Duration) :
    Agree True Twins (fun x y => x = y ∧ ∀ job, x = some job → job.payload.BringsNodes) (queueOperations.claim lease s)
      (queueOperations.claim lease t) := by
  have unmoved := twins
  obtain nothing | ⟨e,member,-,claimed⟩ := DelayQueue.claim_cases lease s.queue
  · obtain ⟨⟨automations,rfl⟩,-⟩ := twins
    rw [claim_apply,claim_apply,nothing]
    exact .ok ⟨rfl,nofun⟩ unmoved
  · have brings := twins.jobs e member
    have queued := twins.queued (s.queue.update e.job.id fun _ => DelayQueue.delivered e s.queue.now) <| by
      intro x inside
      obtain ⟨old,was,same⟩ := DelayQueue.payload_of_mem_update (f := fun _ => DelayQueue.delivered e s.queue.now)
        (fun _ _ _ => ⟨e,member,rfl⟩) inside
      exact same ▸ twins.jobs old was
    obtain ⟨⟨automations,rfl⟩,-⟩ := twins
    rw [claim_apply,claim_apply,claimed]
    refine .ok ⟨rfl,?_⟩ queued
    rintro _ ⟨⟩
    exact brings

theorem Twins.giveBack (twins : Twins s t) (worker : WorkerConfig) (job : Job JobId) (error : String) :
    Agree True Twins Eq (Worker.giveBack queueOperations worker job error s) (Worker.giveBack queueOperations worker job error t) := by
  unfold Worker.giveBack
  split
  · refine (twins.onQueue (DelayQueue.keepsPayloads_deadLetter job.id error)).bind ?_
    rintro _ _ s t - twins
    exact .ok rfl twins
  · refine (twins.onQueue (DelayQueue.keepsPayloads_retry job.id error _)).bind ?_
    rintro _ _ s t - twins
    exact .ok rfl twins

theorem Twins.workOnce (twins : Twins s t) (outside : Outside κ) (captured : config.resumeNodes = .captured) (worker : WorkerConfig) :
    Agree True Twins Eq (Engine.workOnce outside config worker s) (Engine.workOnce outside config worker t) := by
  refine (twins.claim worker.lease).bind ?_
  rintro taken _ s t ⟨rfl,brings⟩ twins
  cases taken with
  | none => exact .ok rfl twins
  | some job =>
    refine ((parallel outside).handler_captured captured (brings job rfl) twins).attempt_eq.bind ?_
    rintro result _ s t rfl twins
    cases result with
    | ok _ =>
      refine (twins.onQueue (DelayQueue.keepsPayloads_complete job.id)).bind ?_
      rintro _ _ s t - twins
      exact .ok rfl twins
    | error error =>
      refine (twins.giveBack worker job error).bind ?_
      rintro outcome _ s t rfl twins
      exact .ok rfl twins

/-- What can be done with an engine: events, and taking a run up by hand. -/
inductive Move where
  | event (e : Event)
  | takeUp (call : Takeup)

namespace Move

/-- Changes of the automations stored. -/
def isEdit : Move → Bool
  | event (.put _) => true
  | event (.remove _) => true
  | _ => false

/-- By hand, runs are taken up with nodes to go on with. -/
def Possible : Move → Prop
  | event e => e.Possible
  | takeUp call => call.nodes ≠ [] ∧ call.context.startedAt.Proper

def apply (outside : Outside κ) (config : EngineConfig) (s : Engine κ) : Move → Engine κ
  | event e => e.apply outside config s
  | takeUp call => (call.run (backend outside) config s).2

/-- How a move uses the capabilities. -/
def uses (outside : Outside κ) (config : EngineConfig) (s : Engine κ) : Move → List Use
  | event (.execute d input id?) => (Execution.execute (backend outside).noted config d input id? ([],s)).2.1
  | event e => e.uses outside config s
  | takeUp call => (call.run (backend outside).noted config ([],s)).2.1

theorem apply_edit (outside : Outside κ) (config : EngineConfig) {move : Move} (edit : move.isEdit = true) (s : Engine κ) :
    ∃ automations, move.apply outside config s = { s with automations } := by
  cases move with
  | event e =>
    cases e with
    | put d => exact ⟨_,rfl⟩
    | remove id => exact ⟨_,rfl⟩
    | _ => cases edit
  | _ => cases edit

end Move

namespace Twins

theorem apply (twins : Twins s t) (outside : Outside κ) (captured : config.resumeNodes = .captured) {move : Move} (possible : move.Possible)
    (lasting : move.isEdit = false) : Twins (move.apply outside config s) (move.apply outside config t) := by
  cases move with
  | event e =>
    cases e with
    | execute d input id? => exact ((parallel outside).execute_captured config d input id? twins).related
    | put d => cases lasting
    | remove id => cases lasting
    | advance by_ => exact (twins.onQueue (DelayQueue.keepsPayloads_advance by_)).related
    | work worker => exact (twins.workOnce outside captured worker).related
    | tick now => exact twins.map (f := fun s => { s with clock := now }) (fun _ => rfl) possible twins.jobs
  | takeUp call => exact ((parallel outside).takeUp_captured captured possible.1 possible.2 twins).related

theorem uses_eq (twins : Twins s t) (outside : Outside κ) (captured : config.resumeNodes = .captured) {move : Move} (possible : move.Possible) :
    move.uses outside config s = move.uses outside config t := by
  have noted := parallel_likewise (parallel outside)
  have start {s t : Engine κ} (twins : Twins s t) : Likewise Twins ([],s) ([],t) := ⟨rfl,twins⟩
  cases move with
  | event e =>
    cases e with
    | execute d input id? => exact (noted.execute_captured config d input id? (start twins)).related.1
    | work worker =>
      have claimed := twins.claim worker.lease
      simp only [Move.uses,Event.uses]
      generalize queueOperations.claim worker.lease s = x,queueOperations.claim worker.lease t = y at claimed
      cases claimed with
      | @ok taken _ s t same twins =>
        obtain ⟨rfl,brings⟩ := same
        cases taken with
        | none => rfl
        | some job => exact (noted.handler_captured captured (brings job rfl) (start twins)).related.1
      | error e twins => rfl
      | left lenient => exact absurd trivial lenient
      | right lenient => exact absurd trivial lenient
    | _ => rfl
  | takeUp call => exact (noted.takeUp_captured captured possible.1 possible.2 (start twins)).related.1

end Twins

/-- What there is to be seen of a move: how it uses the capabilities, and the jobs and records that it leaves. -/
structure Footprint where
  move : Move
  uses : List Use
  queue : DelayQueue
  records : List RunRecord

/-- The footprints of moves done one after another, those of edits left out. -/
def account (outside : Outside κ) (config : EngineConfig) : Engine κ → List Move → List Footprint
  | _, [] => []
  | s, move :: rest =>
    let t := move.apply outside config s
    if move.isEdit then account outside config t rest
    else ⟨move,move.uses outside config s,t.queue,t.records⟩ :: account outside config t rest

theorem Twins.account_filter (twins : Twins s t) (outside : Outside κ) (captured : config.resumeNodes = .captured) {moves : List Move}
    (possible : ∀ move ∈ moves, move.Possible) :
    account outside config s moves = account outside config t (moves.filter (!·.isEdit)) := by
  induction moves generalizing s t with
  | nil => rfl
  | cons move rest ih =>
    have others := fun move member => possible move (List.mem_cons_of_mem _ member)
    cases edit : move.isEdit with
    | true =>
      obtain ⟨automations,changed⟩ := move.apply_edit outside config edit s
      rw [account,if_pos edit,List.filter_cons_of_neg (by simp [edit]),changed]
      exact ih (twins.edited automations) others
    | false =>
      have first := possible move (List.mem_cons_self ..)
      have next := twins.apply outside captured first edit
      rw [List.filter_cons_of_pos (by simp [edit]),account,account,edit,twins.uses_eq outside captured first,ih next others]
      obtain ⟨⟨automations,same⟩,-⟩ := next
      rw [same]

/-- The state after some moves on an empty engine. -/
def moved (outside : Outside κ) (config : EngineConfig) (k : κ) (clock : Instant) (moves : List Move) : Engine κ :=
  moves.foldl (Move.apply outside config) (Engine.start k clock)

theorem Twins.moved (outside : Outside κ) (captured : config.resumeNodes = .captured) (k : κ) {clock : Instant} (proper : clock.Proper)
    {moves : List Move} (possible : ∀ move ∈ moves, move.Possible) :
    Twins (moved outside config k clock moves) (moved outside config k clock moves) := by
  refine List.foldlRecOn (motive := fun s => Twins s s) moves _ (Twins.start k proper) fun s twins move member => ?_
  cases edit : move.isEdit with
  | true =>
    obtain ⟨automations,changed⟩ := move.apply_edit outside config edit s
    rw [changed]
    exact ⟨⟨automations,rfl⟩,twins.clock,twins.jobs⟩
  | false => exact twins.apply outside captured (possible move member) edit

/-- An engine that goes on with captured nodes takes no notice of edits. After a run has been started, two courses of moves that
differ in what is done to the stored automations use the capabilities alike and leave the same jobs and records at every move:
each job of the run brings the nodes along that its continuation walks, through any number of delays. -/
theorem captured_run_ignores_edits (outside : Outside κ) (captured : config.resumeNodes = .captured) (k : κ) {clock : Instant} (proper : clock.Proper)
    {before moves moves' : List Move} (possible : ∀ move ∈ before ++ moves ++ moves', move.Possible) (d : Definition) (input : Json)
    (id? : Option String) (same : moves.filter (!·.isEdit) = moves'.filter (!·.isEdit)) :
    let s := moved outside config k clock (before ++ [.event (.execute d input id?)])
    account outside config s moves = account outside config s moves' := by
  have launched : ∀ move ∈ before ++ [.event (.execute d input id?)], move.Possible := by
    intro move member
    obtain early | last := List.mem_append.mp member
    · exact possible move (List.mem_append_left _ (List.mem_append_left _ early))
    · rw [List.mem_singleton.mp last]
      trivial
  have started := Twins.moved outside captured k proper launched
  intro s
  calc
    account outside config s moves = account outside config s (moves.filter (!·.isEdit)) :=
      started.account_filter outside captured fun move member => possible move (List.mem_append_left _ (List.mem_append_right _ member))
    _ = account outside config s (moves'.filter (!·.isEdit)) := by rw [same]
    _ = account outside config s moves' :=
      (started.account_filter outside captured fun move member => possible move (List.mem_append_right _ member)).symm

/-- Two delays one after the other, and a contact to register behind them. -/
def patient : Definition := ⟨.nil,.nil,"patient",true,[⟨"start",["pause"],.trigger ⟨"crm","new",none⟩⟩,⟨"pause",["again"],.delay 0⟩,
  ⟨"again",["register"],.delay 0⟩,⟨"register",[],.contacts ⟨.create,.object []⟩⟩],⟨0,false⟩,⟨0,false⟩⟩

/-- Two rounds of the worker, before each of which another automation comes in the place of the one that was run. -/
def interrupted : List Move :=
  [.event (.put pausing),.event (.work .standard),.event (.remove .nil),.event (.put registering),.event (.work .standard)]

def uninterrupted : List Move := [.event (.work .standard),.event (.work .standard)]

def keeping : EngineConfig := { standard with resumeNodes := .captured }

/-- The first round suspends the run again and the second asks for the contact, whatever is stored as its automation. -/
theorem patient_run_ignores_edits :
    let s := moved silent keeping () ⟨0,false⟩ [.event (.execute patient .null (some "run"))]
    account silent keeping s interrupted = account silent keeping s uninterrupted ∧
      (account silent keeping s interrupted).map (·.uses.length) = [1,1] := by
  have proper : (⟨0,false⟩ : Instant).Proper := ⟨by decide,nofun⟩
  have possible : ∀ move ∈ [] ++ interrupted ++ uninterrupted, move.Possible := by
    simp [interrupted,uninterrupted,Move.Possible,Event.Possible]
  exact ⟨captured_run_ignores_edits silent rfl () proper possible patient .null (some "run") rfl,by decide +kernel⟩

end Engine
end Flowgraph
