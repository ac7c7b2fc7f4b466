import Flowgraph.Proofs.Engine.Memory
import Flowgraph.Proofs.Store.Column
import Flowgraph.Store.RunTable

/-! The records of runs in memory and in the table. Where columns give back what is put into them, the rows
of the table are at all times those of the records, and both stores answer every call alike. -/

namespace Flowgraph
open Act

/-- A call on a store of runs. -/
inductive RunCall where
  | create (r : RunRecord)
  | update (id : String) (u : RunUpdate)
  | get (id : String)

inductive RunReply where
  | done
  | found (r? : Option RunRecord)

/-- A store of runs, by what it does at each call. -/
structure RunStore (σ : Type) where
  create : RunRecord → Act σ StoreFault Unit
  update : String → RunUpdate → Act σ StoreFault Unit
  record? : String → Act σ StoreFault (Option RunRecord)

namespace RunStore

def table : RunStore RunTable := ⟨RunTable.create,RunTable.update,RunTable.record?⟩

def memory {κ : Type} : RunStore (Engine κ) := ⟨Engine.create,Engine.update,fun id => return (← get).record? id⟩

variable {σ : Type}

def perform (store : RunStore σ) : RunCall → Act σ StoreFault RunReply
  | .create r => (fun _ => .done) <$> store.create r
  | .update id u => (fun _ => .done) <$> store.update id u
  | .get id => .found <$> store.record? id

/-- What calls one after the other are answered with. -/
def replies (store : RunStore σ) : List RunCall → σ → List (Except (Failure StoreFault) RunReply)
  | [],_ => []
  | call :: rest,s => (store.perform call s).1 :: store.replies rest (store.perform call s).2

end RunStore

/-- A record of which columns give back every part. -/
structure RunRecord.Storable (r : RunRecord) : Prop where
  executionId : Column.hasNul r.executionId = false
  startedAt : Column.time r.startedAt = .ok r.startedAt
  completedAt : ∀ t, r.completedAt = some t → Column.time t = .ok t
  input : Column.json r.input = .ok r.input
  output : ∀ value, r.output = some value → Column.json value = .ok value
  logs : ∀ e ∈ r.logs, e.Storable
  error : ∀ message, r.error = some message → Column.hasNul message = false

structure RunUpdate.Storable (u : RunUpdate) : Prop where
  completedAt : ∀ t, u.completedAt = some t → Column.time t = .ok t
  output : ∀ value, u.output = some value → Column.json value = .ok value
  error : ∀ message, u.error = some message → Column.hasNul message = false
  logs : ∀ e ∈ u.logs, e.Storable

namespace RunCall

def Storable : RunCall → Prop
  | create r => r.Storable
  | update id u => Column.hasNul id = false ∧ u.Storable
  | get id => Column.hasNul id = false

/-- The answers there are to a call: an update may miss its record, and nothing else fails. -/
def AnsweredBy : RunCall → Except (Failure StoreFault) RunReply → Prop
  | create _,reply => reply = .ok .done
  | update id _,reply => reply = .ok .done ∨ reply = .error (.cause (.executionNotFound id))
  | get _,reply => ∃ r?, reply = .ok (.found r?)

end RunCall

namespace Column

theorem mapM_kept {α : Type} {f : α → Except DatabaseFault α} {value : Option α} (each : ∀ a, value = some a → f a = .ok a) :
    value.mapM f = .ok value := by
  cases value with
  | none => rfl
  | some a => rw [Option.mapM_some,each a rfl]; rfl

theorem mapM_kept_list {f : α → Except DatabaseFault α} {values : List α} (each : ∀ a ∈ values, f a = .ok a) :
    values.mapM f = .ok values := by
  induction values with
  | nil => rfl
  | cons a rest ih =>
    rw [List.mapM_cons,each a (List.mem_cons_self ..),ih fun b member => each b (List.mem_cons_of_mem _ member)]
    rfl

theorem text_status (status : Status) : text status.name = .ok status.name := by cases status <;> rfl

theorem json_entries {entries : List LogEntry} (storable : ∀ e ∈ entries, e.Storable) :
    ∀ value ∈ entries.map LogEntry.json, json value = .ok value := by
  intro value member
  obtain ⟨e,inside,rfl⟩ := List.mem_map.mp member
  exact (storable e inside).json

end Column

theorem Status.named?_name (status : Status) : named? status.name = some status := by cases status <;> rfl

namespace RunRow

theorem kept_ofRecord {r : RunRecord} (storable : r.Storable) : (ofRecord r).kept = .ok (ofRecord r) := by
  simp only [kept,ofRecord,Column.text_of_clean storable.executionId,Column.text_status,storable.startedAt,
    Column.mapM_kept storable.completedAt,storable.input,Column.mapM_kept storable.output,
    Column.json_array (Column.json_entries storable.logs),
    Column.mapM_kept (f := Column.text) fun message given => Column.text_of_clean (storable.error message given)]
  rfl

theorem record_ofRecord {r : RunRecord} (proper : ∀ e ∈ r.logs, e.timestamp.Proper) : (ofRecord r).record = .ok r := by
  have logs : Decode.list LogEntry.decoder .direct (.array (r.logs.map LogEntry.json)) = .ok (r.logs.map id) :=
    Decode.list_map fun e member => LogEntry.decoder_json .direct (proper e member)
  simp only [record,ofRecord,Status.named?_name,logs,List.map_id]

theorem patched_ofRecord (r : RunRecord) (u : RunUpdate) : (ofRecord r).patched (.ofUpdate u) = ofRecord (r.apply u) := by
  simp only [patched,ofRecord,RunPatch.ofUpdate,RunRecord.apply,Column.joined,List.map_append]
  cases u.status <;> rfl

end RunRow

theorem RunPatch.kept_ofUpdate {u : RunUpdate} (storable : u.Storable) : (ofUpdate u).kept = .ok (ofUpdate u) := by
  have status : (u.status.map Status.name).mapM Column.text = .ok (u.status.map Status.name) := by
    cases u.status with
    | none => rfl
    | some status => rw [Option.map_some,Option.mapM_some,Column.text_status]; rfl
  simp only [kept,ofUpdate,status,Column.mapM_kept storable.completedAt,Column.mapM_kept storable.output,
    Column.mapM_kept (f := Column.text) fun message given => Column.text_of_clean (storable.error message given),
    Column.mapM_kept_list (Column.json_entries storable.logs)]
  rfl

namespace RunTable

/-- The rows of records. -/
def mirror (records : List RunRecord) : RunTable := records.map .ofRecord

variable {κ : Type}

theorem row?_mirror (s : Engine κ) (id : String) : row? (mirror s.records) id = (s.record? id).map .ofRecord := by
  rw [row?,mirror,List.find?_map]
  rfl

theorem put_mirror (r : RunRecord) (s : Engine κ) : put (.ofRecord r) (mirror s.records) = mirror (Engine.putRecord r s.records) := by
  have known : ((s.record? r.executionId).map RunRow.ofRecord).isSome = s.records.any (·.executionId == r.executionId) := by
    rw [Option.isSome_map,Engine.record?,List.isSome_find?]
  change (if (row? (mirror s.records) r.executionId).isSome then _ else _) = _
  rw [row?_mirror,known,Engine.putRecord]
  split
  · simp only [mirror,List.map_map,List.map_inj_left,Function.comp_apply]
    intro old _
    change (if old.executionId = r.executionId then _ else _) = _
    split <;> rfl
  · rw [mirror,mirror,List.map_append,List.map_singleton]

theorem patched_mirror (id : String) (u : RunUpdate) (records : List RunRecord) :
    ((mirror records).map fun r => if r.executionId = id then r.patched (.ofUpdate u) else r) = mirror (Engine.applyTo id u records) := by
  simp only [mirror,Engine.applyTo,List.map_map,List.map_inj_left,Function.comp_apply]
  intro r _
  change (if r.executionId = id then _ else _) = _
  split
  · exact RunRow.patched_ofRecord r u
  · rfl

theorem create_mirror {r : RunRecord} (s : Engine κ) (storable : r.Storable) :
    create r (mirror s.records) = (.ok (),mirror (Engine.putRecord r s.records)) := by
  have upserted : upsert (.ofRecord r) (mirror s.records) = (.ok (),put (.ofRecord r) (mirror s.records)) :=
    bind_ok (ofExcept_ok (RunRow.kept_ofRecord storable) _)
  rw [create,mapFault_ok _ upserted,put_mirror]

theorem update_mirror {id : String} {u : RunUpdate} (s : Engine κ) (clean : Column.hasNul id = false) (storable : u.Storable) :
    update id u (mirror s.records) = if (s.record? id).isSome then (.ok (),mirror (Engine.applyTo id u s.records))
      else (.error (.cause (.executionNotFound id)),mirror s.records) := by
  have named := ofExcept_ok (Column.text_of_clean clean) (mirror s.records)
  have kept := ofExcept_ok (RunPatch.kept_ofUpdate storable) (mirror s.records)
  rw [update,mapFault,patch,bind_ok named,bind_ok kept,bind_ok (get_apply _),row?_mirror,Option.isSome_map]
  by_cases recorded : (s.record? id).isSome = true
  · rw [if_pos recorded,if_pos recorded,← patched_mirror]
    rfl
  · rw [if_neg recorded,if_neg recorded]
    rfl

theorem record?_mirror {id : String} (s : Engine κ) (clean : Column.hasNul id = false)
    (proper : ∀ r ∈ s.records, ∀ e ∈ r.logs, e.timestamp.Proper) :
    record? id (mirror s.records) = (.ok (s.record? id),mirror s.records) := by
  have named := ofExcept_ok (Column.text_of_clean clean) (mirror s.records)
  rw [record?,bind_apply,attempt,fetch,bind_ok named,bind_ok (get_apply _),row?_mirror]
  cases found : s.record? id with
  | none => rfl
  | some r =>
    have read := RunRow.record_ofRecord (proper r (List.mem_of_find?_eq_some found))
    change (some <$> ofExcept (RunRow.ofRecord r).record : Act RunTable StoreFault _) _ = _
    rw [read]
    rfl

end RunTable

namespace RunStore

variable {κ : Type}

/-- The rows are those of the records, and the traces of the records can be read from them. -/
structure Mirrors (rows : RunTable) (s : Engine κ) : Prop where
  rows : rows = .mirror s.records
  proper : ∀ r ∈ s.records, ∀ e ∈ r.logs, e.timestamp.Proper

theorem Mirrors.create {s : Engine κ} {r : RunRecord} (proper : ∀ r ∈ s.records, ∀ e ∈ r.logs, e.timestamp.Proper) (storable : r.Storable) :
    Mirrors (.mirror (Engine.putRecord r s.records)) { s with records := Engine.putRecord r s.records } := by
  refine ⟨rfl,fun other member => ?_⟩
  have new : ∀ e ∈ r.logs, e.timestamp.Proper := fun e inside => (storable.logs e inside).timestamp
  dsimp only [Engine.putRecord] at member
  split at member
  · obtain ⟨old,inside,rfl⟩ := List.mem_map.mp member
    split
    · exact new
    · exact proper old inside
  · obtain old | fresh := List.mem_append.mp member
    · exact proper other old
    · exact List.mem_singleton.mp fresh ▸ new

theorem Mirrors.update {s : Engine κ} (id : String) {u : RunUpdate} (proper : ∀ r ∈ s.records, ∀ e ∈ r.logs, e.timestamp.Proper)
    (storable : u.Storable) : Mirrors (.mirror (Engine.applyTo id u s.records)) { s with records := Engine.applyTo id u s.records } := by
  refine ⟨rfl,fun other member => ?_⟩
  obtain ⟨old,inside,rfl⟩ := List.mem_map.mp member
  split
  · intro e entry
    exact (List.mem_append.mp entry).elim (proper old inside e) fun later => (storable.logs e later).timestamp
  · exact proper old inside

/-- One call is answered alike by both stores, and the rows are those of the records again. -/
theorem perform_agrees {rows : RunTable} {s : Engine κ} {call : RunCall} (mirrors : Mirrors rows s) (storable : call.Storable) :
    (table.perform call rows).1 = (memory.perform call s).1 ∧ Mirrors (table.perform call rows).2 (memory.perform call s).2 ∧
      call.AnsweredBy (memory.perform call s).1 := by
  obtain ⟨rfl,proper⟩ := mirrors
  cases call with
  | create r =>
    have stored : table.perform (.create r) (.mirror s.records) = (.ok .done,.mirror (Engine.putRecord r s.records)) :=
      bind_ok (RunTable.create_mirror s storable)
    rw [stored]
    exact ⟨rfl,.create proper storable,rfl⟩
  | update id u =>
    obtain ⟨clean,fit⟩ := storable
    have changed := RunTable.update_mirror s clean fit
    by_cases recorded : (s.record? id).isSome = true
    · rw [if_pos recorded] at changed
      have held : memory.perform (.update id u) s = (.ok .done,{ s with records := Engine.applyTo id u s.records }) :=
        bind_ok (Engine.update_apply u recorded)
      have stored : table.perform (.update id u) (.mirror s.records) = (.ok .done,.mirror (Engine.applyTo id u s.records)) := bind_ok changed
      rw [stored,held]
      exact ⟨rfl,.update id proper fit,.inl rfl⟩
    · rw [if_neg recorded] at changed
      have missed : Engine.update id u s = (.error (.cause (.executionNotFound id)),s) := by
        rw [Engine.update,bind_ok (get_apply _),if_neg recorded]
        rfl
      have held : memory.perform (.update id u) s = (.error (.cause (.executionNotFound id)),s) := bind_error missed
      have stored : table.perform (.update id u) (.mirror s.records) = (.error (.cause (.executionNotFound id)),.mirror s.records) :=
        bind_error changed
      rw [stored,held]
      exact ⟨rfl,⟨rfl,proper⟩,.inr rfl⟩
  | get id =>
    have stored : table.perform (.get id) (.mirror s.records) = (.ok (.found (s.record? id)),.mirror s.records) :=
      bind_ok (RunTable.record?_mirror s storable proper)
    rw [stored]
    exact ⟨rfl,⟨rfl,proper⟩,_,rfl⟩

theorem replies_agree {rows : RunTable} {s : Engine κ} {calls : List RunCall} (mirrors : Mirrors rows s) (storable : ∀ call ∈ calls, call.Storable) :
    table.replies calls rows = memory.replies calls s ∧ List.Forall₂ RunCall.AnsweredBy calls (memory.replies calls s) := by
  induction calls generalizing rows s with
  | nil => exact ⟨rfl,.nil⟩
  | cons call rest ih =>
    obtain ⟨same,again,answered⟩ := perform_agrees mirrors (storable call (List.mem_cons_self ..))
    obtain ⟨others,after⟩ := ih again fun other member => storable other (List.mem_cons_of_mem _ member)
    exact ⟨congrArg₂ List.cons same others,.cons answered after⟩

/-- Whatever is created, updated and asked for, an empty table and an empty memory give the same answers; only an update can fail,
and only for want of its record. -/
theorem stores_agree (k : κ) (clock : Instant) {calls : List RunCall} (storable : ∀ call ∈ calls, call.Storable) :
    table.replies calls [] = memory.replies calls (Engine.start k clock) ∧
      List.Forall₂ RunCall.AnsweredBy calls (memory.replies calls (Engine.start k clock)) :=
  replies_agree ⟨rfl,fun _ member => absurd member List.not_mem_nil⟩ storable

/-- A run that ends without a result, and one of the same id that takes its place. -/
def restarted : RunRecord := ⟨"run",.nil,.nil,.running,⟨0,false⟩,none,.array [.string "in"],none,none,[],none⟩

def ended : RunUpdate := ⟨some .failed,some ⟨1000,false⟩,some .null,some 1,some "node 'wait' failed",[⟨⟨999,false⟩,"wait",.error,"delay","late"⟩]⟩

def restart : List RunCall :=
  [.create restarted,.update "run" ended,.update "other" ended,.get "run",.create restarted,.get "run"]

theorem restart_agrees : (∀ call ∈ restart, call.Storable) ∧ table.replies restart [] =
      [.ok .done,.ok .done,.error (.cause (.executionNotFound "other")),.ok (.found (some (restarted.apply ended))),.ok .done,
        .ok (.found (some restarted))] := by
  have record : restarted.Storable := ⟨rfl,rfl,nofun,rfl,nofun,nofun,nofun⟩
  have update : ended.Storable := by
    refine ⟨fun _ given => ?_,fun _ given => ?_,fun _ given => ?_,fun e member => ?_⟩
    · cases given
      rfl
    · cases given
      rfl
    · cases given
      rfl
    · obtain rfl := List.mem_singleton.mp member
      exact ⟨⟨by decide,nofun⟩,rfl,rfl,rfl⟩
  have storable : ∀ call ∈ restart, call.Storable := by
    simp only [restart,List.forall_mem_cons]
    exact ⟨record,⟨rfl,update⟩,⟨rfl,update⟩,rfl,record,rfl,List.forall_mem_nil _⟩
  exact ⟨storable,(stores_agree () ⟨0,false⟩ storable).1⟩

end RunStore
end Flowgraph
