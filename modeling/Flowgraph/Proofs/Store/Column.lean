import Flowgraph.Proofs.Decode.Record
import Flowgraph.Proofs.Json.Orderly
import Flowgraph.Proofs.Time.Rfc3339
import Flowgraph.Run.Context
import Flowgraph.Store.Column

/-! The values that a column gives back as they were put in: text without a NUL character, times of whole
microseconds, and documents made of these. The documents of a trace are among them. -/

namespace Flowgraph
open Decode Fields

namespace Column

theorem text_of_clean {s : String} (clean : hasNul s = false) : text s = .ok s := by
  rw [text,if_neg (by simp [clean])]

/-- Times from the first one on are given back where they are whole microseconds, and no other times. -/
theorem time_eq_iff {t : Instant} :
    time t = .ok t ↔ t.leap = false ∧ 1000 ∣ t.nanos ∧ epoch + firstMicros * 1000 ≤ t.nanos := by
  obtain ⟨nanos,leap⟩ := t
  have whole : (1000 : Int) ∣ epoch := by decide
  unfold time
  split
  · next early =>
    refine ⟨nofun,?_⟩
    rintro ⟨rfl,divides,late⟩
    simp only [micros,Bool.false_eq_true,if_false,add_zero] at early divides late
    have back := Int.tdiv_mul_cancel (Int.dvd_sub divides whole)
    omega
  · next inside =>
    simp only [Except.ok.injEq,Instant.mk.injEq]
    refine ⟨?_,?_⟩
    · rintro ⟨same,rfl⟩
      refine ⟨rfl,same ▸ Int.dvd_add whole (Int.dvd_mul_left ..),?_⟩
      omega
    · rintro ⟨rfl,divides,-⟩
      have back := Int.tdiv_mul_cancel (Int.dvd_sub divides whole)
      simp only [micros,Bool.false_eq_true,if_false,add_zero]
      exact ⟨by omega,trivial⟩

theorem json_eq_iff {value : Json} : json value = .ok value ↔ isClean value = true ∧ settled value = value := by
  unfold json
  split
  · next clean => simp [clean]
  · next unclean => simp [unclean]

theorem json_array {items : List Json} (each : ∀ item ∈ items, json item = .ok item) : json (.array items) = .ok (.array items) := by
  simp only [json_eq_iff,isClean,settled,Json.array.injEq] at each ⊢
  induction items with
  | nil => exact ⟨rfl,rfl⟩
  | cons item rest ih =>
    obtain ⟨clean,same⟩ := each item (List.mem_cons_self ..)
    obtain ⟨others,stay⟩ := ih fun other member => each other (List.mem_cons_of_mem _ member)
    simp [areClean,settledItems,clean,same,others,stay]

theorem json_object {fields : Fields} (each : ∀ entry ∈ fields, hasNul entry.1 = false ∧ json entry.2 = .ok entry.2) :
    json (.object fields) = .ok (.object fields) := by
  simp only [json_eq_iff,isClean,settled,Json.object.injEq] at each ⊢
  induction fields with
  | nil => exact ⟨rfl,rfl⟩
  | cons entry rest ih =>
    obtain ⟨key,clean,same⟩ := each entry (List.mem_cons_self ..)
    obtain ⟨others,stay⟩ := ih fun other member => each other (List.mem_cons_of_mem _ member)
    simp [fieldsAreClean,settledFields,key,clean,same,others,stay]

theorem json_string {s : String} (clean : hasNul s = false) : json (.string s) = .ok (.string s) := by
  simp [json,isClean,settled,clean]

theorem hasNul_append (s t : String) : hasNul (s ++ t) = (hasNul s || hasNul t) := by
  simp [hasNul]

theorem hasNul_padded (width n : Nat) : hasNul (Rfc3339.padded width n) = false := by
  simp only [hasNul,List.contains_eq_mem,decide_eq_false_iff_not]
  intro member
  exact absurd (Rfc3339.isDigit_of_mem_padded _ member) (by decide)

theorem hasNul_rfc3339 (t : Instant) : hasNul (Rfc3339.text t) = false := by
  have year (n : Int) : hasNul (Rfc3339.yearText n) = false := by
    unfold Rfc3339.yearText
    split
    · exact hasNul_padded ..
    · rw [hasNul_append,hasNul_padded]
      split <;> rfl
  have fraction (n : Nat) : hasNul (Rfc3339.fractionText n) = false := by
    have point : hasNul "." = false := by decide
    unfold Rfc3339.fractionText
    split_ifs
    · rfl
    all_goals rw [hasNul_append,hasNul_padded,point,Bool.or_false]
  simp only [Rfc3339.text,hasNul_append,hasNul_padded,year,fraction]
  rfl

end Column

namespace LogEntry

/-- An entry whose document a column gives back, and from which it can be read. -/
structure Storable (e : LogEntry) : Prop where
  timestamp : e.timestamp.Proper
  nodeId : Column.hasNul e.nodeId = false
  action : Column.hasNul e.action = false
  message : Column.hasNul e.message = false

theorem Storable.json {e : LogEntry} (storable : e.Storable) : Column.json e.json = .ok e.json := by
  refine Column.json_object fun entry member => ?_
  have keys : ∀ key ∈ ["timestamp","nodeId","level","action","message"], Column.hasNul key = false := by decide
  have level : Column.hasNul e.level.name = false := by cases e.level <;> rfl
  have given := (mem_merge entry member).resolve_left List.not_mem_nil
  simp only [List.mem_cons,List.not_mem_nil,or_false] at given
  obtain rfl | rfl | rfl | rfl | rfl := given
  · exact ⟨keys _ (by simp),Column.json_string (Column.hasNul_rfc3339 _)⟩
  · exact ⟨keys _ (by simp),Column.json_string storable.nodeId⟩
  · exact ⟨keys _ (by simp),Column.json_string level⟩
  · exact ⟨keys _ (by simp),Column.json_string storable.action⟩
  · exact ⟨keys _ (by simp),Column.json_string storable.message⟩

theorem decoder_json {e : LogEntry} (setting : Setting) (proper : e.timestamp.Proper) : decoder setting e.json = .ok e := by
  have ordered := ordered_ofList [("timestamp",Rfc3339.json e.timestamp),("nodeId",.string e.nodeId),
    ("level",.string e.level.name),("action",.string e.action),("message",.string e.message)]
  have level : LogLevel.table.lookup e.level.name = some e.level := by cases e.level <;> rfl
  apply Record.decoder_object
  refine Record.read_seq (Record.read_seq (Record.read_seq (Record.read_seq (Record.read_map LogEntry.mk ?_) ?_) ?_) ?_) ?_
  · exact Record.read_required ordered (lookup_ofList ..) (Rfc3339.decoder_json setting proper)
  · exact Record.read_required ordered (lookup_ofList ..) rfl
  · exact Record.read_required ordered (lookup_ofList ..) (variant_string setting level)
  · exact Record.read_required ordered (lookup_ofList ..) rfl
  · exact Record.read_required ordered (lookup_ofList ..) rfl

end LogEntry
end Flowgraph
