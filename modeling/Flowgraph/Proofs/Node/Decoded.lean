import Flowgraph.Proofs.Decode.Result
import Flowgraph.Proofs.Node.Codec

/-! Nodes as documents give them. All the values in such a node are orderly, and the body of a request is not null; so reading the node
back from its own object changes nothing about it. -/

namespace Flowgraph
open Decode

/-- A node that some document gives, in whatever form that is accepted. -/
def Node.Decoded (node : Node) : Prop := ∃ setting value, Node.decoder setting value = .ok node

theorem Trigger.canonical_of_record : Trigger.record.Gives fun t => t.canonical = t := by
  refine .seq (P := fun given => ∀ fields ∈ given, Fields.Orderly fields) (.optional (.nullable .fields) nofun) ?_
  refine .seq (.required (.trivial _)) (.map (.required (.trivial _)) fun origin _ event _ payload orderly => ?_)
  cases payload with
  | none => rfl
  | some fields => simp only [canonical,Option.map_some,(orderly fields rfl).canonical_eq]

theorem HttpCall.canonical_of_record : HttpCall.record.Gives fun c => c.canonical = c := by
  refine .seq (P := fun given => ∀ body ∈ given, body.Orderly ∧ body.isNull = false) (.optional .nullable_any nofun) ?_
  refine .seq (P := fun given => ∀ headers ∈ given, Fields.Ordered headers) (.optional (.nullable .stringFields) nofun) ?_
  refine .seq (.required (.trivial _)) (.map (.required (.trivial _)) fun method _ url _ headers ordered body orderly => ?_)
  have sameHeaders : headers.map Fields.ofList = headers := by
    cases headers with
    | none => rfl
    | some headers => rw [Option.map_some,Fields.ofList_of_ordered (ordered headers rfl)]
  have sameBody : (body.bind fun body => if body.isNull then none else some body.canonical) = body := by
    cases body with
    | none => rfl
    | some body =>
      obtain ⟨orderly,given⟩ := orderly body rfl
      rw [Option.bind_some,given,orderly.canonical_eq]
      rfl
  simp only [canonical,sameHeaders,sameBody]

theorem Clause.canonical_of_decoder : Gives (fun c => c.canonical = c) Clause.decoder := by
  refine .ofRecord (.seq (P := Json.Orderly) (.defaulted .any .null) ?_)
  refine .seq (.required (.trivial _)) (.map (.required (.trivial _)) fun field _ comparison _ value orderly => ?_)
  simp only [canonical,orderly.canonical_eq]

theorem Condition.canonical_of_record : Condition.record.Gives fun c => c.canonical = c := by
  refine .seq (.required (.trivial _)) (.seq (.required (.trivial _)) ?_)
  refine .map (.required (.list Clause.canonical_of_decoder)) fun clauses same yes _ no _ => ?_
  have each : clauses.map Clause.canonical = clauses := by
    conv_rhs => rw [← List.map_id clauses]
    exact List.map_congr_left same
  simp only [canonical,each]

theorem ContactChange.canonical_of_record : ContactChange.record.Gives fun c => c.canonical = c := by
  refine .seq (P := Json.Orderly) (.defaulted .any .null) (.map (.required (.trivial _)) fun action _ data orderly => ?_)
  simp only [canonical,orderly.canonical_eq]

namespace NodeKind

/-- Every decoder of a kind gives kinds that are as documents have them. -/
theorem canonical_of_table : ∀ entry ∈ table, Gives (fun kind => kind.canonical = kind) entry.2 := by
  have plain {α : Type} (record : Record α) (f : α → NodeKind) (what : String) (same : ∀ a, (f a).canonical = f a) :
      Gives (fun kind => kind.canonical = kind) (table.kindOf record f what) :=
    .ofRecord (.map (P := fun _ => True) (fun _ _ _ _ => trivial) fun a _ => same a)
  simp only [table,List.forall_mem_cons]
  refine ⟨?_,?_,?_,?_,?_,?_,?_,?_,?_,nofun⟩
  · exact .ofRecord (.map Trigger.canonical_of_record fun _ same => congrArg trigger same)
  · exact .ofRecord (.map HttpCall.canonical_of_record fun _ same => congrArg httpRequest same)
  · exact .ofRecord (.map Condition.canonical_of_record fun _ same => congrArg condition same)
  · exact plain _ _ _ fun _ => rfl
  · exact plain _ _ _ fun _ => rfl
  · exact plain _ _ _ fun _ => rfl
  · exact plain _ _ _ fun _ => rfl
  · exact plain _ _ _ fun _ => rfl
  · exact .ofRecord (.map ContactChange.canonical_of_record fun _ same => congrArg contacts same)

theorem named_mem {tag : Json} {inner : Decoder NodeKind} (found : named tag = .ok inner) : ∃ entry ∈ table, entry.2 = inner := by
  unfold named at found
  split at found
  · exact ⟨_,variantNamed_mem found,rfl⟩
  · split at found
    · cases found
    · split at found
      · next known => cases found; exact ⟨_,List.mem_of_getElem? known,rfl⟩
      · cases found
  · cases found

theorem canonical_of_ofEntries {entries : List (String × Json)} {kind : NodeKind} (read : ofEntries entries = .ok kind) :
    kind.canonical = kind := by
  simp only [ofEntries] at read
  split at read
  · cases read
  · cases read
  · next tag _ =>
    cases found : named tag with
    | error e => rw [found] at read; cases read
    | ok inner =>
      rw [found] at read
      obtain ⟨entry,member,rfl⟩ := named_mem found
      exact canonical_of_table entry member _ _ _ read

end NodeKind

/-- A node that has been read from a document is read back unchanged. -/
theorem Node.Decoded.canonical_eq {node : Node} (decoded : node.Decoded) : node.canonical = node := by
  obtain ⟨setting,value,read⟩ := decoded
  cases value with
  | object entries =>
    simp only [Node.decoder,bind,Except.bind] at read
    split at read
    · cases read
    · split at read
      · cases read
      · next found =>
        cases read
        simp only [Node.canonical,NodeKind.canonical_of_ofEntries found]
  | _ => cases read

theorem Node.decoded_iff {node : Node} : node.Decoded ↔ node.canonical = node :=
  ⟨Decoded.canonical_eq,fun same => ⟨.direct,node.json,by rw [node.decoder_json,same]⟩⟩

end Flowgraph
