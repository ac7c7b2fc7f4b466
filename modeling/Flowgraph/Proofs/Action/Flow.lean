import Flowgraph.Action.Node
import Flowgraph.Proofs.Effect.Act

/-! How a run goes on after a node. Every way in which it can go on is one that the edges of the node
provide for, so the successors of a node are all the ids that a run may look for behind it. -/

namespace Flowgraph
open Act

/-- The ways to go on that the kind of a node allows. -/
def Flow.Suits (node : Node) : Flow → Prop
  | .next => node.successors = node.next
  | .branch ids => ∃ config, node.kind = .condition config ∧ (ids = config.trueNext ∨ ids = config.falseNext)
  | .suspend _ => ∃ minutes, node.kind = .delay minutes

/-- The ids that a run goes on to at once. -/
def Flow.ids (node : Node) : Flow → List String
  | .next => node.next
  | .branch ids => ids
  | .suspend _ => []

def Flow.jobs : Flow → List String
  | .suspend job => [job]
  | _ => []

theorem Flow.Suits.subset {node : Node} {flow : Flow} (suits : flow.Suits node) : flow.ids node ⊆ node.successors := by
  cases flow with
  | next => exact suits.symm ▸ List.Subset.refl _
  | branch ids =>
    obtain ⟨config,kind,rfl | rfl⟩ := suits
    · simp [Flow.ids,Node.successors,kind]
    · simp [Flow.ids,Node.successors,kind]
  | suspend job => exact List.nil_subset _

theorem Flow.Suits.jobs_eq_nil {node : Node} {flow : Flow} (suits : flow.Suits node) (prompt : ∀ minutes, node.kind ≠ .delay minutes) :
    flow.jobs = [] := by
  cases flow with
  | suspend job => obtain ⟨minutes,kind⟩ := suits; exact absurd kind (prompt minutes)
  | _ => rfl

namespace Action

variable {σ : Type} {caps : Capabilities σ} {P : Flow → Prop}

theorem returns_condition {id : String} {config : Condition} (yes : P (.branch config.trueNext)) (no : P (.branch config.falseNext)) :
    Returns P (condition caps id config) := by
  refine .bind fun _ => .bind fun _ => .pure ?_
  split
  · exact yes
  · exact no

theorem returns_contacts {id : String} {config : ContactChange} (next : P .next) : Returns P (contacts caps id config) := by
  unfold contacts
  split
  · refine .bind fun _ => ?_
    split
    · exact .bind fun _ => .bind fun _ => .bind fun _ => .pure next
    · exact .fail _
  · exact .fail _

theorem returns_delay {nodes : List Node} {node : Node} {minutes : Float} (suspend : ∀ job, P (.suspend job)) :
    Returns P (delay caps nodes node minutes) := by
  unfold delay
  split
  · exact .fail _
  · exact .bind fun _ => .bind fun _ => .bind fun _ => .bind fun _ => .pure (suspend _)

theorem returns_massEmail {batchSize : Nat} {id : String} {config : MassEmail} (next : P .next) :
    Returns P (massEmail caps batchSize id config) := by
  refine .bind fun _ => .bind fun found => ?_
  cases found with
  | none => exact .fail _
  | some list =>
    refine .bind fun _ => .bind fun _ => ?_
    dsimp only
    split
    · exact .bind fun _ => .bind fun _ => .bind fun _ => .pure next
    · exact .bind fun _ => .bind fun _ => .pure next

/-- Where a property holds of the ways to go on that the kind of a node allows, it holds of the one that is taken. -/
theorem perform_returns (caps : Capabilities σ) (batchSize : Nat) (nodes : List Node) {node : Node}
    (next : (∀ config, node.kind ≠ .condition config) → (∀ minutes, node.kind ≠ .delay minutes) → P .next)
    (branch : ∀ config, node.kind = .condition config → P (.branch config.trueNext) ∧ P (.branch config.falseNext))
    (suspend : ∀ minutes, node.kind = .delay minutes → ∀ job, P (.suspend job)) :
    Returns P (perform caps batchSize nodes node) := by
  unfold perform
  cases kind : node.kind with
  | condition config => exact returns_condition (branch config kind).1 (branch config kind).2
  | delay minutes => exact returns_delay (suspend minutes kind)
  | trigger _ => exact .pure (next (by simp [kind]) (by simp [kind]))
  | httpRequest _ => exact .bind fun _ => .bind fun _ => .bind fun _ => .bind fun _ => .pure (next (by simp [kind]) (by simp [kind]))
  | sendEmail _ => exact .bind fun _ => .bind fun _ => .bind fun _ => .bind fun _ => .pure (next (by simp [kind]) (by simp [kind]))
  | sendWhatsApp _ => exact .bind fun _ => .bind fun _ => .bind fun _ => .bind fun _ => .pure (next (by simp [kind]) (by simp [kind]))
  | transform _ => exact .bind fun _ => .bind fun _ => .bind fun _ => .pure (next (by simp [kind]) (by simp [kind]))
  | sendMassEmail _ => exact returns_massEmail (next (by simp [kind]) (by simp [kind]))
  | contacts _ => exact returns_contacts (next (by simp [kind]) (by simp [kind]))

theorem perform_suits (caps : Capabilities σ) (batchSize : Nat) (nodes : List Node) (node : Node) :
    Returns (Flow.Suits node) (perform caps batchSize nodes node) := by
  apply perform_returns
  · intro plain _
    unfold Flow.Suits Node.successors
    cases kind : node.kind with
    | condition config => exact absurd kind (plain config)
    | _ => rfl
  · intro config kind
    exact ⟨⟨config,kind,.inl rfl⟩,⟨config,kind,.inr rfl⟩⟩
  · intro minutes kind _
    exact ⟨minutes,kind⟩

end Action
end Flowgraph
