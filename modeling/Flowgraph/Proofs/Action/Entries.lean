import Flowgraph.Proofs.Action.Law

/-! What nodes add to the trace of their run. Whatever a node does and however it ends, it takes nothing out of the
trace, and all that it adds are notes: entries about itself that are for information or a warning. -/

namespace Flowgraph
open Act

variable {σ : Type}

structure LogEntry.IsNote (id : String) (e : LogEntry) : Prop where
  node : e.nodeId = id
  level : e.level = .info ∨ e.level = .warning

/-- An action that adds notes of a node to the trace and leaves what is there. -/
def Step.Annotates (id : String) (act : Step σ α) : Prop :=
  ∀ p, ∃ notes, (act p).2.1.logs = p.1.logs ++ notes ∧ ∀ e ∈ notes, e.IsNote id

theorem Context.logs_merge (c : Context) (fields : Fields) : (c.merge fields).logs = c.logs := by
  unfold Context.merge
  split <;> rfl

namespace Step.Annotates

variable {id : String} {caps : Capabilities σ}

theorem silent {act : Step σ α} (same : ∀ p, (act p).2.1.logs = p.1.logs) : Annotates id act := by
  intro p
  exact ⟨[],by simp [same p],by simp⟩

theorem change {f : Context → Context} (keeps : ∀ c, (f c).logs = c.logs) : Annotates id (Step.change f : Step σ Unit) :=
  silent fun p => keeps p.1

theorem log {level : LogLevel} {action message : String} (fit : level = .info ∨ level = .warning) :
    Annotates id (Step.log caps id level action message) := by
  intro p
  refine ⟨[⟨caps.now p.2,id,level,action,message⟩],rfl,?_⟩
  intro e member
  rw [List.mem_singleton.mp member]
  exact ⟨rfl,fit⟩

theorem bind {act : Step σ α} {f : α → Step σ β} (first : Annotates id act) (rest : ∀ a, Annotates id (f a)) :
    Annotates id (act >>= f) := by
  intro p
  rw [bind_apply]
  have early := first p
  revert early
  rcases act p with ⟨e | a,q⟩
  · intro early
    exact early
  · intro ⟨notes,shape,own⟩
    obtain ⟨more,shape',own'⟩ := rest a q
    refine ⟨notes ++ more,?_,?_⟩
    · dsimp only at shape ⊢
      rw [shape',shape,List.append_assoc]
    · intro e member
      exact (List.mem_append.mp member).elim (own e) (own' e)

theorem transform {caps : Capabilities σ} (steps : List Transformation) : Annotates id (Action.transform caps id steps) := by
  rintro ⟨c,s⟩
  rw [Action.transform_apply]
  refine ⟨_,rfl,?_⟩
  intro e member
  obtain ⟨message,-,rfl⟩ := List.mem_map.mp member
  exact ⟨rfl,.inr rfl⟩

theorem law (caps : Capabilities σ) (id : String) : Step.Law caps id (Annotates id) where
  pure _ := silent fun _ => rfl
  fail _ := silent fun _ => rfl
  bind := bind
  context := silent fun _ => rfl
  note := log
  merge := change fun c => c.logs_merge _
  mark := change fun _ => rfl
  transform := transform
  call _ := silent fun _ => rfl
  attempt _ := silent fun _ => rfl
  suspend _ _ := silent fun _ => rfl

end Step.Annotates

theorem Action.perform_annotates (caps : Capabilities σ) (batchSize : Nat) (nodes : List Node) (node : Node) :
    Step.Annotates node.id (perform caps batchSize nodes node) := (Step.Annotates.law caps node.id).perform batchSize nodes

end Flowgraph
