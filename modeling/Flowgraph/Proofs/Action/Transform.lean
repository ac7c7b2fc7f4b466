import Flowgraph.Effect.Rehearsal
import Flowgraph.Proofs.Action.Law
import Flowgraph.Proofs.Data.Path

/-! The transformations of one node. Each is computed from the data before the node and written by itself, so that where none writes
on the way of another their order does not matter, and one that fails might as well not be there. -/

namespace Flowgraph

/-- Neither of the transformations writes in the place of the other or on the way to it. -/
def Transformation.Apart (t u : Transformation) : Prop :=
  ¬Path.segments t.outputField <+: Path.segments u.outputField ∧ ¬Path.segments u.outputField <+: Path.segments t.outputField

instance (t u : Transformation) : Decidable (t.Apart u) := inferInstanceAs (Decidable (_ ∧ _))

namespace Action

/-- The data after one more transformation. -/
def written (data result : Json) (t : Transformation) : Json :=
  match transformationValue data t with
  | .ok value => Path.assign result t.outputField value
  | .error _ => result

/-- What is said of a transformation that fails. -/
def failure? (data : Json) (t : Transformation) : Option String :=
  match transformationValue data t with
  | .ok _ => none
  | .error e => some (transformationFailure t e)

/-- A fold that gathers something on its way beside its result. -/
theorem foldl_gathered {f : β × List γ → α → β × List γ} {g : β → α → β} {h : α → Option γ}
    (step : ∀ result gathered a, f (result,gathered) a = (g result a,gathered ++ (h a).toList)) (xs : List α) (result : β) (gathered : List γ) :
    xs.foldl f (result,gathered) = (xs.foldl g result,gathered ++ xs.filterMap h) := by
  induction xs generalizing result gathered with
  | nil => rw [List.filterMap_nil,List.append_nil]; rfl
  | cons a rest ih =>
    rw [List.foldl_cons,step,ih,List.append_assoc,List.filterMap_cons]
    cases h a <;> rfl

theorem transformed_eq (data : Json) (steps : List Transformation) :
    transformed data steps = (steps.foldl (written data) data,steps.filterMap (failure? data)) := by
  refine foldl_gathered (fun result failures t => ?_) steps data []
  unfold written failure?
  cases transformationValue data t with
  | ok value => exact congrArg _ (List.append_nil _).symm
  | error e => rfl

/-- Written in either order the transformations come to the same. -/
def Commute (data : Json) (t u : Transformation) : Prop :=
  ∀ result, written data (written data result t) u = written data (written data result u) t

instance (data : Json) : Std.Symm (Commute data) := ⟨fun _ _ commute result => (commute result).symm⟩

theorem commute_of_apart {t u : Transformation} (apart : t.Apart u) (data : Json) : Commute data t u := by
  intro result
  unfold written
  cases transformationValue data t with
  | error e => rfl
  | ok value =>
    cases transformationValue data u with
    | error e => rfl
    | ok other => exact Path.put_comm result value other apart.1 apart.2

theorem foldl_written_perm {data : Json} {steps steps' : List Transformation} (apart : steps.Pairwise Transformation.Apart)
    (perm : steps.Perm steps') (result : Json) : steps.foldl (written data) result = steps'.foldl (written data) result := by
  have commute : ∀ t ∈ steps, ∀ u ∈ steps, Commute data t u :=
    List.Pairwise.forall_of_forall (fun _ _ _ => rfl) (apart.imp fun apart => commute_of_apart apart data)
  exact perm.foldl_eq' commute result

theorem foldl_written_failed {data : Json} {t : Transformation} {e : Expr.Error} (failed : transformationValue data t = .error e)
    (before after : List Transformation) (result : Json) :
    (before ++ t :: after).foldl (written data) result = (before ++ after).foldl (written data) result := by
  have unwritten : written data (before.foldl (written data) result) t = before.foldl (written data) result := by rw [written,failed]
  rw [List.foldl_append,List.foldl_cons,unwritten,List.foldl_append]

/-- The warnings that a node leaves: one for each of its transformations that fails, in their order. -/
def warnings (now : Instant) (id : String) (data : Json) (steps : List Transformation) : List LogEntry :=
  (steps.filterMap (failure? data)).map fun message => ⟨now,id,.warning,"transform",message⟩

variable {σ : Type} (caps : Capabilities σ) (id : String) (c : Context) (s : σ)

theorem transform_eq (steps : List Transformation) : transform caps id steps (c,s) = (.ok .next,{ c with
    data := steps.foldl (written c.data) c.data
    logs := c.logs ++ warnings (caps.now s) id c.data steps },s) := by
  rw [transform_apply,transformed_eq]
  rfl

/-- A node whose transformations write neither in the place of one another nor on the way to it comes to the same data in whatever order
they are made, and to the same warnings but for their order, one for each that fails. One that fails may be left out of any transformations
as far as the data are concerned. -/
theorem transformations_in_any_order :
    (∀ steps steps' : List Transformation, steps.Pairwise Transformation.Apart → steps.Perm steps' → ∃ data warned warned',
      transform caps id steps (c,s) = (.ok .next,{ c with data, logs := c.logs ++ warned },s) ∧
        transform caps id steps' (c,s) = (.ok .next,{ c with data, logs := c.logs ++ warned' },s) ∧
          warned = warnings (caps.now s) id c.data steps ∧ warned.Perm warned') ∧
      ∀ before t after e, transformationValue c.data t = .error e →
        (transform caps id (before ++ t :: after) (c,s)).2.1.data = (transform caps id (before ++ after) (c,s)).2.1.data := by
  refine ⟨fun steps steps' apart perm => ⟨_,_,_,transform_eq ..,?_,rfl,(perm.filterMap _).map _⟩,fun before t after e failed => ?_⟩
  · rw [transform_eq,foldl_written_perm apart perm]
    rfl
  · rw [transform_eq,transform_eq]
    exact foldl_written_failed failed before after c.data

/-- A run of a deal that is a number yet. -/
def dealing : Context := .start "run" .nil .nil (.object [("deal",.ofNat 7)]) ⟨0,false⟩

/-- Two writes that make an object of the deal, and between them one that fails for its syntax. -/
def reshaping : List Transformation := [⟨" deal.stage","'won'"⟩,⟨"note","'unfinished"⟩,⟨"deal.value ","deal"⟩]

theorem deal_is_reshaped_in_any_order :
    let run steps := (transform (Rehearsal.capabilities ⟨0,false⟩) "shape" steps (dealing,.start .plain)).2.1
    (run reshaping).data = (run reshaping.reverse).data ∧ (run reshaping).logs.Perm (run reshaping.reverse).logs ∧
      (run reshaping).data = (run (reshaping.eraseIdx 1)).data := by
  intro run
  obtain ⟨order,left⟩ := transformations_in_any_order (Rehearsal.capabilities ⟨0,false⟩) "shape" dealing (.start .plain)
  obtain ⟨data,warned,warned',first,second,-,same⟩ := order reshaping reshaping.reverse (by decide) (List.reverse_perm _).symm
  have failed : (transformationValue dealing.data ⟨"note","'unfinished"⟩).isOk = false := by decide +kernel
  refine ⟨?_,?_,?_⟩
  · simp only [run,first,second]
  · simp only [run,first,second]
    exact same.append_left _
  · cases value : transformationValue dealing.data ⟨"note","'unfinished"⟩ with
    | ok value' => rw [value] at failed; cases failed
    | error e => exact left [⟨" deal.stage","'won'"⟩] _ [⟨"deal.value ","deal"⟩] e value

end Action
end Flowgraph
