import Flowgraph.Effect.Capability

/-! How actions run, what they return and fail for, and the comparison of two actions from related states. Compared actions end alike:
both in related values or both in the same failure, and in related states. Where the clocks of the two
sides differ, one of them may leave the calendar alone; a strict comparison excludes this. -/

namespace Flowgraph.Act

theorem bind_apply (act : Act σ ε α) (f : α → Act σ ε β) (s : σ) :
    (act >>= f) s = match act s with
      | (.ok a,s) => f a s
      | (.error e,s) => (.error e,s) := by
  change ExceptT.bindCont f (act s).1 (act s).2 = _
  rcases act s with ⟨_ | _,t⟩ <;> rfl

theorem bind_ok {act : Act σ ε α} {f : α → Act σ ε β} {s t : σ} {a : α} (done : act s = (.ok a,t)) : (act >>= f) s = f a t := by
  rw [bind_apply,done]

theorem bind_error {act : Act σ ε α} {f : α → Act σ ε β} {s t : σ} {e : Failure ε} (failed : act s = (.error e,t)) :
    (act >>= f) s = (.error e,t) := by
  rw [bind_apply,failed]

theorem bind_fst {act : Act σ ε α} {f : α → Act σ ε β} {s : σ} {e : Failure ε} (failed : (act s).1 = .error e) :
    ((act >>= f) s).1 = .error e := by
  rw [bind_error (Prod.ext failed rfl)]

/-- An action that returns has returned from each of its parts. -/
theorem bind_returned {act : Act σ ε α} {f : α → Act σ ε β} {s : σ} {b : β} (returned : ((act >>= f) s).1 = .ok b) :
    ∃ a t, act s = (.ok a,t) ∧ (act >>= f) s = f a t := by
  rw [bind_apply] at returned ⊢
  revert returned
  rcases act s with ⟨e | a,t⟩ <;> intro returned
  · cases returned
  · exact ⟨a,t,rfl,rfl⟩

theorem state_bind_pure (act : Act σ ε β) (f : β → α) (s : σ) : ((act >>= fun b => pure (f b) : Act σ ε α) s).2 = (act s).2 := by
  rw [bind_apply]
  rcases act s with ⟨e | b,t⟩ <;> rfl

theorem attempt_snd (act : Act σ ε α) (s : σ) : ((attempt act : Act σ δ (Except ε α)) s).2 = (act s).2 := by
  unfold attempt
  rcases act s with ⟨(e | _) | a,t⟩ <;> rfl

theorem attempt_overflow_iff {act : Act σ ε α} {s : σ} :
    ((attempt act : Act σ δ (Except ε α)) s).1 = .error .overflow ↔ (act s).1 = .error .overflow := by
  unfold attempt
  rcases act s with ⟨(e | _) | a,t⟩
  · exact ⟨nofun,nofun⟩
  · exact ⟨fun _ => rfl,fun _ => rfl⟩
  · exact ⟨nofun,nofun⟩

theorem mapFault_overflow_iff {f : ε → δ} {act : Act σ ε α} {s : σ} : (mapFault f act s).1 = .error .overflow ↔ (act s).1 = .error .overflow := by
  unfold mapFault
  rcases act s with ⟨(e | _) | a,t⟩
  · exact ⟨nofun,nofun⟩
  · exact ⟨fun _ => rfl,fun _ => rfl⟩
  · exact ⟨nofun,nofun⟩

theorem map_apply (f : α → β) (act : Act σ ε α) (s : σ) : (f <$> act) s = (f <$> (act s).1,(act s).2) := by
  rw [map_eq_pure_bind,bind_apply]
  rcases act s with ⟨_ | _,t⟩ <;> rfl

theorem ofExcept_ok {result : Except ε α} {a : α} (ok : result = .ok a) (s : σ) : ofExcept result s = (.ok a,s) := by
  rw [ok]
  rfl

theorem mapFault_ok {act : Act σ ε α} {s t : σ} {a : α} (f : ε → δ) (done : act s = (.ok a,t)) : mapFault f act s = (.ok a,t) := by
  rw [mapFault,done]
  rfl

theorem get_apply (s : σ) : (get : Act σ ε σ) s = (.ok s,s) := rfl

/-- Every value that the action can end in. -/
def Returns (P : α → Prop) (act : Act σ ε α) : Prop := ∀ s a, (act s).1 = .ok a → P a

namespace Returns

variable {P : α → Prop}

theorem pure {a : α} (holds : P a) : Returns P (pure a : Act σ ε α) := by
  intro s b same
  cases same
  exact holds

theorem fail (e : ε) : Returns P (Act.fail e : Act σ ε α) := fun _ _ => nofun

theorem bind {act : Act σ ε β} {f : β → Act σ ε α} (rest : ∀ b, Returns P (f b)) : Returns P (act >>= f) := by
  intro s a same
  rw [bind_apply] at same
  split at same
  · exact rest _ _ _ same
  · cases same

theorem mapM {f : β → Act σ ε α} {xs : List β} (each : ∀ b ∈ xs, Returns P (f b)) : Returns (fun as => ∀ a ∈ as, P a) (xs.mapM f) := by
  induction xs with
  | nil => exact .pure fun _ member => absurd member List.not_mem_nil
  | cons b rest ih =>
    intro s as same
    rw [List.mapM_cons,bind_apply] at same
    have first := each b (List.mem_cons_self ..) s
    revert same first
    rcases f b s with ⟨e | a,t⟩ <;> intro same first
    · cases same
    · dsimp only at same
      rw [bind_apply] at same
      have others := ih (fun b member => each b (List.mem_cons_of_mem _ member)) t
      revert same others
      rcases rest.mapM f t with ⟨e | more,u⟩ <;> intro same others
      · cases same
      · cases same
        exact List.forall_mem_cons.mpr ⟨first a rfl,others more rfl⟩

end Returns

/-- Every cause that the action can fail for. -/
def Raises (P : ε → Prop) (act : Act σ ε α) : Prop := ∀ s e, (act s).1 = .error (.cause e) → P e

namespace Raises

variable {P : ε → Prop}

theorem pure (a : α) : Raises P (pure a : Act σ ε α) := fun _ _ => nofun

theorem modify (f : σ → σ) : Raises P (modify f : Act σ ε Unit) := fun _ _ => nofun

theorem fail {e : ε} (holds : P e) : Raises P (Act.fail e : Act σ ε α) := by
  intro s d same
  cases same
  exact holds

theorem lift (act : StateM σ α) : Raises P (ExceptT.lift act : Act σ ε α) := fun _ _ => nofun

theorem get : Raises P (get : Act σ ε σ) := fun _ _ => nofun

/-- The rest of an action may make use of what is known of its first value. -/
theorem bind {Q : β → Prop} {act : Act σ ε β} {f : β → Act σ ε α} (first : Raises P act) (values : Returns Q act)
    (rest : ∀ b, Q b → Raises P (f b)) : Raises P (act >>= f) := by
  intro s e same
  rw [bind_apply] at same
  have cause := first s
  have value := values s
  revert same cause value
  rcases act s with ⟨d | b,t⟩ <;> intro same cause value
  · cases same
    exact cause e rfl
  · exact rest b (value b rfl) t e same

theorem seq {act : Act σ ε β} {f : β → Act σ ε α} (first : Raises P act) (rest : ∀ b, Raises P (f b)) : Raises P (act >>= f) :=
  .bind (Q := fun _ => True) first (fun _ _ _ => trivial) fun b _ => rest b

theorem mapFault {R : δ → Prop} {f : δ → ε} {act : Act σ δ α} (raises : Raises R act) (maps : ∀ d, R d → P (f d)) :
    Raises P (Act.mapFault f act) := by
  intro s e same
  have cause := raises s
  revert same cause
  unfold Act.mapFault
  rcases act s with ⟨(d | _) | a,t⟩ <;> intro same cause
  · cases same
    exact maps d (cause d rfl)
  · cases same
  · cases same

theorem attempt (act : Act σ δ α) : Raises P (Act.attempt act : Act σ ε (Except δ α)) := by
  intro s e same
  unfold Act.attempt at same
  split at same <;> cases same

theorem attempted {act : Act σ ε α} (raises : Raises P act) :
    Returns (fun result => ∀ e, result = .error e → P e) (Act.attempt act : Act σ δ (Except ε α)) := by
  intro s result same e failed
  have cause := raises s
  revert same cause
  unfold Act.attempt
  rcases act s with ⟨(d | _) | a,t⟩ <;> intro same cause <;> cases same
  · cases failed
    exact cause _ rfl
  · cases failed

theorem mapM {f : β → Act σ ε α} {xs : List β} (each : ∀ b ∈ xs, Raises P (f b)) : Raises P (xs.mapM f) := by
  induction xs with
  | nil => exact .pure _
  | cons b rest ih =>
    rw [List.mapM_cons]
    exact .seq (each b (List.mem_cons_self ..)) fun _ =>
      .seq (ih fun b member => each b (List.mem_cons_of_mem _ member)) fun _ => .pure _

end Raises

/-- Two outcomes that come to the same, up to related values and states. -/
inductive Agree (strict : Prop) (R : σ → τ → Prop) (Q : α → β → Prop) :
    Except (Failure ε) α × σ → Except (Failure ε) β × τ → Prop where
  | ok {a b s t} (values : Q a b) (states : R s t) : Agree strict R Q (.ok a,s) (.ok b,t)
  | error {s t} (e : Failure ε) (states : R s t) : Agree strict R Q (.error e,s) (.error e,t)
  | left {s y} (lenient : ¬strict) : Agree strict R Q (.error .overflow,s) y
  | right {x t} (lenient : ¬strict) : Agree strict R Q x (.error .overflow,t)

section
variable {strict : Prop} {R : σ → τ → Prop} {Q : α → β → Prop} {Q' : γ → δ → Prop} {s : σ} {t : τ}

theorem Agree.related {x : Except (Failure ε) α × σ} {y : Except (Failure ε) β × τ} (agree : Agree True R Q x y) : R x.2 y.2 := by
  cases agree with
  | ok _ states => exact states
  | error _ states => exact states
  | left lenient => exact absurd trivial lenient
  | right lenient => exact absurd trivial lenient

theorem Agree.result {x : Except (Failure ε) α × σ} {y : Except (Failure ε) α × τ} (agree : Agree True R Eq x y) : x.1 = y.1 := by
  cases agree with
  | ok same _ => exact congrArg Except.ok same
  | error e _ => rfl
  | left lenient => exact absurd trivial lenient
  | right lenient => exact absurd trivial lenient

theorem Agree.bind {act : Act σ ε α} {act' : Act τ ε β} {f : α → Act σ ε γ} {f' : β → Act τ ε δ}
    (first : Agree strict R Q (act s) (act' t))
    (rest : ∀ a b s t, Q a b → R s t → Agree strict R Q' (f a s) (f' b t)) :
    Agree strict R Q' ((act >>= f) s) ((act' >>= f') t) := by
  rw [bind_apply,bind_apply]
  generalize act s = x,act' t = y at first
  cases first with
  | ok values states => exact rest _ _ _ _ values states
  | error e states => exact .error e states
  | left lenient => exact .left lenient
  | right lenient => exact .right lenient

theorem Agree.mapM {f : γ → Act σ ε α} {f' : γ → Act τ ε α} (each : ∀ c s t, R s t → Agree strict R Eq (f c s) (f' c t)) (xs : List γ)
    (related : R s t) : Agree strict R Eq (xs.mapM f s) (xs.mapM f' t) := by
  induction xs generalizing s t with
  | nil => exact .ok rfl related
  | cons c rest ih =>
    rw [List.mapM_cons,List.mapM_cons]
    refine (each c s t related).bind ?_
    rintro a _ s t rfl related
    refine (ih related).bind ?_
    rintro as _ s t rfl related
    exact .ok rfl related

theorem Agree.weaken {x : Except (Failure ε) α × σ} {y : Except (Failure ε) β × τ} {R' : σ → τ → Prop} {Q' : α → β → Prop}
    (agree : Agree strict R Q x y) (values : ∀ a b, Q a b → Q' a b) (states : ∀ s t, R s t → R' s t) : Agree strict R' Q' x y := by
  cases agree with
  | ok related also => exact .ok (values _ _ related) (states _ _ also)
  | error e also => exact .error e (states _ _ also)
  | left lenient => exact .left lenient
  | right lenient => exact .right lenient

theorem Agree.mapFault {act : Act σ ε α} {act' : Act τ ε β} (f : ε → φ) (agree : Agree strict R Q (act s) (act' t)) :
    Agree strict R Q (Act.mapFault f act s) (Act.mapFault f act' t) := by
  simp only [Act.mapFault]
  generalize act s = x,act' t = y at agree
  cases agree with
  | ok values states => exact .ok values states
  | error e states => exact .error _ states
  | left lenient => exact .left lenient
  | right lenient => exact .right lenient

theorem Agree.attempt {act : Act σ ε α} {act' : Act τ ε β} (agree : Agree strict R Q (act s) (act' t)) :
    Agree strict R (fun x y => (∃ a b, x = .ok a ∧ y = .ok b ∧ Q a b) ∨ ∃ e : ε, x = .error e ∧ y = .error e)
      ((Act.attempt act : Act σ φ (Except ε α)) s) ((Act.attempt act' : Act τ φ (Except ε β)) t) := by
  simp only [Act.attempt]
  generalize act s = x,act' t = y at agree
  cases agree with
  | ok values states => exact .ok (.inl ⟨_,_,rfl,rfl,values⟩) states
  | error e states =>
    cases e with
    | cause e => exact .ok (.inr ⟨e,rfl,rfl⟩) states
    | overflow => exact .error _ states
  | left lenient => exact .left lenient
  | right lenient => exact .right lenient

theorem Agree.attempt_eq {act : Act σ ε α} {act' : Act τ ε α} (agree : Agree strict R Eq (act s) (act' t)) :
    Agree strict R Eq ((Act.attempt act : Act σ φ (Except ε α)) s) ((Act.attempt act' : Act τ φ (Except ε α)) t) := by
  refine agree.attempt.weaken ?_ fun _ _ => id
  rintro x y (⟨a,b,rfl,rfl,rfl⟩ | ⟨e,rfl,rfl⟩) <;> rfl

end
end Flowgraph.Act
