import Flowgraph.Proofs.Engine.Integrity

/-! Two walks side by side. Over terrains with the same nodes they come to the same, as long as a relation holds that
the steps of nodes and the suspensions keep; only where the walks have different depths to go may one of them end early. -/

namespace Flowgraph
open Act

variable {σ τ : Type}

/-- Ways to go on that are the same up to the jobs of suspended paths. -/
inductive Flow.Alike (S : String → String → Prop) : Flow → Flow → Prop where
  | next : Alike S .next .next
  | branch (ids : List String) : Alike S (.branch ids) (.branch ids)
  | suspend {job job' : String} (jobs : S job job') : Alike S (.suspend job) (.suspend job')

theorem Flow.Alike.refl {S : String → String → Prop} (same : ∀ job, S job job) (flow : Flow) : flow.Alike S flow := by
  cases flow with
  | next => exact .next
  | branch ids => exact .branch ids
  | suspend job => exact .suspend (same job)

def TooDeep (result : Except (Failure EngineFault) α) : Prop := ∃ fault, result = .error (.cause fault) ∧ fault.isDepth = true

/-- Outcomes that agree, unless the walks had different depths to go and one of them has reached its own. -/
def Abreast (uneven strict : Prop) (R : σ → τ → Prop) (Q : α → β → Prop) (x : Except (Failure EngineFault) α × σ)
    (y : Except (Failure EngineFault) β × τ) : Prop :=
  uneven ∧ (TooDeep x.1 ∨ TooDeep y.1) ∨ Agree strict R Q x y

theorem TooDeep.bind {act : Act σ EngineFault α} {f : α → Act σ EngineFault β} {s : σ} (deep : TooDeep (act s).1) :
    TooDeep ((act >>= f) s).1 := by
  obtain ⟨fault,failed,limit⟩ := deep
  exact ⟨fault,bind_fst failed,limit⟩

theorem Abreast.bind {uneven strict : Prop} {R : σ → τ → Prop} {Q : α → β → Prop} {Q' : γ → δ → Prop} {act : Act σ EngineFault α}
    {act' : Act τ EngineFault β} {f : α → Act σ EngineFault γ} {f' : β → Act τ EngineFault δ} {s : σ} {t : τ}
    (first : Abreast uneven strict R Q (act s) (act' t))
    (rest : ∀ a b s t, Q a b → R s t → Abreast uneven strict R Q' (f a s) (f' b t)) :
    Abreast uneven strict R Q' ((act >>= f) s) ((act' >>= f') t) := by
  obtain ⟨apart,deep⟩ | agree := first
  · exact .inl ⟨apart,deep.imp TooDeep.bind TooDeep.bind⟩
  · unfold Abreast
    rw [bind_apply,bind_apply]
    generalize act s = x,act' t = y at agree
    cases agree with
    | ok values states => exact rest _ _ _ _ values states
    | error e states => exact .inr (.error e states)
    | left lenient => exact .inr (.left lenient)
    | right lenient => exact .inr (.right lenient)

namespace Coupling

variable {t : Terrain σ} {t' : Terrain τ} {strict : Prop} {R : Context × σ → Context × τ → Prop} {p : Context × σ} {q : Context × τ}

theorem reported (coupled : Coupling t.caps t'.caps strict R) (node : Node) (level : LogLevel) (message : String) (related : R p q) :
    Agree strict R Eq (Walk.log t node level message p) (Walk.log t' node level message q) :=
  .ok rfl (coupled.log node.id level node.kind.name message related)

theorem abort (coupled : Coupling t.caps t'.caps strict R) (node : Node) (fault : EngineFault) (message : String) {Q : α → β → Prop}
    (related : R p q) : Agree strict R Q (Walk.abort t node fault message p) (Walk.abort t' node fault message q) := by
  refine (coupled.reported node .error message related).bind ?_
  rintro _ _ p q - related
  exact .error _ related

/-- A node without what comes after it, given that what it is for comes to the same. -/
theorem enter (coupled : Coupling t.caps t'.caps strict R) (node : Node) {Q : Flow → Flow → Prop}
    (performs : ∀ {p q}, R p q →
      Agree strict R Q (Action.perform t.caps t.batchSize t.nodes node p) (Action.perform t'.caps t'.batchSize t'.nodes node q))
    (related : R p q) : Agree strict R Q (Walk.enter t node p) (Walk.enter t' node q) := by
  refine (coupled.reported node .start _ related).bind ?_
  rintro _ _ p q - related
  refine (performs related).attempt.bind ?_
  rintro _ _ p q (⟨flow,flow',rfl,rfl,alike⟩ | ⟨fault,rfl,rfl⟩) related
  · refine (coupled.reported node .success _ related).bind ?_
    rintro _ _ p q - related
    exact .ok alike related
  · exact coupled.abort node _ _ related

end Coupling

/-- A relation that walks over two terrains keep: steps of nodes keep it, and so do delays. -/
structure Tracks (t : Terrain σ) (t' : Terrain τ) (strict : Prop) (S : String → String → Prop) (R : Context × σ → Context × τ → Prop) : Prop
    extends Coupling t.caps t'.caps strict R where
  nodes : t'.nodes = t.nodes
  batchSize : t'.batchSize = t.batchSize
  jobs : ∀ job, S job job
  delay : ∀ {node minutes p q}, node.kind = .delay minutes → R p q →
    Agree strict R (Flow.Alike S) (Action.delay t.caps t.nodes node minutes p) (Action.delay t'.caps t.nodes node minutes q)

namespace Tracks

variable {t : Terrain σ} {t' : Terrain τ} {strict : Prop} {S : String → String → Prop} {R : Context × σ → Context × τ → Prop}
  {p : Context × σ} {q : Context × τ}

theorem perform (tracks : Tracks t t' strict S R) (node : Node) (related : R p q) :
    Agree strict R (Flow.Alike S) (Action.perform t.caps t.batchSize t.nodes node p) (Action.perform t'.caps t'.batchSize t'.nodes node q) := by
  rw [tracks.nodes,tracks.batchSize]
  by_cases delayed : ∃ minutes, node.kind = .delay minutes
  · obtain ⟨minutes,kind⟩ := delayed
    simp only [Action.perform,kind]
    exact tracks.delay kind related
  · refine (tracks.toCoupling.perform t.batchSize t.nodes t.nodes (not_exists.mp delayed) related).weaken ?_ fun _ _ => id
    rintro flow _ rfl
    exact .refl tracks.jobs flow

theorem enter (tracks : Tracks t t' strict S R) (node : Node) (related : R p q) :
    Agree strict R (Flow.Alike S) (Walk.enter t node p) (Walk.enter t' node q) :=
  tracks.toCoupling.enter node (tracks.perform node) related

/-- The loop over the edges, given that visits behind them stay abreast. -/
theorem follow (tracks : Tracks t t' strict S R) (uneven : Prop) {visit : Node → Walk σ (List String)} {visit' : Node → Walk τ (List String)}
    (visits : ∀ node p q, R p q → Abreast uneven strict R (List.Forall₂ S) (visit node p) (visit' node q)) (origin : Node)
    (ids : List String) (related : R p q) :
    Abreast uneven strict R (List.Forall₂ S) (Walk.follow t visit origin ids p) (Walk.follow t' visit' origin ids q) := by
  induction ids generalizing p q with
  | nil => exact .inr (.ok .nil related)
  | cons id rest ih =>
    unfold Walk.follow
    rw [tracks.nodes]
    cases Node.find? t.nodes id with
    | none => exact .inr (tracks.toCoupling.abort origin _ _ related)
    | some node =>
      refine (visits node p q related).bind ?_
      intro jobs jobs' p q alike related
      refine (ih related).bind ?_
      intro more more' p q others related
      exact .inr (.ok (List.rel_append alike others) related)

/-- Walks with `n` and with `m` visits to go are abreast; where both limits are the same, they are so to the end. -/
theorem visit (tracks : Tracks t t' strict S R) (uneven : Prop) (limits : ¬uneven → t'.maxDepth = t.maxDepth) (n m : Nat)
    (even : ¬uneven → n = m) (node : Node) (related : R p q) :
    Abreast uneven strict R (List.Forall₂ S) (Walk.visit t n node p) (Walk.visit t' m node q) := by
  induction n generalizing m node p q with
  | zero =>
    by_cases apart : uneven
    · exact .inl ⟨apart,.inl ⟨_,rfl,rfl⟩⟩
    · obtain rfl := even apart
      unfold Walk.visit
      rw [limits apart]
      exact .inr (tracks.toCoupling.abort node _ _ related)
  | succ n ih =>
    cases m with
    | zero =>
      by_cases apart : uneven
      · exact .inl ⟨apart,.inr ⟨_,rfl,rfl⟩⟩
      · cases even apart
    | succ m =>
      refine Abreast.bind (.inr (tracks.enter node related)) ?_
      intro flow flow' p q alike related
      have visits : ∀ node p q, R p q → Abreast uneven strict R (List.Forall₂ S) (Walk.visit t n node p) (Walk.visit t' m node q) :=
        fun node _ _ related => ih m (fun same => Nat.succ.inj (even same)) node related
      cases alike with
      | suspend jobs => exact .inr (.ok (.cons jobs .nil) related)
      | branch ids => exact tracks.follow uneven visits node ids related
      | next => exact tracks.follow uneven visits node node.next related

end Tracks
end Flowgraph
