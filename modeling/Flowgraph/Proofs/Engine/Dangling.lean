import Flowgraph.Effect.Rehearsal
import Flowgraph.Proofs.Engine.Memory
import Flowgraph.Proofs.Engine.Notes
import Flowgraph.Proofs.Engine.Trace

/-! Walks over some nodes, and over these and more. Both come to the same as long as no id leads to one of the nodes that
only the larger set has. Where one does, the smaller walk ends, and all it has left until then the larger one has left too. -/

namespace Flowgraph
open Act Execution

variable {σ τ : Type}

theorem Node.find?_of_subset {nodes nodes' : List Node} (sub : nodes ⊆ nodes') (distinct : (nodes'.map Node.id).Nodup) {id : String}
    {node : Node} (found : find? nodes id = some node) : find? nodes' id = some node := by
  have same := Validation.find?_of_mem distinct (sub (List.mem_of_find?_eq_some found))
  rwa [Validation.id_of_find? found] at same

/-- A use, whatever nodes a suspended run takes along. -/
def Use.bare : Use → Use
  | .call request => .call request
  | .suspend minutes left => .suspend minutes { left with nodes := [] }

/-- Capabilities that answer alike, although suspended runs take different nodes along. -/
structure Capabilities.Indifferent (caps : Capabilities σ) (caps' : Capabilities τ) (nodes nodes' : List Node) (S : σ → τ → Prop) : Prop where
  now : ∀ {s t}, S s t → caps'.now t = caps.now s
  call : ∀ request {s t}, S s t → Agree True S Eq (caps.call request s) (caps'.call request t)
  suspend : ∀ minutes left next {s t}, S s t →
    Agree True S Eq (caps.suspend minutes ⟨left,next,nodes⟩ s) (caps'.suspend minutes ⟨left,next,nodes'⟩ t)

/-- The same uses in related states, whatever nodes suspended runs have taken along. -/
def Noted (S : σ → τ → Prop) (p : List Use × σ) (q : List Use × τ) : Prop := p.1.map Use.bare = q.1.map Use.bare ∧ S p.2 q.2

theorem noting_noted {S : σ → τ → Prop} (use use' : Use) (same : use.bare = use'.bare) {act : Act σ ε α} {act' : Act τ ε α}
    {p : List Use × σ} {q : List Use × τ} (noted : Noted S p q) (agree : Agree True S Eq (act p.2) (act' q.2)) :
    Agree True (Noted S) Eq (noting use act p) (noting use' act' q) := by
  have uses : (p.1 ++ [use]).map Use.bare = (q.1 ++ [use']).map Use.bare := by
    rw [List.map_append,List.map_append,noted.1,List.map_singleton,List.map_singleton,same]
  exact beside_agree (U := fun xs ys => xs.map Use.bare = ys.map Use.bare) uses agree

theorem Capabilities.Indifferent.noted {caps : Capabilities σ} {caps' : Capabilities τ} {nodes nodes' : List Node} {S : σ → τ → Prop}
    (indifferent : caps.Indifferent caps' nodes nodes' S) : caps.noted.Indifferent caps'.noted nodes nodes' (Noted S) where
  now noted := indifferent.now noted.2
  call request _ _ noted := noting_noted (.call request) (.call request) rfl noted (indifferent.call request noted.2)
  suspend minutes left next _ _ noted :=
    noting_noted (.suspend minutes ⟨left,next,nodes⟩) (.suspend minutes ⟨left,next,nodes'⟩) rfl noted (indifferent.suspend minutes left next noted.2)

namespace Terrain

def noted (t : Terrain σ) : Terrain (List Use × σ) := ⟨t.caps.noted,t.batchSize,t.maxDepth,t.nodes⟩

/-- The same terrain with more nodes, all with different ids. -/
structure Widens (t : Terrain σ) (t' : Terrain τ) (S : σ → τ → Prop) : Prop where
  caps : t.caps.Indifferent t'.caps t.nodes t'.nodes S
  batchSize : t'.batchSize = t.batchSize
  maxDepth : t'.maxDepth = t.maxDepth
  nodes : t.nodes ⊆ t'.nodes
  distinct : (t'.nodes.map Node.id).Nodup

/-- An id of which only the larger terrain has a node. -/
def Lacks (t : Terrain σ) (t' : Terrain τ) (id : String) : Prop := Node.find? t.nodes id = none ∧ (Node.find? t'.nodes id).isSome = true

end Terrain

/-- An action that takes nothing back of a trace and of notes. -/
def Act.Adds (act : Act (Context × List Use × σ) ε α) : Prop := ∀ p, p.1.logs <+: (act p).2.1.logs ∧ p.2.1 <+: (act p).2.2.1

namespace Act.Adds

variable {act : Act (Context × List Use × σ) ε α}

theorem trans {p q r : Context × List Use × σ} (first : p.1.logs <+: q.1.logs ∧ p.2.1 <+: q.2.1)
    (second : q.1.logs <+: r.1.logs ∧ q.2.1 <+: r.2.1) : p.1.logs <+: r.1.logs ∧ p.2.1 <+: r.2.1 :=
  ⟨first.1.trans second.1,first.2.trans second.2⟩

theorem silent (same : ∀ p, (act p).2.1.logs = p.1.logs ∧ (act p).2.2.1 = p.2.1) : Adds act := by
  intro p
  rw [(same p).1,(same p).2]
  exact ⟨List.prefix_refl _,List.prefix_refl _⟩

theorem bind {f : α → Act (Context × List Use × σ) ε β} (first : Adds act) (rest : ∀ a, Adds (f a)) : Adds (act >>= f) := by
  intro p
  rw [bind_apply]
  have early := first p
  revert early
  rcases act p with ⟨e | a,q⟩ <;> intro early
  · exact early
  · exact trans early (rest a q)

theorem attempt (adds : Adds act) : Adds (Act.attempt act : Act (Context × List Use × σ) δ (Except ε α)) := by
  intro p
  rw [attempt_snd]
  exact adds p

theorem entry {e : Context × List Use × σ → LogEntry} (shape : ∀ p, act p = ((act p).1,p.1.append (e p),p.2)) : Adds act := by
  intro p
  rw [shape p]
  exact ⟨List.prefix_append ..,List.prefix_refl _⟩

theorem used {act : Act (List Use × σ) NodeFault α} (use : Use) (one : ∀ p, (act p).2.1 = p.1 ++ [use]) : Adds (Step.outside act) := by
  intro p
  refine ⟨List.prefix_refl _,?_⟩
  change p.2.1 <+: (act p.2).2.1
  rw [one]
  exact List.prefix_append ..

theorem law (caps : Capabilities σ) (id : String) : Step.Law caps.noted id Adds where
  pure _ := silent fun _ => ⟨rfl,rfl⟩
  fail _ := silent fun _ => ⟨rfl,rfl⟩
  bind := bind
  context := silent fun _ => ⟨rfl,rfl⟩
  note _ := entry fun _ => rfl
  merge := silent fun p => ⟨p.1.logs_merge _,rfl⟩
  mark := silent fun _ => ⟨rfl,rfl⟩
  transform steps := by
    rintro ⟨c,s⟩
    rw [Action.transform_apply]
    exact ⟨List.prefix_append ..,List.prefix_refl _⟩
  call request := used (.call request) fun _ => rfl
  attempt request := used (.call request) fun p => by rw [attempt_snd]; rfl
  suspend minutes left := used (.suspend minutes left) fun _ => rfl

theorem walk (t : Terrain σ) : Walk.Law t.noted Adds where
  pure _ := silent fun _ => ⟨rfl,rfl⟩
  fail _ := silent fun _ => ⟨rfl,rfl⟩
  bind := bind
  log _ _ _ := entry fun _ => rfl
  node node := ((law t.caps node.id).perform t.batchSize t.nodes).attempt

end Act.Adds

/-- The same context and uses in related states, whatever nodes suspended runs have taken along. -/
abbrev Evenly (S : σ → τ → Prop) : Context × List Use × σ → Context × List Use × τ → Prop := Level (fun _ => True) (Noted S)

/-- What has become of two actions: the same, or the first has ended at an id that only the larger terrain has a node of, with an
error behind what the second has left too. -/
def Strays (lacks : String → Prop) (S : σ → τ → Prop) (x : Except (Failure EngineFault) α × Context × List Use × σ)
    (y : Except (Failure EngineFault) α × Context × List Use × τ) : Prop :=
  Agree True (Evenly S) Eq x y ∨ ∃ id before last, lacks id ∧ x.1 = .error (.cause (.missingNode id)) ∧
    x.2.1.logs = before ++ [last] ∧ last.level = .error ∧ before <+: y.2.1.logs ∧ x.2.2.1.map Use.bare <+: y.2.2.1.map Use.bare

theorem Strays.bind {lacks : String → Prop} {S : σ → τ → Prop} {act : Walk (List Use × σ) α} {act' : Walk (List Use × τ) α}
    {f : α → Walk (List Use × σ) β} {f' : α → Walk (List Use × τ) β} {p : Context × List Use × σ} {q : Context × List Use × τ}
    (first : Strays lacks S (act p) (act' q)) (adds : ∀ a, Adds (f' a))
    (rest : ∀ a p q, Evenly S p q → Strays lacks S (f a p) (f' a q)) : Strays lacks S ((act >>= f) p) ((act' >>= f') q) := by
  obtain agree | ⟨id,before,last,foreign,failed,logs,error,trace,uses⟩ := first
  · unfold Strays
    rw [bind_apply,bind_apply]
    generalize act p = x,act' q = y at agree
    cases agree with
    | ok values states => cases values; exact rest _ _ _ states
    | error e states => exact .inl (.error e states)
    | left lenient => exact absurd trivial lenient
    | right lenient => exact absurd trivial lenient
  · -- The first side has ended already; what the second one still does only adds to what it has left.
    have later : (act' q).2.1.logs <+: ((act' >>= f') q).2.1.logs ∧ (act' q).2.2.1 <+: ((act' >>= f') q).2.2.1 := by
      rw [bind_apply]
      rcases act' q with ⟨e | a,r⟩
      · exact ⟨List.prefix_refl _,List.prefix_refl _⟩
      · exact adds a r
    refine .inr ⟨id,before,last,foreign,bind_fst failed,?_,error,trace.trans later.1,?_⟩
    · rw [bind_error (Prod.ext failed rfl)]
      exact logs
    · rw [bind_error (Prod.ext failed rfl)]
      exact uses.trans (later.2.map Use.bare)

namespace Terrain.Widens

variable {t : Terrain σ} {t' : Terrain τ} {S : σ → τ → Prop} {p : Context × List Use × σ} {q : Context × List Use × τ}

theorem coupling (widens : t.Widens t' S) : Coupling t.noted.caps t'.noted.caps True (Evenly S) :=
  Level.coupling widens.caps.noted.now widens.caps.noted.call

theorem perform (widens : t.Widens t' S) (node : Node) (level : Evenly S p q) :
    Agree True (Evenly S) Eq (Action.perform t.noted.caps t.noted.batchSize t.noted.nodes node p)
      (Action.perform t'.noted.caps t'.noted.batchSize t'.noted.nodes node q) := by
  have batchSize : t'.noted.batchSize = t.noted.batchSize := widens.batchSize
  by_cases delayed : ∃ minutes, node.kind = .delay minutes
  · obtain ⟨minutes,kind⟩ := delayed
    simp only [Action.perform,kind]
    exact level.delay widens.caps.noted.now (widens.caps.noted.suspend minutes _ _ level.states)
  · rw [batchSize]
    exact widens.coupling.perform t.batchSize t.nodes t'.nodes (not_exists.mp delayed) level

/-- The loop over the edges, given that visits behind them stray only from nodes that the smaller terrain lacks. -/
theorem follow (widens : t.Widens t' S) {visit : Node → Walk (List Use × σ) (List String)} {visit' : Node → Walk (List Use × τ) (List String)}
    (visits : ∀ node p q, Evenly S p q → Strays (t.Lacks t') S (visit node p) (visit' node q))
    (adds : ∀ node, Adds (visit' node)) (origin : Node) (ids : List String) (level : Evenly S p q) :
    Strays (t.Lacks t') S (Walk.follow t.noted visit origin ids p) (Walk.follow t'.noted visit' origin ids q) := by
  induction ids generalizing p q with
  | nil => exact .inl (.ok rfl level)
  | cons id rest ih =>
    have larger := (Adds.walk t').follow adds origin
    cases found : Node.find? t.noted.nodes id with
    | some node =>
      have found' : Node.find? t'.noted.nodes id = some node := Node.find?_of_subset widens.nodes widens.distinct found
      unfold Walk.follow
      rw [found,found']
      refine Strays.bind (visits node p q level) (fun jobs => (larger rest).bind fun _ => (Adds.walk t').pure _) ?_
      intro jobs p q level
      refine Strays.bind (ih level) (fun _ => (Adds.walk t').pure _) ?_
      intro more p q level
      exact .inl (.ok rfl level)
    | none =>
      cases found' : Node.find? t'.noted.nodes id with
      | none =>
        unfold Walk.follow
        rw [found,found']
        exact .inl (widens.coupling.abort origin _ _ level)
      | some node =>
        -- Here the ways part: the smaller walk ends where the larger one goes on.
        have added := larger (id :: rest) q
        rw [← level.context] at added
        rw [Walk.follow_missing found]
        refine .inr ⟨id,p.1.logs,_,⟨found,Option.isSome_iff_exists.mpr ⟨node,found'⟩⟩,rfl,rfl,rfl,added.1,?_⟩
        change p.2.1.map Use.bare <+: _
        rw [level.states.1]
        exact added.2.map Use.bare

theorem visit (widens : t.Widens t' S) (n : Nat) (node : Node) (level : Evenly S p q) :
    Strays (t.Lacks t') S (Walk.visit t.noted n node p) (Walk.visit t'.noted n node q) := by
  induction n generalizing node p q with
  | zero =>
    have maxDepth : t'.noted.maxDepth = t.noted.maxDepth := widens.maxDepth
    unfold Walk.visit
    rw [maxDepth]
    exact .inl (widens.coupling.abort node _ _ level)
  | succ n ih =>
    have visits : ∀ node p q, Evenly S p q →
      Strays (t.Lacks t') S (Walk.visit t.noted n node p) (Walk.visit t'.noted n node q) := fun node _ _ level => ih node level
    have adds (node : Node) : Adds (Walk.visit t'.noted n node) := (Adds.walk t').visit n node
    have onward (flow : Flow) : Adds (Walk.onward t'.noted n node flow) := by
      cases flow with
      | suspend job => exact (Adds.walk t').pure _
      | branch ids => exact (Adds.walk t').follow adds node ids
      | next => exact (Adds.walk t').follow adds node node.next
    refine Strays.bind (.inl (widens.coupling.enter node (widens.perform node) level)) onward ?_
    intro flow p q level
    cases flow with
    | suspend job => exact .inl (.ok rfl level)
    | branch ids => exact widens.follow visits adds node ids level
    | next => exact widens.follow visits adds node node.next level

end Terrain.Widens

theorem find?_of_walk_missing {t : Terrain σ} {entry : Node} {p : Context × σ} {id : String}
    (failed : (walk t entry p).1 = .error (.cause (.missingNode id))) : Node.find? t.nodes id = none := by
  have traced : TracedFrom t entry p (walk t entry p) := visit_traced (t.maxDepth + 1) entry p
  revert failed traced
  rcases walk t entry p with ⟨result,q⟩
  rintro rfl ⟨stops,next,ahead,r,opening,last,-,breakdown,-⟩
  generalize same : EngineFault.missingNode id = fault at breakdown
  cases breakdown with
  | failed cause comes opened marks =>
    have structural := EngineFault.isStructural_ofNode next cause
    rw [← same] at structural
    cases structural
  | tooDeep comes marks => cases same
  | missing unknown reached leads marks =>
    cases same
    exact unknown

/-- A walk that is not led to a node that only the larger terrain has comes to the same there, with the same data, trace and uses of
the capabilities. One that is fails for it, and not before: all that stands in its trace before the error stands at the beginning of
that of the larger walk, and so do its uses. -/
theorem dangling_edge_fails_when_reached {t : Terrain σ} {t' : Terrain τ} {S : σ → τ → Prop} (widens : t.Widens t' S) (entry : Node)
    (c : Context) {s : σ} {s' : τ} (states : S s s') :
    let x := walk t.noted entry (c,[],s)
    let y := walk t'.noted entry (c,[],s')
    ((∀ id, t.Lacks t' id → x.1 ≠ .error (.cause (.missingNode id))) →
      x.1 = y.1 ∧ x.2.1 = y.2.1 ∧ x.2.2.1.map Use.bare = y.2.2.1.map Use.bare ∧ S x.2.2.2 y.2.2.2) ∧
    ∀ id, t.Lacks t' id → x.1 = .error (.cause (.missingNode id)) →
      ∃ before last, x.2.1.logs = before ++ [last] ∧ last.level = .error ∧ before <+: y.2.1.logs ∧
        x.2.2.1.map Use.bare <+: y.2.2.1.map Use.bare := by
  intro x y
  have maxDepth : t'.noted.maxDepth = t.noted.maxDepth := widens.maxDepth
  have strays : Strays (t.Lacks t') S x y := by
    change Strays _ S (Walk.visit _ (t.noted.maxDepth + 1) entry _) (Walk.visit _ (t'.noted.maxDepth + 1) entry _)
    rw [maxDepth]
    exact widens.visit _ entry ⟨rfl,trivial,rfl,states⟩
  obtain agree | ⟨id,before,last,foreign,failed,logs,error,trace,uses⟩ := strays
  · refine ⟨fun _ => ⟨agree.result,agree.related.context,agree.related.states⟩,fun id foreign failed => ?_⟩
    have unknown : Node.find? t'.noted.nodes id = none := find?_of_walk_missing (agree.result ▸ failed)
    have known : (Node.find? t'.noted.nodes id).isSome = true := foreign.2
    rw [unknown] at known
    cases known
  · exact ⟨fun inside => absurd failed (inside id foreign),fun _ _ _ => ⟨before,last,logs,error,trace,uses⟩⟩

namespace Engine

/-- Engines whose outsides, clocks and counts of jobs are the same. -/
structure Coeval {κ : Type} (s t : Engine κ) : Prop where
  outside : t.outside = s.outside
  clock : t.clock = s.clock
  now : t.queue.now = s.queue.now
  jobs : t.queue.entries.length = s.queue.entries.length

theorem indifferent {κ : Type} (outside : Outside κ) (nodes nodes' : List Node) :
    (capabilities outside).Indifferent (capabilities outside) nodes nodes' Coeval where
  now coeval := coeval.clock
  call request s t coeval := by
    simp only [capabilities,zoom,Outside.act,coeval.outside]
    rcases outside request s.outside with ⟨e | answer,k⟩
    · exact .error _ ⟨rfl,coeval.clock,coeval.now,coeval.jobs⟩
    · exact .ok rfl ⟨rfl,coeval.clock,coeval.now,coeval.jobs⟩
  suspend minutes left next s t coeval := by
    rw [suspend_apply,suspend_apply,coeval.now]
    cases resumption s.queue.now minutes with
    | error e => exact .error e coeval
    | ok runAt =>
      refine .ok ?_ ⟨coeval.outside,coeval.clock,coeval.now,?_⟩
      · simp only [DelayQueue.nextId,coeval.jobs]
      · simp only [DelayQueue.push,List.length_append,coeval.jobs,List.length_singleton]

/-- A walk that suspends a path, sends a message, and with a flag goes on to a node that may be missing. -/
def straying (more : List Node) : Terrain (Engine Rehearsal) := terrain (backend Rehearsal.outside) ⟨256,10,.live⟩
  ([⟨"start",["pause","chat","fork"],.trigger ⟨"crm","new",none⟩⟩,⟨"pause",["chat"],.delay 5⟩,⟨"chat",[],.sendWhatsApp ⟨"1","hello"⟩⟩,
    ⟨"fork",[],.condition ⟨[⟨"flag",.present,.null⟩],["extra"],[]⟩⟩] ++ more)

def strayingEntry : Node := ⟨"start",["pause","chat","fork"],.trigger ⟨"crm","new",none⟩⟩

def extra : Node := ⟨"extra",["chat"],.contacts ⟨.create,.object []⟩⟩

def forked (more : List Node) (input : Json) : Except (Failure EngineFault) (List String) × Context × List Use × Engine Rehearsal :=
  walk (straying more).noted strayingEntry (.start "run" .nil .nil input ⟨0,false⟩,[],Engine.start (.start .plain) ⟨0,false⟩)

theorem straying_edge_fails_when_reached :
    ((forked [] .null).1.isOk = true ∧ (forked [] .null).1 = (forked [extra] .null).1 ∧ (forked [] .null).2.1 = (forked [extra] .null).2.1 ∧
      (forked [] .null).2.2.1.map Use.bare = (forked [extra] .null).2.2.1.map Use.bare) ∧
    (forked [] (.object [("flag",.bool true)])).1 = .error (.cause (.missingNode "extra")) ∧
    ∃ before last, (forked [] (.object [("flag",.bool true)])).2.1.logs = before ++ [last] ∧ before.length = 11 ∧
      before <+: (forked [extra] (.object [("flag",.bool true)])).2.1.logs := by
  have widens : (straying []).Widens (straying [extra]) Coeval :=
    ⟨indifferent _ _ _,rfl,rfl,List.subset_append_left _ _,by decide⟩
  have lacks : (straying []).Lacks (straying [extra]) "extra" := ⟨by decide,by decide⟩
  have same : Coeval (Engine.start (Rehearsal.start .plain) ⟨0,false⟩) (Engine.start (Rehearsal.start .plain) ⟨0,false⟩) := ⟨rfl,rfl,rfl,rfl⟩
  have fine : (forked [] .null).1.isOk = true := by decide +kernel
  have failed : (forked [] (.object [("flag",.bool true)])).1 = .error (.cause (.missingNode "extra")) := by decide +kernel
  have length : (forked [] (.object [("flag",.bool true)])).2.1.logs.length = 12 := by decide +kernel
  obtain ⟨level,-⟩ := dangling_edge_fails_when_reached widens strayingEntry (.start "run" .nil .nil .null ⟨0,false⟩) same
  obtain ⟨-,stops⟩ := dangling_edge_fails_when_reached widens strayingEntry (.start "run" .nil .nil (.object [("flag",.bool true)]) ⟨0,false⟩) same
  refine ⟨?_,failed,?_⟩
  · obtain ⟨result,context,uses,-⟩ := level fun id _ missed => by
      rw [show (forked [] .null).1 = _ from missed] at fine
      cases fine
    exact ⟨fine,result,context,uses⟩
  · obtain ⟨before,last,logs,-,trace,-⟩ := stops "extra" lacks failed
    have shape : (forked [] (.object [("flag",.bool true)])).2.1.logs = before ++ [last] := logs
    rw [shape,List.length_append] at length
    exact ⟨before,last,shape,Nat.succ.inj length,trace⟩

end Engine
end Flowgraph
