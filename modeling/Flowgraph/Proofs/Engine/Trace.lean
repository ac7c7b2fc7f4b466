import Flowgraph.Effect.Rehearsal
import Flowgraph.Proofs.Action.Entries
import Flowgraph.Proofs.Action.Flow
import Flowgraph.Proofs.Automation.Order
import Flowgraph.Proofs.Engine.Walk

/-! The trace of a walk. A walk goes through the tree below its first node in preorder, whose branches are the ids that
come next at each of its nodes; of every node that it has passed it leaves a report, and if it ends early, then before
the id that comes next, with one error entry. -/

namespace Flowgraph
open Act

variable {σ : Type}

/-- A node that a walk comes to, and the state in which it comes to it. -/
structure Stop (σ : Type) where
  node : Node
  arrival : Context × σ

/-- The ids that come next: at a condition those of the branch that the data choose, at a delay none. -/
def Stop.onward (stop : Stop σ) : List String :=
  match stop.node.kind with
  | .condition config => if Clause.allHold config.clauses stop.arrival.1.data then config.trueNext else config.falseNext
  | .delay _ => []
  | _ => stop.node.next

/-- The tree of a walk, as far as the walk has come. -/
inductive WalkTree (σ : Type) where
  | ahead (id : String)
  | grown (stop : Stop σ) (branches : List (WalkTree σ))

namespace WalkTree

def id : WalkTree σ → String
  | ahead id => id
  | grown stop _ => stop.node.id

mutual

/-- The stops in the order in which a walk comes to them, and the ids that it has not come to. -/
def preorder : WalkTree σ → List (Stop σ ⊕ String)
  | ahead id => [.inr id]
  | grown stop branches => .inl stop :: preorders branches

def preorders : List (WalkTree σ) → List (Stop σ ⊕ String)
  | [] => []
  | tree :: rest => preorder tree ++ preorders rest

end

/-- The tree of a walk that comes to a node, if there is one: its branches are the ids that come next at the node, in
their order, and each of them is the tree of a walk that comes to the node with its id. -/
inductive Over (nodes : List Node) : Option Node → WalkTree σ → Prop where
  | ahead (here : Option Node) (id : String) : Over nodes here (ahead id)
  | grown {node : Node} {arrival : Context × σ} {branches : List (WalkTree σ)}
      (listed : branches.map id = (Stop.mk node arrival).onward)
      (each : ∀ branch ∈ branches, Over nodes (Node.find? nodes branch.id) branch) :
      Over nodes (some node) (grown ⟨node,arrival⟩ branches)

theorem preorders_append (xs ys : List (WalkTree σ)) : preorders (xs ++ ys) = preorders xs ++ preorders ys := by
  induction xs with
  | nil => rfl
  | cons tree rest ih => simp only [List.cons_append,preorders,ih,List.append_assoc]

theorem preorders_ahead (ids : List String) : preorders (ids.map ahead : List (WalkTree σ)) = ids.map .inr := by
  induction ids with
  | nil => rfl
  | cons id rest ih => simp [preorders,preorder,ih]

theorem mem_preorders {trees : List (WalkTree σ)} {x : Stop σ ⊕ String} : x ∈ preorders trees ↔ ∃ tree ∈ trees, x ∈ preorder tree := by
  induction trees with
  | nil => simp [preorders]
  | cons tree rest ih => simp [preorders,ih]

/-- A tree within a tree. -/
inductive Part : WalkTree σ → WalkTree σ → Prop where
  | whole (tree : WalkTree σ) : Part tree tree
  | behind {part branch : WalkTree σ} {stop : Stop σ} {branches : List (WalkTree σ)} (member : branch ∈ branches) (inner : Part part branch) :
      Part part (grown stop branches)

theorem Over.listed_of_part {nodes : List Node} {here : Option Node} {tree : WalkTree σ} {stop : Stop σ} {branches : List (WalkTree σ)}
    (growth : Over nodes here tree) (part : Part (.grown stop branches) tree) : branches.map id = stop.onward := by
  generalize within : WalkTree.grown stop branches = inner at part
  induction part generalizing here with
  | whole =>
    subst within
    cases growth with
    | grown listed each => exact listed
  | behind member _ ih =>
    cases growth with
    | grown _ each => exact ih (each _ member)

/-- A walk stops at the node that it comes to first, and at others that it finds among its nodes. -/
theorem Over.node_of_stop {nodes : List Node} {here : Option Node} {tree : WalkTree σ} {stop : Stop σ} (growth : Over nodes here tree)
    (member : .inl stop ∈ preorder tree) : here = some stop.node ∨ stop.node ∈ nodes := by
  induction growth with
  | ahead => simp [preorder] at member
  | @grown node arrival branches _ _ ih =>
    obtain same | below := List.mem_cons.mp member
    · cases same
      exact .inl rfl
    · obtain ⟨branch,inside,listed⟩ := mem_preorders.mp below
      obtain found | known := ih branch inside listed
      · exact .inr (List.mem_of_find?_eq_some found)
      · exact .inr known

end WalkTree

structure LogEntry.Marks (node : Node) (level : LogLevel) (message : String) (e : LogEntry) : Prop where
  nodeId : e.nodeId = node.id
  level : e.level = level
  action : e.action = node.kind.name
  message : e.message = message

def Opening (node : Node) (entries : List LogEntry) : Prop :=
  ∃ first notes, entries = first :: notes ∧ first.Marks node .start s!"Executing {node.kind.name} node" ∧ ∀ e ∈ notes, e.IsNote node.id

def Report (node : Node) (entries : List LogEntry) : Prop :=
  ∃ opening last, entries = opening ++ [last] ∧ Opening node opening ∧ last.Marks node .success s!"Completed {node.kind.name} node"

/-- Stops that follow upon one another, each in the state that the node before has left. -/
inductive Course (t : Terrain σ) : Context × σ → List (Stop σ) → Context × σ → Prop where
  | nil (p : Context × σ) : Course t p [] p
  | cons {node : Node} {p q r : Context × σ} {flow : Flow} {stops : List (Stop σ)} (entered : Walk.enter t node p = (.ok flow,q))
      (rest : Course t q stops r) : Course t p (⟨node,p⟩ :: stops) r

/-- The node with an id that comes next after some stops of a walk. The first one is the entry, where the walk begins. -/
def Terrain.nodeNext (t : Terrain σ) (entry : Node) (id : String) : List (Stop σ) → Option Node
  | [] => Node.find? [entry] id
  | _ :: _ => Node.find? t.nodes id

theorem Terrain.nodeNext_entry (t : Terrain σ) (entry : Node) : t.nodeNext entry entry.id [] = some entry := by
  simp [nodeNext,Node.find?]

/-- How a walk ends early when an id comes next: its node fails, it lies too deep, or there is no such node. -/
inductive Breakdown (t : Terrain σ) (entry : Node) (stops : List (Stop σ)) (next : String) : EngineFault → List LogEntry → LogEntry → Prop where
  | failed {node : Node} {opening : List LogEntry} {last : LogEntry} (fault : NodeFault) (comes : t.nodeNext entry next stops = some node)
      (opened : Opening node opening) (marks : last.Marks node .error fault.message) :
      Breakdown t entry stops next (.ofNode next fault) opening last
  | tooDeep {node : Node} {last : LogEntry} (comes : t.nodeNext entry next stops = some node)
      (marks : last.Marks node .error (EngineFault.depthExceeded next t.maxDepth).message) :
      Breakdown t entry stops next (.depthExceeded next t.maxDepth) [] last
  | missing {stop : Stop σ} {last : LogEntry} (unknown : Node.find? t.nodes next = none) (reached : stop ∈ stops)
      (leads : next ∈ stop.onward) (marks : last.Marks stop.node .error (EngineFault.missingNode next).message) :
      Breakdown t entry stops next (.missingNode next) [] last

/-- What a walk that begins at an entry has left, with the tree that it has grown, its stops, the ids that it has not come
to, and a report of each of its stops. -/
structure Trail (t : Terrain σ) (entry : Node) (p q : Context × σ) (tree : WalkTree σ) (stops : List (Stop σ)) (ahead : List String)
    (reports : List (List LogEntry)) : Prop where
  root : tree.id = entry.id
  grown : tree.Over t.nodes (some entry)
  listed : tree.preorder = stops.map .inl ++ ahead.map .inr
  course : Course t p stops q
  reported : List.Forall₂ (fun stop report => Report stop.node report) stops reports
  logs : q.1.logs = p.1.logs ++ reports.flatten

section visits

variable {t : Terrain σ} {node : Node} {p q r : Context × σ} {flow : Flow}

theorem perform_onward (performed : Action.perform t.caps t.batchSize t.nodes node p = (.ok flow,q)) :
    flow.ids node = (Stop.mk node p).onward := by
  by_cases branching : ∃ config, node.kind = .condition config
  · obtain ⟨config,kind⟩ := branching
    simp only [Action.perform,kind] at performed
    have chosen : flow = .branch (if Clause.allHold config.clauses p.1.data then config.trueNext else config.falseNext) := by
      cases performed
      rfl
    simp only [chosen,Flow.ids,Stop.onward,kind]
  · have returns : Returns (fun flow => flow.ids node = (Stop.mk node p).onward) (Action.perform t.caps t.batchSize t.nodes node) := by
      apply Action.perform_returns
      · intro plain prompt
        unfold Stop.onward
        cases kind : node.kind with
        | condition config => exact absurd kind (plain config)
        | delay minutes => exact absurd kind (prompt minutes)
        | _ => rfl
      · intro config kind
        exact absurd ⟨config,kind⟩ branching
      · intro minutes kind job
        simp only [Stop.onward,kind,Flow.ids]
    exact returns p flow (by rw [performed])

theorem opening_of_perform (t : Terrain σ) (node : Node) (p : Context × σ) :
    ∃ opening, (Action.perform t.caps t.batchSize t.nodes node (Walk.log t node .start s!"Executing {node.kind.name} node" p).2).2.1.logs =
      p.1.logs ++ opening ∧ Opening node opening := by
  obtain ⟨notes,shape,own⟩ := Action.perform_annotates t.caps t.batchSize t.nodes node
    (Walk.log t node .start s!"Executing {node.kind.name} node" p).2
  let first : LogEntry := ⟨t.caps.now p.2,node.id,.start,node.kind.name,s!"Executing {node.kind.name} node"⟩
  refine ⟨first :: notes,?_,first,notes,rfl,⟨rfl,rfl,rfl,rfl⟩,own⟩
  rw [shape]
  change p.1.logs ++ [first] ++ notes = p.1.logs ++ first :: notes
  simp

theorem enter_onward (entered : Walk.enter t node p = (.ok flow,q)) : flow.ids node = (Stop.mk node p).onward := by
  rw [Walk.enter_apply] at entered
  cases performed : Action.perform t.caps t.batchSize t.nodes node (Walk.log t node .start s!"Executing {node.kind.name} node" p).2 with
  | mk result state =>
    rw [performed] at entered
    cases result with
    | ok chosen =>
      cases entered
      have onward := perform_onward performed
      -- The start entry leaves the data as they are.
      exact onward
    | error e => cases e <;> cases entered

/-- What entering a node adds to the trace. The last entry tells how it has ended, except where it has left the calendar. -/
theorem enter_logs (t : Terrain σ) (node : Node) (p : Context × σ) :
    ∃ opening, Opening node opening ∧ match Walk.enter t node p with
      | (.ok _,q) => ∃ last, q.1.logs = p.1.logs ++ opening ++ [last] ∧ last.Marks node .success s!"Completed {node.kind.name} node"
      | (.error (.cause fault),q) => ∃ last cause, q.1.logs = p.1.logs ++ opening ++ [last] ∧ last.Marks node .error cause.message ∧
          fault = .ofNode node.id cause
      | (.error .overflow,q) => q.1.logs = p.1.logs ++ opening := by
  obtain ⟨opening,shape,opened⟩ := opening_of_perform t node p
  refine ⟨opening,opened,?_⟩
  rw [Walk.enter_apply]
  revert shape
  rcases Action.perform t.caps t.batchSize t.nodes node (Walk.log t node .start s!"Executing {node.kind.name} node" p).2 with
    ⟨(cause | _) | chosen,q⟩ <;> intro shape
  · exact ⟨⟨t.caps.now q.2,node.id,.error,node.kind.name,cause.message⟩,cause,congrArg (· ++ [_]) shape,⟨rfl,rfl,rfl,rfl⟩,rfl⟩
  · exact shape
  · exact ⟨⟨t.caps.now q.2,node.id,.success,node.kind.name,s!"Completed {node.kind.name} node"⟩,congrArg (· ++ [_]) shape,⟨rfl,rfl,rfl,rfl⟩⟩

theorem enter_report (entered : Walk.enter t node p = (.ok flow,q)) : ∃ report, q.1.logs = p.1.logs ++ report ∧ Report node report := by
  obtain ⟨opening,opened,left⟩ := enter_logs t node p
  rw [entered] at left
  obtain ⟨last,logs,marks⟩ := left
  exact ⟨opening ++ [last],by rw [logs,List.append_assoc],opening,last,rfl,opened,marks⟩

/-- How a walk ends early when an id comes next, with the failure and the state that it ends in. -/
inductive Halt (t : Terrain σ) (entry : Node) (stops : List (Stop σ)) (next : String) (r : Context × σ) :
    Failure EngineFault → Context × σ → Prop where
  | failed {node : Node} {e : Failure EngineFault} {q : Context × σ} (comes : t.nodeNext entry next stops = some node) (named : node.id = next)
      (entered : Walk.enter t node r = (.error e,q)) : Halt t entry stops next r e q
  | tooDeep {node : Node} (comes : t.nodeNext entry next stops = some node) : Halt t entry stops next r (.cause (.depthExceeded next t.maxDepth))
      (Walk.log t node .error (EngineFault.depthExceeded next t.maxDepth).message r).2
  | missing {stop : Stop σ} (unknown : Node.find? t.nodes next = none) (reached : stop ∈ stops) (leads : next ∈ stop.onward) :
      Halt t entry stops next r (.cause (.missingNode next)) (Walk.log t stop.node .error (EngineFault.missingNode next).message r).2

namespace Halt

variable {e : Failure EngineFault} {next : String} {stops : List (Stop σ)}

theorem breakdown {entry : Node} {fault : EngineFault} (halt : Halt t entry stops next r (.cause fault) q) :
    ∃ opening last, q.1.logs = r.1.logs ++ opening ++ [last] ∧ Breakdown t entry stops next fault opening last := by
  cases halt with
  | @failed node _ _ comes named entered =>
    obtain ⟨opening,opened,left⟩ := enter_logs t node r
    rw [entered] at left
    obtain ⟨last,cause,logs,marks,rfl⟩ := left
    exact ⟨opening,last,logs,named ▸ .failed cause (named ▸ comes) opened marks⟩
  | @tooDeep node comes =>
    let last : LogEntry := ⟨t.caps.now r.2,node.id,.error,node.kind.name,(EngineFault.depthExceeded next t.maxDepth).message⟩
    refine ⟨[],last,?_,.tooDeep comes ⟨rfl,rfl,rfl,rfl⟩⟩
    rw [List.append_nil]
    rfl
  | @missing stop unknown reached leads =>
    let last : LogEntry := ⟨t.caps.now r.2,stop.node.id,.error,stop.node.kind.name,(EngineFault.missingNode next).message⟩
    refine ⟨[],last,?_,.missing unknown reached leads ⟨rfl,rfl,rfl,rfl⟩⟩
    rw [List.append_nil]
    rfl

theorem mono {entry other : Node} {origin : Stop σ} {more : List (Stop σ)} (halt : Halt t entry (origin :: stops) next r e q)
    (sub : stops ⊆ more) : Halt t other (origin :: more) next r e q := by
  cases halt with
  | failed comes named entered => exact .failed comes named entered
  | tooDeep comes => exact .tooDeep comes
  | missing unknown reached leads => exact .missing unknown (List.cons_subset_cons _ sub reached) leads

/-- A walk that begins at a node is a part of one that comes to the node. -/
theorem below {other : Node} (halt : Halt t node stops next r e q) (origin : Stop σ) (found : Node.find? t.nodes node.id = some node) :
    Halt t other (origin :: stops) next r e q := by
  have comesToo : ∀ {child}, t.nodeNext node next stops = some child → t.nodeNext other next (origin :: stops) = some child := by
    intro child comes
    cases stops with
    | cons => exact comes
    | nil =>
      have first : Node.find? [node] next = some child := comes
      obtain rfl : child = node := List.mem_singleton.mp (List.mem_of_find?_eq_some first)
      obtain rfl := Validation.id_of_find? first
      exact found
  cases halt with
  | failed comes named entered => exact .failed (comesToo comes) named entered
  | tooDeep comes => exact .tooDeep (comesToo comes)
  | missing unknown reached leads => exact .missing unknown (List.mem_cons_of_mem _ reached) leads

end Halt

theorem Course.append {stops more : List (Stop σ)} (first : Course t p stops q) (second : Course t q more r) : Course t p (stops ++ more) r := by
  induction first with
  | nil => exact second
  | cons entered _ ih => exact .cons entered (ih second)

theorem Course.reports {stops : List (Stop σ)} (course : Course t p stops q) :
    ∃ reports, List.Forall₂ (fun stop report => Report stop.node report) stops reports ∧ q.1.logs = p.1.logs ++ reports.flatten := by
  induction course with
  | nil p => exact ⟨[],.nil,by simp⟩
  | cons entered _ ih =>
    obtain ⟨report,shape,own⟩ := enter_report entered
    obtain ⟨reports,others,rest⟩ := ih
    refine ⟨report :: reports,.cons own others,?_⟩
    rw [rest,shape,List.flatten_cons,List.append_assoc]

/-- The trees below some ids, grown by so many stops on the way from one state to another; the ids ahead come behind them all. -/
def Explored (t : Terrain σ) (named : String → Option Node) (ids : List String) (p q : Context × σ) (stops : List (Stop σ))
    (ahead : List String) : Prop :=
  Course t p stops q ∧ ∃ trees : List (WalkTree σ), trees.map WalkTree.id = ids ∧ (∀ tree ∈ trees, tree.Over t.nodes (named tree.id)) ∧
    WalkTree.preorders trees = stops.map .inl ++ ahead.map .inr

namespace Explored

variable {named : String → Option Node} {ids others : List String} {stops more : List (Stop σ)} {ahead behind : List String}

theorem none (t : Terrain σ) (named : String → Option Node) (ids : List String) (p : Context × σ) : Explored t named ids p p [] ids := by
  refine ⟨.nil p,ids.map .ahead,?_,?_,?_⟩
  · rw [List.map_map]
    exact List.map_id ids
  · intro tree member
    obtain ⟨id,-,rfl⟩ := List.mem_map.mp member
    exact .ahead _ id
  · simp [WalkTree.preorders_ahead]

theorem append (first : Explored t named ids p q stops ahead) (second : Explored t named others q r more behind)
    (order : ahead = [] ∨ more = []) : Explored t named (ids ++ others) p r (stops ++ more) (ahead ++ behind) := by
  obtain ⟨course,trees,roots,grown,listed⟩ := first
  obtain ⟨course',trees',roots',grown',listed'⟩ := second
  refine ⟨course.append course',trees ++ trees',?_,?_,?_⟩
  · rw [List.map_append,roots,roots']
  · intro tree member
    exact (List.mem_append.mp member).elim (grown tree) (grown' tree)
  · rw [WalkTree.preorders_append,listed,listed']
    obtain rfl | rfl := order <;> simp

theorem mono {others : String → Option Node} (explored : Explored t named ids p q stops ahead) (same : ∀ id ∈ ids, named id = others id) :
    Explored t others ids p q stops ahead := by
  obtain ⟨course,trees,roots,grown,listed⟩ := explored
  refine ⟨course,trees,roots,?_,listed⟩
  intro tree member
  have listed : tree.id ∈ ids := roots ▸ List.mem_map_of_mem member
  exact same _ listed ▸ grown tree member

theorem grow (entered : Walk.enter t node p = (.ok flow,q))
    (below : Explored t (Node.find? t.nodes) (Stop.mk node p).onward q r stops ahead) :
    Explored t (fun _ => some node) [node.id] p r (⟨node,p⟩ :: stops) ahead := by
  obtain ⟨course,trees,roots,grown,listed⟩ := below
  refine ⟨.cons entered course,[.grown ⟨node,p⟩ trees],rfl,?_,?_⟩
  · intro tree member
    rw [List.mem_singleton.mp member]
    exact .grown roots grown
  · simp [WalkTree.preorders,WalkTree.preorder,listed]

end Explored

/-- What has become of a walk over some ids. Those of the stops that led to them come first. -/
def Traced (t : Terrain σ) (named : String → Option Node) (entry : Node) (origins : List (Stop σ)) (ids : List String) (p : Context × σ) :
    Except (Failure EngineFault) (List String) × Context × σ → Prop
  | (.ok _,q) => ∃ stops, Explored t named ids p q stops []
  | (.error (.cause fault),q) => ∃ stops next ahead r opening last, Explored t named ids p r stops (next :: ahead) ∧
      Breakdown t entry (origins ++ stops) next fault opening last ∧ q.1.logs = r.1.logs ++ opening ++ [last]
  | (.error .overflow,_) => True

def TracedFrom (t : Terrain σ) (entry : Node) : Context × σ → Except (Failure EngineFault) (List String) × Context × σ → Prop :=
  Traced t (fun _ => some entry) entry [] [entry.id]

/-- The jobs of a stop whose path has been suspended there. -/
def Stop.jobs (t : Terrain σ) (stop : Stop σ) : List String :=
  match (Walk.enter t stop.node stop.arrival).1 with
  | .ok flow => flow.jobs
  | .error _ => []

/-- What has become of a walk over some ids, in whatever it has ended, and with the jobs of its stops. -/
def Taken (t : Terrain σ) (named : String → Option Node) (entry : Node) (origins : List (Stop σ)) (ids : List String) (p : Context × σ) :
    Except (Failure EngineFault) (List String) × Context × σ → Prop
  | (.ok jobs,q) => ∃ stops, Explored t named ids p q stops [] ∧ jobs = stops.flatMap (Stop.jobs t)
  | (.error e,q) => ∃ stops next ahead r, Explored t named ids p r stops (next :: ahead) ∧ Halt t entry (origins ++ stops) next r e q

def TakenFrom (t : Terrain σ) (entry : Node) : Context × σ → Except (Failure EngineFault) (List String) × Context × σ → Prop :=
  Taken t (fun _ => some entry) entry [] [entry.id]

def TakenBehind (t : Terrain σ) (origin : Stop σ) (ids : List String) :
    Context × σ → Except (Failure EngineFault) (List String) × Context × σ → Prop :=
  Taken t (Node.find? t.nodes) origin.node [origin] ids

theorem Taken.traced {named : String → Option Node} {entry : Node} {origins : List (Stop σ)} {ids : List String}
    {x : Except (Failure EngineFault) (List String) × Context × σ} (taken : Taken t named entry origins ids p x) :
    Traced t named entry origins ids p x := by
  rcases x with ⟨(fault | _) | jobs,q⟩
  · obtain ⟨stops,next,ahead,r,explored,halt⟩ := taken
    obtain ⟨opening,last,logs,breakdown⟩ := halt.breakdown
    exact ⟨stops,next,ahead,r,opening,last,explored,breakdown,logs⟩
  · trivial
  · obtain ⟨stops,explored,-⟩ := taken
    exact ⟨stops,explored⟩

/-- What becomes of a walk from a node, once it is known what becomes of the walk over the ids that come next there. -/
theorem TakenFrom.grow {x : Except (Failure EngineFault) (List String) × Context × σ} (entered : Walk.enter t node p = (.ok flow,q))
    (prompt : flow.jobs = []) (below : TakenBehind t ⟨node,p⟩ (Stop.mk node p).onward q x) : TakenFrom t node p x := by
  have silent : (Stop.mk node p).jobs t = [] := by rw [Stop.jobs,entered]; exact prompt
  rcases x with ⟨e | jobs,r⟩
  · obtain ⟨stops,next,ahead,r,explored,halt⟩ := below
    exact ⟨_,next,ahead,r,explored.grow entered,halt⟩
  · obtain ⟨stops,explored,rfl⟩ := below
    exact ⟨_,explored.grow entered,by rw [List.flatMap_cons,silent,List.nil_append]⟩

theorem follow_taken {visit : Node → Walk σ (List String)} (visits : ∀ node p, TakenFrom t node p (visit node p)) (origin : Stop σ)
    (ids : List String) (inside : ids ⊆ origin.onward) (p : Context × σ) :
    TakenBehind t origin ids p (Walk.follow t visit origin.node ids p) := by
  induction ids generalizing p with
  | nil => exact ⟨[],.none t _ [] p,rfl⟩
  | cons id rest ih =>
    have here : id ∈ origin.onward := inside (List.mem_cons_self ..)
    have later := ih fun _ member => inside (List.mem_cons_of_mem _ member)
    cases found : Node.find? t.nodes id with
    | none =>
      rw [Walk.follow_missing found]
      exact ⟨[],id,rest,p,.none t _ (id :: rest) p,.missing found (List.mem_cons_self ..) here⟩
    | some node =>
      obtain rfl := Validation.id_of_find? found
      -- Here the entry of the visit is the node that the ids name.
      have same : ∀ id ∈ [node.id], some node = Node.find? t.nodes id := by
        intro id member
        rw [List.mem_singleton.mp member,found]
      have first := visits node p
      rw [Walk.follow_cons found]
      revert first
      rcases visit node p with ⟨e | jobs,q⟩ <;> intro first
      · obtain ⟨stops,next,ahead,r,explored,halt⟩ := first
        have whole := (explored.mono same).append (.none t _ rest r) (.inr rfl)
        rw [List.append_nil] at whole
        exact ⟨stops,next,ahead ++ rest,r,whole,halt.below origin found⟩
      · obtain ⟨stops,explored,rfl⟩ := first
        have others := later q
        revert others
        dsimp only
        rcases Walk.follow t visit origin.node rest q with ⟨e | more,r⟩ <;> intro others
        · obtain ⟨stops',next,ahead,r,explored',halt⟩ := others
          have whole := (explored.mono same).append explored' (.inl rfl)
          exact ⟨stops ++ stops',next,ahead,r,whole,halt.mono (by simp)⟩
        · obtain ⟨stops',explored',rfl⟩ := others
          exact ⟨stops ++ stops',(explored.mono same).append explored' (.inl rfl),List.flatMap_append.symm⟩

theorem visit_taken (n : Nat) (node : Node) (p : Context × σ) : TakenFrom t node p (Walk.visit t n node p) := by
  induction n generalizing node p with
  | zero => exact ⟨[],node.id,[],p,.none t _ [node.id] p,.tooDeep (t.nodeNext_entry node)⟩
  | succ n ih =>
    rw [Walk.visit_succ]
    cases entered : Walk.enter t node p with
    | mk result q =>
      cases result with
      | error e => exact ⟨[],node.id,[],p,.none t _ [node.id] p,.failed (t.nodeNext_entry node) rfl entered⟩
      | ok flow =>
        have onward := enter_onward entered
        have inside : flow.ids node ⊆ (Stop.mk node p).onward := onward ▸ List.Subset.refl _
        cases flow with
        | suspend job =>
          have leaf : Explored t (Node.find? t.nodes) (Stop.mk node p).onward q q [] [] := onward ▸ .none t _ [] q
          exact ⟨_,leaf.grow entered,by simp [Stop.jobs,entered,Flow.jobs]⟩
        | branch ids =>
          have below : TakenBehind t ⟨node,p⟩ ids q _ := follow_taken ih ⟨node,p⟩ ids inside q
          exact .grow entered rfl (onward ▸ below)
        | next =>
          have below : TakenBehind t ⟨node,p⟩ node.next q _ := follow_taken ih ⟨node,p⟩ node.next inside q
          exact .grow entered rfl (onward ▸ below)

theorem visit_traced (n : Nat) (node : Node) (p : Context × σ) : TracedFrom t node p (Walk.visit t n node p) := (visit_taken n node p).traced

def LogEntry.isMark (e : LogEntry) : Bool := e.level = .start || e.level = .success

theorem LogEntry.IsNote.isMark {id : String} {e : LogEntry} (note : e.IsNote id) : e.isMark = false := by
  obtain level | level := note.level <;> simp [LogEntry.isMark,level]

theorem Opening.level_ne_error {opening : List LogEntry} (opened : Opening node opening) : ∀ e ∈ opening, e.level ≠ .error := by
  obtain ⟨first,notes,rfl,start,own⟩ := opened
  intro e member
  obtain rfl | noted := List.mem_cons.mp member
  · simp [start.level]
  · obtain level | level := (own e noted).level <;> simp [level]

theorem Report.level_ne_error {report : List LogEntry} (reported : Report node report) : ∀ e ∈ report, e.level ≠ .error := by
  obtain ⟨opening,last,rfl,opened,success⟩ := reported
  intro e member
  obtain inside | rest := List.mem_append.mp member
  · exact opened.level_ne_error e inside
  · simp [List.mem_singleton.mp rest,success.level]

theorem Report.marks {report : List LogEntry} (reported : Report node report) :
    (report.filter LogEntry.isMark).map (fun e => (e.level,e.nodeId)) = [(.start,node.id),(.success,node.id)] := by
  obtain ⟨opening,last,rfl,⟨first,notes,rfl,start,own⟩,success⟩ := reported
  have quiet : notes.filter LogEntry.isMark = [] := List.filter_eq_nil_iff.mpr fun e member => by simp [(own e member).isMark]
  simp [quiet,LogEntry.isMark,start.level,start.nodeId,success.level,success.nodeId]

namespace Trail

variable {entry : Node} {tree : WalkTree σ} {stops : List (Stop σ)} {ahead : List String} {reports : List (List LogEntry)}

theorem of_explored (explored : Explored t (fun _ => some entry) [entry.id] p q stops ahead) :
    ∃ tree reports, Trail t entry p q tree stops ahead reports := by
  obtain ⟨course,trees,roots,grown,listed⟩ := explored
  obtain ⟨reports,reported,logs⟩ := course.reports
  obtain ⟨tree,rfl,root⟩ := List.map_eq_singleton_iff.mp roots
  have listed : tree.preorder = stops.map .inl ++ ahead.map .inr := by simpa [WalkTree.preorders] using listed
  exact ⟨tree,reports,root,grown tree (List.mem_singleton_self _),listed,course,reported,logs⟩

theorem level_ne_error (trail : Trail t entry p q tree stops ahead reports) : ∀ e ∈ reports.flatten, e.level ≠ .error := by
  have reported := trail.reported
  clear trail
  induction reported with
  | nil => simp
  | cons own _ ih =>
    intro e member
    rw [List.flatten_cons] at member
    exact (List.mem_append.mp member).elim (own.level_ne_error e) (ih e)

/-- What is read off the entries of some kind stands in the trace stop by stop, if each report has it for its own stop. -/
theorem filter_map {α : Type} {kind : LogEntry → Bool} {told : LogEntry → α} {tells : Stop σ → List α}
    (each : ∀ {stop report}, Report (Stop.node stop) report → (report.filter kind).map told = tells stop)
    (trail : Trail t entry p q tree stops ahead reports) : (reports.flatten.filter kind).map told = stops.flatMap tells := by
  have reported := trail.reported
  clear trail
  induction reported with
  | nil => rfl
  | cons own _ ih => rw [List.flatten_cons,List.filter_append,List.map_append,List.flatMap_cons,each own,ih]

theorem marks (trail : Trail t entry p q tree stops ahead reports) :
    (reports.flatten.filter LogEntry.isMark).map (fun e => (e.level,e.nodeId)) =
      stops.flatMap fun stop => [(.start,stop.node.id),(.success,stop.node.id)] := trail.filter_map Report.marks

end Trail

theorem Breakdown.last_level {entry : Node} {stops : List (Stop σ)} {next : String} {fault : EngineFault} {opening : List LogEntry}
    {last : LogEntry} (breakdown : Breakdown t entry stops next fault opening last) :
    last.level = .error ∧ ∀ e ∈ opening, e.level ≠ .error := by
  cases breakdown with
  | failed fault comes opened marks => exact ⟨marks.level,opened.level_ne_error⟩
  | tooDeep comes marks => exact ⟨marks.level,by simp⟩
  | missing unknown reached leads marks => exact ⟨marks.level,by simp⟩

end visits

/-- A walk that comes to its end has gone through the whole of its tree in preorder, and its trace is a report of each stop,
without an error. One that fails has gone through the tree up to the id that comes next, and behind the reports its trace
has what the node of that id has left, and an error entry, the only one, at the end. -/
theorem walk_trace (t : Terrain σ) (entry : Node) (p : Context × σ) :
    (∀ jobs q, walk t entry p = (.ok jobs,q) → ∃ tree stops reports, Trail t entry p q tree stops [] reports ∧
      (∀ e ∈ reports.flatten, e.level ≠ .error) ∧
      (reports.flatten.filter LogEntry.isMark).map (fun e => (e.level,e.nodeId)) =
        stops.flatMap fun stop => [(.start,stop.node.id),(.success,stop.node.id)]) ∧
    (∀ fault q, walk t entry p = (.error (.cause fault),q) → ∃ tree stops next ahead reports r opening last,
      Trail t entry p r tree stops (next :: ahead) reports ∧ Breakdown t entry stops next fault opening last ∧
      q.1.logs = p.1.logs ++ reports.flatten ++ opening ++ [last] ∧
      last.level = .error ∧ (∀ e ∈ reports.flatten ++ opening, e.level ≠ .error) ∧
      (reports.flatten.filter LogEntry.isMark).map (fun e => (e.level,e.nodeId)) =
        stops.flatMap fun stop => [(.start,stop.node.id),(.success,stop.node.id)]) := by
  have traced : TracedFrom t entry p (walk t entry p) := visit_traced (t.maxDepth + 1) entry p
  refine ⟨?_,?_⟩
  · intro jobs q walked
    rw [walked] at traced
    obtain ⟨stops,explored⟩ := traced
    obtain ⟨tree,reports,trail⟩ := Trail.of_explored explored
    exact ⟨tree,stops,reports,trail,trail.level_ne_error,trail.marks⟩
  · intro fault q walked
    rw [walked] at traced
    obtain ⟨stops,next,ahead,r,opening,last,explored,breakdown,logs⟩ := traced
    obtain ⟨tree,reports,trail⟩ := Trail.of_explored explored
    obtain ⟨error,clean⟩ := breakdown.last_level
    rw [trail.logs] at logs
    refine ⟨tree,stops,next,ahead,reports,r,opening,last,trail,breakdown,logs,error,?_,trail.marks⟩
    intro e member
    exact (List.mem_append.mp member).elim (trail.level_ne_error e) (clean e)

/-- Two ways to one delay, the second of which leads nowhere without a flag. -/
def rejoining : Terrain Rehearsal := ⟨Rehearsal.capabilities ⟨0,false⟩,10,5,
  [⟨"start",["left","right"],.trigger ⟨"crm","new",none⟩⟩,⟨"left",["end"],.transform []⟩,
    ⟨"right",[],.condition ⟨[⟨"flag",.present,.null⟩],["end"],["nowhere"]⟩⟩,⟨"end",["start"],.delay 0⟩]⟩

def rejoiningEntry : Node := ⟨"start",["left","right"],.trigger ⟨"crm","new",none⟩⟩

def rejoiningStart (input : Json) : Context × Rehearsal := (.start "run" .nil .nil input ⟨0,false⟩,.start .plain)

/-- With the flag a walk goes by both ways to the delay; without it ends where the second way leads. -/
theorem rejoining_walk_trace :
    (∃ jobs q tree stops reports, walk rejoining rejoiningEntry (rejoiningStart (.object [("flag",.bool true)])) = (.ok jobs,q) ∧
      Trail rejoining rejoiningEntry (rejoiningStart (.object [("flag",.bool true)])) q tree stops [] reports ∧
      (stops.flatMap fun stop => [(LogLevel.start,stop.node.id),(.success,stop.node.id)]) = 
        ["start","left","end","right","end"].flatMap fun id => [(.start,id),(.success,id)]) ∧
    ∃ fault q tree stops next ahead reports r opening last,
      walk rejoining rejoiningEntry (rejoiningStart .null) = (.error (.cause fault),q) ∧
      Trail rejoining rejoiningEntry (rejoiningStart .null) r tree stops (next :: ahead) reports ∧
      Breakdown rejoining rejoiningEntry stops next fault opening last ∧ fault = .missingNode "nowhere" ∧
      q.1.logs = (rejoiningStart .null).1.logs ++ reports.flatten ++ opening ++ [last] := by
  refine ⟨?_,?_⟩
  · have fine : ((walk rejoining rejoiningEntry (rejoiningStart (.object [("flag",.bool true)]))).1.toOption.isSome) = true := by decide +kernel
    have seen : ((walk rejoining rejoiningEntry (rejoiningStart (.object [("flag",.bool true)]))).2.1.logs.filter LogEntry.isMark).map
        (fun e => (e.level,e.nodeId)) = ["start","left","end","right","end"].flatMap fun id => [(.start,id),(.success,id)] := by decide +kernel
    cases walked : walk rejoining rejoiningEntry (rejoiningStart (.object [("flag",.bool true)])) with
    | mk result q =>
      rw [walked] at fine seen
      cases result with
      | error e => cases fine
      | ok jobs =>
        obtain ⟨tree,stops,reports,trail,-,marks⟩ := (walk_trace rejoining rejoiningEntry _).1 jobs q walked
        have logs : q.1.logs = reports.flatten := trail.logs
        exact ⟨jobs,q,tree,stops,reports,rfl,trail,by rw [← marks,← logs,seen]⟩
  · have failed : (walk rejoining rejoiningEntry (rejoiningStart .null)).1 = .error (.cause (.missingNode "nowhere")) := by decide +kernel
    cases walked : walk rejoining rejoiningEntry (rejoiningStart .null) with
    | mk result q =>
      rw [walked] at failed
      dsimp only at failed
      subst failed
      obtain ⟨tree,stops,next,ahead,reports,r,opening,last,trail,breakdown,logs,-⟩ := (walk_trace rejoining rejoiningEntry _).2 _ q walked
      exact ⟨_,q,tree,stops,next,ahead,reports,r,opening,last,rfl,trail,breakdown,rfl,logs⟩

end Flowgraph
