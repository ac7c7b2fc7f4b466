import Flowgraph.Engine.Execution
import Flowgraph.Proofs.Automation.Order
import Flowgraph.Proofs.Engine.Walk
import Flowgraph.Proofs.Node.Codec

/-! Walks over well-ordered nodes. Every id that a walk looks for is that of a node, and along a walk the places
in the order grow, so that no walk misses a node and none is deeper than the order is long. -/

namespace Flowgraph
open Act

variable {σ : Type}

namespace EngineFault

/-- Whether a run has failed because its graph is not as it should be. -/
def isStructural : EngineFault → Bool
  | graph _ => true
  | missingNode _ => true
  | _ => false

def isDepth : EngineFault → Bool
  | depthExceeded .. => true
  | _ => false

theorem isStructural_ofNode (id : String) (fault : NodeFault) : (ofNode id fault).isStructural = false := by cases fault <;> rfl

theorem isDepth_ofNode (id : String) (fault : NodeFault) : (ofNode id fault).isDepth = false := by cases fault <;> rfl

end EngineFault

/-- Nodes and an order of their ids in which every edge goes forward to the id of a node. -/
structure WellOrdered (nodes : List Node) (order : List String) : Prop where
  listed : ∀ node ∈ nodes, node.id ∈ order
  resolves : ∀ id ∈ order, ∃ node, Node.find? nodes id = some node
  forward : ∀ source ∈ nodes, ∀ id ∈ source.successors, id ∈ order ∧ order.idxOf source.id < order.idxOf id

namespace WellOrdered

variable {nodes : List Node} {order : List String}

theorem of_validate (valid : Validation.validate nodes = .ok order) : WellOrdered nodes order := by
  obtain ⟨perm,ahead⟩ := Validation.validate_order valid
  obtain ⟨-,sound,-,-⟩ := Validation.conditions_of_validate valid
  refine ⟨fun node member => perm.mem_iff.mpr (List.mem_map_of_mem member),?_,?_⟩
  · intro id listed
    obtain ⟨node,member,rfl⟩ := List.mem_map.mp (perm.mem_iff.mp listed)
    exact Option.isSome_iff_exists.mp (List.find?_isSome.mpr ⟨node,member,beq_self_eq_true _⟩)
  · intro source member id leads
    obtain ⟨target,there,-,same⟩ := Validation.find?_of_successor (sound source member) leads
    exact ⟨perm.mem_iff.mpr (List.mem_map.mpr ⟨target,there,same⟩),ahead source member id leads⟩

theorem canonical (ordered : WellOrdered nodes order) : WellOrdered (nodes.map Node.canonical) order := by
  refine ⟨?_,?_,?_⟩
  · simpa using ordered.listed
  · intro id listed
    obtain ⟨node,found⟩ := ordered.resolves id listed
    refine ⟨node.canonical,?_⟩
    have same : ((·.id == id) ∘ Node.canonical) = fun node : Node => node.id == id := rfl
    rw [Node.find?,List.find?_map,same]
    exact congrArg (Option.map Node.canonical) found
  · simpa using ordered.forward

end WellOrdered

/-- A fault of a run over so many nodes with room for so many visits: its graph is sound, and it goes too deep only where
the room is too small. -/
def EngineFault.Harmless (length room : Nat) (fault : EngineFault) : Prop :=
  fault.isStructural = false ∧ (length ≤ room → fault.isDepth = false)

namespace EngineFault.Harmless

variable {length room room' : Nat}

theorem ofNode (id : String) (fault : NodeFault) : Harmless length room (.ofNode id fault) :=
  ⟨isStructural_ofNode ..,fun _ => isDepth_ofNode ..⟩

theorem store (fault : StoreFault) : Harmless length room (.store fault) := ⟨rfl,fun _ => rfl⟩

theorem mono {fault : EngineFault} (harmless : Harmless length room' fault) (less : room ≤ room') : Harmless length room fault :=
  ⟨harmless.1,fun deep => harmless.2 (by omega)⟩

end EngineFault.Harmless

open EngineFault (Harmless)

theorem Walk.enter_raises (t : Terrain σ) (node : Node) (length room : Nat) : Raises (Harmless length room) (enter t node) := by
  unfold enter
  refine .seq (.modify _) fun _ => .seq (.attempt _) fun result => ?_
  cases result with
  | ok flow => exact .seq (.modify _) fun _ => .pure _
  | error fault => exact .seq (.modify _) fun _ => .fail (.ofNode ..)

namespace WellOrdered

variable {t : Terrain σ} {order : List String}

/-- The loop over ids of the order misses none of them. -/
theorem follow_raises (ordered : WellOrdered t.nodes order) {visit : Node → Walk σ (List String)} {P : EngineFault → Prop}
    {ids : List String} (inside : ∀ id ∈ ids, id ∈ order) (visits : ∀ id ∈ ids, ∀ node ∈ t.nodes, node.id = id → Raises P (visit node))
    (origin : Node) : Raises P (Walk.follow t visit origin ids) := by
  induction ids with
  | nil => exact .pure _
  | cons id rest ih =>
    obtain ⟨node,found⟩ := ordered.resolves id (inside id (List.mem_cons_self ..))
    unfold Walk.follow
    rw [found]
    refine .seq (visits id (List.mem_cons_self ..) node (List.mem_of_find?_eq_some found) (Validation.id_of_find? found)) fun _ => ?_
    exact .seq (ih (fun id known => inside id (List.mem_cons_of_mem _ known)) fun id known => visits id (List.mem_cons_of_mem _ known))
      fun _ => .pure _

/-- The visits that are left and the place in the order make up for each other along a walk. -/
theorem visit_raises (ordered : WellOrdered t.nodes order) (n : Nat) {node : Node} (member : node ∈ t.nodes) :
    Raises (Harmless order.length (n + order.idxOf node.id)) (Walk.visit t n node) := by
  induction n generalizing node with
  | zero =>
    have place := List.idxOf_lt_length_of_mem (ordered.listed node member)
    exact .seq (.modify _) fun _ => .fail ⟨rfl,fun deep => absurd deep (by omega)⟩
  | succ n ih =>
    refine .bind (Walk.enter_raises t node _ _) (Walk.enter_suits t node) fun flow suits => ?_
    have ahead : ∀ id ∈ flow.ids node, id ∈ order ∧ order.idxOf node.id < order.idxOf id :=
      fun id known => ordered.forward node member id (suits.subset known)
    have behind : ∀ id ∈ flow.ids node, ∀ next ∈ t.nodes, next.id = id →
        Raises (Harmless order.length (n + 1 + order.idxOf node.id)) (Walk.visit t n next) := by
      rintro id known next there rfl p fault failed
      have further := (ahead next.id known).2
      exact (ih there p fault failed).mono (by omega)
    cases flow with
    | suspend job => exact .pure _
    | branch ids => exact ordered.follow_raises (fun id known => (ahead id known).1) behind node
    | next => exact ordered.follow_raises (fun id known => (ahead id known).1) behind node

theorem walk_raises (ordered : WellOrdered t.nodes order) {node : Node} (member : node ∈ t.nodes) :
    Raises (Harmless order.length (t.maxDepth + 1)) (walk t node) :=
  fun p fault failed => (ordered.visit_raises (t.maxDepth + 1) member p fault failed).mono (by omega)

end WellOrdered

namespace Execution

variable {b : Backend σ} {config : EngineConfig} {nodes : List Node} {order : List String}

theorem branch_raises (t : Terrain σ) (c : Context) (trigger : Node) (P : EngineFault → Prop) : Raises P (branch t c trigger) := by
  intro s fault failed
  unfold branch at failed
  split at failed <;> cases failed

theorem branch_returns {t : Terrain σ} {trigger : Node} {P : EngineFault → Prop} (raises : Raises P (walk t trigger)) (c : Context) :
    Returns (fun b => ∀ fault, b.result = .error fault → P fault) (branch t c trigger) := by
  intro s b same fault failed
  have cause := raises (c.fork,s)
  revert same cause
  unfold branch
  rcases walk t trigger (c.fork,s) with ⟨(e | _) | jobs,p⟩ <;> intro same cause <;> cases same
  · cases failed
    exact cause _ rfl
  · cases failed

theorem outcome_error {P : EngineFault → Prop} {branches : List Branch} (each : ∀ b ∈ branches, ∀ fault, b.result = .error fault → P fault)
    {fault : EngineFault} (failed : outcome branches = .error fault) : P fault := by
  induction branches with
  | nil => cases failed
  | cons b rest ih =>
    have own := each b (List.mem_cons_self ..)
    have others := ih fun b member => each b (List.mem_cons_of_mem _ member)
    unfold outcome at failed
    cases first : b.result with
    | error e =>
      rw [first] at failed
      cases failed
      exact own _ first
    | ok jobs =>
      cases later : outcome rest with
      | error e =>
        rw [first,later] at failed
        cases failed
        exact others later
      | ok more => rw [first,later] at failed; cases failed

theorem onContext_raises {P : EngineFault → Prop} {act : Walk σ α} (raises : Raises P act) (c : Context) : Raises P (onContext c act) :=
  fun s fault failed => raises (c,s) fault failed

theorem store_raises {length room : Nat} {act : Act τ StoreFault α} : Raises (Harmless length room) (mapFault .store act) :=
  .mapFault (fun _ _ _ => trivial) fun _ _ => .store _

theorem recordFailure_raises {P : EngineFault → Prop} {fault : EngineFault} (holds : P fault) :
    Raises P (recordFailure b fault : Walk σ α) := .seq (.attempt _) fun _ => .fail holds

theorem runTriggers_raises (ordered : WellOrdered nodes order) (c : Context) :
    Raises (Harmless order.length (config.maxDepth + 1)) (runTriggers b config nodes c) := by
  have each : Returns (fun branches => ∀ b ∈ branches, ∀ fault, b.result = .error fault → Harmless order.length (config.maxDepth + 1) fault)
      ((nodes.filter Node.isTrigger).mapM (branch (terrain b config nodes) c)) :=
    .mapM fun trigger member => branch_returns (ordered.walk_raises (t := terrain b config nodes) (List.mem_filter.mp member).1) c
  refine .bind (.mapM fun trigger _ => branch_raises _ _ _ _) each fun branches harmless => ?_
  cases sum : outcome branches with
  | ok jobs => exact onContext_raises store_raises _
  | error fault => exact onContext_raises (recordFailure_raises (outcome_error harmless sum)) _

/-- A run over well-ordered nodes fails only for what its nodes or the stores do. -/
theorem execute_raises {d : Definition} (ordered : WellOrdered d.nodes order) (runnable : Validation.checkRunnable d.nodes = .ok ())
    (input : Json) (id? : Option String) : Raises (Harmless order.length (config.maxDepth + 1)) (execute b config d input id?) := by
  unfold execute
  rw [runnable]
  extract_lets started
  have onward (id : String) : Raises (Harmless order.length (config.maxDepth + 1)) (started id) := by
    refine .seq .get fun s => .seq store_raises fun _ => ?_
    split
    · exact .seq store_raises fun _ => .pure _
    · exact .seq (runTriggers_raises ordered _) fun _ => .pure _
  cases id? with
  | some id => exact .seq (.pure _) onward
  | none => exact .seq (.lift _) onward

theorem continueAt_raises (ordered : WellOrdered nodes order) {node : Node} (member : node ∈ nodes) :
    Raises (Harmless order.length (config.maxDepth + 1)) (continueAt b config nodes node) := by
  refine .bind (.attempt _) (Raises.attempted (ordered.walk_raises (t := terrain b config nodes) member)) fun result harmless => ?_
  cases result with
  | ok jobs => exact store_raises
  | error fault => exact recordFailure_raises (harmless fault rfl)

theorem continueAll_raises (ordered : WellOrdered nodes order) {ids : List String} (inside : ∀ id ∈ ids, id ∈ order) :
    Raises (Harmless order.length (config.maxDepth + 1)) (continueAll b config nodes ids) := by
  induction ids with
  | nil => exact .pure _
  | cons id rest ih =>
    obtain ⟨node,found⟩ := ordered.resolves id (inside id (List.mem_cons_self ..))
    unfold continueAll
    rw [found]
    exact .seq (continueAt_raises ordered (List.mem_of_find?_eq_some found)) fun _ => ih fun id known => inside id (List.mem_cons_of_mem _ known)

end Execution
end Flowgraph
