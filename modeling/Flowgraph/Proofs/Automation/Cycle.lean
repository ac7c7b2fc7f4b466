import Flowgraph.Proofs.Automation.Order
import Mathlib.Data.Set.Finite.List
import Mathlib.Logic.Relation

/-! Validation accepts the well-formed automations and no others. The sort takes a node as soon as all edges into it are
spent, so each of the nodes that it leaves behind is the target of another one left behind, and among finitely many
nodes such edges close a cycle. -/

namespace Flowgraph.Validation

/-- What an automation needs besides an order of its nodes. -/
structure WellFormed (nodes : List Node) : Prop where
  distinct : (nodes.map Node.id).Nodup
  starts : ∃ node ∈ nodes, node.isTrigger = true
  resolves : ∀ source ∈ nodes, ∀ id ∈ source.successors, ∃ target ∈ nodes, target.id = id
  clauses : ∀ node ∈ nodes, ∀ config, node.kind = .condition config → config.clauses ≠ []

/-- The graph of the edges, however often each of them is there. -/
def Leads (nodes : List Node) (id target : String) : Prop := ∃ source ∈ nodes, source.id = id ∧ target ∈ source.successors

def Cyclic (nodes : List Node) : Prop := ∃ id, Relation.TransGen (Leads nodes) id id

section conditions

variable {nodes : List Node}

theorem repeated?_eq_none {seen : List String} (distinct : (nodes.map Node.id).Nodup) (apart : ∀ node ∈ nodes, node.id ∉ seen) :
    repeated? seen nodes = none := by
  induction nodes generalizing seen with
  | nil => rfl
  | cons node rest ih =>
    obtain ⟨new,others⟩ := List.nodup_cons.mp distinct
    have absent : node.id ∉ seen := apart node (List.mem_cons_self ..)
    have later : ∀ other ∈ rest, other.id ∉ node.id :: seen := by
      intro other member known
      obtain same | old := List.mem_cons.mp known
      · exact new (same ▸ List.mem_map_of_mem member)
      · exact apart other (List.mem_cons_of_mem _ member) old
    unfold repeated?
    rw [if_neg (by simpa using absent)]
    exact ih others later

theorem checkRunnable_eq_ok_iff :
    checkRunnable nodes = .ok () ↔ (nodes.map Node.id).Nodup ∧ ∃ node ∈ nodes, node.isTrigger = true := by
  constructor
  · intro runnable
    refine ⟨nodup_of_checkRunnable runnable,?_⟩
    unfold checkRunnable at runnable
    split at runnable
    · cases runnable
    · split at runnable
      · next some => exact List.any_eq_true.mp some
      · cases runnable
  · intro ⟨distinct,starts⟩
    have unique : repeated? [] nodes = none := repeated?_eq_none distinct (by simp)
    unfold checkRunnable
    rw [unique]
    exact if_pos (List.any_eq_true.mpr starts)

theorem isSome_find?_iff {id : String} : (Node.find? nodes id).isSome = true ↔ ∃ target ∈ nodes, target.id = id := by
  simp [Node.find?]

theorem hasNoClauses_eq_false_iff {node : Node} :
    hasNoClauses node = false ↔ ∀ config, node.kind = .condition config → config.clauses ≠ [] := by
  unfold hasNoClauses
  cases kind : node.kind <;> simp

theorem localFault?_eq_none_iff {node : Node} : localFault? nodes node = none ↔
    (∀ id ∈ node.successors, ∃ target ∈ nodes, target.id = id) ∧ ∀ config, node.kind = .condition config → config.clauses ≠ [] := by
  rw [← hasNoClauses_eq_false_iff]
  simp only [← isSome_find?_iff]
  unfold localFault?
  cases dangling : node.successors.find? fun id => (Node.find? nodes id).isNone with
  | some id =>
    have missing := List.find?_some dangling
    have member := List.mem_of_find?_eq_some dangling
    simp only [reduceCtorEq,false_iff]
    intro ⟨resolves,_⟩
    have found := resolves id member
    simp_all
  | none =>
    have resolves := List.find?_eq_none.mp dangling
    have found : ∀ id ∈ node.successors, (Node.find? nodes id).isSome = true := by
      intro id member
      have known := resolves id member
      simpa [Option.isSome_iff_ne_none] using known
    cases hasNoClauses node with
    | true => simp
    | false => simpa using found

theorem wellFormed_iff :
    WellFormed nodes ↔ checkRunnable nodes = .ok () ∧ nodes.findSome? (localFault? nodes) = none := by
  rw [checkRunnable_eq_ok_iff,List.findSome?_eq_none_iff]
  constructor
  · intro formed
    refine ⟨⟨formed.distinct,formed.starts⟩,?_⟩
    intro node member
    exact localFault?_eq_none_iff.mpr ⟨formed.resolves node member,formed.clauses node member⟩
  · intro ⟨⟨distinct,starts⟩,faultless⟩
    have each (node : Node) (member : node ∈ nodes) := localFault?_eq_none_iff.mp (faultless node member)
    exact ⟨distinct,starts,fun node member => (each node member).1,fun node member => (each node member).2⟩

theorem validate_of_wellFormed (formed : WellFormed nodes) :
    validate nodes = if (order nodes).length = nodes.length then .ok (order nodes) else .error .cycle := by
  obtain ⟨runnable,faultless⟩ := wellFormed_iff.mp formed
  unfold validate
  rw [runnable,faultless]
  rfl

theorem checkRunnable_ne_cycle : checkRunnable nodes ≠ .error .cycle := by
  unfold checkRunnable
  split
  · simp
  · split <;> simp

theorem localFault?_ne_cycle (node : Node) : localFault? nodes node ≠ some .cycle := by
  unfold localFault?
  split
  · simp
  · split <;> simp

/-- A cycle is not looked for before all else is in order. -/
theorem validate_of_not_wellFormed (malformed : ¬WellFormed nodes) : ∃ fault, validate nodes = .error fault ∧ fault ≠ .cycle := by
  unfold validate
  cases runnable : checkRunnable nodes with
  | error fault =>
    refine ⟨fault,rfl,?_⟩
    intro cycle
    exact checkRunnable_ne_cycle (runnable.trans (congrArg Except.error cycle))
  | ok _ =>
    cases faults : nodes.findSome? (localFault? nodes) with
    | none => exact absurd (wellFormed_iff.mpr ⟨runnable,faults⟩) malformed
    | some fault =>
      refine ⟨fault,rfl,?_⟩
      intro cycle
      obtain ⟨node,-,own⟩ := List.exists_of_findSome?_eq_some faults
      exact localFault?_ne_cycle node (own.trans (congrArg some cycle))

end conditions

/-- With a visit for every node the sort goes on until nothing is queued. -/
theorem sort_drains {nodes taken queue : List Node} {counts : Counts} (n : Nat) (distinct : (nodes.map Node.id).Nodup)
    (progress : Progress nodes taken counts queue) (room : nodes.length ≤ taken.length + n) :
    ∃ more final, sort nodes n counts queue = more.map Node.id ∧ Progress nodes (taken ++ more) final [] := by
  induction n generalizing taken counts queue with
  | zero =>
    -- Those taken are already as many as there are.
    have bound := progress.length_le
    have empty : queue = [] := List.length_eq_zero_iff.mp (by omega)
    subst empty
    exact ⟨[],counts,by simp [sort],by simpa using progress⟩
  | succ n ih =>
    cases queue with
    | nil => exact ⟨[],counts,by simp [sort],by simpa using progress⟩
    | cons node queue =>
      have enough : nodes.length ≤ (taken ++ [node]).length + n := by
        rw [List.length_append,List.length_singleton]
        omega
      obtain ⟨more,final,shape,last⟩ := ih (progress.next distinct) enough
      refine ⟨node :: more,final,?_,by simpa using last⟩
      simp only [sort,List.map_cons]
      exact congrArg (node.id :: ·) shape

/-- A node is left behind only because of an edge from another one that is left behind. -/
theorem Progress.left_behind {nodes taken : List Node} {counts : Counts} (progress : Progress nodes taken counts []) {node : Node}
    (distinct : (nodes.map Node.id).Nodup) (member : node ∈ nodes) (left : node ∉ taken) :
    ∃ source ∈ nodes, source ∉ taken ∧ node.id ∈ source.successors := by
  have positive : countOf counts node.id ≠ 0 := by
    intro zero
    have queued := (progress.free node member).mp zero
    exact left (by simpa using queued)
  have balance := progress.balance node member
  obtain ⟨inside,unique⟩ := progress.taken_only
  obtain ⟨first,same,sub⟩ := List.subperm_of_subset (List.Nodup.of_map _ unique) inside
  obtain ⟨rest,parts⟩ := sub.exists_perm_append
  have perm : nodes.Perm (taken ++ rest) := parts.trans (same.append_right rest)
  have total := (perm.flatMap_right Node.successors).count_eq node.id
  change (edges nodes).count node.id = (edges (taken ++ rest)).count node.id at total
  rw [edges_append,List.count_append] at total
  have leads : node.id ∈ edges rest := List.count_pos_iff.mp (by omega)
  obtain ⟨source,listed,target⟩ := List.mem_flatMap.mp leads
  have apart := (perm.nodup_iff.mp (List.Nodup.of_map _ distinct))
  refine ⟨source,perm.mem_iff.mpr (List.mem_append_right _ listed),?_,target⟩
  intro known
  exact (List.nodup_append.mp apart).2.2 source known source listed rfl

/-- Going back from edge to edge among finitely many nodes comes around at some time. -/
theorem cyclic_of_predecessors {nodes : List Node} {P : Node → Prop} {node : Node} (member : node ∈ nodes) (holds : P node)
    (back : ∀ node ∈ nodes, P node → ∃ source ∈ nodes, P source ∧ node.id ∈ source.successors) : Cyclic nodes := by
  by_contra acyclic
  let before : {node // node ∈ nodes} → {node // node ∈ nodes} → Prop := fun a b => Relation.TransGen (Leads nodes) a.val.id b.val.id
  have finite : Finite {node // node ∈ nodes} := (List.finite_toSet nodes).to_subtype
  have transitive : IsTrans _ before := ⟨fun _ _ _ => Relation.TransGen.trans⟩
  have irreflexive : Std.Irrefl before := ⟨fun a loop => acyclic ⟨a.val.id,loop⟩⟩
  have founded : WellFounded before := Finite.wellFounded_of_trans_of_irrefl before
  obtain ⟨⟨first,inside⟩,held,least⟩ := founded.has_min {a | P a.val} ⟨⟨node,member⟩,holds⟩
  obtain ⟨source,known,also,leads⟩ := back first inside held
  have edge : Leads nodes source.id first.id := ⟨source,known,rfl,leads⟩
  exact least ⟨source,known⟩ also (Relation.TransGen.single edge)

theorem idxOf_lt_of_transGen {nodes : List Node} {order : List String} (valid : validate nodes = .ok order) {id target : String}
    (path : Relation.TransGen (Leads nodes) id target) : order.idxOf id < order.idxOf target := by
  have step {id target : String} (edge : Leads nodes id target) : order.idxOf id < order.idxOf target := by
    obtain ⟨source,member,named,leads⟩ := edge
    rw [← named]
    exact (validate_order valid).2 source member target leads
  induction path with
  | single edge => exact step edge
  | tail _ edge ih => exact ih.trans (step edge)

theorem not_cyclic_of_validate {nodes : List Node} {order : List String} (valid : validate nodes = .ok order) : ¬Cyclic nodes := by
  intro ⟨id,loop⟩
  exact Nat.lt_irrefl _ (idxOf_lt_of_transGen valid loop)

/-- An order that leaves out a node leaves out a cycle. -/
theorem cyclic_of_incomplete {nodes : List Node} (distinct : (nodes.map Node.id).Nodup) (incomplete : (order nodes).length ≠ nodes.length) :
    Cyclic nodes := by
  obtain ⟨taken,counts,shape,progress⟩ := sort_drains nodes.length distinct (.initial distinct) (by simp)
  rw [List.nil_append] at progress
  have length : (order nodes).length = taken.length := by
    rw [order,shape,List.length_map]
  obtain ⟨inside,unique⟩ := progress.taken_only
  have some : ∃ node ∈ nodes, node ∉ taken := by
    by_contra none
    push Not at none
    have sub := List.subperm_of_subset (List.Nodup.of_map _ distinct) none
    have sub' := List.subperm_of_subset (List.Nodup.of_map _ unique) inside
    exact incomplete (length.trans (Nat.le_antisymm sub'.length_le sub.length_le))
  obtain ⟨node,member,left⟩ := some
  exact cyclic_of_predecessors (P := (· ∉ taken)) member left fun node member left => progress.left_behind distinct member left

/-- An automation is valid exactly if it is well formed and has no cycle; it is refused for a cycle exactly if it is well
formed and has one, wherever in the graph this is. -/
theorem validate_iff (nodes : List Node) :
    ((∃ order, validate nodes = .ok order) ↔ WellFormed nodes ∧ ¬Cyclic nodes) ∧
      (validate nodes = .error .cycle ↔ WellFormed nodes ∧ Cyclic nodes) := by
  by_cases formed : WellFormed nodes
  · have result := validate_of_wellFormed formed
    by_cases complete : (order nodes).length = nodes.length
    · rw [if_pos complete] at result
      have acyclic := not_cyclic_of_validate result
      rw [result]
      simp [formed,acyclic]
    · rw [if_neg complete] at result
      have cyclic := cyclic_of_incomplete formed.distinct complete
      rw [result]
      simp [formed,cyclic]
  · obtain ⟨fault,result,other⟩ := validate_of_not_wellFormed formed
    rw [result]
    simp [formed,other]

/-- No trigger leads to this cycle. -/
example : validate [⟨"start",[],.trigger ⟨"crm","new",none⟩⟩,⟨"again",["again"],.transform []⟩] = .error .cycle := by decide +kernel

end Flowgraph.Validation
