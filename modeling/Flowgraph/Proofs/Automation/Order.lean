import Flowgraph.Automation.Validation
import Mathlib.Data.List.Flatten
import Mathlib.Data.List.Nodup
import Mathlib.Data.List.Perm.Subperm

/-! The topological order. While nodes are taken, the count of an id is the number of edges to it that have not
been spent, and a node is taken or queued exactly when its count is zero. So a node is taken after all nodes
that lead to it, and an order that holds all nodes has every edge going forward. -/

namespace Flowgraph.Validation

theorem not_mem_of_repeated? {seen : List String} {nodes : List Node} (unique : repeated? seen nodes = none) :
    (nodes.map Node.id).Nodup ∧ ∀ node ∈ nodes, node.id ∉ seen := by
  induction nodes generalizing seen with
  | nil => exact ⟨List.nodup_nil,nofun⟩
  | cons node rest ih =>
    unfold repeated? at unique
    split at unique
    · cases unique
    · next new =>
      obtain ⟨distinct,apart⟩ := ih unique
      have absent : node.id ∉ seen := by simpa using new
      refine ⟨List.nodup_cons.mpr ⟨?_,distinct⟩,?_⟩
      · intro inside
        obtain ⟨other,member,same⟩ := List.mem_map.mp inside
        exact apart other member (same ▸ List.mem_cons_self ..)
      · intro other member
        obtain rfl | later := List.mem_cons.mp member
        · exact absent
        · exact fun known => apart other later (List.mem_cons_of_mem _ known)

theorem nodup_of_checkRunnable {nodes : List Node} (runnable : checkRunnable nodes = .ok ()) : (nodes.map Node.id).Nodup := by
  unfold checkRunnable at runnable
  split at runnable
  · cases runnable
  · next unique => exact (not_mem_of_repeated? unique).1

theorem find?_of_mem {nodes : List Node} {node : Node} (distinct : (nodes.map Node.id).Nodup) (member : node ∈ nodes) :
    Node.find? nodes node.id = some node := by
  obtain ⟨found,same⟩ := Option.isSome_iff_exists.mp (List.find?_isSome (p := (·.id == node.id)).mpr ⟨node,member,beq_self_eq_true _⟩)
  have id : found.id = node.id := by simpa using List.find?_some same
  rw [Node.find?,same,List.inj_on_of_nodup_map distinct (List.mem_of_find?_eq_some same) member id]

theorem id_of_find? {nodes : List Node} {id : String} {node : Node} (found : Node.find? nodes id = some node) : node.id = id := by
  simpa using List.find?_some found

section counts

theorem countOf_decrement (counts : Counts) (id k : String) :
    countOf (decrement id counts) k = if k = id then countOf counts k - 1 else countOf counts k := by
  unfold countOf decrement
  induction counts with
  | nil => simp
  | cons head rest ih =>
    obtain ⟨key,n⟩ := head
    simp only [List.map_cons]
    split <;> simp only [List.lookup_cons] at ih ⊢ <;> grind

theorem countOf_spend (counts : Counts) (targets : List String) (k : String) :
    countOf (spend targets counts).1 k = countOf counts k - targets.count k := by
  induction targets generalizing counts with
  | nil => rfl
  | cons id rest ih =>
    simp only [spend,ih,countOf_decrement,List.count_cons]
    grind

/-- A target becomes free once, with the last of the edges to it. -/
theorem count_freed {counts : Counts} {targets : List String} {k : String} (enough : targets.count k ≤ countOf counts k) :
    (spend targets counts).2.count k = if k ∈ targets ∧ countOf counts k = targets.count k then 1 else 0 := by
  induction targets generalizing counts with
  | nil => simp [spend]
  | cons id rest ih =>
    have remaining := countOf_decrement counts id k
    have present : 0 < rest.count k ↔ k ∈ rest := List.count_pos_iff
    rw [List.count_cons] at enough
    have step := @ih (decrement id counts)
    simp only [spend,List.mem_cons,List.count_cons]
    by_cases same : k = id
    · subst same
      simp only [beq_self_eq_true,if_true] at enough remaining ⊢
      have first := step (by omega)
      split
      · rw [List.count_cons,first]
        grind
      · rw [first]
        grind
    · have other : (id == k) = false := beq_false_of_ne (Ne.symm same)
      simp only [other,if_neg same,Bool.false_eq_true,if_false,Nat.add_zero] at enough remaining ⊢
      have first := step (by omega)
      rw [remaining] at first
      have apart : (k = id ∨ k ∈ rest) ↔ k ∈ rest := or_iff_right same
      simp only [apart]
      split
      · rw [List.count_cons,other,first]
        simp
      · exact first

theorem countOf_initialCounts {nodes : List Node} {node : Node} (member : node ∈ nodes) :
    countOf (initialCounts nodes) node.id = (edges nodes).count node.id := by
  have lookup (xs : List Node) (inside : node ∈ xs) :
      (xs.map fun n => (n.id,(edges nodes).count n.id)).lookup node.id = some ((edges nodes).count node.id) := by
    induction xs with
    | nil => cases inside
    | cons x rest ih =>
      simp only [List.map_cons,List.lookup_cons]
      grind
  rw [countOf,initialCounts,lookup nodes member,Option.getD_some]

end counts

theorem edges_append (xs ys : List Node) : edges (xs ++ ys) = edges xs ++ edges ys := List.flatMap_append

theorem count_edges_le {xs nodes : List Node} (distinct : (xs.map Node.id).Nodup) (members : xs ⊆ nodes) (k : String) :
    (edges xs).count k ≤ (edges nodes).count k := by
  obtain ⟨ys,perm,sub⟩ := List.subperm_of_subset (List.Nodup.of_map _ distinct) members
  have same : (edges ys).count k = (edges xs).count k := (perm.flatMap_right Node.successors).count_eq k
  rw [← same]
  exact (sub.flatMap Node.successors).count_le k

/-- How things stand between two nodes: those that have been taken, the counts, and those that wait to be taken. -/
structure Progress (nodes taken : List Node) (counts : Counts) (queue : List Node) : Prop where
  members : taken ++ queue ⊆ nodes
  distinct : ((taken ++ queue).map Node.id).Nodup
  balance : ∀ node ∈ nodes, countOf counts node.id + (edges taken).count node.id = (edges nodes).count node.id
  free : ∀ node ∈ nodes, countOf counts node.id = 0 ↔ node ∈ taken ++ queue

namespace Progress

variable {nodes taken queue : List Node} {counts : Counts} {node : Node}

theorem initial (distinct : (nodes.map Node.id).Nodup) :
    Progress nodes [] (initialCounts nodes) (nodes.filter fun node => countOf (initialCounts nodes) node.id = 0) where
  members := by simp
  distinct := by simpa using distinct.sublist ((List.filter_sublist).map _)
  balance node member := by simpa [edges] using countOf_initialCounts member
  free node member := by simp [member]

/-- All nodes that lead to one that is taken or queued have been taken. -/
theorem predecessor_taken (progress : Progress nodes taken counts queue) (distinct : (nodes.map Node.id).Nodup)
    (member : node ∈ taken ++ queue) {source : Node} (inside : source ∈ nodes) (leads : node.id ∈ source.successors) : source ∈ taken := by
  by_contra absent
  have balance := progress.balance node (progress.members member)
  rw [(progress.free node (progress.members member)).mpr member] at balance
  have before : (taken.map Node.id).Nodup := (List.nodup_append.mp (by simpa using progress.distinct)).1
  have within : taken ⊆ nodes := fun _ known => progress.members (List.mem_append_left _ known)
  have more : ((taken ++ [source]).map Node.id).Nodup := by
    rw [List.map_append,List.nodup_append]
    refine ⟨before,by simp,?_⟩
    rintro _ known _ single rfl
    obtain ⟨other,there,same⟩ := List.mem_map.mp known
    have here : source.id = other.id := by simpa [same] using (List.mem_singleton.mp (by simpa using single)).symm
    exact absent (List.inj_on_of_nodup_map distinct (within there) inside here.symm ▸ there)
  have le := count_edges_le more (List.append_subset.mpr ⟨within,by simpa using inside⟩) node.id
  have positive : 0 < (edges [source]).count node.id := List.count_pos_iff.mpr (by simpa [edges] using leads)
  rw [edges_append,List.count_append] at le
  omega

def freedBy (nodes : List Node) (node : Node) (counts : Counts) : List Node := (spend node.successors counts).2.filterMap (Node.find? nodes)

theorem taken_only (progress : Progress nodes taken counts queue) : taken ⊆ nodes ∧ (taken.map Node.id).Nodup := by
  have distinct := progress.distinct
  rw [List.map_append,List.nodup_append] at distinct
  exact ⟨fun _ known => progress.members (List.mem_append_left _ known),distinct.1⟩

/-- The nodes that are taken or queued are different ones. -/
theorem length_le (progress : Progress nodes taken counts queue) : taken.length + queue.length ≤ nodes.length := by
  rw [← List.length_append]
  exact (List.subperm_of_subset (List.Nodup.of_map _ progress.distinct) progress.members).length_le

theorem taken_node (progress : Progress nodes taken counts (node :: queue)) :
    ((taken ++ [node]).map Node.id).Nodup ∧ taken ++ [node] ⊆ nodes := by
  have shape : taken ++ node :: queue = (taken ++ [node]) ++ queue := by simp
  have distinct := progress.distinct
  have members := progress.members
  rw [shape] at distinct members
  rw [List.map_append] at distinct
  exact ⟨(List.nodup_append.mp distinct).1,fun _ inside => members (List.mem_append_left _ inside)⟩

theorem enough (progress : Progress nodes taken counts (node :: queue)) {target : Node} (inside : target ∈ nodes) :
    node.successors.count target.id ≤ countOf counts target.id := by
  have balance := progress.balance target inside
  have le := count_edges_le progress.taken_node.1 progress.taken_node.2 target.id
  have own : edges [node] = node.successors := by simp [edges]
  rw [edges_append,List.count_append,own] at le
  omega

theorem mem_freedBy (progress : Progress nodes taken counts (node :: queue)) (distinct : (nodes.map Node.id).Nodup) {target : Node} :
    target ∈ freedBy nodes node counts ↔
      target ∈ nodes ∧ target.id ∈ node.successors ∧ countOf counts target.id = node.successors.count target.id := by
  have freed (inside : target ∈ nodes) : target.id ∈ (spend node.successors counts).2 ↔
      target.id ∈ node.successors ∧ countOf counts target.id = node.successors.count target.id := by
    rw [← List.count_pos_iff,count_freed (progress.enough inside)]
    split <;> simp [*]
  unfold freedBy
  rw [List.mem_filterMap]
  constructor
  · rintro ⟨id,known,found⟩
    have inside := List.mem_of_find?_eq_some found
    exact ⟨inside,(freed inside).mp (id_of_find? found ▸ known)⟩
  · rintro ⟨inside,spent⟩
    exact ⟨target.id,(freed inside).mpr spent,find?_of_mem distinct inside⟩

theorem sublist_freed (nodes : List Node) (ids : List String) : ((ids.filterMap (Node.find? nodes)).map Node.id).Sublist ids := by
  induction ids with
  | nil => simp
  | cons id rest ih =>
    cases found : Node.find? nodes id with
    | none => simpa [found] using ih.cons id
    | some node => simpa [found,id_of_find? found] using ih.cons_cons id

theorem nodup_freedBy (progress : Progress nodes taken counts (node :: queue)) : ((freedBy nodes node counts).map Node.id).Nodup := by
  rw [List.nodup_iff_count_le_one]
  intro k
  by_cases inside : k ∈ (freedBy nodes node counts).map Node.id
  · obtain ⟨target,member,rfl⟩ := List.mem_map.mp inside
    obtain ⟨id,-,found⟩ := List.mem_filterMap.mp member
    have once := count_freed (progress.enough (List.mem_of_find?_eq_some found))
    have le : ((freedBy nodes node counts).map Node.id).count target.id ≤ _ := (sublist_freed nodes _).count_le target.id
    rw [once] at le
    split at le <;> omega
  · rw [List.count_eq_zero_of_not_mem inside]
    omega

theorem next (progress : Progress nodes taken counts (node :: queue)) (distinct : (nodes.map Node.id).Nodup) :
    Progress nodes (taken ++ [node]) (spend node.successors counts).1 (queue ++ freedBy nodes node counts) := by
  have shape : (taken ++ [node]) ++ (queue ++ freedBy nodes node counts) = (taken ++ node :: queue) ++ freedBy nodes node counts := by simp
  have own : edges [node] = node.successors := by simp [edges]
  refine ⟨?_,?_,?_,?_⟩
  · rw [shape]
    exact List.append_subset.mpr ⟨progress.members,fun _ known => ((progress.mem_freedBy distinct).mp known).1⟩
  · rw [shape,List.map_append,List.nodup_append]
    refine ⟨progress.distinct,progress.nodup_freedBy,?_⟩
    rintro _ old _ new rfl
    obtain ⟨earlier,there,id⟩ := List.mem_map.mp old
    obtain ⟨target,known,same⟩ := List.mem_map.mp new
    obtain ⟨inside,leads,spent⟩ := (progress.mem_freedBy distinct).mp known
    -- One that was queued before has no edges left to spend.
    obtain rfl := List.inj_on_of_nodup_map distinct (progress.members there) inside (id.trans same.symm)
    have zero := (progress.free earlier inside).mpr there
    have positive := List.count_pos_iff.mpr leads
    omega
  · intro target inside
    have balance := progress.balance target inside
    have enough := progress.enough inside
    rw [countOf_spend,edges_append,List.count_append,own]
    omega
  · intro target inside
    have enough := progress.enough inside
    have before := progress.free target inside
    have positive : 0 < node.successors.count target.id ↔ target.id ∈ node.successors := List.count_pos_iff
    rw [countOf_spend,shape,List.mem_append,← before,progress.mem_freedBy distinct]
    constructor
    · intro zero
      by_cases already : countOf counts target.id = 0
      · exact .inl already
      · exact .inr ⟨inside,positive.mp (by omega),by omega⟩
    · rintro (zero | ⟨-,-,spent⟩) <;> omega

end Progress

/-- Every node stands behind all nodes that lead to it. -/
def Forward (nodes taken : List Node) : Prop :=
  ∀ before node rest, taken = before ++ node :: rest → ∀ source ∈ nodes, node.id ∈ source.successors → source ∈ before

theorem Forward.snoc {nodes taken : List Node} {node : Node} (forward : Forward nodes taken)
    (last : ∀ source ∈ nodes, node.id ∈ source.successors → source ∈ taken) : Forward nodes (taken ++ [node]) := by
  intro before other rest shape
  obtain rfl | ⟨front,final,rfl⟩ := List.eq_nil_or_concat rest
  · obtain ⟨rfl,single⟩ := List.append_inj' shape rfl
    obtain rfl : node = other := by simpa using single
    exact last
  · have split : taken ++ [node] = (before ++ other :: front) ++ [final] := by simpa using shape
    exact forward before other front (List.append_inj' split rfl).1

/-- Whatever the sort gives has been taken in an order in which no edge leads back. -/
theorem sort_forward {nodes taken queue : List Node} {counts : Counts} (n : Nat) (distinct : (nodes.map Node.id).Nodup)
    (progress : Progress nodes taken counts queue) (forward : Forward nodes taken) :
    ∃ more, sort nodes n counts queue = more.map Node.id ∧ taken ++ more ⊆ nodes ∧ ((taken ++ more).map Node.id).Nodup ∧
      Forward nodes (taken ++ more) := by
  induction n generalizing taken counts queue with
  | zero => exact ⟨[],rfl,by simpa using progress.taken_only.1,by simpa using progress.taken_only.2,by simpa using forward⟩
  | succ n ih =>
    cases queue with
    | nil => exact ⟨[],rfl,by simpa using progress.taken_only.1,by simpa using progress.taken_only.2,by simpa using forward⟩
    | cons node queue =>
      have last : ∀ source ∈ nodes, node.id ∈ source.successors → source ∈ taken := fun source inside leads =>
        progress.predecessor_taken distinct (List.mem_append_right _ (List.mem_cons_self ..)) inside leads
      obtain ⟨more,shape,members,unique,ahead⟩ := ih (progress.next distinct) (forward.snoc last)
      have split : taken ++ node :: more = (taken ++ [node]) ++ more := by simp
      refine ⟨node :: more,?_,split ▸ members,split ▸ unique,split ▸ ahead⟩
      simp only [sort,List.map_cons]
      exact congrArg (node.id :: ·) shape

theorem conditions_of_validate {nodes : List Node} {order : List String} (valid : validate nodes = .ok order) :
    checkRunnable nodes = .ok () ∧ (∀ node ∈ nodes, localFault? nodes node = none) ∧ order = Validation.order nodes ∧
      order.length = nodes.length := by
  unfold validate at valid
  cases runnable : checkRunnable nodes with
  | error fault => rw [runnable] at valid; cases valid
  | ok _ =>
    cases faults : nodes.findSome? (localFault? nodes) with
    | some fault => rw [runnable,faults] at valid; cases valid
    | none =>
      rw [runnable,faults] at valid
      change (if (Validation.order nodes).length = nodes.length then Except.ok (Validation.order nodes) else _) = _ at valid
      split at valid
      · next complete =>
        cases valid
        exact ⟨rfl,List.findSome?_eq_none_iff.mp faults,rfl,complete⟩
      · cases valid

theorem find?_of_successor {nodes : List Node} {source : Node} {id : String} (sound : localFault? nodes source = none)
    (leads : id ∈ source.successors) : ∃ target ∈ nodes, Node.find? nodes id = some target ∧ target.id = id := by
  unfold localFault? at sound
  split at sound
  · cases sound
  · next none =>
    have found := List.find?_eq_none.mp none id leads
    obtain ⟨target,known⟩ := Option.ne_none_iff_exists'.mp (by simpa using found)
    exact ⟨target,List.mem_of_find?_eq_some known,known,id_of_find? known⟩

/-- The nodes behind a validated order: all of them, each behind those that lead to it. -/
theorem taken_of_validate {nodes : List Node} {order : List String} (valid : validate nodes = .ok order) :
    ∃ taken, order = taken.map Node.id ∧ taken.Perm nodes ∧ Forward nodes taken := by
  obtain ⟨runnable,-,same,complete⟩ := conditions_of_validate valid
  have distinct := nodup_of_checkRunnable runnable
  have none : Forward nodes [] := by
    intro before node rest empty
    simp at empty
  obtain ⟨taken,shape,members,unique,forward⟩ := sort_forward nodes.length distinct (.initial distinct) none
  rw [List.nil_append] at members unique forward
  have ids : order = taken.map Node.id := same.trans shape
  have lengths : nodes.length = taken.length := by rw [← complete,ids,List.length_map]
  have sub := List.subperm_of_subset (List.Nodup.of_map _ unique) members
  exact ⟨taken,ids,sub.perm_of_length_le (Nat.le_of_eq lengths),forward⟩

theorem nodup_of_validate {nodes : List Node} {order : List String} (valid : validate nodes = .ok order) : order.Nodup := by
  obtain ⟨runnable,-⟩ := conditions_of_validate valid
  obtain ⟨taken,ids,perm,-⟩ := taken_of_validate valid
  have distinct := nodup_of_checkRunnable runnable
  rw [ids]
  exact (perm.map Node.id).nodup_iff.mpr distinct

/-- Wherever an edge leads, there is a node, and the source of the edge has been taken before it. -/
theorem split_of_validate {nodes : List Node} {order : List String} (valid : validate nodes = .ok order) {source : Node}
    (inside : source ∈ nodes) {id : String} (leads : id ∈ source.successors) :
    ∃ before between after, order = before ++ source.id :: between ++ id :: after := by
  obtain ⟨-,sound,-,-⟩ := conditions_of_validate valid
  obtain ⟨taken,ids,perm,forward⟩ := taken_of_validate valid
  obtain ⟨target,there,-,named⟩ := find?_of_successor (sound source inside) leads
  obtain ⟨front,after,split⟩ := List.append_of_mem (perm.mem_iff.mpr there)
  have earlier : source ∈ front := forward front target after split source inside (named ▸ leads)
  obtain ⟨before,between,early⟩ := List.append_of_mem earlier
  refine ⟨before.map Node.id,between.map Node.id,after.map Node.id,?_⟩
  rw [ids,split,early,← named]
  simp

/-- The order of validated nodes holds each of them once, and every edge goes forward in it. -/
theorem validate_order {nodes : List Node} {order : List String} (valid : validate nodes = .ok order) :
    order.Perm (nodes.map Node.id) ∧ ∀ source ∈ nodes, ∀ id ∈ source.successors, order.idxOf source.id < order.idxOf id := by
  obtain ⟨taken,ids,perm,-⟩ := taken_of_validate valid
  refine ⟨ids ▸ perm.map Node.id,?_⟩
  intro source inside id leads
  obtain ⟨before,between,after,split⟩ := split_of_validate valid inside leads
  have unique := nodup_of_validate valid
  rw [split] at unique ⊢
  have fresh : id ∉ before ++ source.id :: between := by
    intro known
    exact (List.nodup_append.mp unique).2.2 id known id (List.mem_cons_self ..) rfl
  have earlier : source.id ∈ before ++ source.id :: between := by simp
  have bound := List.idxOf_lt_length_of_mem earlier
  rw [List.idxOf_append_of_mem earlier,List.idxOf_append_of_notMem fresh,List.idxOf_cons_self]
  omega

/-- What validation gives is a topological order: the ids of all nodes, each once, the source of every edge before its target. -/
theorem validate_topological {nodes : List Node} {order : List String} (valid : validate nodes = .ok order) :
    order.Perm (nodes.map Node.id) ∧ order.Nodup ∧ ∀ source ∈ nodes, ∀ id ∈ source.successors,
      ∃ before between after, order = before ++ source.id :: between ++ id :: after := by
  have perm := (validate_order valid).1
  have unique := nodup_of_validate valid
  exact ⟨perm,unique,fun source inside id leads => split_of_validate valid inside leads⟩

/-- Parallel edges, branches that meet again, and a condition whose own edge would lead back. -/
def branching : List Node :=
  [⟨"done",[],.transform []⟩,⟨"mail",["done","done"],.transform []⟩,
    ⟨"check",["start"],.condition ⟨[⟨"amount",.gt,.ofNat 5⟩],["mail","mail"],["mail","done"]⟩⟩,
    ⟨"start",["check","check","done"],.trigger ⟨"crm","new",none⟩⟩]

theorem branching_topological : validate branching = .ok ["start","check","mail","done"] ∧
    ["start","check","mail","done"].Perm (branching.map Node.id) ∧ ["start","check","mail","done"].Nodup ∧
    ∀ source ∈ branching, ∀ id ∈ source.successors,
      ∃ before between after, ["start","check","mail","done"] = before ++ source.id :: between ++ id :: after := by
  have valid : validate branching = .ok ["start","check","mail","done"] := by decide +kernel
  exact ⟨valid,validate_topological valid⟩

end Flowgraph.Validation
