import Flowgraph.Proofs.Automation.Cycle

/-! The sort edge by edge, with a record of what it does to its counts and to its queue, and without a bound on the nodes it
takes. Nothing goes wrong on any graph that passes the checks, with cycles or without: a count that is lowered has been found
and is positive, since it holds the edges that are still to be spent; a node whose count has come to zero is not reached by
a further edge, so it is queued once, and the nodes that are taken are no more than there are. -/

namespace Flowgraph.Validation

section counts

theorem keys_decrement (id : String) (counts : Counts) : (decrement id counts).map Prod.fst = counts.map Prod.fst := by
  unfold decrement
  rw [List.map_map]
  refine List.map_congr_left ?_
  intro entry _
  dsimp only [Function.comp_apply]
  split <;> rfl

theorem keys_spend (targets : List String) (counts : Counts) : (spend targets counts).1.map Prod.fst = counts.map Prod.fst := by
  induction targets generalizing counts with
  | nil => rfl
  | cons id rest ih => exact (ih _).trans (keys_decrement id counts)

theorem lookup_of_mem_keys {counts : Counts} {id : String} (known : id ∈ counts.map Prod.fst) :
    counts.lookup id = some (countOf counts id) := by
  unfold countOf
  induction counts with
  | nil => cases known
  | cons head rest ih =>
    obtain ⟨key,n⟩ := head
    rw [List.lookup_cons]
    split
    · rfl
    · next other =>
      have apart : id ≠ key := by simpa using other
      exact ih ((List.mem_cons.mp known).resolve_left apart)

theorem keys_initialCounts (nodes : List Node) : (initialCounts nodes).map Prod.fst = nodes.map Node.id := by
  simp [initialCounts]

theorem lookup_initialCounts {nodes : List Node} {node : Node} (member : node ∈ nodes) :
    (initialCounts nodes).lookup node.id = some (countOf (initialCounts nodes) node.id) :=
  lookup_of_mem_keys (keys_initialCounts nodes ▸ List.mem_map_of_mem member)

end counts

/-- The sort between two edges. Besides the counts, the queue and what has been sorted: which counts were looked up with what
was found, which were lowered with what they were before, and which nodes were put into the queue, from the first on. -/
structure Sorting where
  counts : Counts
  queue : List Node
  sorted : List String
  looked : List (String × Option Nat)
  lowered : List (String × Nat)
  queued : List Node

namespace Sorting

def start (nodes : List Node) : Sorting :=
  let counts := initialCounts nodes
  let free := nodes.filter fun node => counts.lookup node.id = some 0
  { counts, queue := free, sorted := [], looked := nodes.map fun node => (node.id,counts.lookup node.id), lowered := [], queued := free }

def enqueue (nodes : List Node) (id : String) (s : Sorting) : Sorting :=
  match Node.find? nodes id with
  | some node => { s with queue := s.queue ++ [node], queued := s.queued ++ [node] }
  | none => s

/-- An edge whose target has no count is passed over. A target whose count comes to zero is queued. -/
def spendEdge (nodes : List Node) (s : Sorting) (id : String) : Sorting :=
  let count? := s.counts.lookup id
  let s := { s with looked := s.looked ++ [(id,count?)] }
  match count? with
  | none => s
  | some count =>
    let s := { s with counts := decrement id s.counts, lowered := s.lowered ++ [(id,count)] }
    if count - 1 = 0 then s.enqueue nodes id else s

def turn? (nodes : List Node) (s : Sorting) : Option Sorting :=
  match s.queue with
  | [] => none
  | node :: queue => some (node.successors.foldl (spendEdge nodes) { s with queue, sorted := s.sorted ++ [node.id] })

/-- The states between two nodes, each with the number of nodes that have been taken. What happened at an edge before is still
on record. -/
inductive Reached (nodes : List Node) : Nat → Sorting → Prop where
  | start : Reached nodes 0 (start nodes)
  | turn {turns : Nat} {s t : Sorting} : Reached nodes turns s → s.turn? nodes = some t → Reached nodes (turns + 1) t

/-- All counts that were looked up are there, and none was lowered at zero. -/
structure Clean (s : Sorting) : Prop where
  found : ∀ look ∈ s.looked, look.2.isSome = true
  positive : ∀ lowering ∈ s.lowered, 0 < lowering.2

structure Safe (s : Sorting) : Prop extends Clean s where
  once : (s.queued.map Node.id).Nodup

section edges

/-- What the edges to `targets` change, from one state to another. -/
structure Spent (nodes : List Node) (targets : List String) (s t : Sorting) : Prop where
  counts : t.counts = (spend targets s.counts).1
  queue : t.queue = s.queue ++ (spend targets s.counts).2.filterMap (Node.find? nodes)
  sorted : t.sorted = s.sorted
  queued : t.queued = s.queued ++ (spend targets s.counts).2.filterMap (Node.find? nodes)
  clean : s.Clean → t.Clean

variable {nodes : List Node} {s t u : Sorting} {id : String} {targets rest : List String}

theorem Spent.none (s : Sorting) : Spent nodes [] s s :=
  ⟨rfl,by simp [spend],rfl,by simp [spend],fun clean => clean⟩

theorem Spent.cons (first : Spent nodes [id] s t) (later : Spent nodes rest t u) : Spent nodes (id :: rest) s u := by
  have lowered : t.counts = decrement id s.counts := first.counts
  have freed : (spend (id :: rest) s.counts).2 = (spend [id] s.counts).2 ++ (spend rest t.counts).2 := by
    rw [lowered]
    simp only [spend]
    split <;> rfl
  refine ⟨?_,?_,later.sorted.trans first.sorted,?_,later.clean ∘ first.clean⟩
  · rw [later.counts,lowered]
    rfl
  · rw [later.queue,first.queue,freed,List.filterMap_append,List.append_assoc]
  · rw [later.queued,first.queued,freed,List.filterMap_append,List.append_assoc]

theorem enqueue_eq (nodes : List Node) (id : String) (s : Sorting) : s.enqueue nodes id =
    { s with queue := s.queue ++ [id].filterMap (Node.find? nodes), queued := s.queued ++ [id].filterMap (Node.find? nodes) } := by
  unfold enqueue
  cases found : Node.find? nodes id <;> simp [found]

theorem spendEdge_spent (known : id ∈ s.counts.map Prod.fst) (unspent : 0 < countOf s.counts id) :
    Spent nodes [id] s (spendEdge nodes s id) := by
  have last : countOf (decrement id s.counts) id = 0 ↔ countOf s.counts id - 1 = 0 := by
    rw [countOf_decrement,if_pos rfl]
  have found (clean : s.Clean) : ∀ look ∈ s.looked ++ [(id,some (countOf s.counts id))], look.2.isSome = true :=
    List.forall_mem_append.mpr ⟨clean.found,by simp⟩
  have positive (clean : s.Clean) : ∀ lowering ∈ s.lowered ++ [(id,countOf s.counts id)], 0 < lowering.2 :=
    List.forall_mem_append.mpr ⟨clean.positive,by simpa using unspent⟩
  unfold spendEdge
  rw [lookup_of_mem_keys known]
  dsimp only
  split
  · next zero =>
    rw [enqueue_eq]
    exact ⟨rfl,by simp [spend,last.mpr zero],rfl,by simp [spend,last.mpr zero],fun clean => ⟨found clean,positive clean⟩⟩
  · next more =>
    have kept : countOf (decrement id s.counts) id ≠ 0 := fun zero => more (last.mp zero)
    exact ⟨rfl,by simp [spend,kept],rfl,by simp [spend,kept],fun clean => ⟨found clean,positive clean⟩⟩

/-- All edges to an id can be spent, one after another, if its count is no less than their number. -/
theorem foldl_spendEdge_spent (known : ∀ id ∈ targets, id ∈ s.counts.map Prod.fst)
    (enough : ∀ id ∈ targets, targets.count id ≤ countOf s.counts id) : Spent nodes targets s (targets.foldl (spendEdge nodes) s) := by
  induction targets generalizing s with
  | nil => exact .none s
  | cons id rest ih =>
    have unspent : 0 < countOf s.counts id := by
      have bound := enough id (List.mem_cons_self ..)
      rw [List.count_cons_self] at bound
      omega
    have first : Spent nodes [id] s (spendEdge nodes s id) := spendEdge_spent (known id (List.mem_cons_self ..)) unspent
    have lowered : (spendEdge nodes s id).counts = decrement id s.counts := first.counts
    refine first.cons (ih ?_ ?_)
    · intro k later
      rw [lowered,keys_decrement]
      exact known k (List.mem_cons_of_mem _ later)
    · intro k later
      have bound := enough k (List.mem_cons_of_mem _ later)
      rw [lowered,countOf_decrement]
      rw [List.count_cons] at bound
      grind

end edges

structure Kept (nodes taken : List Node) (s : Sorting) : Prop where
  progress : Progress nodes taken s.counts s.queue
  keys : s.counts.map Prod.fst = nodes.map Node.id
  queued : s.queued = taken ++ s.queue
  clean : s.Clean

section run

variable {nodes taken queue : List Node} {node : Node} {s t : Sorting} {turns : Nat}

theorem turn?_eq_none_iff : s.turn? nodes = none ↔ s.queue = [] := by
  unfold turn?
  split <;> simp [*]

theorem Kept.safe (kept : Kept nodes taken s) : s.Safe :=
  ⟨kept.clean,kept.queued ▸ kept.progress.distinct⟩

theorem start_queue (nodes : List Node) :
    (start nodes).queue = nodes.filter fun node => countOf (initialCounts nodes) node.id = 0 := by
  refine List.filter_congr ?_
  intro node member
  rw [lookup_initialCounts member]
  simp

theorem Kept.start (distinct : (nodes.map Node.id).Nodup) : Kept nodes [] (start nodes) where
  progress := by
    rw [start_queue]
    exact .initial distinct
  keys := keys_initialCounts nodes
  queued := rfl
  clean := by
    refine ⟨?_,nofun⟩
    intro look member
    obtain ⟨node,inside,rfl⟩ := List.mem_map.mp member
    rw [lookup_initialCounts inside]
    rfl

theorem Kept.spent (formed : WellFormed nodes) (kept : Kept nodes taken s) (waiting : s.queue = node :: queue)
    (moved : node.successors.foldl (spendEdge nodes) { s with queue, sorted := s.sorted ++ [node.id] } = t) :
    Spent nodes node.successors { s with queue, sorted := s.sorted ++ [node.id] } t := by
  subst moved
  have progress := kept.progress
  rw [waiting] at progress
  have inside : node ∈ nodes := progress.members (by simp)
  refine foldl_spendEdge_spent ?_ ?_
  · intro id leads
    obtain ⟨target,there,rfl⟩ := formed.resolves node inside id leads
    exact kept.keys ▸ List.mem_map_of_mem there
  · intro id leads
    obtain ⟨target,there,rfl⟩ := formed.resolves node inside id leads
    -- A count holds all edges that have not been spent, those of this node among them.
    exact progress.enough there

/-- One node more. The sort goes on from the new state as it did from the old one. -/
theorem Kept.turn (formed : WellFormed nodes) (kept : Kept nodes taken s) (moved : s.turn? nodes = some t) :
    ∃ node, Kept nodes (taken ++ [node]) t ∧
      ∀ n, s.sorted ++ sort nodes (n + 1) s.counts s.queue = t.sorted ++ sort nodes n t.counts t.queue := by
  unfold turn? at moved
  split at moved
  · cases moved
  · next node queue waiting =>
    have progress := kept.progress
    rw [waiting] at progress
    have spent := kept.spent formed waiting (Option.some.inj moved)
    refine ⟨node,⟨?_,?_,?_,spent.clean ⟨kept.clean.found,kept.clean.positive⟩⟩,?_⟩
    · rw [spent.counts,spent.queue]
      exact progress.next formed.distinct
    · rw [spent.counts,keys_spend]
      exact kept.keys
    · rw [spent.queued,spent.queue,kept.queued,waiting]
      simp
    · intro n
      rw [waiting,spent.sorted,spent.counts,spent.queue]
      simp only [sort,List.append_assoc]
      rfl

theorem Reached.kept (formed : WellFormed nodes) (reached : Reached nodes turns s) :
    ∃ taken, taken.length = turns ∧ Kept nodes taken s ∧
      ∀ n, sort nodes (turns + n) (initialCounts nodes) (Sorting.start nodes).queue = s.sorted ++ sort nodes n s.counts s.queue := by
  induction reached with
  | start => exact ⟨[],rfl,.start formed.distinct,fun n => by rw [Nat.zero_add]; rfl⟩
  | turn _ moved ih =>
    obtain ⟨taken,length,kept,goes⟩ := ih
    obtain ⟨node,next,same⟩ := kept.turn formed moved
    refine ⟨taken ++ [node],by rw [List.length_append,length]; rfl,next,?_⟩
    intro n
    rw [← same n,← goes (n + 1)]
    congr 1
    omega

theorem Reached.length_le (formed : WellFormed nodes) (reached : Reached nodes turns s) : turns + s.queue.length ≤ nodes.length := by
  obtain ⟨taken,rfl,kept,-⟩ := reached.kept formed
  exact kept.progress.length_le

theorem Reached.ends (formed : WellFormed nodes) (room : Nat) (reached : Reached nodes turns s) (bound : nodes.length ≤ turns + room) :
    ∃ turns last, Reached nodes turns last ∧ last.turn? nodes = none := by
  -- Every node that is taken leaves one less to take.
  induction room generalizing turns s with
  | zero =>
    have le := reached.length_le formed
    have empty : s.queue = [] := List.length_eq_zero_iff.mp (by omega)
    exact ⟨turns,s,reached,turn?_eq_none_iff.mpr empty⟩
  | succ room ih =>
    cases moved : s.turn? nodes with
    | none => exact ⟨turns,s,reached,moved⟩
    | some t => exact ih (reached.turn moved) (by omega)

end run
end Sorting

theorem sort_nil (nodes : List Node) (n : Nat) (counts : Counts) : sort nodes n counts [] = [] := by
  cases n <;> rfl

/-- The sort does no harm to its counts and to its queue and comes to an end by itself, on every graph that passes the checks.
Between any two nodes it has taken no more nodes than there are, and the order is what it has sorted followed by what it goes
on to sort; the state in which it stops decides whether there is a cycle. -/
theorem sorting_is_safe {nodes : List Node} (runnable : checkRunnable nodes = .ok ()) (faultless : nodes.findSome? (localFault? nodes) = none) :
    (∀ turns s, Sorting.Reached nodes turns s → s.Safe ∧ turns ≤ nodes.length ∧
        order nodes = s.sorted ++ sort nodes (nodes.length - turns) s.counts s.queue) ∧
      ∃ turns last, Sorting.Reached nodes turns last ∧ last.turn? nodes = none ∧
        validate nodes = if last.sorted.length = nodes.length then .ok last.sorted else .error .cycle := by
  have formed : WellFormed nodes := wellFormed_iff.mpr ⟨runnable,faultless⟩
  have each (turns : Nat) (s : Sorting) (reached : Sorting.Reached nodes turns s) : s.Safe ∧ turns ≤ nodes.length ∧
      order nodes = s.sorted ++ sort nodes (nodes.length - turns) s.counts s.queue := by
    obtain ⟨taken,length,kept,goes⟩ := reached.kept formed
    have bound : turns ≤ nodes.length := Nat.le_of_add_right_le (reached.length_le formed)
    refine ⟨kept.safe,bound,?_⟩
    rw [← goes,Nat.add_sub_of_le bound,order,Sorting.start_queue]
  obtain ⟨turns,last,reached,stopped⟩ := Sorting.Reached.start.ends formed nodes.length (Nat.le_add_left ..)
  have sorted : order nodes = last.sorted := by
    rw [(each turns last reached).2.2,Sorting.turn?_eq_none_iff.mp stopped,sort_nil,List.append_nil]
  refine ⟨each,turns,last,reached,stopped,?_⟩
  rw [← sorted]
  exact validate_of_wellFormed formed

/-- Parallel edges on both branches, and behind them a node that leads back to itself twice. -/
def entangled : List Node :=
  [⟨"again",["again","done","again"],.transform []⟩,⟨"start",["choose","choose","again"],.trigger ⟨"crm","new",none⟩⟩,
    ⟨"choose",["start"],.condition ⟨[⟨"amount",.gt,.ofNat 5⟩],["mail","mail"],["mail","again"]⟩⟩,⟨"mail",[],.transform []⟩,⟨"done",[],.transform []⟩]

theorem entangled_sorting_is_safe : checkRunnable entangled = .ok () ∧ entangled.findSome? (localFault? entangled) = none ∧
    validate entangled = .error .cycle ∧
    (∀ turns s, Sorting.Reached entangled turns s → s.Safe ∧ turns ≤ 5 ∧
        ["start","choose","mail"] = s.sorted ++ sort entangled (5 - turns) s.counts s.queue) ∧
      ∃ turns last, Sorting.Reached entangled turns last ∧ last.turn? entangled = none ∧
        validate entangled = if last.sorted.length = 5 then .ok last.sorted else .error .cycle := by
  have runnable : checkRunnable entangled = .ok () := by decide +kernel
  have faultless : entangled.findSome? (localFault? entangled) = none := by decide +kernel
  have cycle : validate entangled = .error .cycle := by decide +kernel
  have sorted : order entangled = ["start","choose","mail"] := by decide +kernel
  exact ⟨runnable,faultless,cycle,sorted ▸ sorting_is_safe runnable faultless⟩

end Flowgraph.Validation
