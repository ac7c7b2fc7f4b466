import Flowgraph.Node.Basic

/-! What makes the nodes of an automation well formed: ids that are unique, a trigger, edges that
lead to nodes, conditions with clauses, and no cycle. The check ends in a topological order: nodes
are taken once all edges into them are spent, in the order in which that happens. -/

namespace Flowgraph

inductive GraphFault where
  | noTrigger
  | duplicateId (id : String)
  | unknownReference (id referencedBy : String)
  | emptyCondition (id : String)
  | cycle
  deriving DecidableEq, Repr

def GraphFault.message : GraphFault → String
  | .noTrigger => "automation has no trigger node"
  | .duplicateId id => s!"duplicate node ID: '{id}'"
  | .unknownReference id by_ => s!"node '{by_}' references unknown node '{id}'"
  | .emptyCondition id => s!"condition node '{id}' has no conditions"
  | .cycle => "automation graph contains a cycle"

namespace Validation

/-- The first id that an earlier node has, `seen` being the ids so far. -/
def repeated? (seen : List String) : List Node → Option String
  | [] => none
  | node :: rest => if seen.contains node.id then some node.id else repeated? (node.id :: seen) rest

/-- What a run needs to start: unique ids and a trigger. -/
def checkRunnable (nodes : List Node) : Except GraphFault Unit :=
  match repeated? [] nodes with
  | some id => .error (.duplicateId id)
  | none => if nodes.any Node.isTrigger then .ok () else .error .noTrigger

def hasNoClauses (node : Node) : Bool :=
  match node.kind with
  | .condition c => c.clauses.isEmpty
  | _ => false

/-- A node's own fault: an edge that leads nowhere, or else a condition without clauses. -/
def localFault? (nodes : List Node) (node : Node) : Option GraphFault :=
  match node.successors.find? fun id => (Node.find? nodes id).isNone with
  | some id => some (.unknownReference id node.id)
  | none => if hasNoClauses node then some (.emptyCondition node.id) else none

/-- How many edges lead to each id. -/
abbrev Counts := List (String × Nat)

def edges (nodes : List Node) : List String := nodes.flatMap Node.successors

def initialCounts (nodes : List Node) : Counts := nodes.map fun node => (node.id, (edges nodes).count node.id)

def countOf (counts : Counts) (id : String) : Nat := (counts.lookup id).getD 0

def decrement (id : String) (counts : Counts) : Counts :=
  counts.map fun (k, n) => if k = id then (k, n - 1) else (k, n)

/-- Spends one edge to each target; also gives the targets that have none left, as this happens. -/
def spend : List String → Counts → Counts × List String
  | [], counts => (counts, [])
  | id :: rest, counts =>
    let counts := decrement id counts
    let (final, freed) := spend rest counts
    (final, if countOf counts id = 0 then id :: freed else freed)

/-- Takes nodes from the front of a queue, at most `n`, and queues those that become free. -/
def sort (nodes : List Node) : Nat → Counts → List Node → List String
  | 0, _, _ => []
  | _, _, [] => []
  | n + 1, counts, node :: queue =>
    let (counts, freed) := spend node.successors counts
    node.id :: sort nodes n counts (queue ++ freed.filterMap (Node.find? nodes))

/-- The ids of all nodes that can be put behind everything that leads to them. -/
def order (nodes : List Node) : List String :=
  let counts := initialCounts nodes
  sort nodes nodes.length counts (nodes.filter fun node => countOf counts node.id = 0)

def validate (nodes : List Node) : Except GraphFault (List String) := do
  checkRunnable nodes
  match nodes.findSome? (localFault? nodes) with
  | some fault => throw fault
  | none =>
    let order := order nodes
    if order.length = nodes.length then return order else throw .cycle

end Validation
end Flowgraph
