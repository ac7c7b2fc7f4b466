import Flowgraph.Action.Node
import Flowgraph.Engine.Fault

/-! The walk of a run over its nodes: depth first, in the order of the edges. Every visit leaves a
start entry, what the node itself logs, and a success entry. The first failure ends the walk with
an error entry; a suspended path is left to its job. -/

namespace Flowgraph

/-- What a walk needs besides the node to begin with. -/
structure Terrain (σ : Type) where
  caps : Capabilities σ
  batchSize : Nat
  maxDepth : Nat
  nodes : List Node

abbrev Walk (σ α : Type) := Act (Context × σ) EngineFault α

namespace Walk

def log (t : Terrain σ) (node : Node) (level : LogLevel) (message : String) : Walk σ Unit :=
  modify fun (c, s) => (c.append ⟨t.caps.now s, node.id, level, node.kind.name, message⟩, s)

/-- Ends the walk with an error entry. -/
def abort (t : Terrain σ) (node : Node) (fault : EngineFault) (message : String) : Walk σ α := do
  log t node .error message
  Act.fail fault

/-- Visits the nodes with these ids one after another, coming from `origin`. -/
def follow (t : Terrain σ) (visit : Node → Walk σ (List String)) (origin : Node) : List String → Walk σ (List String)
  | [] => return []
  | id :: rest => do
    match Node.find? t.nodes id with
    | none => abort t origin (.missingNode id) (EngineFault.missingNode id).message
    | some node =>
      let jobs ← visit node
      return jobs ++ (← follow t visit origin rest)

/-- A node without what comes after it. -/
def enter (t : Terrain σ) (node : Node) : Walk σ Flow := do
  log t node .start s!"Executing {node.kind.name} node"
  match ← Act.attempt (Action.perform t.caps t.batchSize t.nodes node) with
  | .ok flow =>
    log t node .success s!"Completed {node.kind.name} node"
    return flow
  | .error fault => abort t node (.ofNode node.id fault) fault.message

/-- Visits a node and everything behind it, at most `n` visits deep; gives the jobs of the paths
that are suspended. -/
def visit (t : Terrain σ) : Nat → Node → Walk σ (List String)
  | 0, node => abort t node (.depthExceeded node.id t.maxDepth) (EngineFault.depthExceeded node.id t.maxDepth).message
  | n + 1, node => do
    match ← enter t node with
    | .suspend job => return [job]
    | .branch ids => follow t (visit t n) node ids
    | .next => follow t (visit t n) node node.next

end Walk

/-- Walks from a node; the first one is at depth zero. -/
def walk (t : Terrain σ) (node : Node) : Walk σ (List String) := Walk.visit t (t.maxDepth + 1) node

end Flowgraph
