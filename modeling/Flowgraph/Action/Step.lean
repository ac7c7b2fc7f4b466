import Flowgraph.Effect.Capability

/-! Actions of nodes: they see and change the context of their run besides the world outside, and
say how the run goes on. They follow no edges themselves. -/

namespace Flowgraph

inductive Flow where
  | next
  | branch (ids : List String)
  | suspend (job : String)
  deriving DecidableEq, Repr

abbrev Step (σ α : Type) := Act (Context × σ) NodeFault α

namespace Step

def outside (act : Act σ NodeFault α) : Step σ α := Act.zoom Prod.snd (fun s p => (p.1, s)) act

def context : Step σ Context := do return (← get).1

def change (f : Context → Context) : Step σ Unit := modify fun (c, s) => (f c, s)

def log (caps : Capabilities σ) (nodeId : String) (level : LogLevel) (action message : String) : Step σ Unit :=
  modify fun (c, s) => (c.append ⟨caps.now s, nodeId, level, action, message⟩, s)

end Step
end Flowgraph
