import Flowgraph.Action.Node
import Flowgraph.Proofs.Effect.Act

/-! A delay node step by step: it marks where the run stands, hands the run over, and notes the job. -/

namespace Flowgraph
open Act

def Context.pausedAt (c : Context) (node : Node) : Context := { c with currentNodeId := some node.id }

namespace Action

def pauseMessage (minutes : Float) (job : String) : String :=
  s!"Execution paused for {Shortest.prose minutes} minute(s), resume job {job}"

def suspension (nodes : List Node) (node : Node) (c : Context) : Suspension := ⟨(c.pausedAt node).snapshot,node.next,nodes⟩

def isLength (minutes : Float) : Bool := Binary64.isFinite minutes && !(minutes < 0)

def lengthFault (minutes : Float) : NodeFault :=
  .invalidConfig s!"delayMinutes must be a non-negative number, got {Shortest.prose minutes}"

variable {σ : Type} {caps : Capabilities σ} {nodes : List Node} {node : Node} {minutes : Float} {c : Context} {s : σ}

theorem delay_unfit (unfit : isLength minutes = false) :
    delay caps nodes node minutes (c,s) = (.error (.cause (lengthFault minutes)),c,s) := by
  unfold delay
  have refused : (!Binary64.isFinite minutes || minutes < 0) = true := by
    simpa only [isLength,Bool.not_and,Bool.not_not,Bool.not_false] using congrArg Bool.not unfit
  rw [if_pos refused]
  rfl

theorem delay_fit (fit : isLength minutes = true) :
    delay caps nodes node minutes (c,s) = match caps.suspend minutes (suspension nodes node c) s with
      | (.ok job,r) => (.ok (.suspend job),(c.pausedAt node).append ⟨caps.now r,node.id,.info,"delay",pauseMessage minutes job⟩,r)
      | (.error e,r) => (.error e,c.pausedAt node,r) := by
  unfold delay
  rw [if_neg (by simpa [isLength] using fit),bind_apply]
  change (Step.context >>= _) (c.pausedAt node,s) = _
  rw [bind_apply]
  change (Step.outside (caps.suspend minutes (suspension nodes node c)) >>= _) (c.pausedAt node,s) = _
  rw [bind_apply]
  simp only [Step.outside,zoom]
  rcases caps.suspend minutes (suspension nodes node c) s with ⟨e | job,r⟩ <;> rfl

end Action
end Flowgraph
