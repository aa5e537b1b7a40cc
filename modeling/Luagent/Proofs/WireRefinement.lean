import Luagent.Proofs.Commands
import Luagent.Proofs.Disconnect
import Luagent.Proofs.Framing
import Luagent.Proofs.HeaderCodec
import Luagent.Proofs.Outbound
import Luagent.Wire

/-! The bytes between the agent and the daemon carry the frames that `Dialogue` lets
arrive whole: however the bytes are cut and whenever the pieces arrive, every move at the
level of bytes is a sequence of moves at the level of frames. -/

namespace Luagent.Proofs.WireRefinement
open Foundation Client Commands Outbound Stream Framing
open PutFile (arrived)

section upstream

end upstream

section downstream

structure Writes (before after : Link) : Prop where
  closed : before.life.closed = true → after.life.closed = true
  bytes : ∃ writes frames, after.writes = before.writes ++ writes ∧ after.queued = before.queued ++ frames ∧
    writes.map WriteReq.buf = frames.map wireBytes ∧ ∀ frame ∈ frames, frame.payload.length ≤ maxFramePayload

theorem Writes.trans {before middle after : Link} (first : Writes before middle) (second : Writes middle after) :
    Writes before after := by
  obtain ⟨writes, frames, written, queued, same, bounded⟩ := first.bytes
  obtain ⟨later, others, more, further, alike, small⟩ := second.bytes
  refine ⟨fun closed => second.closed (first.closed closed), writes ++ later, frames ++ others, ?_, ?_, ?_, ?_⟩
  · rw [more, written, List.append_assoc]
  · rw [further, queued, List.append_assoc]
  · rw [List.map_append, List.map_append, same, alike]
  · intro frame member
    exact (List.mem_append.mp member).elim (bounded frame) (small frame)

end downstream

/-! ## The calls of a `read_cb` -/

section calls
variable (state : Control) (env : Nat → Env)

@[simp] theorem act_client (action : Action) (env : Env) : (state.act action env).client = state.client := rfl

@[simp] theorem act_reading (action : Action) (env : Env) : (state.act action env).world.reading = !action.closes := rfl

end calls

/-! ## The bytes on their way -/

section advance
variable {state : Wire} {next : Control} {sent frames : List Sent}

end advance

section steps
variable {state next : Wire}

/-- What `receive` can read. -/
structure CanReceive (state : Wire) (count : Nat) : Prop where
  opened : state.isOpen = true
  positive : 0 < count
  chunk : count ≤ readChunk
  there : count ≤ state.toAgent.length

theorem CanReceive.filled {count : Nat} (readable : CanReceive state count) : state.toAgent.take count ≠ [] := by
  intro none
  have length := congrArg List.length none
  have positive := readable.positive
  have there := readable.there
  rw [List.length_take, List.length_nil] at length
  omega

end steps

section refinement
variable {env : Env} {sessionId : Nat} {counts : Tally} {fs : FileSystem} {engine : Engine} {start : World}

end refinement

def greeting : Frame := PutFile.frameOf helloFrame (by decide) (by decide)

def heard : Control := (Control.start Upload.freshSession).act .received {}

def answered : Control := heard.acts (fun _ => {}) 0 (.received :: actionsOf ⟨[greeting], [], false⟩)

end Luagent.Proofs.WireRefinement
