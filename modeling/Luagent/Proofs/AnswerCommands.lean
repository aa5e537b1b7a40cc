import Luagent.Proofs.Decoders
import Luagent.Proofs.Numerals
import Luagent.Proofs.PutCommand
import Luagent.Proofs.SpawnArgs

/-! The commands that are one request: `op`, `spawn` and `kill`. What such a command
returns was said by the agent when it handled that very request, so it tells what the
agent did then, whatever the other threads and the agent do meanwhile. -/

namespace Luagent.Proofs.AnswerCommands
open Foundation Client Correlation Commands PutCommand
open PutFile (arrived)

/-- The step at which the agent handled a request. -/
structure Handling (start : World) (moves : List ControlMove) (request : Request) where
  before : List ControlMove
  env : Env
  after : List ControlMove
  middle : Control
  next : Control
  reqId : Nat
  split : moves = before ++ .dialogue (.dispatch env) :: after
  reached : control.run (.start start) before = some middle
  stepped : control.step middle (.dialogue (.dispatch env)) = some next
  asked : middle.client.sent[middle.dialogue.handled]? = some (requestFrame request reqId)

/-- The run goes on. -/
def Handling.extend {start : World} {moves : List ControlMove} {request : Request} (handling : Handling start moves request)
    (later : List ControlMove) : Handling start (moves ++ later) request :=
  { handling with
    after := handling.after ++ later
    split := (congrArg (· ++ later) handling.split).trans (List.append_assoc ..) }

section settling
variable {index : Nat} {request : Request} {type : UInt8} {info : Info}

end settling

section origin
variable {connectEnv : Env} {sessionId : Nat} {counts : Tally} {fs : FileSystem} {engine : Engine} {start : World}
  {moves : List ControlMove} {state : Control} {index : Nat} {request : Request} {type : UInt8} {info : Info}

/-- What the agent said when it handled the request. -/
structure Handling.Answers (handling : Handling start moves request) (type : UInt8) (info : Info) (message : Message) :
    Prop where
  arrives : arrived message = requestFrame request handling.reqId
  stepped : agent.step handling.middle.world (.read (.dispatch message), handling.env) = some handling.next.world
  answer : ∃ payload, Daemon.parseKv payload = info ∧ ⟨type, handling.reqId.toUInt32, payload⟩ ∈
    said handling.middle.world (.read (.dispatch message), handling.env) handling.next.world

end origin

def Tells (result : Sent) (before after : Link) : Prop :=
  ∃ frames, after.queued = before.queued ++ frames ∧ ∀ frame ∈ frames, frame.type = FrameType.error.code ∨ frame = result

namespace Tells
variable {result frame : Sent} {before middle after : Link}

theorem of_complains (complains : Complains before after) : Tells result before after := by
  obtain ⟨frames, queued, errors⟩ := complains
  exact ⟨frames, queued, fun frame member => .inl (errors frame member)⟩

theorem trans (first : Tells result before middle) (later : Tells result middle after) : Tells result before after := by
  obtain ⟨early, queued, ones⟩ := first
  obtain ⟨late, further, others⟩ := later
  refine ⟨early ++ late, by rw [further, queued, List.append_assoc], fun frame member => ?_⟩
  rcases List.mem_append.mp member with member | member
  · exact ones frame member
  · exact others frame member

theorem sendText (world : World) (env : Env) (type : FrameType) (reqId : UInt32) (text : Bytes) :
    Tells ⟨type.code, reqId, text⟩ world.link (world.sendText env type reqId text).1.link := by
  refine ⟨_, sendFrame_queued env world.link type.code reqId text, fun frame member => .inr ?_⟩
  split at member
  · exact List.mem_singleton.mp member
  · cases member

theorem said (tells : Tells result before after) (member : frame ∈ framesSince before after)
    (fine : frame.type ≠ FrameType.error.code) : frame = result := by
  obtain ⟨frames, queued, ones⟩ := tells
  rw [framesSince, queued, List.drop_left] at member
  exact (ones frame member).resolve_left fine

end Tells

section handlers
variable {env : Env} {world : World} {reqId : UInt32} {payload : Bytes} {frame : Sent}

end handlers

section requests
variable {path : Bytes} {argv : List Bytes} {timeoutMs idleTimeoutMs : UInt64}

section limits
variable (cleanPath : Clean path) (clean : ∀ arg ∈ argv, Clean arg)
include cleanPath clean

end limits
end requests

section commands
variable {connectEnv : Env} {sessionId : Nat} {counts : Tally} {fs : FileSystem} {engine : Engine} {start : World}
  {moves : List ControlMove} {state : Control} {index : Nat} {request : Request} {type : UInt8} {info : Info} {message : Message}

def Handling.result (handling : Handling start moves request) (message : Message) : World :=
  (handleText handling.env (handling.middle.world.countFrame message) (some request.type) handling.reqId.toUInt32
    (cstr request.payload)).1

/-- The handler was called, and it sent the answer. -/
theorem Handling.Answers.handled {handling : Handling start moves request} (answers : handling.Answers type info message)
    (fine : type ≠ FrameType.error.code) :
    handling.next.world = { handling.result message with reading := true } ∧
      ∃ payload, Daemon.parseKv payload = info ∧ ⟨type, handling.reqId.toUInt32, payload⟩ ∈
        framesSince (handling.middle.world.countFrame message).link (handling.result message).link := by
  obtain ⟨payload, read, member⟩ := answers.answer
  obtain ⟨sameType, sameNumber, samePayload⟩ := Sent.mk.inj answers.arrives
  have world := (agent_step answers.stepped).2
  have notChunk : request.type ≠ .putChunk := by cases request <;> simp [Request.type]
  have notEnd : request.type ≠ .putEnd := by cases request <;> simp [Request.type]
  simp only [callback, perform, control_text sameType notChunk notEnd] at world
  split at world
  case isFalse =>
    -- the payload could not be copied
    have complains : Complains handling.middle.world.link handling.next.world.link := by
      rw [world]
      exact sendError_complains handling.env (handling.middle.world.countFrame message).link ..
    exact absurd complains (not_complains member fine)
  case isTrue =>
    rw [sameNumber, samePayload] at world
    refine ⟨world, payload, read, ?_⟩
    rw [said, world] at member
    exact member

end commands

section commands
variable {connectEnv : Env} {sessionId : Nat} {counts : Tally} {fs : FileSystem} {engine : Engine} {start : World}
  {moves : List ControlMove} {state : Control} {index : Nat} {type : UInt8} {info : Info}

end commands

end Luagent.Proofs.AnswerCommands
