import Luagent.Server

/-! Two sessions of one agent that upload to one path. They share the file
system; each frame is handled without interruption. What was received and what
was acknowledged is kept beside the state. -/

namespace Luagent
open Foundation

inductive Side where
  | left | right
deriving DecidableEq, Repr

def Side.other : Side → Side
  | .left => .right
  | .right => .left

structure Shared where
  session : Side → Session
  fs : FileSystem
  engine : Engine
  /-- the chunks accepted for the upload a side has open -/
  received : Side → Bytes
  /-- the contents of the uploads answered with ok, oldest first -/
  acked : List Bytes

/-- The agent as a callback for one of the sessions finds it. -/
def Shared.world (shared : Shared) (side : Side) : World :=
  { shared.session side with fs := shared.fs, engine := shared.engine, reading := false }

structure Arrival where
  side : Side
  message : Message
  env : Env

/-- The frames of an upload to `path`. -/
def uploads (path : Path) (message : Message) : Bool :=
  (message.type == FrameType.putBegin.code && kvCopy 512 (cstr message.payload) (ascii "path") == some path) ||
    message.type == FrameType.putChunk.code || message.type == FrameType.putEnd.code

/-- Whether an acknowledgement was queued between two states of a session. -/
def queuedAck (before after : Link) : Bool :=
  (after.queued.drop before.queued.length).any fun sent => sent.type == FrameType.ack.code

/-- The bytes accepted for the open upload, after a frame was handled. A begin
request starts anew unless an upload is open. -/
def receivedAfter (before : World) (received : Bytes) (message : Message) (accepted : Bool) : Bytes :=
  if message.type = FrameType.putChunk.code then
    if accepted then received ++ message.payload else received
  else if message.type = FrameType.putBegin.code then
    if before.upload.active then received else []
  else received

def Shared.handle (shared : Shared) (input : Arrival) : Shared :=
  let world := shared.world input.side
  let result := protocolHandleControl input.env (world.countFrame input.message) input.message
  { session := fun side => if side = input.side then result.1.toSession else shared.session side
    fs := result.1.fs
    engine := result.1.engine
    received := fun side =>
      if side = input.side then receivedAfter world (shared.received side) input.message result.2
      else shared.received side
    acked :=
      if input.message.type = FrameType.putEnd.code ∧ queuedAck world.link result.1.link = true then
        shared.acked ++ [shared.received input.side]
      else shared.acked }

/-- Any interleaving of upload frames of the two sessions. -/
def sharing (path : Path) : Machine Shared Arrival where
  step shared input := if uploads path input.message then some (shared.handle input) else none

end Luagent
