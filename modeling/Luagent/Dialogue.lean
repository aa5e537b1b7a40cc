import Luagent.Client
import Luagent.Server

/-! A session and the client daemon's `AgentConnection` at the two ends of one
connection. Frames arrive whole and in the order in which they were sent; when
they arrive is left open. Which frame of the client the agent was handling when it
sent a frame is kept beside the state. -/

namespace Luagent
open Foundation

namespace Client

/-- The frame `_hello` sends. -/
def helloFrame : Sent := ⟨FrameType.hello.code, 1, ascii "client=linux-daemon\nversion=1"⟩

/-- What the reader answers a PING with. -/
def pongFrame (reqId : UInt32) : Sent := ⟨FrameType.pong.code, reqId, ascii "status=ok"⟩

/-- The frames that the reader adds to a stream. -/
def isStream (type : UInt8) : Bool :=
  [FrameType.stdout, .stderr, .exit, .getChunk, .getEnd].any fun stream => type == stream.code

/-- An entry of `pending`, and the place of its frame among all that the agent sent. -/
structure Filed where
  type : UInt8
  payload : Bytes
  place : Nat
deriving DecidableEq

/-- How far a call of `request` has come. -/
inductive Call where
  /-- it has its number -/
  | numbered (type : UInt8) (payload : Bytes)
  /-- its frame was sent, as the one at this place -/
  | waiting (place : Nat)
  | over
deriving DecidableEq

/-- A call has its number and did not end yet. -/
def Call.isOpen : Call → Bool
  | .numbered .. | .waiting _ => true
  | .over => false

/-- What a call returned, and the place of the frame it had sent. -/
structure Returned where
  reqId : Nat
  place : Nat
  filed : Filed
deriving DecidableEq

/-- `AgentConnection`. -/
structure Connection where
  /-- `_hello` has had its answer -/
  greeted : Bool
  nextReqId : Nat
  pending : Nat → Option Filed
  streams : Nat → List (UInt8 × Bytes)
  calls : Nat → Option Call
  returned : List Returned
  /-- all frames sent so far, in order -/
  sent : List Sent
  /-- how many frames were read -/
  received : Nat

def Connection.start : Connection where
  greeted := false
  nextReqId := 1000
  pending _ := none
  streams _ := []
  calls _ := none
  returned := []
  sent := [helloFrame]
  received := 0

/-- One round of `_reader`. -/
def Connection.read (client : Connection) (frame : Sent) : Connection :=
  let place := client.received
  let client := { client with received := place + 1 }
  if frame.type = FrameType.ping.code then { client with sent := client.sent ++ [pongFrame frame.reqId] }
  else if isStream frame.type then
    { client with
      streams := Function.update client.streams frame.reqId.toNat
        (client.streams frame.reqId.toNat ++ [(frame.type, frame.payload)]) }
  else
    { client with
      pending := Function.update client.pending frame.reqId.toNat (some ⟨frame.type, frame.payload, place⟩) }

/-- `_next_req`, at the start of `request`. -/
def Connection.number (client : Connection) (type : UInt8) (payload : Bytes) : Connection :=
  { client with
    nextReqId := client.nextReqId + 1
    calls := Function.update client.calls client.nextReqId (some (.numbered type payload)) }

/-- The call sends its frame; a number that does not fit its field raises an error. -/
def Connection.transmit (client : Connection) (reqId : Nat) : Option Connection :=
  match client.calls reqId with
  | some (.numbered type payload) =>
    if reqId < 2 ^ 32 then
      some { client with
        sent := client.sent ++ [⟨type, reqId.toUInt32, payload⟩]
        calls := Function.update client.calls reqId (some (.waiting client.sent.length)) }
    else none
  | _ => none

/-- The call finds its number in `pending` and returns. -/
def Connection.poll (client : Connection) (reqId : Nat) : Option Connection :=
  match client.calls reqId, client.pending reqId with
  | some (.waiting place), some filed =>
    some { client with
      pending := Function.update client.pending reqId none
      calls := Function.update client.calls reqId (some .over)
      returned := client.returned ++ [⟨reqId, place, filed⟩] }
  | _, _ => none

/-- The call ends with an error: its time is over, or it could not send. -/
def Connection.giveUp (client : Connection) (reqId : Nat) : Option Connection :=
  if (client.calls reqId).any Call.isOpen then
    some { client with calls := Function.update client.calls reqId (some .over) }
  else none

end Client

structure Dialogue where
  world : World
  client : Client.Connection
  /-- how many of the client's frames were handled -/
  handled : Nat
  /-- for every frame the agent sent, the place of the client's frame that it answers -/
  causes : List (Option Nat)
  /-- the place of the frame that began the upload in progress -/
  began : Option Nat

inductive Move where
  /-- a callback of the agent other than for a frame of the client -/
  | callback (event : Event) (env : Env)
  /-- the agent handles the next frame of the client -/
  | dispatch (env : Env)
  /-- `_hello` reads its answer -/
  | greet
  /-- the reader reads the next frame of the agent -/
  | read
  | number (type : UInt8) (payload : Bytes)
  | transmit (reqId : Nat)
  | poll (reqId : Nat)
  | giveUp (reqId : Nat)

namespace Dialogue

def start (world : World) : Dialogue := ⟨world, .start, 0, [], none⟩

/-- The client's frame that a frame answers. The error about a stalled upload
answers the request that began it. -/
def cause (state : Dialogue) (event : Event) (frame : Sent) : Option Nat :=
  match event with
  | .read (.dispatch _) => some state.handled
  | .tick => if frame.type = FrameType.error.code then state.began else none
  | _ => none

/-- A callback has left this session. -/
def advance (state : Dialogue) (event : Event) (next : World) : Dialogue :=
  { state with
    world := next
    causes := state.causes ++ (framesSince state.world.link next.link).map (state.cause event)
    began := if next.upload.active && !state.world.upload.active then some state.handled else state.began }

/-- The agent handles the next frame, if its header is one it accepts. -/
def dispatch (state : Dialogue) (env : Env) : Option Dialogue :=
  match state.client.sent[state.handled]? with
  | none => none
  | some frame =>
    if bounded : frame.payload.length ≤ maxFramePayload then
      if frame.type = 0 then none
      else
        let event := .read (.dispatch ⟨frame.type, frame.reqId, frame.payload, bounded⟩)
        (agent.step state.world (event, env)).map fun next =>
          { state.advance event next with handled := state.handled + 1 }
    else none

/-- The frame the client reads next. -/
def arriving (state : Dialogue) : Option Sent := state.world.link.queued[state.client.received]?

def move (state : Dialogue) : Move → Option Dialogue
  | .callback (.read (.dispatch _)) _ => none
  | .callback event env => (agent.step state.world (event, env)).map (state.advance event)
  | .dispatch env => state.dispatch env
  | .greet =>
    match state.arriving with
    | none => none
    | some frame =>
      if !state.client.greeted && frame.type == FrameType.ack.code && frame.reqId == 1 then
        some { state with client := { state.client with greeted := true, received := state.client.received + 1 } }
      else none
  | .read =>
    match state.arriving with
    | none => none
    | some frame => if state.client.greeted then some { state with client := state.client.read frame } else none
  | .number type payload =>
    if state.client.greeted then some { state with client := state.client.number type payload } else none
  | .transmit reqId => (state.client.transmit reqId).map fun client => { state with client }
  | .poll reqId => (state.client.poll reqId).map fun client => { state with client }
  | .giveUp reqId => (state.client.giveUp reqId).map fun client => { state with client }

end Dialogue

def dialogue : Machine Dialogue Move where
  step := Dialogue.move

end Luagent
