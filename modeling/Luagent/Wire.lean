import Luagent.Control

/-! The two ends of a connection and the bytes between them. The bytes of a `sendall`
and of a `uv_write` arrive in order, in pieces of any size; `read_cb` and `decode_frame`
find the frames in them. -/

namespace Luagent
open Foundation Client

namespace Control

/-- One call that `read_cb` makes on the session. How many frames were handled is kept
beside the state. -/
def act (state : Control) (action : Action) (env : Env) : Control :=
  let event := .read action
  let dialogue := state.dialogue.advance event { perform env state.world action with reading := event.reads }
  { state with dialogue := { dialogue with handled := dialogue.handled + action.message?.toList.length } }

/-- All the calls of a `read_cb`, from the `index`-th on. It makes them one after the
other, whatever becomes of the session. -/
def acts (state : Control) (env : Nat → Env) (index : Nat) : List Action → Control
  | [] => state
  | action :: rest => (state.act action (env index)).acts env (index + 1) rest

end Control

structure Wire where
  control : Control
  /-- the receive buffer of the session -/
  rx : Receive
  /-- what the daemon has sent and the agent has not read -/
  toAgent : Bytes
  /-- what the agent has written and has not arrived -/
  toClient : Bytes
  /-- what has arrived and was not taken from the socket -/
  inbox : Bytes

inductive WireMove where
  /-- `read_cb` with so many of the bytes -/
  | bytes (count : Nat) (env : Nat → Env)
  /-- `read_cb` with an error or the end of the stream -/
  | hangup (env : Env)
  /-- another callback of the agent -/
  | callback (event : Event) (env : Env)
  /-- so many bytes arrive at the daemon -/
  | arrive (count : Nat)
  /-- `_hello` takes its answer from the socket -/
  | greet
  /-- the reader takes a frame from the socket -/
  | read
  /-- `request` sends its frame -/
  | send (reqId : Nat)
  /-- a thread goes on -/
  | thread (move : ControlMove)

namespace Wire

def start (world : World) (memory : Bytes) (allocated : memory.length = readChunk * 4) : Wire where
  control := .start world
  rx := .fresh memory allocated
  toAgent := encodeFrame helloFrame
  toClient := []
  inbox := []

def world (state : Wire) : World := state.control.world

def client (state : Wire) : Connection := state.control.client

/-- The frames that were sent meanwhile. -/
def sentSince (before after : Connection) : Bytes := ((after.sent.drop before.sent.length).map encodeFrame).flatten

/-- The buffers that were handed to `uv_write` meanwhile. -/
def writtenSince (before after : Link) : Bytes := ((after.writes.drop before.writes.length).map WriteReq.buf).flatten

/-- What the two ends send goes on its way. -/
def advance (state : Wire) (control : Control) : Wire :=
  { state with
    control
    toAgent := state.toAgent ++ sentSince state.client control.client
    toClient := state.toClient ++ writtenSince state.world.link control.world.link }

def isOpen (state : Wire) : Bool := state.world.link.life.tcp.phase == .open

/-- libuv reads at most what the buffer of `alloc_cb` holds. -/
def receive (state : Wire) (count : Nat) (env : Nat → Env) : Option Wire :=
  if state.isOpen && 0 < count && count ≤ readChunk && count ≤ state.toAgent.length then
    let (rx, actions) := readCb state.rx (.data (state.toAgent.take count))
    some ({ state with rx, toAgent := state.toAgent.drop count }.advance (state.control.acts env 0 actions))
  else none

def hangup (state : Wire) (env : Env) : Option Wire :=
  if state.isOpen then some (state.advance (state.control.acts (fun _ => env) 0 (readCb state.rx .failed).2)) else none

/-- `decode_frame`, when a whole frame has arrived. -/
def decode (state : Wire) : Option (Sent × Wire) :=
  match decodeFrame [state.inbox] with
  | .ok (frame, rest) => some (frame, { state with inbox := rest.flatten })
  | .error _ => none

def greet (state : Wire) : Option Wire :=
  state.decode.bind fun (frame, taken) =>
    if !state.client.greeted && frame.type == FrameType.ack.code && frame.reqId == 1 then
      some (taken.advance (state.control.withClient
        { state.client with greeted := true, received := state.client.received + 1 }))
    else none

def read (state : Wire) : Option Wire :=
  state.decode.bind fun (frame, taken) =>
    if state.client.greeted then some (taken.advance (state.control.withClient (state.client.read frame))) else none

/-- A frame with a number or a length that does not fit its field is not sent. -/
def send (state : Wire) (reqId : Nat) : Option Wire :=
  match state.client.calls reqId with
  | some (.numbered type payload) =>
    (Daemon.encodeFrame type.toNat reqId payload).bind fun _ =>
      (state.control.move (.dialogue (.transmit reqId))).map state.advance
  | _ => none

def move (state : Wire) : WireMove → Option Wire
  | .bytes count env => state.receive count env
  | .hangup env => state.hangup env
  | .callback (.read _) _ => none
  | .callback event env => (state.control.move (.dialogue (.callback event env))).map state.advance
  | .arrive count =>
    if count ≤ state.toClient.length then
      some { state with inbox := state.inbox ++ state.toClient.take count, toClient := state.toClient.drop count }
    else none
  | .greet => state.greet
  | .read => state.read
  | .send reqId => state.send reqId
  | .thread (.dialogue _) => none
  | .thread move => (state.control.move move).map state.advance

end Wire

def wire : Machine Wire WireMove where
  step := Wire.move

end Luagent
