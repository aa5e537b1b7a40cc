import Luagent.Daemon
import Luagent.Dialogue

/-! The commands of the client daemon. `ControlServer` runs each in a thread of its
own, and all of them use one `AgentConnection`. Between two steps of a thread
anything may happen; what a thread does while it holds a lock is one step. -/

namespace Luagent
open Foundation

namespace Client

/-- The methods of `AgentConnection` that begin with a `request`. -/
inductive Request where
  /-- `request_op`, for the commands `op` and `status` -/
  | op (items : List (Bytes × Bytes))
  /-- `put_file`, with the content of the local file -/
  | put (data remotePath : Bytes)
  /-- `get_file` -/
  | get (remotePath : Bytes)
  | spawn (path : Bytes) (argv : List Bytes) (timeoutMs idleTimeoutMs : Int)
  | kill (procId : Int)
deriving DecidableEq

namespace Request

def type : Request → FrameType
  | .op _ => .op
  | .put .. => .putBegin
  | .get _ => .getBegin
  | .spawn .. => .procSpawn
  | .kill _ => .kill

def payload : Request → Bytes
  | .op items => encodeKv items
  | .put data remotePath => encodeKv (putBeginItems remotePath data)
  | .get remotePath => encodeKv [(ascii "path", remotePath), (ascii "chunk_size", ascii "4096")]
  | .spawn path argv timeoutMs idleTimeoutMs => spawnPayload path argv timeoutMs idleTimeoutMs
  | .kill procId => encodeKv [(ascii "proc_id", signedDecimal procId)]

end Request

/-- What `parse_kv` makes of a payload. -/
abbrev Info := List (List Char × List Char)

/-- What a method returned, with what it was called for. -/
inductive Result where
  | answered (request : Request) (type : UInt8) (info : Info)
  /-- `put_file` -/
  | stored (data remotePath : Bytes) (reqId : Nat) (type : UInt8) (info : Info)
  /-- `get_file`, with what it wrote to the local file -/
  | fetched (remotePath : Bytes) (reqId : Nat) (out : Bytes)
  /-- `collect_stream` -/
  | collected (procId : Nat) (stdout stderr : List Char) (exitInfo : Option Info)
deriving DecidableEq

/-- Where a thread is, and its local variables. -/
inductive Thread where
  /-- in `request`; how far that is, the connection knows -/
  | asking (request : Request) (reqId : Nat)
  /-- in `put_file`, the first request answered -/
  | sending (data remotePath : Bytes) (reqId : Nat)
  /-- in the last loop of `put_file` -/
  | ending (data remotePath : Bytes) (reqId : Nat)
  /-- in the loop of `get_file` -/
  | fetching (remotePath : Bytes) (reqId : Nat) (out : Bytes)
  /-- in the loop of `collect_stream` -/
  | collecting (procId : Nat) (stdout stderr : Bytes)
  | returned (result : Result)
  | raised
deriving DecidableEq

/-- What a method does with the answer to its request. `request_op` hands on any
answer, the others raise on an error. -/
def Request.settled (request : Request) (reqId : Nat) (type : UInt8) (payload : Bytes) : Thread :=
  match request with
  | .op _ => .returned (.answered request type (Daemon.parseKv payload))
  | .put data remotePath => if type = FrameType.error.code then .raised else .sending data remotePath reqId
  | .get remotePath => if type = FrameType.error.code then .raised else .fetching remotePath reqId []
  | .spawn .. | .kill _ =>
    if type = FrameType.error.code then .raised else .returned (.answered request type (Daemon.parseKv payload))

/-- The frames that `put_file` sends once its first request was answered. -/
def putRest (reqId : UInt32) (data : Bytes) : List Sent := (putSlices data).map (putChunkFrame reqId) ++ [putEndFrame reqId]

/-- A turn of the loop of `get_file`, with the item it took. -/
def fetchItem (remotePath : Bytes) (reqId : Nat) (out : Bytes) (item : UInt8 × Bytes) : Thread :=
  if item.1 = FrameType.getChunk.code then .fetching remotePath reqId (out ++ item.2)
  else if item.1 = FrameType.getEnd.code then .returned (.fetched remotePath reqId out)
  else .fetching remotePath reqId out

/-- What `collect_stream` returns. -/
def collected (procId : Nat) (stdout stderr : Bytes) (exitInfo : Option Info) : Thread :=
  .returned (.collected procId (decodeReplacing stdout) (decodeReplacing stderr) exitInfo)

/-- A turn of the loop of `collect_stream`. -/
def collectItem (procId : Nat) (stdout stderr : Bytes) (item : UInt8 × Bytes) : Thread :=
  if item.1 = FrameType.stdout.code then .collecting procId (stdout ++ item.2) stderr
  else if item.1 = FrameType.stderr.code then .collecting procId stdout (stderr ++ item.2)
  else if item.1 = FrameType.exit.code then collected procId stdout stderr (some (Daemon.parseKv item.2))
  else .collecting procId stdout stderr

end Client

open Client

/-- A session of the agent, the daemon's connection to it and the daemon's threads. -/
structure Control where
  dialogue : Dialogue
  threads : List Thread

inductive ControlMove where
  /-- the agent, the reader or `_hello` goes on, or a `request` sends its frame -/
  | dialogue (move : Move)
  | ask (request : Request)
  /-- `request` finds its answer -/
  | settle (thread : Nat)
  /-- `put_file` sends the rest of its frames. After `count` of them the socket fails,
  unless these are all. -/
  | feed (thread count : Nat)
  /-- `put_file` finds an answer -/
  | confirm (thread : Nat)
  /-- `collect_stream` begins -/
  | wait (procId : Nat)
  /-- a loop over a stream takes the first item -/
  | take (thread : Nat)
  /-- the time of a loop is over -/
  | giveUp (thread : Nat)

namespace Control

def start (world : World) : Control := ⟨.start world, []⟩

def world (state : Control) : World := state.dialogue.world

def client (state : Control) : Connection := state.dialogue.client

def withClient (state : Control) (client : Connection) :
    Control := { state with dialogue := { state.dialogue with client } }

def withThread (state : Control) (index : Nat) (thread : Thread) : Control :=
  { state with threads := state.threads.set index thread }

@[simp] theorem client_withClient (state : Control) (client : Connection) : (state.withClient client).client = client := rfl

@[simp] theorem client_withThread (state : Control) (index : Nat) (thread : Thread) :
    (state.withThread index thread).client = state.client := rfl

@[simp] theorem world_withClient (state : Control) (client : Connection) : (state.withClient client).world = state.world := rfl

@[simp] theorem world_withThread (state : Control) (index : Nat) (thread : Thread) :
    (state.withThread index thread).world = state.world := rfl

/-- The threads make the moves of `request` that these are; all others are moves of
somebody else. -/
def isOthers : Move → Bool
  | .number .. | .poll _ | .giveUp _ => false
  | _ => true

def settle (state : Control) (index : Nat) : Option Control :=
  match state.threads[index]? with
  | some (.asking request reqId) =>
    match state.client.pending reqId with
    | none => none
    | some filed =>
      (state.client.poll reqId).map fun client =>
        (state.withClient client).withThread index (request.settled reqId filed.type filed.payload)
  | _ => none

def feed (state : Control) (index count : Nat) : Option Control :=
  match state.threads[index]? with
  | some (.sending data remotePath reqId) =>
    let frames := putRest reqId.toUInt32 data
    some ((state.withClient { state.client with sent := state.client.sent ++ frames.take count }).withThread index
      (if count < frames.length then .raised else .ending data remotePath reqId))
  | _ => none

def confirm (state : Control) (index : Nat) : Option Control :=
  match state.threads[index]? with
  | some (.ending data remotePath reqId) =>
    match state.client.pending reqId with
    | none => none
    | some filed =>
      some ((state.withClient
        { state.client with pending := Function.update state.client.pending reqId none }).withThread index
          (.returned (.stored data remotePath reqId filed.type (Daemon.parseKv filed.payload))))
  | _ => none

/-- The first item of a stream is taken out of it. -/
def takeFrom (state : Control) (index key : Nat) (turn : UInt8 × Bytes → Thread) : Option Control :=
  match state.client.streams key with
  | [] => none
  | item :: rest =>
    some ((state.withClient
      { state.client with streams := Function.update state.client.streams key rest }).withThread index (turn item))

def take (state : Control) (index : Nat) : Option Control :=
  match state.threads[index]? with
  | some (.fetching remotePath reqId out) => state.takeFrom index reqId (fetchItem remotePath reqId out)
  | some (.collecting procId stdout stderr) => state.takeFrom index procId (collectItem procId stdout stderr)
  | _ => none

def giveUp (state : Control) (index : Nat) : Option Control :=
  match state.threads[index]? with
  | some (.asking _ reqId) =>
    (state.client.giveUp reqId).map fun client => (state.withClient client).withThread index .raised
  | some (.ending ..) | some (.fetching ..) => some (state.withThread index .raised)
  | some (.collecting procId stdout stderr) => some (state.withThread index (collected procId stdout stderr none))
  | _ => none

def move (state : Control) : ControlMove → Option Control
  | .dialogue move =>
    if isOthers move then (state.dialogue.move move).map fun dialogue => { state with dialogue } else none
  | .ask request =>
    (state.dialogue.move (.number request.type.code request.payload)).map fun dialogue =>
      { dialogue, threads := state.threads ++ [.asking request state.client.nextReqId] }
  | .settle index => state.settle index
  | .feed index count => state.feed index count
  | .confirm index => state.confirm index
  | .wait procId =>
    if state.client.greeted then some { state with threads := state.threads ++ [.collecting procId [] []] } else none
  | .take index => state.take index
  | .giveUp index => state.giveUp index

end Control

def control : Machine Control ControlMove where
  step := Control.move

end Luagent
