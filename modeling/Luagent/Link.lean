import Luagent.Foundation.Handle
import Luagent.Frame
import Luagent.Platform

/-! The connection side of a session: its two own handles, the reference counter
that postpones the release, the write queue and the diagnostic counters.
Log lines are not modelled. -/

namespace Luagent
open Foundation

def maxWriteQueueBytes : Nat := 262144
def sessionIdleMs : Nat := 15000
def heartbeatIdleMs : Nat := 5000
def transferIdleMs : Nat := 20000

/-- The counters `debug.stats` reports for the session and for the whole agent. -/
inductive Counter where
  | framesRx | framesTx | bytesRx | bytesTx
  | protocolErrors | luaOpFailures
  | transferStarts | transferCompletes | transferAborts
  | processSpawns | processExits | processTimeouts
  | sessionDisconnects | heartbeatEvents
  | relayOpens | relayCloses
deriving DecidableEq, Repr

structure Tally where
  session : Counter → Nat := fun _ => 0
  global : Counter → Nat := fun _ => 0
  parseFailures : Nat := 0
  /-- what a callback counts for other sessions, by their numbers -/
  others : Nat → Counter → Nat := fun _ _ => 0

def Tally.add (tally : Tally) (counter : Counter) (amount : Nat) : Tally :=
  { tally with
    session := fun other => if other = counter then tally.session other + amount else tally.session other
    global := fun other => if other = counter then tally.global other + amount else tally.global other }

/-- Counted for a session other than this one, and for the agent. -/
def Tally.addFor (tally : Tally) (owner : Nat) (counter : Counter) (amount : Nat) : Tally :=
  { tally with
    global := fun other => if other = counter then tally.global other + amount else tally.global other
    others := fun id other => if id = owner ∧ other = counter then tally.others id other + amount else tally.others id other }

/-- A frame as it was queued. -/
structure Sent where
  type : UInt8
  reqId : UInt32
  payload : Bytes
deriving DecidableEq, Repr

/-- A write libuv has accepted and not yet completed. -/
structure WriteReq where
  send : Nat
  buf : Bytes
deriving DecidableEq, Repr

/-- What decides when the session may be closed and released. -/
structure Life where
  tcp : Handle
  heartbeatTimer : Handle
  timerStarted : Bool
  closed : Bool
  closeRefs : Int
deriving DecidableEq, Repr

structure Link where
  life : Life
  pendingWriteBytes : Nat
  lastTxMs : Nat
  /-- sends that got past the queue limit, accepted or not -/
  sends : Nat
  writes : List WriteReq
  /-- all frames accepted so far, in order -/
  queued : List Sent
  tally : Tally

def Link.count (link : Link) (counter : Counter) : Link := { link with tally := link.tally.add counter 1 }

def diagCountFrameRx (link : Link) (frameLen : Nat) : Link :=
  { link with tally := (link.tally.add .framesRx 1).add .bytesRx frameLen }

def diagCountFrameTx (link : Link) (frameLen : Nat) : Link :=
  { link with tally := (link.tally.add .framesTx 1).add .bytesTx frameLen }

def diagCountParseFailure (link : Link) : Link :=
  { link with tally := { link.tally with parseFailures := link.tally.parseFailures + 1 } }

def diagCountProtocolError (link : Link) : Link := link.count .protocolErrors
def diagCountLuaError (link : Link) : Link := link.count .luaOpFailures
def diagCountTransferStart (link : Link) : Link := link.count .transferStarts
def diagCountTransferComplete (link : Link) : Link := link.count .transferCompletes
def diagCountTransferAbort (link : Link) : Link := link.count .transferAborts
def diagCountProcessSpawn (link : Link) : Link := link.count .processSpawns
def diagCountProcessExit (link : Link) : Link := link.count .processExits
def diagCountProcessTimeout (link : Link) : Link := link.count .processTimeouts
def diagCountSessionDisconnect (link : Link) : Link := link.count .sessionDisconnects
def diagCountHeartbeat (link : Link) : Link := link.count .heartbeatEvents
def diagCountRelayOpen (link : Link) : Link := link.count .relayOpens

def Life.addRef (life : Life) : Life := { life with closeRefs := life.closeRefs + 1 }

/-- The lifetime part of `session_close`. -/
def Life.close (life : Life) : Life :=
  if life.closed then life
  else
    let life := { life with closed := true }
    let life :=
      if life.timerStarted then { life with heartbeatTimer := life.heartbeatTimer.close true, timerStarted := false }
      else life
    { life.addRef with tcp := life.tcp.close true }

def sessionClose (link : Link) : Link :=
  if link.life.closed then link else { diagCountSessionDisconnect link with life := link.life.close }

def sessionSendFrame (env : Env) (link : Link) (type : UInt8) (reqId : UInt32) (payload : Bytes) : Link × Bool :=
  if link.life.closed then (link, false)
  else if maxWriteQueueBytes < link.pendingWriteBytes + frameHeaderSize + payload.length then (sessionClose link, false)
  else
    let send := link.sends
    let link := { link with sends := send + 1 }
    if !env.alloc (.writeReq send) then (link, false)
    else if !env.alloc (.writeBuf send) then (link, false)
    else match frameEncodeHeader frameHeaderSize ⟨type, 0, reqId, payload.length.toUInt32⟩ with
      | none => (link, false)
      | some header =>
        let buf := header ++ payload
        let link := diagCountFrameTx link buf.length
        let link := { link with lastTxMs := env.sentAt send, pendingWriteBytes := link.pendingWriteBytes + buf.length }
        if env.uvWrite send ≠ 0 then ({ link with pendingWriteBytes := link.pendingWriteBytes - buf.length }, false)
        else
          ({ link with writes := link.writes ++ [⟨send, buf⟩], queued := link.queued ++ [⟨type, reqId, payload⟩] }, true)

/-- The text has no NUL byte in it, so `strlen` is its length. -/
def sessionSendText (env : Env) (link : Link) (type : FrameType) (reqId : UInt32) (text : Bytes) : Link × Bool :=
  sessionSendFrame env link type.code reqId text

def errorText (code : String) (message : Bytes) : Bytes := ascii "code=" ++ ascii code ++ ascii "\nmessage=" ++ message

def sessionSendError (env : Env) (link : Link) (reqId : UInt32) (code : String) (message : Bytes) : Link × Bool :=
  match utilSnprintf 512 (errorText code message) with
  | none => (link, false)
  | some payload => sessionSendText env link .error reqId payload

-- Sends are told apart by what is sent, never by computing what they do to the link.
attribute [irreducible] sessionSendFrame sessionSendError

/-- The frames queued between two states. -/
def framesSince (before after : Link) : List Sent := after.queued.drop before.queued.length

/-- libuv has done with a write. -/
def Link.uvWritten (link : Link) (write : WriteReq) : Link := { link with writes := link.writes.filter (· ≠ write) }

/-- `on_write_done`. A failed write is only logged. -/
def onWriteDone (link : Link) (write : WriteReq) : Link :=
  { link with
    pendingWriteBytes :=
      if write.buf.length ≤ link.pendingWriteBytes then link.pendingWriteBytes - write.buf.length
      else link.pendingWriteBytes }

/-- `session_start_timers`, with the code libuv answered. -/
def sessionStartTimers (env : Env) (life : Life) : Life × Int :=
  if env.timerInit ≠ 0 then (life, env.timerInit)
  else
    let life := { life with heartbeatTimer := life.heartbeatTimer.init }.addRef
    let life := { life with timerStarted := true }
    if env.timerStart ≠ 0 then ({ life with heartbeatTimer := life.heartbeatTimer.close true }, env.timerStart)
    else (life, 0)

/-- Milliseconds between two readings, in `uint64_t`. -/
def elapsedMs (now since : Nat) : Nat := (2 ^ 64 + now - since) % 2 ^ 64

end Luagent
