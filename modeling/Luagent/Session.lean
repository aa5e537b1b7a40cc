import Luagent.Link
import Luagent.Receive

/-! The state a callback works on: one session, the file system and the relays
all sessions share. -/

namespace Luagent
open Foundation

inductive TransferMode where
  | none | upload | download
deriving DecidableEq, Repr

/-- `file` and the two paths are absent where the C fields hold -1 and NULL. -/
structure TransferState where
  active : Bool
  overwrite : Bool
  mode : TransferMode
  reqId : UInt32
  file : Option Nat
  totalSize : Nat
  offset : Nat
  lastProgressMs : Nat
  chunkSize : Nat
  path : Option Path
  tmpPath : Option Path
deriving DecidableEq, Repr

inductive KillReason where
  | none | requested | timeout | idle
deriving DecidableEq, Repr

/-- A call of `uv_process_kill`: the child, by its place in spawn order, the
reason recorded for it and the result. -/
structure Kill where
  child : Nat
  reason : KillReason
  result : Int
deriving DecidableEq, Repr

/-- The process slot. `reading` fields say whether libuv reads from a pipe.
`spawned` counts the children started and `kills` logs the kills;
neither is a field of the source. -/
structure ProcState where
  active : Bool
  stdoutClosed : Bool
  stderrClosed : Bool
  procId : UInt32
  startedMs : Nat
  lastIoMs : Nat
  timeoutMs : Nat
  idleTimeoutMs : Nat
  killReason : KillReason
  file : Option Bytes
  args : Option (List Bytes)
  process : Handle
  stdoutPipe : Handle
  stderrPipe : Handle
  stdoutReading : Bool
  stderrReading : Bool
  spawned : Nat
  kills : List Kill

/-- `relay_conn`, as far as destroying its relay reaches it. -/
structure RelayConn where
  relay : Nat
  inbound : Handle
  outbound : Handle
  inboundClosed : Bool
  outboundClosed : Bool
  closing : Bool

/-- The owner is named by its session id, where the C field points to it. -/
structure Relay where
  owner : Nat
  relayId : UInt32
  listenPort : UInt16
  targetPort : UInt16
  listenHost : Bytes
  targetHost : Bytes
  conn : Option Nat
  listener : Handle
  closing : Bool

/-- `lua_engine`: the list of relays, and the relays and connections ever
allocated, by number. -/
structure Engine where
  relays : List Nat
  nextRelayId : UInt32
  relay : Nat → Option Relay
  conn : Nat → Option RelayConn
  allocated : Nat

/-- The operations the Lua script registers. -/
inductive Op where
  | list | debugSessions | debugTransfers | debugProcs | debugStats
  | portOpen | portClose | portList | toolRun
deriving DecidableEq, Repr

structure Session where
  sessionId : Nat
  link : Link
  upload : TransferState
  download : TransferState
  proc : ProcState
  lastRxMs : Nat
  nextReqId : UInt32
  nextProcId : UInt32
  /-- how often the memory of the session was released -/
  released : Nat
  /-- the operations run for the session, which the source does not record -/
  ran : List Op

structure World extends Session where
  fs : FileSystem
  engine : Engine
  /-- the last callback was `read_cb`, which may hold more frames -/
  reading : Bool

def transferInit : TransferState where
  active := false
  overwrite := false
  mode := .none
  reqId := 0
  file := none
  totalSize := 0
  offset := 0
  lastProgressMs := 0
  chunkSize := readChunk
  path := none
  tmpPath := none

def procInit : ProcState where
  active := false
  stdoutClosed := false
  stderrClosed := false
  procId := 0
  startedMs := 0
  lastIoMs := 0
  timeoutMs := 0
  idleTimeoutMs := 0
  killReason := .none
  file := none
  args := none
  process := .fresh
  stdoutPipe := .fresh
  stderrPipe := .fresh
  stdoutReading := false
  stderrReading := false
  spawned := 0
  kills := []

def sessionInit (env : Env) (sessionId : Nat) (counts : Tally) : Session where
  sessionId := sessionId
  link :=
    { life := ⟨.fresh, .fresh, false, false, 0⟩
      pendingWriteBytes := 0
      lastTxMs := env.now
      sends := 0
      writes := []
      queued := []
      tally := { counts with session := fun _ => 0 } }
  upload := transferInit
  download := transferInit
  proc := procInit
  lastRxMs := env.now
  nextReqId := 1
  nextProcId := 1
  released := 0
  ran := []

namespace World

def sendText (world : World) (env : Env) (type : FrameType) (reqId : UInt32) (text : Bytes) : World × Bool :=
  let sent := sessionSendText env world.link type reqId text
  ({ world with link := sent.1 }, sent.2)

/-- Answer with an error frame; the caller then returns a failure of its own. -/
def sendError (world : World) (env : Env) (reqId : UInt32) (code : String) (message : Bytes) : World :=
  { world with link := (sessionSendError env world.link reqId code message).1 }

end World
end Luagent
