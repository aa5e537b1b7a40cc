import Luagent.Foundation.Machine
import Luagent.Protocol

/-! The callbacks of a session (`server.c`, `session.c`) and the machine they
form: libuv chooses the next callback, within what it promises, and what the
calls inside that callback return. -/

namespace Luagent
open Foundation

namespace World

/-- `session_close`. -/
def close (world : World) : World := { world with link := sessionClose world.link }

def setLife (world : World) (life : Life) : World := { world with link := { world.link with life } }

end World

def maybeFreeSession (env : Env) (world : World) : World :=
  let life := { world.link.life with closeRefs := world.link.life.closeRefs - 1 }
  let world := world.setLife life
  if 0 < life.closeRefs then world
  else
    let world := (world.abortUpload env).abortDownload env
    { world with
      proc := procAbort env world.proc
      engine := portfwdCloseSession world.engine world.sessionId
      released := world.released + 1 }

/-- The PING of `heartbeat_cb`, when nothing was sent for a while. -/
def heartbeatPing (env : Env) (world : World) : World :=
  if heartbeatIdleMs ≤ elapsedMs env.now world.link.lastTxMs then
    let pinged := { world with link := diagCountHeartbeat world.link, nextReqId := world.nextReqId + 1 }
    (pinged.sendText env .ping world.nextReqId (ascii "status=ping")).1
  else world

/-- The first check of `heartbeat_cb`: nothing has been received for so long. -/
abbrev World.idlesOut (world : World) (now : Nat) : Prop := sessionIdleMs ≤ elapsedMs now world.lastRxMs

def heartbeatCb (env : Env) (world : World) : World :=
  if world.link.life.closed then world
  else if world.idlesOut env.now then world.close
  else
    procCheckTimeouts env (transferCheckTimeoutDownload env (transferCheckTimeoutUpload env (heartbeatPing env world)))

/-- `diag_count_frame_rx`, which precedes the dispatch of a frame. -/
def World.countFrame (world : World) (message : Message) : World :=
  { world with link := diagCountFrameRx world.link (frameHeaderSize + message.payload.length) }

/-- What `read_cb` makes of the bytes it was given, on the session. -/
def perform (env : Env) (world : World) : Action → World
  | .received => { world with lastRxMs := env.now }
  | .dispatch message => (protocolHandleControl env (world.countFrame message) message).1
  | .badHeader => { world with link := diagCountParseFailure world.link }.close
  | .overflow => world.close
  | .hangup => world.close

/-- `on_new_connection`. No session comes of it when memory or the socket fails. -/
def onNewConnection (env : Env) (sessionId : Nat) (counts : Tally) (fs : FileSystem) (engine : Engine) : Option World :=
  if !env.alloc .session || !env.alloc .rxBuf || env.tcpInit ≠ 0 then none
  else
    let session := sessionInit env sessionId counts
    let world : World := { session with fs, engine, reading := false }
    let world := world.setLife { world.link.life with tcp := world.link.life.tcp.init }
    if env.accept ≠ 0 then some world.close
    else
      let started := sessionStartTimers env world.link.life
      let world := world.setLife started.1
      if started.2 ≠ 0 then some world.close
      else if env.readStart ≠ 0 then some world.close
      else some world

/-- The handles embedded in a session. -/
inductive SessionHandle where
  | tcp | heartbeatTimer | process | stdoutPipe | stderrPipe
deriving DecidableEq, Repr

def Session.handle (session : Session) : SessionHandle → Handle
  | .tcp => session.link.life.tcp
  | .heartbeatTimer => session.link.life.heartbeatTimer
  | .process => session.proc.process
  | .stdoutPipe => session.proc.stdoutPipe
  | .stderrPipe => session.proc.stderrPipe

def World.setHandle (world : World) (name : SessionHandle) (handle : Handle) : World :=
  match name with
  | .tcp => world.setLife { world.link.life with tcp := handle }
  | .heartbeatTimer => world.setLife { world.link.life with heartbeatTimer := handle }
  | .process => { world with proc := { world.proc with process := handle } }
  | .stdoutPipe => { world with proc := { world.proc with stdoutPipe := handle } }
  | .stderrPipe => { world with proc := { world.proc with stderrPipe := handle } }

/-- The loop processes a close request. All callbacks given to `uv_close` do
nothing but drop a reference. -/
def closeCb (env : Env) (world : World) (name : SessionHandle) : World :=
  let handle := world.handle name
  let closed := world.setHandle name handle.finish
  if handle.phase = .closing true then maybeFreeSession env closed else closed

def ProcState.reads (proc : ProcState) : Pipe → Bool
  | .stdout => proc.stdoutReading && proc.stdoutPipe.phase == .open
  | .stderr => proc.stderrReading && proc.stderrPipe.phase == .open

inductive Event where
  | read (action : Action)
  | tick
  | written (write : WriteReq)
  | exited (status : Int)
  | output (pipe : Pipe) (bytes : Bytes)
  | ended (pipe : Pipe)
  | closed (handle : SessionHandle)
deriving DecidableEq

/-- When libuv makes a callback. Frames that stand in the buffer behind one that
closed the session are still handled, before anything else happens. -/
def enabled (world : World) : Event → Bool
  | .read (.dispatch _) | .read .badHeader => world.link.life.tcp.phase == .open || world.reading
  | .read _ => world.link.life.tcp.phase == .open
  | .tick => world.link.life.heartbeatTimer.phase == .open
  | .written write => world.link.writes.contains write && world.link.life.tcp.phase != .closed
  | .exited _ => world.proc.active && world.proc.process.phase == .open
  | .output pipe bytes => world.proc.reads pipe && !bytes.isEmpty
  | .ended pipe => world.proc.reads pipe
  | .closed handle => (world.handle handle).isClosing

def callback (env : Env) (world : World) : Event → World
  | .read action => perform env world action
  | .tick => heartbeatCb env world
  | .written write => { world with link := onWriteDone (world.link.uvWritten write) write }
  | .exited status => procExitCb env world status
  | .output pipe bytes => procReadOutput env world pipe bytes
  | .ended pipe => procReadEnd world pipe
  | .closed handle => closeCb env world handle

/-- More frames may follow in the same callback unless the action ends it. -/
def Event.reads : Event → Bool
  | .read action => !action.closes
  | _ => false

def agent : Machine World (Event × Env) where
  step world input :=
    if enabled world input.1 then some { callback input.2 world input.1 with reading := input.1.reads } else none

end Luagent
