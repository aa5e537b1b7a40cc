import Luagent.Foundation.Machine
import Luagent.Portfwd

/-! The traffic of the port relays (`portfwd.c`): the connections that listeners
accept, what is forwarded through them, and the callbacks in which their memory
and the memory of the relays is given back. -/

namespace Luagent
open Foundation

/-- `PORTFWD_MAX_PENDING_BYTES`. -/
def portfwdMaxPendingBytes : Nat := 262144

/-- The two sockets of a connection. -/
inductive RelaySide where
  | inbound
  | outbound
deriving DecidableEq, Repr

def RelaySide.other : RelaySide → RelaySide
  | .inbound => .outbound
  | .outbound => .inbound

namespace RelayConn

def handle (conn : RelayConn) : RelaySide → Handle
  | .inbound => conn.inbound
  | .outbound => conn.outbound

/-- `inbound_closed`, `outbound_closed`. -/
def isClosed (conn : RelayConn) : RelaySide → Bool
  | .inbound => conn.inboundClosed
  | .outbound => conn.outboundClosed

/-- The close of one side has been processed. -/
def finish (conn : RelayConn) : RelaySide → RelayConn
  | .inbound => { conn with inbound := conn.inbound.finish, inboundClosed := true }
  | .outbound => { conn with outbound := conn.outbound.finish, outboundClosed := true }

end RelayConn

/-- `relay_write_req`. Direction 0 is the one to the outbound side. -/
structure RelayWrite where
  dst : RelaySide
  bytes : Bytes
deriving DecidableEq, Repr

/-- The fields of `relay_conn` that traffic uses, by side, and what the loop holds
for the connection. -/
structure Flow where
  /-- `pending_to_inbound`, `pending_to_outbound` -/
  pending : RelaySide → Nat
  connected : RelaySide → Bool
  /-- `connect_req` is with the loop -/
  connecting : Bool
  reading : RelaySide → Bool
  /-- the writes that did not complete yet, oldest first -/
  writes : List RelayWrite
  /-- every byte read from a side so far -/
  read : RelaySide → Bytes
  /-- every byte that `uv_write` accepted for a side so far -/
  accepted : RelaySide → Bytes
  /-- every byte whose write to a side completed well so far -/
  written : RelaySide → Bytes

/-- `calloc`. -/
def Flow.zero : Flow where
  pending _ := 0
  connected _ := false
  connecting := false
  reading _ := false
  writes := []
  read _ := []
  accepted _ := []
  written _ := []

def Flow.writesTo (flow : Flow) (dst : RelaySide) : List RelayWrite := flow.writes.filter (·.dst = dst)

/-- How the calls made during one callback end. -/
structure RelayEnv where
  /-- for `portfwd_open` -/
  setup : Env := {}
  rejectAlloc : Bool := true
  rejectInit : Int := 0
  rejectAccept : Int := 0
  connAlloc : Bool := true
  tcpInit : RelaySide → Int := fun _ => 0
  accept : Int := 0
  ip4Addr : Int := 0
  connect : Int := 0
  readStart : RelaySide → Int := fun _ => 0
  writeAlloc : Bool := true
  bufAlloc : Bool := true
  write : Int := 0

/-- One time that `relay_maybe_free` followed `conn->relay`. -/
structure Followed where
  conn : Nat
  relay : Nat
  /-- the relay had been released by then -/
  released : Bool
deriving DecidableEq, Repr

structure Forwarder where
  engine : Engine
  flow : Nat → Flow
  /-- the rejected clients whose close was not processed yet -/
  rejected : Nat
  relayReleased : Nat → Bool
  connReleased : Nat → Bool
  followed : List Followed

namespace Forwarder

def start : Forwarder where
  engine := portfwdEngineInit
  flow _ := .zero
  rejected := 0
  relayReleased _ := false
  connReleased _ := false
  followed := []

def setFlow (state : Forwarder) (ref : Nat) (flow : Flow) : Forwarder :=
  { state with flow := Function.update state.flow ref flow }

/-- libuv has done with `connect_req`. -/
def uvConnected (state : Forwarder) (ref : Nat) : Forwarder :=
  state.setFlow ref { state.flow ref with connecting := false }

/-- libuv has read from a side. -/
def uvRead (state : Forwarder) (ref : Nat) (side : RelaySide) (bytes : Bytes) : Forwarder :=
  let flow := state.flow ref
  state.setFlow ref { flow with read := Function.update flow.read side (flow.read side ++ bytes) }

/-- libuv has done with a write. -/
def uvWritten (state : Forwarder) (ref : Nat) (write : RelayWrite) (status : Int) : Forwarder :=
  let flow := state.flow ref
  state.setFlow ref { flow with
    writes := flow.writes.erase write
    written := if status < 0 then flow.written
      else Function.update flow.written write.dst (flow.written write.dst ++ write.bytes) }

/-- `relay_close`. -/
def close (state : Forwarder) (ref : Nat) : Forwarder := { state with engine := relayClose state.engine ref }

end Forwarder

def relayMaybeFree (state : Forwarder) (ref : Nat) : Forwarder :=
  match state.engine.conn ref with
  | none => state
  | some conn =>
    if conn.inboundClosed && conn.outboundClosed then
      { state with
        engine := match state.engine.relay conn.relay with
          | none => state.engine
          | some relay => state.engine.setRelay conn.relay { relay with conn := none }
        connReleased := Function.update state.connReleased ref true
        followed := state.followed ++ [⟨ref, conn.relay, state.relayReleased conn.relay⟩] }
    else state

def relayCloseCb (state : Forwarder) (ref : Nat) (side : RelaySide) : Forwarder :=
  match state.engine.conn ref with
  | none => state
  | some conn => relayMaybeFree { state with engine := state.engine.setConn ref (conn.finish side) } ref

def relayWriteCb (state : Forwarder) (ref : Nat) (write : RelayWrite) (status : Int) : Forwarder :=
  let flow := state.flow ref
  let pending := flow.pending write.dst
  let left := if write.bytes.length ≤ pending then pending - write.bytes.length else pending
  let done := state.setFlow ref { flow with pending := Function.update flow.pending write.dst left }
  if status < 0 then done.close ref else done

def relayForward (env : RelayEnv) (state : Forwarder) (ref : Nat) (dst : RelaySide) (bytes : Bytes) : Forwarder :=
  match state.engine.conn ref with
  | none => state
  | some conn =>
    let flow := state.flow ref
    if conn.closing || bytes.length = 0 then state
    else if portfwdMaxPendingBytes < flow.pending dst + bytes.length then state.close ref
    else if !env.writeAlloc then state.close ref
    else if !env.bufAlloc then state.close ref
    else if env.write ≠ 0 then state.close ref
    else state.setFlow ref { flow with
      pending := Function.update flow.pending dst (flow.pending dst + bytes.length)
      writes := flow.writes ++ [⟨dst, bytes⟩]
      accepted := Function.update flow.accepted dst (flow.accepted dst ++ bytes) }

/-- `relay_read_cb` with `nread ≥ 0`. -/
def relayReadCb (env : RelayEnv) (state : Forwarder) (ref : Nat) (side : RelaySide) (bytes : Bytes) : Forwarder :=
  if bytes.length = 0 then state else relayForward env state ref side.other bytes

def relayConnectCb (env : RelayEnv) (state : Forwarder) (ref : Nat) (status : Int) : Forwarder :=
  let flow := state.flow ref
  if status < 0 then state.close ref
  else state.setFlow ref { flow with
    connected := Function.update flow.connected .outbound true
    reading := fun side => env.readStart side == 0 }

/-- `relay_accept_cb` for a relay that has a connection. -/
def relayReject (env : RelayEnv) (state : Forwarder) : Forwarder :=
  if env.rejectAlloc && env.rejectInit == 0 && env.rejectAccept == 0 then
    { state with rejected := state.rejected + 1 }
  else state

/-- `relay_accept_cb` for a relay that has none. `relay->conn` is set only before
`uv_tcp_connect`, and a failed `uv_accept` closes both handles but does not mark
the connection as closing. -/
def relayAdmit (env : RelayEnv) (state : Forwarder) (ref : Nat) (relay : Relay) : Forwarder :=
  if !env.connAlloc then state
  else
    let number := state.engine.allocated
    let state := { state with
      engine := { state.engine with allocated := number + 1 }
      flow := Function.update state.flow number .zero }
    let conn : RelayConn :=
      { relay := ref, inbound := .fresh, outbound := .fresh
        inboundClosed := false, outboundClosed := false, closing := false }
    let freed (conn : RelayConn) : Forwarder :=
      { state with
        engine := state.engine.setConn number conn
        connReleased := Function.update state.connReleased number true }
    if env.tcpInit .inbound ≠ 0 then freed conn
    else
      let conn := { conn with inbound := conn.inbound.init }
      if env.tcpInit .outbound ≠ 0 then freed conn
      else
        let conn := { conn with outbound := conn.outbound.init }
        let flow := { Flow.zero with connected := Function.update Flow.zero.connected .inbound true }
        let state := state.setFlow number flow
        if env.accept ≠ 0 then
          { state with engine := state.engine.setConn number { conn with
              inbound := conn.inbound.close true, outbound := conn.outbound.close true } }
        else
          let state := { state with engine := state.engine.setConn number conn }
          if env.ip4Addr ≠ 0 then state.close number
          else
            let state := { state with engine := state.engine.setRelay ref { relay with conn := some number } }
            if env.connect ≠ 0 then state.close number
            else state.setFlow number { flow with connecting := true }

def relayAcceptCb (env : RelayEnv) (state : Forwarder) (ref : Nat) (status : Int) : Forwarder :=
  match state.engine.relay ref with
  | none => state
  | some relay =>
    if status < 0 || relay.closing then state
    else if relay.conn.isSome then relayReject env state
    else relayAdmit env state ref relay

/-- `relay_listener_closed_cb` for a relay's listener. -/
def relayListenerClosedCb (state : Forwarder) (ref : Nat) : Forwarder :=
  match state.engine.relay ref with
  | none => state
  | some relay =>
    { state with
      engine := state.engine.setRelay ref { relay with listener := relay.listener.finish }
      relayReleased := Function.update state.relayReleased ref true }

/-- The calls that the sessions make and the callbacks that the loop makes. -/
inductive RelayEvent where
  | open (sessionId : Nat) (listenHost : Bytes) (listenPort : UInt16) (targetHost : Bytes) (targetPort : UInt16)
  | close (relayId : UInt32)
  | closeSession (sessionId : Nat)
  | closeEngine
  | incoming (relay : Nat) (status : Int)
  | connected (conn : Nat) (status : Int)
  | read (conn : Nat) (side : RelaySide) (bytes : Bytes)
  /-- `UV_EOF` -/
  | ended (conn : Nat) (side : RelaySide)
  /-- any other negative `nread` -/
  | readFailed (conn : Nat) (side : RelaySide)
  | written (conn : Nat) (write : RelayWrite) (status : Int)
  | listenerClosed (relay : Nat)
  | sideClosed (conn : Nat) (side : RelaySide)
  | rejectClosed

namespace Forwarder

/-- A side that the loop reads from. -/
def reads (state : Forwarder) (ref : Nat) (side : RelaySide) : Bool :=
  (state.flow ref).reading side && (state.engine.conn ref).any fun conn => (conn.handle side).phase == .open

/-- When libuv makes a callback. It reads nothing from a handle that is closing,
it completes the writes to a handle in order, and it fails what a closing handle
still holds before it calls back for the close. -/
def enabled (state : Forwarder) : RelayEvent → Bool
  | .open .. | .close _ | .closeSession _ | .closeEngine => true
  | .incoming ref _ => (state.engine.relay ref).any fun relay => relay.listener.phase == .open
  | .connected ref status => (state.flow ref).connecting && (state.engine.conn ref).any fun conn =>
      conn.outbound.phase == .open || conn.outbound.isClosing && status < 0
  | .read ref side _ | .ended ref side | .readFailed ref side => state.reads ref side
  | .written ref write status => ((state.flow ref).writesTo write.dst).head? == some write &&
      (state.engine.conn ref).any fun conn =>
        (conn.handle write.dst).phase == .open || (conn.handle write.dst).isClosing && status < 0
  | .listenerClosed ref => (state.engine.relay ref).any fun relay => relay.listener.isClosing
  | .sideClosed ref side => ((state.engine.conn ref).any fun conn => (conn.handle side).isClosing) &&
      ((state.flow ref).writesTo side).isEmpty && !(side == .outbound && (state.flow ref).connecting)
  | .rejectClosed => state.rejected != 0

/-- A callback, after libuv has noted what it calls back for. -/
def callback (env : RelayEnv) (state : Forwarder) : RelayEvent → Forwarder
  | .open sessionId listenHost listenPort targetHost targetPort =>
    { state with
      engine := (relayOpen env.setup state.engine sessionId listenHost listenPort targetHost targetPort).1 }
  | .close relayId =>
    match state.engine.findRelay relayId with
    | none => state
    | some (ref, _) => { state with engine := relayDestroy state.engine ref }
  | .closeSession sessionId => { state with engine := portfwdCloseSession state.engine sessionId }
  | .closeEngine => { state with engine := portfwdEngineClose state.engine }
  | .incoming ref status => relayAcceptCb env state ref status
  | .connected ref status => relayConnectCb env (state.uvConnected ref) ref status
  | .read ref side bytes => relayReadCb env (state.uvRead ref side bytes) ref side bytes
  | .ended ref _ | .readFailed ref _ => state.close ref
  | .written ref write status => relayWriteCb (state.uvWritten ref write status) ref write status
  | .listenerClosed ref => relayListenerClosedCb state ref
  | .sideClosed ref side => relayCloseCb state ref side
  -- `relay_listener_closed_cb` finds no relay and frees the handle
  | .rejectClosed => { state with rejected := state.rejected - 1 }

end Forwarder

def forwarder : Machine Forwarder (RelayEvent × RelayEnv) where
  step state input := if state.enabled input.1 then some (state.callback input.2 input.1) else none

end Luagent
