import Luagent.Session
import Mathlib.Logic.Function.Basic

/-! The registry of port relays (`portfwd.c`): opening, closing and listing.
Relayed traffic is not part of it. -/

namespace Luagent
open Foundation

def portfwdEngineInit : Engine := ⟨[], 1, fun _ => none, fun _ => none, 0⟩

namespace Engine

def setRelay (engine : Engine) (ref : Nat) (relay : Relay) : Engine :=
  { engine with relay := Function.update engine.relay ref (some relay) }

def setConn (engine : Engine) (ref : Nat) (conn : RelayConn) : Engine :=
  { engine with conn := Function.update engine.conn ref (some conn) }

end Engine

/-- `relay_close`. -/
def relayClose (engine : Engine) (ref : Nat) : Engine :=
  match engine.conn ref with
  | none => engine
  | some conn =>
    if conn.closing then engine
    else
      engine.setConn ref { conn with
        closing := true
        inbound := if conn.inboundClosed then conn.inbound else conn.inbound.close true
        outbound := if conn.outboundClosed then conn.outbound else conn.outbound.close true }

/-- `relay_remove`: the first occurrence leaves the list. -/
def relayRemove (engine : Engine) (ref : Nat) : Engine := { engine with relays := engine.relays.erase ref }

/-- `relay_destroy`. The memory goes only when the listener's close is processed. -/
def relayDestroy (engine : Engine) (ref : Nat) : Engine :=
  match engine.relay ref with
  | none => engine
  | some relay =>
    if relay.closing then engine
    else
      let engine := match relay.conn with
        | none => engine
        | some conn => relayClose engine conn
      let relay := { relay with closing := true, conn := none, listener := relay.listener.close true }
      relayRemove (engine.setRelay ref relay) ref

/-- `portfwd_engine_close`: the loop reads the next pointer before it destroys. -/
def portfwdEngineClose (engine : Engine) : Engine := engine.relays.foldl relayDestroy engine

def Engine.ownedBy (engine : Engine) (sessionId ref : Nat) : Bool :=
  (engine.relay ref).any fun relay => relay.owner == sessionId

/-- `portfwd_close_session`. -/
def portfwdCloseSession (engine : Engine) (sessionId : Nat) : Engine :=
  engine.relays.foldl
    (fun current ref => if current.ownedBy sessionId ref then relayDestroy current ref else current) engine

/-- What `portfwd_open` does to the engine, and the relay's id and port or an error code. -/
def relayOpen (env : Env) (engine : Engine) (sessionId : Nat) (listenHost : Bytes) (listenPort : UInt16)
    (targetHost : Bytes) (targetPort : UInt16) : Engine × Except Int (UInt32 × UInt16) :=
  if !env.alloc .relay then (engine, .error uvEnomem)
  else
    let relayId := engine.nextRelayId
    let engine := { engine with nextRelayId := relayId + 1 }
    if !env.alloc .listenHost || !env.alloc .targetHost then (engine, .error uvEnomem)
    else if env.tcpInit ≠ 0 then (engine, .error uvEio)
    else
      let ref := engine.allocated
      let engine := { engine with allocated := ref + 1 }
      let relay : Relay :=
        { owner := sessionId, relayId, listenPort, targetPort, listenHost, targetHost
          conn := none, listener := Handle.fresh.init, closing := false }
      let refused := engine.setRelay ref { relay with closing := true, listener := relay.listener.close true }
      if env.ip4Addr ≠ 0 then (refused, .error uvEinval)
      else if env.tcpBind ≠ 0 then (refused, .error uvEaddrinuse)
      else if env.listen ≠ 0 then (refused, .error uvEio)
      else
        let port := env.sockname.getD listenPort
        let engine := engine.setRelay ref { relay with listenPort := port }
        ({ engine with relays := ref :: engine.relays }, .ok (relayId, port))

def portfwdOpen (env : Env) (world : World) (listenHost : Bytes) (listenPort : UInt16) (targetHost : Bytes)
    (targetPort : UInt16) : World × Except Int (UInt32 × UInt16) :=
  let opened := relayOpen env world.engine world.sessionId listenHost listenPort targetHost targetPort
  let link := match opened.2 with
    | .ok _ => diagCountRelayOpen world.link
    | .error _ => world.link
  ({ world with engine := opened.1, link }, opened.2)

/-- The first listed relay with this id. -/
def Engine.findRelay (engine : Engine) (relayId : UInt32) : Option (Nat × Relay) :=
  engine.relays.findSome? fun ref => (engine.relay ref).bind fun relay =>
    if relay.relayId = relayId then some (ref, relay) else none

/-- `portfwd_close`: the close is counted for the owner, which need not be the
session that asks. -/
def portfwdClose (world : World) (relayId : UInt32) : World × Int :=
  match world.engine.findRelay relayId with
  | none => (world, uvEnoent)
  | some (ref, relay) =>
    let tally := if relay.owner = world.sessionId then world.link.tally.add .relayCloses 1
      else world.link.tally.addFor relay.owner .relayCloses 1
    ({ world with link := { world.link with tally }, engine := relayDestroy world.engine ref }, 0)

/-- How many entries `portfwd_push_list` pushes for a session. -/
def portfwdListed (engine : Engine) (sessionId : Nat) : Nat := (engine.relays.filter (engine.ownedBy sessionId)).length

end Luagent
