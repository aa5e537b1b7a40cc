import Luagent.Registrar
import Luagent.Server

/-! The whole agent (`server_run`): all of its sessions at once, with the files, the
relays and the global counters that they share. Every callback runs to its end
before the next one. -/

namespace Luagent
open Foundation

structure ServerState where
  /-- the sessions that were accepted and not released -/
  session : Nat → Option Session
  fs : FileSystem
  forwarder : Forwarder
  global : Counter → Nat
  parseFailures : Nat
  /-- `g_next_session_id` -/
  nextSessionId : Nat
  /-- the session whose `read_cb` ran last and may hold more frames -/
  reading : Option Nat

/-- What is left of a session after a callback. -/
def World.survivor (world : World) : Option Session := if world.released = 0 then some world.toSession else none

/-- A session after a callback for another one has counted this for it. -/
def Session.credit (session : Session) (counted : Counter → Nat) : Session :=
  { session with
    link := { session.link with
      tally := { session.link.tally with session := fun counter => session.link.tally.session counter + counted counter } } }

namespace ServerState

def start (fs : FileSystem) : ServerState where
  session _ := none
  fs := fs
  forwarder := .start
  global _ := 0
  parseFailures := 0
  nextSessionId := 1
  reading := none

def engine (state : ServerState) : Engine := state.forwarder.engine

/-- The agent as a callback for one of the sessions finds it. -/
def world (state : ServerState) (id : Nat) (session : Session) : World :=
  { session with
    link := { session.link with
      tally := { session := session.link.tally.session, global := state.global, parseFailures := state.parseFailures } }
    fs := state.fs
    engine := state.engine
    reading := state.reading == some id }

/-- The agent after a callback for one of the sessions has left this. -/
def after (state : ServerState) (id : Nat) (next : World) : ServerState where
  session other :=
    if other = id then next.survivor
    else (state.session other).map (·.credit (next.link.tally.others other))
  fs := next.fs
  forwarder := { state.forwarder with engine := next.engine }
  global := next.link.tally.global
  parseFailures := next.link.tally.parseFailures
  nextSessionId := state.nextSessionId
  reading := if next.reading then some id else none

/-- `on_new_connection`. The number is taken once the session has its memory. -/
def connect (state : ServerState) (env : Env) : ServerState :=
  let id := state.nextSessionId
  let counts := { global := state.global, parseFailures := state.parseFailures }
  let state := { state with nextSessionId := if env.alloc .session then id + 1 else id, reading := none }
  match onNewConnection env id counts state.fs state.engine with
  | none => state
  | some world =>
    { state with
      session := Function.update state.session id (some world.toSession)
      global := world.link.tally.global }

end ServerState

inductive ServerEvent where
  | connect (env : Env)
  /-- a callback for a session -/
  | session (id : Nat) (event : Event) (env : Env)
  /-- a callback for the traffic of the relays -/
  | relay (event : RelayEvent) (env : RelayEnv)

def server : Machine ServerState ServerEvent where
  step state
    | .connect env => some (state.connect env)
    | .session id event env => (state.session id).bind fun session =>
        (agent.step (state.world id session) (event, env)).map (state.after id)
    | .relay event env =>
      if !event.registers && state.forwarder.enabled event then
        some { state with forwarder := state.forwarder.callback env event, reading := none }
      else none

end Luagent
