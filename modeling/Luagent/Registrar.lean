import Luagent.Forwarder

/-! The registry of the relays over the lives of the sessions that own them, and
what it is for: a list of the relays that were opened and not closed since. -/

namespace Luagent
open Foundation

/-- The relays, and the sessions whose memory was released. -/
structure Registrar where
  forwarder : Forwarder
  released : Nat → Bool

namespace Registrar

def start : Registrar := ⟨.start, fun _ => false⟩

def engine (state : Registrar) : Engine := state.forwarder.engine

end Registrar

inductive RegistrarEvent where
  /-- a call of a session or a callback of the loop -/
  | relay (event : RelayEvent)
  /-- `maybe_free_session` drops the last reference -/
  | release (sessionId : Nat)

/-- A call that is about the registry. -/
def RelayEvent.registers : RelayEvent → Bool
  | .open .. | .close _ | .closeSession _ | .closeEngine => true
  | _ => false

/-- A call of `portfwd_open`. -/
def RegistrarEvent.isOpen : RegistrarEvent → Bool
  | .relay (.open ..) => true
  | _ => false

/-- A session that was released makes no calls. -/
def Registrar.enabled (state : Registrar) : RegistrarEvent → Bool
  | .relay (.open sessionId ..) => !state.released sessionId
  | .relay event => state.forwarder.enabled event
  | .release sessionId => !state.released sessionId

def Registrar.callback (env : RelayEnv) (state : Registrar) : RegistrarEvent → Registrar
  | .relay event => { state with forwarder := state.forwarder.callback env event }
  | .release sessionId =>
    { forwarder := { state.forwarder with engine := portfwdCloseSession state.engine sessionId }
      released := Function.update state.released sessionId true }

def registrar : Machine Registrar (RegistrarEvent × RelayEnv) where
  step state input := if state.enabled input.1 then some (state.callback input.2 input.1) else none

/-- A relay as the registry lists it. -/
structure Listing where
  relay : Nat
  relayId : UInt32
  owner : Nat
deriving DecidableEq

/-- What happens to the registry. -/
inductive Notice where
  | opened (listing : Listing)
  | closed (relayId : UInt32)
  | closedSession (owner : Nat)
  | closedEngine

/-- A relay is listed first when it is opened and leaves the list when it is closed. -/
def Notice.post (listings : List Listing) : Notice → List Listing
  | .opened listing => listing :: listings
  | .closed relayId => listings.filter (·.relayId ≠ relayId)
  | .closedSession owner => listings.filter (·.owner ≠ owner)
  | .closedEngine => []

/-- What a step does to the registry: an open counts if it returns no error. -/
def Registrar.notices (state : Registrar) (input : RegistrarEvent × RelayEnv) (_ : Registrar) : List Notice :=
  match input.1 with
  | .relay (.open sessionId listenHost listenPort targetHost targetPort) =>
    match (relayOpen input.2.setup state.engine sessionId listenHost listenPort targetHost targetPort).2 with
    | .ok (relayId, _) => [.opened ⟨state.engine.allocated, relayId, sessionId⟩]
    | .error _ => []
  | .relay (.close relayId) => [.closed relayId]
  | .relay (.closeSession owner) | .release owner => [.closedSession owner]
  | .relay .closeEngine => [.closedEngine]
  | _ => []

def Engine.listing (engine : Engine) (ref : Nat) : Option Listing :=
  (engine.relay ref).map fun relay => ⟨ref, relay.relayId, relay.owner⟩

/-- `engine->relays`, as the registry lists them. -/
def Engine.listings (engine : Engine) : List Listing := engine.relays.filterMap engine.listing

end Luagent
