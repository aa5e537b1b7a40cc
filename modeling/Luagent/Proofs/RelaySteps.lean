import Luagent.Foundation.Lookup
import Luagent.Registrar
import Mathlib.Tactic.SplitIfs

/-! What the callbacks of the port relays can do to a connection and to a relay. -/

namespace Luagent.Proofs
open Foundation

/-- How `relay_close` leaves a connection: every side that was not closed yet is
handed to the loop. -/
structure Shut (conn dead : RelayConn) : Prop where
  relay : dead.relay = conn.relay
  alive : conn.closing = false
  closing : dead.closing = true
  flags : dead.isClosed = conn.isClosed
  handles : ∀ side, dead.handle side = if conn.isClosed side then conn.handle side else (conn.handle side).close true

/-- What `relay_close` does: nothing to a connection that is already closing, and
else it is shut. -/
inductive CloseEffect (engine : Engine) (ref : Nat) (after : Engine) : Prop where
  | nothing (gone : ∀ conn, engine.conn ref = some conn → conn.closing = true) (same : after = engine)
  | closed (conn dead : RelayConn) (found : engine.conn ref = some conn) (same : after = engine.setConn ref dead)
      (shut : Shut conn dead)

theorem relayClose_effect (engine : Engine) (ref : Nat) : CloseEffect engine ref (relayClose engine ref) := by
  unfold relayClose
  split
  next absent => exact .nothing (fun conn found => by rw [absent] at found; cases found) rfl
  next conn found =>
    split
    next closing =>
      refine .nothing (fun other same => ?_) rfl
      cases found.symm.trans same
      exact closing
    next alive =>
      refine .closed conn _ found rfl ⟨rfl, eq_false_of_ne_true alive, rfl, ?_, ?_⟩
      · funext side
        cases side <;> rfl
      · intro side
        cases side <;> rfl

def destroyAll (chosen : Engine → Nat → Bool) (refs : List Nat) (engine : Engine) : Engine :=
  refs.foldl (fun engine ref => if chosen engine ref then relayDestroy engine ref else engine) engine

theorem destroyAll_keeps {holds : Engine → Prop} (kept : ∀ engine ref, holds engine → holds (relayDestroy engine ref))
    (chosen : Engine → Nat → Bool) (refs : List Nat) {engine : Engine} (start : holds engine) :
    holds (destroyAll chosen refs engine) := by
  refine List.foldlRecOn refs _ start fun engine held ref _ => ?_
  split
  · exact kept engine ref held
  · exact held

structure OnlyShuts (before after : Engine) : Prop where
  allocated : before.allocated ≤ after.allocated
  conn : ∀ ref, after.conn ref = before.conn ref ∨
    ∃ conn dead, before.conn ref = some conn ∧ after.conn ref = some dead ∧ Shut conn dead

/-- What an open does to the engine: nothing, or it takes a number, or it also adds
a relay without a connection, which is listed unless it was refused. -/
inductive Opens (engine after : Engine) : Prop where
  | nothing (same : after = engine)
  | numbered (same : after = { engine with nextRelayId := engine.nextRelayId + 1 })
  | added (relay : Relay) (relays : List Nat)
      (same : after = { engine with
        nextRelayId := engine.nextRelayId + 1
        allocated := engine.allocated + 1
        relay := Function.update engine.relay engine.allocated (some relay)
        relays := relays })
      (list : relays = if relay.closing then engine.relays else engine.allocated :: engine.relays)
      (conn : relay.conn = none) (usable : relay.closing = false → relay.listener.phase = .open)

theorem relayOpen_opens (env : Env) (engine : Engine) (sessionId : Nat) (listenHost : Bytes) (listenPort : UInt16)
    (targetHost : Bytes) (targetPort : UInt16) :
    Opens engine (relayOpen env engine sessionId listenHost listenPort targetHost targetPort).1 := by
  unfold relayOpen
  simp only
  split_ifs
  · exact .nothing rfl
  · exact .numbered rfl
  · exact .numbered rfl
  · exact .added _ _ rfl rfl rfl nofun
  · exact .added _ _ rfl rfl rfl nofun
  · exact .added _ _ rfl rfl rfl nofun
  · exact .added _ _ rfl rfl rfl fun _ => rfl

private theorem relayForward_cases (env : RelayEnv) (state : Forwarder) (ref : Nat) (dst : RelaySide) (bytes : Bytes) :
    relayForward env state ref dst bytes = state ∨ relayForward env state ref dst bytes = state.close ref ∨
      ∃ flow, relayForward env state ref dst bytes = state.setFlow ref flow := by
  unfold relayForward
  split
  · exact .inl rfl
  · simp only
    split_ifs
    · exact .inl rfl
    · exact .inr (.inl rfl)
    · exact .inr (.inl rfl)
    · exact .inr (.inl rfl)
    · exact .inr (.inl rfl)
    · exact .inr (.inr ⟨_, rfl⟩)

namespace Forwarder
variable (state : Forwarder) (ref : Nat)

private theorem setFlow_flow (flow : Flow) : (state.setFlow ref flow).flow ref = flow := Function.update_self ..

private theorem setFlow_setFlow (flow later : Flow) :
    (state.setFlow ref flow).setFlow ref later = state.setFlow ref later := by
  simp only [Forwarder.setFlow, Function.update_idem]

private theorem setFlow_self : state.setFlow ref (state.flow ref) = state := by
  simp only [Forwarder.setFlow, Function.update_eq_self]

end Forwarder

namespace OnlyShuts
variable {before middle after : Engine}

theorem of_eq (conns : after.conn = before.conn) (allocated : before.allocated ≤ after.allocated) :
    OnlyShuts before after :=
  ⟨allocated, fun ref => .inl (by rw [conns])⟩

theorem trans (first : OnlyShuts before middle) (second : OnlyShuts middle after) : OnlyShuts before after := by
  refine ⟨Nat.le_trans first.allocated second.allocated, fun ref => ?_⟩
  rcases second.conn ref with same | ⟨conn, dead, found, held, shut⟩
  · rw [same]
    exact first.conn ref
  · rcases first.conn ref with same | ⟨_, late, _, shutBefore, early⟩
    · exact .inr ⟨conn, dead, same ▸ found, held, shut⟩
    · -- a connection is not shut twice
      cases found.symm.trans shutBefore
      have alive := shut.alive
      rw [early.closing] at alive
      cases alive

theorem close (engine : Engine) (ref : Nat) : OnlyShuts engine (relayClose engine ref) := by
  cases relayClose_effect engine ref with
  | nothing _ same =>
    rw [same]
    exact of_eq rfl (Nat.le_refl _)
  | closed conn dead found same shut =>
    rw [same]
    refine ⟨Nat.le_refl _, fun other => ?_⟩
    by_cases equal : other = ref
    · subst equal
      exact .inr ⟨conn, dead, found, by simp only [Engine.setConn, Function.update_self], shut⟩
    · exact .inl (by simp only [Engine.setConn, Function.update_of_ne equal])

theorem destroy (engine : Engine) (ref : Nat) : OnlyShuts engine (relayDestroy engine ref) := by
  unfold relayDestroy
  split
  · exact of_eq rfl (Nat.le_refl _)
  next relay _ =>
    split
    · exact of_eq rfl (Nat.le_refl _)
    · cases relay.conn with
      | none => exact of_eq rfl (Nat.le_refl _)
      | some conn => exact (close engine conn).trans (of_eq rfl (Nat.le_refl _))

theorem destroyAll (chosen : Engine → Nat → Bool) (refs : List Nat) (engine : Engine) :
    OnlyShuts engine (Proofs.destroyAll chosen refs engine) :=
  destroyAll_keeps (fun middle ref shuts => shuts.trans (destroy middle ref)) chosen refs (of_eq rfl (Nat.le_refl _))

theorem «open» (env : Env) (engine : Engine) (sessionId : Nat) (listenHost : Bytes) (listenPort : UInt16)
    (targetHost : Bytes) (targetPort : UInt16) :
    OnlyShuts engine (relayOpen env engine sessionId listenHost listenPort targetHost targetPort).1 := by
  cases relayOpen_opens env engine sessionId listenHost listenPort targetHost targetPort with
  | nothing same | numbered same =>
    rw [same]
    exact of_eq rfl (Nat.le_refl _)
  | added relay relays same =>
    rw [same]
    exact of_eq rfl (Nat.le_succ _)

end OnlyShuts

/-- What `relay_accept_cb` does for a relay without a connection: nothing, or it
frees the connection at once, or it leaves one with an empty flow, which the relay
designates or not. -/
inductive AdmitEffect (env : RelayEnv) (state : Forwarder) (ref : Nat) (relay : Relay) (after : Forwarder) : Prop where
  | nothing (same : after = state)
  | freed (conn : RelayConn)
      (same : after = { state with
        engine := { state.engine with
          conn := Function.update state.engine.conn state.engine.allocated (some conn)
          allocated := state.engine.allocated + 1 }
        flow := Function.update state.flow state.engine.allocated .zero
        connReleased := Function.update state.connReleased state.engine.allocated true })
      (names : conn.relay = ref) (unset : ∀ side, conn.isClosed side = false) (alive : conn.closing = false)
      (quiet : ∀ side, (conn.handle side).isClosing = false)
  | made (designated : Bool) (conn : RelayConn) (flow : Flow)
      (same : after = { state with
        engine := { state.engine with
          relay := if designated then
              Function.update state.engine.relay ref (some { relay with conn := some state.engine.allocated })
            else state.engine.relay
          conn := Function.update state.engine.conn state.engine.allocated (some conn)
          allocated := state.engine.allocated + 1 }
        flow := Function.update state.flow state.engine.allocated flow })
      (names : conn.relay = ref) (unset : ∀ side, conn.isClosed side = false)
      (shut : conn.closing = true → ∀ side, (conn.handle side).phase ≠ .open)
      (idle : flow.writes = [] ∧ flow.read = Flow.zero.read ∧ flow.accepted = Flow.zero.accepted ∧
        flow.written = Flow.zero.written)
      (calm : flow.pending = Flow.zero.pending ∧ flow.reading = Flow.zero.reading)
      (resolved : designated = true → env.ip4Addr = 0)
      (unresolved : designated = false → env.accept = 0 → env.ip4Addr ≠ 0 ∧ conn.closing = true)

theorem relayAdmit_effect (env : RelayEnv) (state : Forwarder) (ref : Nat) (relay : Relay) :
    AdmitEffect env state ref relay (relayAdmit env state ref relay) := by
  unfold relayAdmit
  simp only [Forwarder.setFlow, Forwarder.close, relayClose, Engine.setConn, Engine.setRelay, Function.update_self,
    Function.update_idem, Bool.false_eq_true, ↓reduceIte]
  split_ifs with memory inbound outbound accepted unresolved connected
  · exact .nothing rfl
  · exact .freed _ rfl rfl (by rintro ⟨⟩ <;> rfl) rfl (by rintro ⟨⟩ <;> rfl)
  · exact .freed _ rfl rfl (by rintro ⟨⟩ <;> rfl) rfl (by rintro ⟨⟩ <;> rfl)
  · exact .made false _ _ rfl rfl (by rintro ⟨⟩ <;> rfl) nofun ⟨rfl, rfl, rfl, rfl⟩ ⟨rfl, rfl⟩ nofun
      fun _ accept => absurd accept accepted
  · exact .made false _ _ rfl rfl (by rintro ⟨⟩ <;> rfl) (by rintro - ⟨⟩ <;> nofun) ⟨rfl, rfl, rfl, rfl⟩ ⟨rfl, rfl⟩ nofun
      fun _ _ => ⟨unresolved, rfl⟩
  · exact .made true _ _ rfl rfl (by rintro ⟨⟩ <;> rfl) (by rintro - ⟨⟩ <;> nofun) ⟨rfl, rfl, rfl, rfl⟩ ⟨rfl, rfl⟩
      (fun _ => by simpa using unresolved) nofun
  · exact .made true _ _ rfl rfl (by rintro ⟨⟩ <;> rfl) nofun ⟨rfl, rfl, rfl, rfl⟩ ⟨rfl, rfl⟩
      (fun _ => by simpa using unresolved) nofun

/-- What `relay_read_cb` does with the bytes it got from a side of a connection that
is not closing. -/
inductive ReadEffect (state : Forwarder) (ref : Nat) (side : RelaySide) (bytes : Bytes) (after : Forwarder) : Prop where
  | empty (none : bytes = []) (same : after = state)
  | refused (flow : Flow) (same : after = (state.setFlow ref flow).close ref)
      (rest : flow = { state.flow ref with
        read := Function.update (state.flow ref).read side ((state.flow ref).read side ++ bytes) })
  | forwarded (flow : Flow) (same : after = state.setFlow ref flow) (some : bytes ≠ [])
      (room : (state.flow ref).pending side.other + bytes.length ≤ portfwdMaxPendingBytes)
      (rest : flow = { state.flow ref with
        read := Function.update (state.flow ref).read side ((state.flow ref).read side ++ bytes)
        pending := Function.update (state.flow ref).pending side.other ((state.flow ref).pending side.other + bytes.length)
        writes := (state.flow ref).writes ++ [⟨side.other, bytes⟩]
        accepted := Function.update (state.flow ref).accepted side.other ((state.flow ref).accepted side.other ++ bytes) })

theorem relayReadCb_effect (env : RelayEnv) {state : Forwarder} {ref : Nat} {conn : RelayConn} (side : RelaySide)
    (bytes : Bytes) (found : state.engine.conn ref = some conn) (alive : conn.closing = false) :
    ReadEffect state ref side bytes (relayReadCb env (state.uvRead ref side bytes) ref side bytes) := by
  unfold relayReadCb
  split
  next none =>
    have none := List.length_eq_zero_iff.mp none
    refine .empty none ?_
    simp only [Forwarder.uvRead, none, List.append_nil, Function.update_eq_self, Forwarder.setFlow]
  next filled =>
    have nonempty : bytes ≠ [] := fun none => filled (by rw [none]; rfl)
    have held : (state.uvRead ref side bytes).engine.conn ref = some conn := found
    unfold relayForward
    split
    next absent =>
      rw [held] at absent
      cases absent
    next current same =>
      cases held.symm.trans same
      simp only [alive, filled, Bool.false_or, decide_false, Bool.false_eq_true, ↓reduceIte]
      split_ifs
      · exact .refused _ rfl rfl
      · exact .refused _ rfl rfl
      · exact .refused _ rfl rfl
      · exact .refused _ rfl rfl
      next room _ _ _ =>
        simp only [Forwarder.uvRead, Forwarder.setFlow_flow, Forwarder.setFlow_setFlow, Nat.not_lt] at room ⊢
        exact .forwarded _ rfl nonempty room rfl

/-- The flow after a write has completed. -/
structure FlowCompletes (flow : Flow) (write : RelayWrite) (after : Flow) : Prop where
  pending : after.pending = Function.update flow.pending write.dst
    (if write.bytes.length ≤ flow.pending write.dst then flow.pending write.dst - write.bytes.length
      else flow.pending write.dst)
  accepted : after.accepted = flow.accepted
  connected : after.connected = flow.connected
  reading : after.reading = flow.reading

/-- What `relay_write_cb` does. -/
inductive WriteEffect (state : Forwarder) (ref : Nat) (write : RelayWrite) (status : Int) (after : Forwarder) : Prop where
  | failed (flow : Flow) (same : after = (state.setFlow ref flow).close ref) (failure : status < 0)
      (writes : flow.writes = (state.flow ref).writes.erase write) (read : flow.read = (state.flow ref).read)
      (written : flow.written = (state.flow ref).written) (completes : FlowCompletes (state.flow ref) write flow)
  | done (flow : Flow) (same : after = state.setFlow ref flow) (success : 0 ≤ status)
      (writes : flow.writes = (state.flow ref).writes.erase write) (read : flow.read = (state.flow ref).read)
      (written : flow.written =
        Function.update (state.flow ref).written write.dst ((state.flow ref).written write.dst ++ write.bytes))
      (completes : FlowCompletes (state.flow ref) write flow)

theorem relayWriteCb_effect (state : Forwarder) (ref : Nat) (write : RelayWrite) (status : Int) :
    WriteEffect state ref write status (relayWriteCb (state.uvWritten ref write status) ref write status) := by
  simp only [relayWriteCb, Forwarder.uvWritten, Forwarder.setFlow_flow, Forwarder.setFlow_setFlow]
  split
  next failure => exact .failed _ rfl failure rfl rfl rfl ⟨rfl, rfl, rfl, rfl⟩
  next success => exact .done _ rfl (Int.not_lt.mp success) rfl rfl rfl ⟨rfl, rfl, rfl, rfl⟩

/-- What one step does to the connections and what goes through them. -/
inductive Moved (state next : Forwarder) : Prop where
  | shuts (closes : OnlyShuts state.engine next.engine) (flows : next.flow = state.flow)
  | admits {env : RelayEnv} (ref : Nat) (relay : Relay) (effect : AdmitEffect env state ref relay next)
  | connects (ref : Nat) (flow : Flow) (closes : OnlyShuts state.engine next.engine)
      (flows : next.flow = Function.update state.flow ref flow)
      (rest : flow = { state.flow ref with
        connecting := false, connected := flow.connected, reading := flow.reading })
      (opens : flow.connected .outbound = true ∨
        flow.connected = (state.flow ref).connected ∧ flow.reading = (state.flow ref).reading)
      (known : ∃ conn, state.engine.conn ref = some conn)
  | reads (env : RelayEnv) (ref : Nat) (conn : RelayConn) (side : RelaySide) (bytes : Bytes)
      (found : state.engine.conn ref = some conn) (opened : (conn.handle side).phase = .open)
      (same : next = relayReadCb env (state.uvRead ref side bytes) ref side bytes) (reading : (state.flow ref).reading side = true)
  | writes (ref : Nat) (conn : RelayConn) (write : RelayWrite) (status : Int)
      (found : state.engine.conn ref = some conn)
      (held : (conn.handle write.dst).phase = .open ∨ status < 0)
      (first : ((state.flow ref).writesTo write.dst).head? = some write)
      (same : next = relayWriteCb (state.uvWritten ref write status) ref write status)
  | finishes (ref : Nat) (conn : RelayConn) (side : RelaySide) (found : state.engine.conn ref = some conn)
      (closing : (conn.handle side).isClosing = true) (flows : next.flow = state.flow)
      (conns : next.engine.conn = Function.update state.engine.conn ref (some (conn.finish side)))
      (allocated : next.engine.allocated = state.engine.allocated)

theorem forwarder_step {state next : Forwarder} {input : RelayEvent × RelayEnv}
    (stepped : forwarder.step state input = some next) :
    state.enabled input.1 = true ∧ next = state.callback input.2 input.1 := by
  simp only [forwarder] at stepped
  split at stepped
  next enabled => exact ⟨enabled, (Option.some.inj stepped).symm⟩
  next => cases stepped

theorem reads_open {state : Forwarder} {ref : Nat} {side : RelaySide} (reads : state.reads ref side = true) :
    (state.flow ref).reading side = true ∧
      ∃ conn, state.engine.conn ref = some conn ∧ (conn.handle side).phase = .open := by
  simp only [Forwarder.reads, Bool.and_eq_true, Option.any_eq_true, beq_iff_eq] at reads
  exact reads

/-- How `relay_accept_cb` ends. -/
inductive AcceptEnding (env : RelayEnv) (state : Forwarder) (ref : Nat) : Forwarder → Prop where
  | ignored : AcceptEnding env state ref state
  | rejected : AcceptEnding env state ref { state with rejected := state.rejected + 1 }
  | admitted {relay : Relay} (found : state.engine.relay ref = some relay) (alive : relay.closing = false)
      (vacant : relay.conn = none) : AcceptEnding env state ref (relayAdmit env state ref relay)

theorem relayAcceptCb_ending (env : RelayEnv) (state : Forwarder) (ref : Nat) (status : Int) :
    AcceptEnding env state ref (relayAcceptCb env state ref status) := by
  unfold relayAcceptCb
  split
  · exact .ignored
  next relay found =>
    split_ifs with unusable taken
    · exact .ignored
    · unfold relayReject
      split
      · exact .rejected
      · exact .ignored
    · have alive : relay.closing = false := by simp at unusable; exact unusable.2
      exact .admitted found alive (by simpa using taken)

inductive FlowEnding (state : Forwarder) (ref : Nat) : Forwarder → Prop where
  | flows (flow : Flow) : FlowEnding state ref (state.setFlow ref flow)
  | closes (flow : Flow) : FlowEnding state ref ((state.setFlow ref flow).close ref)

private theorem relayConnectCb_ending (env : RelayEnv) (state : Forwarder) (ref : Nat) (status : Int) :
    FlowEnding state ref (relayConnectCb env (state.uvConnected ref) ref status) := by
  simp only [relayConnectCb, Forwarder.uvConnected, Forwarder.setFlow_flow, Forwarder.setFlow_setFlow]
  split
  · exact .closes _
  · exact .flows _

private theorem relayReadCb_ending (env : RelayEnv) (state : Forwarder) (ref : Nat) (side : RelaySide) (bytes : Bytes) :
    FlowEnding state ref (relayReadCb env (state.uvRead ref side bytes) ref side bytes) := by
  unfold relayReadCb
  split
  · exact .flows _
  · rcases relayForward_cases env (state.uvRead ref side bytes) ref side.other bytes with same | shut | ⟨flow, set⟩
    · rw [same]
      exact .flows _
    · rw [shut]
      exact .closes _
    · rw [set, Forwarder.uvRead, Forwarder.setFlow_setFlow]
      exact .flows _

private theorem relayWriteCb_ending (state : Forwarder) (ref : Nat) (write : RelayWrite) (status : Int) :
    FlowEnding state ref (relayWriteCb (state.uvWritten ref write status) ref write status) := by
  cases relayWriteCb_effect state ref write status with
  | failed flow same =>
    rw [same]
    exact .closes flow
  | done flow same =>
    rw [same]
    exact .flows flow

/-- How `relay_maybe_free` ends for a connection. -/
inductive FreeEnding (state : Forwarder) (ref : Nat) (conn : RelayConn) : Forwarder → Prop where
  | held : FreeEnding state ref conn state
  | orphaned (closed : ∀ side, conn.isClosed side = true) (gone : state.engine.relay conn.relay = none) :
      FreeEnding state ref conn { state with
        connReleased := Function.update state.connReleased ref true
        followed := state.followed ++ [⟨ref, conn.relay, state.relayReleased conn.relay⟩] }
  | freed {relay : Relay} (closed : ∀ side, conn.isClosed side = true) (home : state.engine.relay conn.relay = some relay) :
      FreeEnding state ref conn { state with
        engine := state.engine.setRelay conn.relay { relay with conn := none }
        connReleased := Function.update state.connReleased ref true
        followed := state.followed ++ [⟨ref, conn.relay, state.relayReleased conn.relay⟩] }

private theorem relayMaybeFree_ending {state : Forwarder} {ref : Nat} {conn : RelayConn}
    (found : state.engine.conn ref = some conn) :
    FreeEnding state ref conn (relayMaybeFree state ref) := by
  unfold relayMaybeFree
  simp only [found]
  split
  next both =>
    rw [Bool.and_eq_true] at both
    have closed : ∀ side, conn.isClosed side = true := by
      rintro ⟨⟩
      · exact both.1
      · exact both.2
    split
    next gone => exact .orphaned closed gone
    next home => exact .freed closed home
  next => exact .held

def sideFinished (state : Forwarder) (ref : Nat) (conn : RelayConn) (side : RelaySide) : Forwarder :=
  { state with engine := state.engine.setConn ref (conn.finish side) }

private theorem relayCloseCb_ending {state : Forwarder} {ref : Nat} {conn : RelayConn}
    (found : state.engine.conn ref = some conn)
    (side : RelaySide) :
    FreeEnding (sideFinished state ref conn side) ref (conn.finish side) (relayCloseCb state ref side) := by
  simp only [relayCloseCb, found]
  exact relayMaybeFree_ending (Function.update_self ..)

def BusyFlow (flow : Flow) : Prop := flow.connecting = true ∨ (∃ side, flow.reading side = true) ∨ flow.writes ≠ []

def listenerFinished (state : Forwarder) (ref : Nat) (relay : Relay) : Forwarder :=
  { state with
    engine := state.engine.setRelay ref { relay with listener := relay.listener.finish }
    relayReleased := Function.update state.relayReleased ref true }

/-- What one call or callback does to the relays and to their connections, the close
of a listener apart. -/
inductive RelayTurn (env : RelayEnv) (state : Forwarder) (event : RelayEvent) : Forwarder → Prop where
  | opens {engine : Engine} (registers : event.registers = true) (opens : Opens state.engine engine) :
      RelayTurn env state event { state with engine }
  | destroys (registers : event.registers = true) (chosen : Engine → Nat → Bool) (refs : List Nat) :
      RelayTurn env state event { state with engine := destroyAll chosen refs state.engine }
  | accepts {ref : Nat} {status : Int} {next : Forwarder} (asked : event = .incoming ref status)
      (ending : AcceptEnding env state ref next) : RelayTurn env state event next
  | transfers {ref : Nat} {next : Forwarder} (busy : BusyFlow (state.flow ref)) (ending : FlowEnding state ref next) :
      RelayTurn env state event next
  | closes {ref : Nat} {conn : RelayConn} {side : RelaySide} {next : Forwarder} (found : state.engine.conn ref = some conn)
      (closing : (conn.handle side).isClosing = true)
      (ending : FreeEnding (sideFinished state ref conn side) ref (conn.finish side) next) : RelayTurn env state event next
  | forgets : RelayTurn env state event { state with rejected := state.rejected - 1 }

theorem callback_turn (env : RelayEnv) {state : Forwarder} {event : RelayEvent} (enabled : state.enabled event = true) :
    (∃ ref relay, event = .listenerClosed ref ∧ state.engine.relay ref = some relay ∧ relay.listener.isClosing = true ∧
      state.callback env event = listenerFinished state ref relay) ∨ RelayTurn env state event (state.callback env event) := by
  have ended {ref : Nat} {side : RelaySide} {event : RelayEvent} (reads : state.reads ref side = true) :
      RelayTurn env state event (state.close ref) := by
    have closes : FlowEnding state ref ((state.setFlow ref (state.flow ref)).close ref) := .closes _
    rw [Forwarder.setFlow_self] at closes
    exact .transfers (.inr (.inl ⟨side, (reads_open reads).1⟩)) closes
  cases event with
  | «open» sessionId listenHost listenPort targetHost targetPort =>
    exact .inr (.opens rfl (relayOpen_opens env.setup state.engine sessionId listenHost listenPort targetHost targetPort))
  | close relayId =>
    simp only [Forwarder.callback]
    split
    · exact .inr (.destroys rfl (fun _ _ => true) [])
    next ref _ _ => exact .inr (.destroys rfl (fun _ _ => true) [ref])
  | closeSession sessionId => exact .inr (.destroys rfl (fun engine ref => engine.ownedBy sessionId ref) _)
  | closeEngine => exact .inr (.destroys rfl (fun _ _ => true) _)
  | incoming ref status => exact .inr (.accepts rfl (relayAcceptCb_ending env state ref status))
  | connected ref status =>
    simp only [Forwarder.enabled, Bool.and_eq_true] at enabled
    exact .inr (.transfers (.inl enabled.1) (relayConnectCb_ending env state ref status))
  | read ref side bytes =>
    exact .inr (.transfers (.inr (.inl ⟨side, (reads_open enabled).1⟩)) (relayReadCb_ending env state ref side bytes))
  | ended ref side | readFailed ref side => exact .inr (ended enabled)
  | written ref write status =>
    simp only [Forwarder.enabled, Bool.and_eq_true] at enabled
    have pending : (state.flow ref).writes ≠ [] := fun none => by
      simp [Flow.writesTo, none] at enabled
    exact .inr (.transfers (.inr (.inr pending)) (relayWriteCb_ending state ref write status))
  | listenerClosed ref =>
    obtain ⟨relay, found, closing⟩ := (Option.any_eq_true _ _).mp enabled
    refine .inl ⟨ref, relay, rfl, found, closing, ?_⟩
    simp only [Forwarder.callback, relayListenerClosedCb, found]
    rfl
  | sideClosed ref side =>
    simp only [Forwarder.enabled, Bool.and_eq_true] at enabled
    obtain ⟨conn, found, closing⟩ := (Option.any_eq_true _ _).mp enabled.1.1
    exact .inr (.closes found closing (relayCloseCb_ending found side))
  | rejectClosed => exact .inr .forgets

theorem forwarder_moved {state next : Forwarder} {input : RelayEvent × RelayEnv}
    (stepped : forwarder.step state input = some next) : Moved state next := by
  obtain ⟨event, env⟩ := input
  obtain ⟨enabled, rfl⟩ := forwarder_step stepped
  cases event with
  | «open» sessionId listenHost listenPort targetHost targetPort => exact .shuts (.open _ _ _ _ _ _ _) rfl
  | close relayId =>
    simp only [Forwarder.callback]
    split
    · exact .shuts (.of_eq rfl (Nat.le_refl _)) rfl
    · exact .shuts (.destroy _ _) rfl
  | closeSession sessionId => exact .shuts (.destroyAll (fun engine ref => engine.ownedBy sessionId ref) _ _) rfl
  | closeEngine => exact .shuts (.destroyAll (fun _ _ => true) _ _) rfl
  | incoming ref status =>
    have ending := relayAcceptCb_ending env state ref status
    simp only [Forwarder.callback]
    generalize relayAcceptCb env state ref status = next at ending ⊢
    cases ending with
    | ignored | rejected => exact .shuts (.of_eq rfl (Nat.le_refl _)) rfl
    | admitted => exact .admits ref _ (relayAdmit_effect env state ref _)
  | connected ref status =>
    simp only [Forwarder.enabled, Bool.and_eq_true, Option.any_eq_true] at enabled
    obtain ⟨_, conn, found, _⟩ := enabled
    simp only [Forwarder.callback, relayConnectCb, Forwarder.uvConnected, Forwarder.setFlow_flow, Forwarder.setFlow_setFlow]
    split
    · exact .connects ref _ (.close state.engine ref) rfl rfl (.inr ⟨rfl, rfl⟩) ⟨conn, found⟩
    · exact .connects ref _ (.of_eq rfl (Nat.le_refl _)) rfl rfl (.inl rfl) ⟨conn, found⟩
  | read ref side bytes =>
    obtain ⟨reading, conn, found, opened⟩ := reads_open enabled
    exact .reads env ref conn side bytes found opened rfl reading
  | ended ref side => exact .shuts (.close state.engine ref) rfl
  | readFailed ref side => exact .shuts (.close state.engine ref) rfl
  | written ref write status =>
    simp only [Forwarder.enabled, Bool.and_eq_true, beq_iff_eq, Option.any_eq_true, Bool.or_eq_true,
      decide_eq_true_eq] at enabled
    obtain ⟨first, conn, found, held⟩ := enabled
    exact .writes ref conn write status found (held.imp_right (·.2)) first rfl
  | listenerClosed ref =>
    simp only [Forwarder.callback, relayListenerClosedCb]
    split <;> exact .shuts (.of_eq rfl (Nat.le_refl _)) rfl
  | sideClosed ref side =>
    simp only [Forwarder.enabled, Bool.and_eq_true, Option.any_eq_true] at enabled
    obtain ⟨⟨⟨conn, found, closing⟩, _⟩, _⟩ := enabled
    have ending := relayCloseCb_ending found side
    simp only [Forwarder.callback]
    generalize relayCloseCb state ref side = next at ending ⊢
    cases ending <;> exact .finishes ref conn side found closing rfl rfl rfl
  | rejectClosed => exact .shuts (.of_eq rfl (Nat.le_refl _)) rfl

end Luagent.Proofs
