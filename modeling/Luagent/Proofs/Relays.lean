import Luagent.Proofs.RelaySteps
import Luagent.Proofs.SessionSteps

/-! The registry of relays: the list holds exactly the relays that were not
destroyed, so that closing a session destroys all of its own. -/

namespace Luagent.Proofs
open Foundation

/-- The list and the relays agree. -/
structure Registry (engine : Engine) : Prop where
  listed : ∀ ref relay, engine.relay ref = some relay → relay.closing = false → ref ∈ engine.relays
  usable : ∀ ref ∈ engine.relays, ∃ relay, engine.relay ref = some relay ∧ relay.closing = false
  distinct : engine.relays.Nodup
  numbered : ∀ ref, engine.allocated ≤ ref → engine.relay ref = none

theorem registry_init : Registry portfwdEngineInit := ⟨by simp [portfwdEngineInit], by simp [portfwdEngineInit],
  by simp [portfwdEngineInit], fun _ _ => rfl⟩

theorem relayClose_same (engine : Engine) (ref : Nat) :
    (relayClose engine ref).relay = engine.relay ∧ (relayClose engine ref).relays = engine.relays ∧
      (relayClose engine ref).allocated = engine.allocated ∧ (relayClose engine ref).nextRelayId = engine.nextRelayId := by
  unfold relayClose
  split
  · exact ⟨rfl, rfl, rfl, rfl⟩
  · split <;> exact ⟨rfl, rfl, rfl, rfl⟩

/-- What destroying does: nothing to a relay that is not there or already going,
and else the relay is closing and off the list. -/
inductive DestroyEffect (engine : Engine) (ref : Nat) (after : Engine) : Prop where
  | nothing (gone : ∀ relay, engine.relay ref = some relay → relay.closing = true) (same : after = engine)
  | destroyed (relay dead : Relay) (found : engine.relay ref = some relay) (owner : dead.owner = relay.owner)
      (closing : dead.closing = true) (relays : after.relay = Function.update engine.relay ref (some dead))
      (list : after.relays = engine.relays.erase ref) (allocated : after.allocated = engine.allocated)
      (alive : relay.closing = false) (relayId : dead.relayId = relay.relayId)
      (listener : dead.listener = relay.listener.close true) (nextRelayId : after.nextRelayId = engine.nextRelayId)

theorem relayDestroy_effect (engine : Engine) (ref : Nat) : DestroyEffect engine ref (relayDestroy engine ref) := by
  unfold relayDestroy
  split
  next absent => exact .nothing (fun relay found => by rw [absent] at found; cases found) rfl
  next relay found =>
    split
    next closing =>
      refine .nothing (fun other same => ?_) rfl
      cases found.symm.trans same
      exact closing
    next usable =>
      have alive := eq_false_of_ne_true usable
      cases relay.conn with
      | none =>
        exact .destroyed relay { relay with closing := true, conn := none, listener := relay.listener.close true }
          found rfl rfl rfl rfl rfl alive rfl rfl rfl
      | some conn =>
        obtain ⟨same, list, allocated, nextRelayId⟩ := relayClose_same engine conn
        refine .destroyed relay { relay with closing := true, conn := none, listener := relay.listener.close true }
          found rfl rfl ?_ ?_ allocated alive rfl rfl nextRelayId
        · simp only [relayRemove, Engine.setRelay, same]
        · simp only [relayRemove, Engine.setRelay, list]

theorem Registry.destroyed {engine : Engine} (registry : Registry engine) (ref : Nat) :
    Registry (relayDestroy engine ref) := by
  cases relayDestroy_effect engine ref with
  | nothing _ same => rw [same]; exact registry
  | destroyed relay dead found _ closing relays list allocated =>
    refine ⟨fun other current held usable => ?_, fun other member => ?_, ?_, fun other fresh => ?_⟩
    · rw [relays] at held
      by_cases same : other = ref
      · subst same
        rw [Function.update_self] at held
        cases held
        rw [closing] at usable
        cases usable
      · rw [Function.update_of_ne same] at held
        rw [list]
        exact (List.mem_erase_of_ne same).mpr (registry.listed other current held usable)
    · rw [list, registry.distinct.mem_erase_iff] at member
      rw [relays, Function.update_of_ne member.1]
      exact registry.usable other member.2
    · rw [list]
      exact registry.distinct.erase ref
    · have different : other ≠ ref := by
        rintro rfl
        rw [registry.numbered other (allocated ▸ fresh)] at found
        cases found
      rw [relays, Function.update_of_ne different]
      exact registry.numbered other (allocated ▸ fresh)

/-- A relay that is added at the next number. -/
theorem Registry.added {engine after : Engine} (registry : Registry engine) {relay : Relay}
    (relays : after.relay = Function.update engine.relay engine.allocated (some relay))
    (list : after.relays = if relay.closing then engine.relays else engine.allocated :: engine.relays)
    (allocated : after.allocated = engine.allocated + 1) : Registry after := by
  have unlisted : engine.allocated ∉ engine.relays := fun member => by
    obtain ⟨other, found, _⟩ := registry.usable _ member
    rw [registry.numbered _ (Nat.le_refl _)] at found
    cases found
  have inside : ∀ ref, ref ∈ engine.relays → ref ∈ after.relays := by
    intro ref member
    rw [list]
    split
    · exact member
    · exact List.mem_cons_of_mem _ member
  refine ⟨fun ref current held usable => ?_, fun ref member => ?_, ?_, fun ref fresh => ?_⟩
  · rw [relays] at held
    by_cases same : ref = engine.allocated
    · subst same
      rw [Function.update_self] at held
      cases held
      rw [list, usable]
      exact List.mem_cons_self
    · rw [Function.update_of_ne same] at held
      exact inside ref (registry.listed ref current held usable)
  · by_cases same : ref = engine.allocated
    · subst same
      refine ⟨relay, by rw [relays, Function.update_self], ?_⟩
      rw [list] at member
      split at member
      · exact absurd member unlisted
      next usable => simpa using usable
    · rw [relays, Function.update_of_ne same]
      refine registry.usable ref ?_
      rw [list] at member
      split at member
      · exact member
      · exact (List.mem_cons.mp member).resolve_left same
  · rw [list]
    split
    · exact registry.distinct
    · exact registry.distinct.cons unlisted
  · rw [relays, Function.update_of_ne (by omega)]
    exact registry.numbered ref (by omega)

theorem Registry.opened {engine : Engine} (registry : Registry engine) (env : Env) (sessionId : Nat) (listenHost : Bytes)
    (listenPort : UInt16) (targetHost : Bytes) (targetPort : UInt16) :
    Registry (relayOpen env engine sessionId listenHost listenPort targetHost targetPort).1 := by
  cases relayOpen_opens env engine sessionId listenHost listenPort targetHost targetPort with
  | nothing same =>
    rw [same]
    exact registry
  | numbered same =>
    rw [same]
    exact ⟨registry.listed, registry.usable, registry.distinct, registry.numbered⟩
  | added relay relays same list =>
    rw [same]
    exact registry.added rfl list rfl

/-- The relay with this number, if the session owns it, is destroyed. -/
def Destroyed (engine : Engine) (sessionId ref : Nat) : Prop :=
  ∀ relay, engine.relay ref = some relay → relay.owner = sessionId → relay.closing = true

theorem Destroyed.kept {engine : Engine} {sessionId ref : Nat} (destroyed : Destroyed engine sessionId ref)
    (other : Nat) : Destroyed (relayDestroy engine other) sessionId ref := by
  cases relayDestroy_effect engine other with
  | nothing _ same => rw [same]; exact destroyed
  | destroyed relay dead found owner closing relays =>
    intro current held owned
    rw [relays] at held
    by_cases same : ref = other
    · subst same
      rw [Function.update_self] at held
      cases held
      exact closing
    · rw [Function.update_of_ne same] at held
      exact destroyed current held owned

private theorem destroyed_self (engine : Engine) (sessionId ref : Nat) :
    Destroyed (relayDestroy engine ref) sessionId ref := by
  cases relayDestroy_effect engine ref with
  | nothing gone same =>
    rw [same]
    exact fun relay found _ => gone relay found
  | destroyed relay dead found owner closing relays =>
    intro current held _
    rw [relays, Function.update_self] at held
    cases held
    exact closing

def destroyOwned (sessionId : Nat) (engine : Engine) (ref : Nat) : Engine :=
  if engine.ownedBy sessionId ref then relayDestroy engine ref else engine

private theorem destroyOwned_self (engine : Engine) (sessionId ref : Nat) :
    Destroyed (destroyOwned sessionId engine ref) sessionId ref := by
  unfold destroyOwned
  split
  · exact destroyed_self engine sessionId ref
  next foreign =>
    intro relay found owned
    exact absurd (by simp [Engine.ownedBy, found, owned]) foreign

theorem Destroyed.kept_owned {engine : Engine} {sessionId ref : Nat} (destroyed : Destroyed engine sessionId ref)
    (other : Nat) : Destroyed (destroyOwned sessionId engine other) sessionId ref := by
  unfold destroyOwned
  split
  · exact destroyed.kept other
  · exact destroyed

private theorem loop_destroys (sessionId : Nat) (refs : List Nat) (engine : Engine) {ref : Nat}
    (passes : ref ∈ refs ∨ Destroyed engine sessionId ref) :
    Destroyed (refs.foldl (destroyOwned sessionId) engine) sessionId ref := by
  induction refs generalizing engine with
  | nil => exact passes.resolve_left (by simp)
  | cons first rest ih =>
    apply ih
    rcases passes with member | destroyed
    · rcases List.mem_cons.mp member with rfl | later
      · exact .inr (destroyOwned_self engine sessionId ref)
      · exact .inl later
    · exact .inr (destroyed.kept_owned first)

private theorem registry_loop (sessionId : Nat) (refs : List Nat) {engine : Engine} (registry : Registry engine) :
    Registry (refs.foldl (destroyOwned sessionId) engine) := by
  refine List.foldlRecOn refs _ registry fun engine registry ref _ => ?_
  unfold destroyOwned
  split
  · exact registry.destroyed ref
  · exact registry

theorem Registry.closedSession {engine : Engine} (registry : Registry engine) (sessionId : Nat) :
    Registry (portfwdCloseSession engine sessionId) := registry_loop sessionId engine.relays registry

theorem Registry.allDestroyed {engine : Engine} (registry : Registry engine) (sessionId ref : Nat) :
    Destroyed (portfwdCloseSession engine sessionId) sessionId ref := by
  refine loop_destroys sessionId engine.relays engine ?_
  by_cases member : ref ∈ engine.relays
  · exact .inl member
  · refine .inr fun relay found _ => ?_
    by_contra usable
    exact member (registry.listed ref relay found (by simpa using usable))

/-- The engine as earlier sessions can have left it. -/
inductive Reached : Engine → Prop where
  | init : Reached portfwdEngineInit
  | opened {engine : Engine} (env : Env) (sessionId : Nat) (listenHost : Bytes) (listenPort : UInt16)
      (targetHost : Bytes) (targetPort : UInt16) (before : Reached engine) :
      Reached (relayOpen env engine sessionId listenHost listenPort targetHost targetPort).1
  | destroyed {engine : Engine} (ref : Nat) (before : Reached engine) : Reached (relayDestroy engine ref)

theorem Reached.registry {engine : Engine} (reached : Reached engine) : Registry engine := by
  induction reached with
  | init => exact registry_init
  | opened env sessionId listenHost listenPort targetHost targetPort _ registry =>
    exact registry.opened env sessionId listenHost listenPort targetHost targetPort
  | destroyed ref _ registry => exact registry.destroyed ref

structure KeepsRelays (before after : World) : Prop where
  registry : Registry before.engine → Registry after.engine
  sessionId : after.sessionId = before.sessionId

namespace KeepsRelays
variable {before middle after : World}

theorem trans (first : KeepsRelays before middle) (second : KeepsRelays middle after) : KeepsRelays before after :=
  ⟨fun registry => second.registry (first.registry registry), second.sessionId.trans first.sessionId⟩

theorem of_engine (engine : after.engine = before.engine) (sessionId : after.sessionId = before.sessionId) :
    KeepsRelays before after := ⟨fun registry => engine ▸ registry, sessionId⟩

theorem of_sameRest (same : SameRest before after) : KeepsRelays before after := of_engine same.engine same.sessionId

end KeepsRelays

private theorem op_keepsRelays {env : Env} {op : Op} {before after : World} (effect : OpEffect env op before after) :
    KeepsRelays before (after.recordOp op) := by
  cases effect with
  | nothing => exact .of_engine rfl rfl
  | opened listenHost listenPort targetHost targetPort => exact ⟨fun registry => registry.opened .., rfl⟩
  | closed relayId =>
    have ending := portClose_ending before relayId
    generalize portfwdClose before relayId = result at ending ⊢
    cases ending with
    | unknown => exact .of_engine rfl rfl
    | destroyed => exact ⟨fun registry => registry.destroyed _, rfl⟩
  | spawned =>
    have rest := spawn_rest env before 0
    exact .of_engine (rest ..).2.1 (rest ..).2.2

private theorem perform_keepsRelays (env : Env) (world : World) (action : Action) (idle : world.download = transferInit) :
    KeepsRelays world (perform env world action) := by
  cases action with
  | received | badHeader | overflow | hangup => exact .of_engine rfl rfl
  | dispatch message =>
    have counted : KeepsRelays world (world.countFrame message) := .of_engine rfl rfl
    have effect := control_effect env (world.countFrame message) message
    simp only [perform]
    generalize protocolHandleControl env (world.countFrame message) message = result at effect
    cases effect with
    | chunk => exact counted.trans (.of_sameRest (putChunk_sameRest ..))
    | ended => exact counted.trans (.of_sameRest (putEnd_sameRest ..))
    | text _ effect =>
      generalize result.1 = after at effect
      cases effect with
      | talked talks => exact counted.trans (.of_sameRest talks.sameRest)
      | operated _ _ effect talks => exact counted.trans ((op_keepsRelays effect).trans (.of_sameRest talks.sameRest))
      | began => exact counted.trans (.of_sameRest (putBegin_sameRest ..))
      | downloaded => exact counted.trans (.of_sameRest (getBegin_effect env (world.countFrame message) _ _ idle).2)
      | spawned _ path args timeoutMs idleTimeoutMs =>
        have rest := spawn_rest env (world.countFrame message) message.reqId path args timeoutMs idleTimeoutMs true
        exact counted.trans (.of_engine rest.2.1 rest.2.2)
      | killed _ _ kill talks =>
        subst kill
        exact .trans (by exact .of_engine rfl rfl) (.of_sameRest talks.sameRest)

private theorem tick_keepsRelays (env : Env) (world : World) (idle : world.download = transferInit) :
    KeepsRelays world (heartbeatCb env world) := by
  have checked : ∀ middle : World, KeepsRelays middle (procCheckTimeouts env middle) := by
    intro middle
    have ending := checkTimeouts_ending env middle
    generalize procCheckTimeouts env middle = next at ending ⊢
    cases ending <;> exact .of_engine rfl rfl
  cases tick_step env idle with
  | closed _ same => exact .of_engine (by rw [same]) (by rw [same])
  | idle _ _ shut => exact .of_engine (by rw [shut]; rfl) (by rw [shut]; rfl)
  | checked _ _ middle _ rest timed =>
    rw [timed]
    exact .trans (.of_sameRest rest) (checked middle)

theorem setHandle_keepsRelays (world : World) (name : SessionHandle) (handle : Handle) :
    KeepsRelays world (world.setHandle name handle) := by
  cases name <;> exact .of_engine rfl rfl

theorem callback_keepsRelays (env : Env) (world : World) (event : Event) (idle : world.download = transferInit) :
    KeepsRelays world (callback env world event) := by
  cases event with
  | read action => exact perform_keepsRelays env world action idle
  | tick => exact tick_keepsRelays env world idle
  | written | exited | output | ended => exact .of_engine rfl rfl
  | closed name =>
    have ending := closeCb_ending env world name
    simp only [callback]
    generalize closeCb env world name = next at ending ⊢
    cases ending with
    | plain _ shut | dropped _ shut =>
      cases shut
      exact .of_engine rfl rfl
    | released _ shut =>
      cases shut
      exact ⟨fun registry => registry.closedSession _, rfl⟩

end Luagent.Proofs
