import Luagent.Proofs.Balance

/-! The relays of the whole agent. For them, whatever all the sessions do is a run of
`registrar`: only sessions that were not released open relays, and those of a released
session are closed. -/

namespace Luagent.Proofs.ServerRelays
open Foundation Balance

/-- What a callback for a session asks of the relays. -/
inductive AsksRelays (env : Env) (before after : World) : Prop where
  | nothing (engine : after.engine = before.engine) (released : after.released = before.released)
  | opens (listenHost : Bytes) (listenPort : UInt16) (targetHost : Bytes) (targetPort : UInt16)
      (engine : after.engine = (relayOpen env before.engine before.sessionId listenHost listenPort targetHost targetPort).1)
      (released : after.released = before.released)
  | closes (relayId : UInt32)
      (engine : after.engine = match before.engine.findRelay relayId with
        | none => before.engine
        | some (ref, _) => relayDestroy before.engine ref)
      (released : after.released = before.released)
  | leaves (engine : after.engine = portfwdCloseSession before.engine before.sessionId)
      (released : after.released = before.released + 1)

namespace AsksRelays
variable {env : Env} {before middle after : World}

theorem of_sameRest (same : SameRest before after) : AsksRelays env before after := .nothing same.engine same.released

theorem behind (engine : middle.engine = before.engine) (released : middle.released = before.released)
    (sessionId : middle.sessionId = before.sessionId) (asks : AsksRelays env middle after) : AsksRelays env before after := by
  cases asks with
  | nothing same kept => exact .nothing (same.trans engine) (kept.trans released)
  | opens listenHost listenPort targetHost targetPort same kept =>
    exact .opens listenHost listenPort targetHost targetPort (by rw [same, engine, sessionId]) (kept.trans released)
  | closes relayId same kept => exact .closes relayId (by rw [same, engine]) (kept.trans released)
  | leaves same gone => exact .leaves (by rw [same, engine, sessionId]) (by rw [gone, released])

theorem then_same (asks : AsksRelays env before middle) (same : SameRest middle after) : AsksRelays env before after := by
  cases asks with
  | nothing engine kept => exact .nothing (same.engine.trans engine) (same.released.trans kept)
  | opens listenHost listenPort targetHost targetPort engine kept =>
    exact .opens listenHost listenPort targetHost targetPort (same.engine.trans engine) (same.released.trans kept)
  | closes relayId engine kept => exact .closes relayId (same.engine.trans engine) (same.released.trans kept)
  | leaves engine gone => exact .leaves (same.engine.trans engine) (same.released.trans gone)

end AsksRelays

private theorem op_asks {env : Env} {op : Op} {before after : World} (effect : OpEffect env op before after) :
    AsksRelays env before (after.recordOp op) := by
  cases effect with
  | nothing => exact .nothing rfl rfl
  | opened listenHost listenPort targetHost targetPort => exact .opens listenHost listenPort targetHost targetPort rfl rfl
  | closed relayId =>
    have ending := portClose_ending before relayId
    generalize portfwdClose before relayId = result at ending ⊢
    cases ending with
    | unknown unknown => exact .closes relayId (by simp only [World.recordOp, unknown]) rfl
    | destroyed found => exact .closes relayId (by simp only [World.recordOp, found]) rfl
  | spawned _ path args timeoutMs idleTimeoutMs =>
    have rest := spawn_rest env before 0 path args timeoutMs idleTimeoutMs false
    exact .nothing rest.2.1 rest.1

section callbacks
variable (env : Env) (world : World)

private theorem perform_asks (action : Action) (idle : world.download = transferInit) :
    AsksRelays env world (perform env world action) := by
  cases action with
  | received | badHeader | overflow | hangup => exact .nothing rfl rfl
  | dispatch message =>
    refine @AsksRelays.behind env world (world.countFrame message) _ rfl rfl rfl ?_
    have effect := control_effect env (world.countFrame message) message
    simp only [perform]
    generalize protocolHandleControl env (world.countFrame message) message = result at effect
    cases effect with
    | chunk => exact .of_sameRest (putChunk_sameRest ..)
    | ended => exact .of_sameRest (putEnd_sameRest ..)
    | text _ effect =>
      generalize result.1 = after at effect
      cases effect with
      | talked talks => exact .of_sameRest talks.sameRest
      | operated _ _ effect talks => exact (op_asks effect).then_same talks.sameRest
      | began => exact .of_sameRest (putBegin_sameRest ..)
      | downloaded => exact .of_sameRest (getBegin_effect env (world.countFrame message) _ _ idle).2
      | spawned _ path args timeoutMs idleTimeoutMs =>
        have rest := spawn_rest env (world.countFrame message) message.reqId path args timeoutMs idleTimeoutMs true
        exact .nothing rest.2.1 rest.1
      | killed _ _ kill talks =>
        subst kill
        exact .then_same (by exact .nothing rfl rfl) talks.sameRest

private theorem tick_asks (idle : world.download = transferInit) : AsksRelays env world (heartbeatCb env world) := by
  cases tick_step env idle with
  | closed _ same => exact .nothing (by rw [same]) (by rw [same])
  | idle _ _ shut => exact .nothing (by rw [shut]; rfl) (by rw [shut]; rfl)
  | checked _ _ middle _ rest timed =>
    rw [timed]
    refine .behind rest.engine rest.released rest.sessionId ?_
    have ending := checkTimeouts_ending env middle
    generalize procCheckTimeouts env middle = checked at ending ⊢
    cases ending <;> exact .nothing rfl rfl

private theorem callback_asks (event : Event) (idle : world.download = transferInit) :
    AsksRelays env world (callback env world event) := by
  cases event with
  | read action => exact perform_asks env world action idle
  | tick => exact tick_asks env world idle
  | written | exited | output | ended => exact .nothing rfl rfl
  | closed name =>
    have ending := closeCb_ending env world name
    simp only [callback]
    generalize closeCb env world name = next at ending ⊢
    cases ending with
    | plain _ shut | dropped _ shut =>
      cases shut
      exact .nothing rfl rfl
    | released _ shut =>
      cases shut
      exact .leaves rfl rfl

end callbacks

structure Tracks (state : ServerState) (registry : Registrar) : Prop where
  forwarder : registry.forwarder = state.forwarder
  released : ∀ id, registry.released id = true → id < state.nextSessionId ∧ state.session id = none

private theorem tracks_start (fs : FileSystem) : Tracks (.start fs) .start where
  forwarder := rfl
  released _ gone := by cases gone

section steps
variable {state : ServerState} {registry : Registrar}

theorem Tracks.live (tracks : Tracks state registry) {id : Nat} {session : Session}
    (found : state.session id = some session) :
    registry.released id = false := by
  refine eq_false_of_ne_true fun gone => ?_
  cases found.symm.trans (tracks.released id gone).2

theorem Tracks.connect (tracks : Tracks state registry) {env : Env} : Tracks (state.connect env) registry := by
  refine ⟨tracks.forwarder.trans ?_, fun id gone => ?_⟩
  · unfold ServerState.connect
    simp only
    split <;> rfl
  · obtain ⟨inside, none⟩ := tracks.released id gone
    cases connect_connects state env with
    | refused session _ _ nextSessionId =>
      rw [session]
      exact ⟨by omega, none⟩
    | accepted start _ session _ _ nextSessionId =>
      rw [session, nextSessionId, Function.update_of_ne (Nat.ne_of_lt inside)]
      exact ⟨Nat.lt_succ_of_lt inside, none⟩

/-- The agent after a callback whose calls the registry has made. -/
theorem Tracks.after (tracks : Tracks state registry) {id : Nat} {session : Session} {next : World} {later : Registrar}
    (found : state.session id = some session) (forwarder : later.forwarder = { registry.forwarder with engine := next.engine })
    (released : ∀ other, later.released other = true → registry.released other = true ∨
      other = id ∧ id < state.nextSessionId ∧ next.released ≠ 0) : Tracks (state.after id next) later := by
  refine ⟨by rw [forwarder, tracks.forwarder]; rfl, fun other gone => ?_⟩
  rcases released other gone with before | ⟨rfl, inside, left⟩
  · obtain ⟨inside, none⟩ := tracks.released other before
    have different : other ≠ id := by
      rintro rfl
      cases found.symm.trans none
    exact ⟨inside, by simp only [ServerState.after, if_neg different, none, Option.map_none]⟩
  · exact ⟨inside, by simp only [ServerState.after, if_true, World.survivor, if_neg left]⟩

private theorem session_tracked {id : Nat} {session : Session} {event : Event} {env : Env} {next : World}
    (kept : Kept state)
    (tracks : Tracks state registry) (found : state.session id = some session)
    (stepped : agent.step (state.world id session) (event, env) = some next) :
    ∃ calls later, registrar.run registry calls = some later ∧ Tracks (state.after id next) later := by
  obtain ⟨sound, sessionId⟩ := kept.sound id session found
  have inside : id < state.nextSessionId := by
    by_contra outside
    cases found.symm.trans (kept.numbered id (Nat.le_of_not_lt outside))
  have live := tracks.live found
  have engine : (state.world id session).engine = registry.engine := congrArg Forwarder.engine tracks.forwarder.symm
  have number : (state.world id session).sessionId = id := sessionId
  have asks : AsksRelays env (state.world id session) next := by
    rw [(agent_step stepped).2]
    exact (callback_asks env (state.world id session) event sound.download).then_same { life := .refl _ }
  cases asks with
  | nothing same _ =>
    refine ⟨[], registry, rfl, tracks.after found ?_ fun _ => .inl⟩
    rw [same, engine]
    rfl
  | opens listenHost listenPort targetHost targetPort opened _ =>
    refine ⟨[(.relay (.open id listenHost listenPort targetHost targetPort), { setup := env })], _,
      (registrar.run_singleton ..).trans (if_pos (by simp [Registrar.enabled, live])), tracks.after found ?_ fun _ => .inl⟩
    rw [opened, number, engine]
    rfl
  | closes relayId closed _ =>
    have step : registrar.step registry (.relay (.close relayId), {}) = some (registry.callback {} (.relay (.close relayId))) := rfl
    refine ⟨[(.relay (.close relayId), {})], _, (registrar.run_singleton ..).trans step, tracks.after found ?_ fun _ => .inl⟩
    rw [closed, engine]
    simp only [Registrar.callback, Forwarder.callback, Registrar.engine]
    cases registry.forwarder.engine.findRelay relayId <;> rfl
  | leaves closed gone =>
    refine ⟨[(.release id, {})], _, (registrar.run_singleton ..).trans (if_pos (by simp [Registrar.enabled, live])),
      tracks.after found ?_ fun other left => ?_⟩
    · rw [closed, number, engine]
      rfl
    · by_cases same : other = id
      · exact .inr ⟨same, inside, by rw [gone]; exact Nat.succ_ne_zero _⟩
      · exact .inl ((Function.update_of_ne same ..).symm.trans left)

private theorem server_tracked {event : ServerEvent} {next : ServerState} (kept : Kept state)
    (tracks : Tracks state registry)
    (stepped : server.step state event = some next) :
    ∃ calls later, registrar.run registry calls = some later ∧ Tracks next later := by
  cases event with
  | connect env =>
    cases stepped
    exact ⟨[], registry, rfl, tracks.connect⟩
  | session id event env =>
    obtain ⟨session, found, stepped⟩ := Option.bind_eq_some_iff.mp stepped
    obtain ⟨left, handled, rfl⟩ := Option.map_eq_some_iff.mp stepped
    exact session_tracked kept tracks found handled
  | relay event env =>
    simp only [server] at stepped
    split at stepped
    next both =>
      cases stepped
      simp only [Bool.and_eq_true, Bool.not_eq_true'] at both
      have enabled : registry.enabled (.relay event) = true := by
        have allowed := both.2
        rw [← tracks.forwarder] at allowed
        cases event with
        | «open» => cases both.1
        | _ => exact allowed
      refine ⟨[(.relay event, env)], _, (registrar.run_singleton ..).trans (if_pos enabled), ?_, tracks.released⟩
      simp only [Registrar.callback, tracks.forwarder]
    next => cases stepped

end steps

/-- Whatever all sessions of the agent do, and in whatever order, for the relays it is a
run of the registry in which only sessions that were not released make calls. So the
owner of a relay that is not being closed, which `relay_accept_cb` and `portfwd_close`
look at, is never a session that was released. -/
theorem server_refines_registrar {fs : FileSystem} {history : List ServerEvent} {state : ServerState}
    (executed : server.run (.start fs) history = some state) :
    (∃ calls registry, registrar.run .start calls = some registry ∧ registry.forwarder = state.forwarder ∧
      ∀ id session, state.session id = some session → registry.released id = false) ∧
    ∀ ref relay, state.engine.relay ref = some relay → relay.closing = false →
      ref ∈ state.engine.relays ∧ ∃ session, state.session relay.owner = some session := by
  have initially : Kept (.start fs) ∧ Tracks (.start fs) .start := ⟨(start_followed fs).kept, tracks_start fs⟩
  have simulated := server.simulated registrar (fun state registry => Kept state ∧ Tracks state registry) initially ?_ executed
  · obtain ⟨calls, registry, reached, kept, tracks⟩ := simulated
    refine ⟨⟨calls, registry, reached, tracks.forwarder, fun _ _ found => tracks.live found⟩, fun ref relay held usable => ?_⟩
    have listed := kept.inOrder.registry.listed ref relay held usable
    refine ⟨listed, Option.ne_none_iff_exists'.mp fun none => ?_⟩
    have unlisted := kept.orphans relay.owner none
    rw [portfwdListed, List.length_eq_zero_iff, List.filter_eq_nil_iff] at unlisted
    exact unlisted ref listed (by simp [Engine.ownedBy, held])
  · rintro calls state registry event next _ ⟨kept, tracks⟩ stepped
    obtain ⟨more, later, continued, again⟩ := server_tracked kept tracks stepped
    exact ⟨more, later, continued, (server_advances kept stepped).kept, again⟩

def openRelay (reqId : UInt32) : Event := Upload.request .op reqId (ascii "name=port_open\ntarget_port=80")

/-- Two sessions open a relay each, and the first one goes. -/
def oneLeaves : List ServerEvent :=
  [.connect {}, .connect {}, .session 1 (openRelay 7) {}, .session 2 (openRelay 3) {}, .session 1 (.read .hangup) {},
    .session 1 (.closed .tcp) {}, .session 1 (.closed .heartbeatTimer) {}]

def oneLeft : ServerState := (server.run (.start .empty) oneLeaves).get (by decide +kernel)

theorem server_refines_registrar_left : oneLeft.session 1 = none ∧ oneLeft.engine.relays = [1] ∧
    (∃ calls registry, registrar.run .start calls = some registry ∧ registry.forwarder = oneLeft.forwarder ∧
      ∀ id session, oneLeft.session id = some session → registry.released id = false) := by
  have gone : (oneLeft.session 1).isNone = true := by decide +kernel
  exact ⟨Option.isNone_iff_eq_none.mp gone, by decide +kernel,
    (server_refines_registrar (Option.some_get (by decide +kernel)).symm).1⟩

end Luagent.Proofs.ServerRelays
