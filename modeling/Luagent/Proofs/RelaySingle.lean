import Luagent.Proofs.RelayLifetime
import Luagent.Proofs.Relays

/-! A relay has one connection at a time, and designates it. -/

namespace Luagent.Proofs
open Foundation

/-- The state without the record of which relays were given back. Nothing a
callback does depends on that record. -/
def forget (state : Forwarder) : Forwarder := { state with relayReleased := fun _ => false, followed := [] }

private theorem admit_forget (env : RelayEnv) (state : Forwarder) (ref : Nat) (relay : Relay) :
    forget (relayAdmit env (forget state) ref relay) = forget (relayAdmit env state ref relay) := by
  unfold relayAdmit
  simp only [apply_ite forget]
  rfl

/-- What happens is the same without the record. -/
theorem RelayTurn.forgotten {env : RelayEnv} {state next : Forwarder} {event : RelayEvent}
    (turn : RelayTurn env state event next) :
    ∃ other, RelayTurn env (forget state) event other ∧ forget other = forget next := by
  cases turn with
  | opens registers opens => exact ⟨_, .opens registers opens, rfl⟩
  | destroys registers chosen refs => exact ⟨_, .destroys registers chosen refs, rfl⟩
  | accepts asked ending =>
    cases ending with
    | ignored => exact ⟨_, .accepts asked .ignored, rfl⟩
    | rejected => exact ⟨_, .accepts asked .rejected, rfl⟩
    | admitted found alive vacant =>
      exact ⟨_, .accepts asked (.admitted found alive vacant), admit_forget env state _ _⟩
  | transfers busy ending =>
    cases ending with
    | flows flow => exact ⟨_, .transfers busy (.flows flow), rfl⟩
    | closes flow => exact ⟨_, .transfers busy (.closes flow), rfl⟩
  | closes found closing ending =>
    cases ending with
    | held => exact ⟨_, .closes found closing .held, rfl⟩
    | orphaned closed gone => exact ⟨_, .closes found closing (.orphaned closed gone), rfl⟩
    | freed closed home => exact ⟨_, .closes found closing (.freed closed home), rfl⟩
  | forgets => exact ⟨_, .forgets, rfl⟩

namespace Linked
variable {state next : Forwarder} {input : RelayEvent × RelayEnv}

theorem forgotten (linked : Linked state) : Linked (forget state) :=
  ⟨fun _ _ => rfl, nofun, linked.usable, linked.finished, linked.quiet, linked.active, linked.designated, linked.numbered,
    nofun⟩

/-- Most of what links relays and connections holds whenever a relay is given back. -/
theorem forget_step (linked : Linked (forget state)) (stepped : forwarder.step state input = some next) :
    Linked (forget next) := by
  obtain ⟨enabled, rfl⟩ := forwarder_step stepped
  rcases callback_turn input.2 enabled with ⟨ref, relay, _, found, closing, same⟩ | turn
  · have destroyed := linked.destroyed found closing
    have kept := @Linked.setRelay _ ref relay { relay with listener := relay.listener.finish } linked found
      (fun released => by cases released) (fun alive => by rw [destroyed] at alive; cases alive)
      fun _ designates => linked.designated found designates
    rw [same]
    exact kept.forgotten
  · obtain ⟨other, turned, same⟩ := turn.forgotten
    rw [← same]
    exact (linked.turn turned).forgotten

end Linked

/-- A connection of this relay that was not freed. -/
structure HeldConn (state : Forwarder) (ref number : Nat) (conn : RelayConn) : Prop where
  found : state.engine.conn number = some conn
  names : conn.relay = ref
  kept : state.connReleased number = false

/-- `uv_accept` succeeds when a client waits, and whether an address can be read
depends on the address. -/
def Accepting (resolve : Bytes → UInt16 → Int) (state : Forwarder) (input : RelayEvent × RelayEnv) : Prop :=
  ∀ ref status relay, input.1 = .incoming ref status → state.engine.relay ref = some relay →
    input.2.accept = 0 ∧ input.2.ip4Addr = resolve relay.targetHost relay.targetPort

/-- All connections of a relay are the one that it designates, unless its target has
no address: then it designates none, and all of them are closing. -/
structure Single (resolve : Bytes → UInt16 → Int) (state : Forwarder) : Prop where
  homes : ∀ {number conn}, state.engine.conn number = some conn → ∃ relay, state.engine.relay conn.relay = some relay
  resolved : ∀ {ref relay number conn}, state.engine.relay ref = some relay → relay.closing = false →
    resolve relay.targetHost relay.targetPort = 0 → HeldConn state ref number conn → relay.conn = some number
  unresolved : ∀ {ref relay}, state.engine.relay ref = some relay → relay.closing = false →
    resolve relay.targetHost relay.targetPort ≠ 0 →
    relay.conn = none ∧ ∀ {number conn}, HeldConn state ref number conn → conn.closing = true

private theorem single_start (resolve : Bytes → UInt16 → Int) : Single resolve .start := ⟨nofun, nofun, nofun⟩

structure KeepsAlive (before after : Engine) : Prop where
  present : ∀ {ref relay}, before.relay ref = some relay → ∃ later, after.relay ref = some later
  alive : ∀ {ref relay}, after.relay ref = some relay → relay.closing = false → before.relay ref = some relay

namespace KeepsAlive
variable {before middle after : Engine}

theorem of_relay (same : after.relay = before.relay) : KeepsAlive before after :=
  ⟨fun found => ⟨_, same ▸ found⟩, fun found _ => same ▸ found⟩

theorem trans (first : KeepsAlive before middle) (second : KeepsAlive middle after) : KeepsAlive before after := by
  refine ⟨fun found => ?_, fun found alive => first.alive (second.alive found alive) alive⟩
  obtain ⟨later, held⟩ := first.present found
  exact second.present held

/-- A relay is replaced by one that is destroyed. -/
theorem set {ref : Nat} {dead : Relay} (closing : dead.closing = true)
    (relays : after.relay = Function.update before.relay ref (some dead)) : KeepsAlive before after := by
  refine ⟨fun {other relay} found => ?_, fun {other relay} found alive => ?_⟩
  · rw [relays]
    by_cases same : other = ref
    · exact ⟨dead, by rw [same, Function.update_self]⟩
    · exact ⟨relay, by rw [Function.update_of_ne same, found]⟩
  · rw [relays] at found
    rcases update_eq_some found with ⟨_, rfl⟩ | ⟨_, found⟩
    · rw [closing] at alive
      cases alive
    · exact found

theorem close (engine : Engine) (ref : Nat) : KeepsAlive engine (relayClose engine ref) :=
  of_relay (relayClose_same engine ref).1

theorem destroy (engine : Engine) (ref : Nat) : KeepsAlive engine (relayDestroy engine ref) := by
  cases relayDestroy_effect engine ref with
  | nothing _ same => exact of_relay (by rw [same])
  | destroyed relay dead found _ closing relays => exact set closing relays

theorem destroyAll (chosen : Engine → Nat → Bool) (refs : List Nat) (engine : Engine) :
    KeepsAlive engine (Proofs.destroyAll chosen refs engine) :=
  destroyAll_keeps (fun middle ref keeps => keeps.trans (destroy middle ref)) chosen refs (of_relay rfl)

end KeepsAlive

namespace Single
variable {resolve : Bytes → UInt16 → Int} {state next : Forwarder}

/-- Relays are destroyed and connections shut, at most. -/
theorem shuts (single : Single resolve state) (closes : OnlyShuts state.engine next.engine)
    (relays : KeepsAlive state.engine next.engine) (released : next.connReleased = state.connReleased) :
    Single resolve next := by
  have held : ∀ {ref number conn}, HeldConn next ref number conn →
      HeldConn state ref number conn ∨ conn.closing = true ∧ ∃ old, HeldConn state ref number old := by
    rintro ref number conn ⟨found, names, kept⟩
    rw [released] at kept
    rcases closes.conn number with same | ⟨old, dead, was, now, shut⟩
    · exact .inl ⟨same ▸ found, names, kept⟩
    · cases now.symm.trans found
      exact .inr ⟨shut.closing, old, was, shut.relay ▸ names, kept⟩
  refine ⟨fun {number conn} found => ?_, fun found alive target holds => ?_, fun found alive target => ?_⟩
  · rcases closes.conn number with same | ⟨old, dead, was, now, shut⟩
    · obtain ⟨relay, present⟩ := single.homes (same ▸ found)
      exact relays.present present
    · cases now.symm.trans found
      obtain ⟨relay, present⟩ := single.homes was
      rw [shut.relay]
      exact relays.present present
  · have before := relays.alive found alive
    rcases held holds with holds | ⟨_, old, holds⟩
    · exact single.resolved before alive target holds
    · exact single.resolved before alive target holds
  · obtain ⟨none, closing⟩ := single.unresolved (relays.alive found alive) alive target
    refine ⟨none, fun holds => ?_⟩
    rcases held holds with holds | ⟨closed, _⟩
    · exact closing holds
    · exact closed

/-- A relay is added that has no connection. -/
theorem opened (single : Single resolve state) {relay : Relay} (conn : relay.conn = none)
    (unused : state.engine.relay state.engine.allocated = none)
    (relays : next.engine.relay = Function.update state.engine.relay state.engine.allocated (some relay))
    (conns : next.engine.conn = state.engine.conn) (released : next.connReleased = state.connReleased) :
    Single resolve next := by
  have held : ∀ {ref number conn}, HeldConn next ref number conn → HeldConn state ref number conn :=
    fun holds => ⟨conns ▸ holds.found, holds.names, released ▸ holds.kept⟩
  have homeless : ∀ {number conn}, ¬ HeldConn next state.engine.allocated number conn := by
    intro number conn holds
    obtain ⟨home, found⟩ := single.homes (held holds).found
    rw [holds.names, unused] at found
    cases found
  refine ⟨fun {number conn} found => ?_, fun {ref current _ _} found alive target holds => ?_,
    fun {ref current} found alive target => ?_⟩
  · rw [conns] at found
    obtain ⟨home, present⟩ := single.homes found
    rw [relays]
    by_cases same : conn.relay = state.engine.allocated
    · exact ⟨relay, by rw [same, Function.update_self]⟩
    · exact ⟨home, by rw [Function.update_of_ne same, present]⟩
  · rw [relays] at found
    rcases update_eq_some found with ⟨rfl, rfl⟩ | ⟨_, found⟩
    · exact absurd holds homeless
    · exact single.resolved found alive target (held holds)
  · rw [relays] at found
    rcases update_eq_some found with ⟨rfl, rfl⟩ | ⟨_, found⟩
    · exact ⟨conn, fun holds => absurd holds homeless⟩
    · obtain ⟨none, closing⟩ := single.unresolved found alive target
      exact ⟨none, fun holds => closing (held holds)⟩

/-- A connection is added that the relay does not designate: it was freed at once,
or the target has no address and it is closing. -/
theorem addedUnresolved (single : Single resolve state) {ref : Nat} {relay : Relay} {conn : RelayConn}
    (found : state.engine.relay ref = some relay) (names : conn.relay = ref)
    (relays : next.engine.relay = state.engine.relay)
    (conns : next.engine.conn = Function.update state.engine.conn state.engine.allocated (some conn))
    (released : ∀ number, number ≠ state.engine.allocated → next.connReleased number = state.connReleased number)
    (why : next.connReleased state.engine.allocated = true ∨
      resolve relay.targetHost relay.targetPort ≠ 0 ∧ conn.closing = true) : Single resolve next := by
  have held : ∀ {home number current}, HeldConn next home number current → HeldConn state home number current ∨
      home = ref ∧ resolve relay.targetHost relay.targetPort ≠ 0 ∧ current.closing = true := by
    rintro home number current ⟨held, same, kept⟩
    rw [conns] at held
    rcases update_eq_some held with ⟨rfl, rfl⟩ | ⟨different, held⟩
    · rcases why with freed | unresolved
      · rw [freed] at kept
        cases kept
      · exact .inr ⟨same.symm.trans names, unresolved⟩
    · exact .inl ⟨held, same, released number different ▸ kept⟩
  refine ⟨fun {number current} held => ?_, fun {home current _ _} present alive target holds => ?_,
    fun {home current} present alive target => ?_⟩
  · rw [conns] at held
    rw [relays]
    rcases update_eq_some held with ⟨_, rfl⟩ | ⟨_, held⟩
    · exact ⟨relay, by rw [names, found]⟩
    · exact single.homes held
  · rw [relays] at present
    rcases held holds with holds | ⟨rfl, unresolved, _⟩
    · exact single.resolved present alive target holds
    · cases found.symm.trans present
      exact absurd target unresolved
  · rw [relays] at present
    obtain ⟨none, closing⟩ := single.unresolved present alive target
    refine ⟨none, fun holds => ?_⟩
    rcases held holds with holds | ⟨_, _, closed⟩
    · exact closing holds
    · exact closed

/-- A connection is added that the relay, which had none, designates. -/
theorem addedDesignated (single : Single resolve state) {ref : Nat} {relay : Relay} {conn : RelayConn}
    (found : state.engine.relay ref = some relay) (alive : relay.closing = false) (vacant : relay.conn = none)
    (target : resolve relay.targetHost relay.targetPort = 0) (names : conn.relay = ref)
    (relays : next.engine.relay =
      Function.update state.engine.relay ref (some { relay with conn := some state.engine.allocated }))
    (conns : next.engine.conn = Function.update state.engine.conn state.engine.allocated (some conn))
    (released : next.connReleased = state.connReleased) : Single resolve next := by
  have held : ∀ {home number current}, HeldConn next home number current →
      HeldConn state home number current ∨ number = state.engine.allocated ∧ home = ref := by
    rintro home number current ⟨held, same, kept⟩
    rw [conns] at held
    rw [released] at kept
    rcases update_eq_some held with ⟨rfl, rfl⟩ | ⟨_, held⟩
    · exact .inr ⟨rfl, same.symm.trans names⟩
    · exact .inl ⟨held, same, kept⟩
  refine ⟨fun {number current} held => ?_, fun {home current number _} present usable resolves holds => ?_,
    fun {home current} present usable unresolved => ?_⟩
  · have home : ∃ home, state.engine.relay current.relay = some home := by
      rw [conns] at held
      rcases update_eq_some held with ⟨_, rfl⟩ | ⟨_, held⟩
      · exact ⟨relay, by rw [names, found]⟩
      · exact single.homes held
    obtain ⟨home, present⟩ := home
    rw [relays]
    by_cases same : current.relay = ref
    · exact ⟨_, by rw [same, Function.update_self]⟩
    · exact ⟨home, by rw [Function.update_of_ne same, present]⟩
  · rw [relays] at present
    rcases update_eq_some present with ⟨rfl, rfl⟩ | ⟨different, present⟩
    · rcases held holds with holds | ⟨rfl, _⟩
      · -- the relay would have designated it before
        have designated := single.resolved found alive target holds
        rw [vacant] at designated
        cases designated
      · rfl
    · rcases held holds with holds | ⟨_, rfl⟩
      · exact single.resolved present usable resolves holds
      · exact absurd rfl different
  · rw [relays] at present
    rcases update_eq_some present with ⟨rfl, rfl⟩ | ⟨different, present⟩
    · exact absurd target unresolved
    · obtain ⟨none, closing⟩ := single.unresolved present usable unresolved
      refine ⟨none, fun holds => ?_⟩
      rcases held holds with holds | ⟨_, rfl⟩
      · exact closing holds
      · exact absurd rfl different

theorem admits (single : Single resolve state) {env : RelayEnv} {ref : Nat} {relay : Relay}
    (found : state.engine.relay ref = some relay) (alive : relay.closing = false) (vacant : relay.conn = none)
    (accept : env.accept = 0) (address : env.ip4Addr = resolve relay.targetHost relay.targetPort)
    (effect : AdmitEffect env state ref relay next) : Single resolve next := by
  cases effect with
  | nothing same =>
    rw [same]
    exact single
  | freed conn same names =>
    refine single.addedUnresolved found names (by rw [same]) (by rw [same]) ?_ (.inl ?_)
    · intro number different
      rw [same]
      exact Function.update_of_ne different _ _
    · rw [same]
      exact Function.update_self ..
  | made designated conn flow same names _ _ _ _ resolved unresolved =>
    cases designated with
    | false =>
      obtain ⟨failed, closing⟩ := unresolved rfl accept
      refine single.addedUnresolved found names (by rw [same]; rfl) (by rw [same]) (fun _ _ => by rw [same]) (.inr ⟨?_, closing⟩)
      rw [← address]
      exact failed
    | true =>
      refine single.addedDesignated found alive vacant ?_ names (by rw [same]; rfl) (by rw [same]) (by rw [same])
      rw [← address]
      exact resolved rfl

/-- The close of one side of a connection is processed. -/
theorem finishes (single : Single resolve state) {number : Nat} {conn : RelayConn}
    (found : state.engine.conn number = some conn) (side : RelaySide) :
    Single resolve { state with engine := state.engine.setConn number (conn.finish side) } := by
  have same : (conn.finish side).relay = conn.relay ∧ (conn.finish side).closing = conn.closing := by
    cases side <;> exact ⟨rfl, rfl⟩
  have held : ∀ {home other current}, HeldConn { state with engine := state.engine.setConn number (conn.finish side) } home
      other current → ∃ old, HeldConn state home other old ∧ current.closing = old.closing := by
    rintro home other current ⟨held, names, kept⟩
    rcases update_eq_some held with ⟨rfl, rfl⟩ | ⟨_, held⟩
    · exact ⟨conn, ⟨found, same.1.symm.trans names, kept⟩, same.2⟩
    · exact ⟨current, ⟨held, names, kept⟩, rfl⟩
  refine ⟨fun {other current} held => ?_, fun present alive target holds => ?_, fun present alive target => ?_⟩
  · rcases update_eq_some held with ⟨_, rfl⟩ | ⟨_, held⟩
    · rw [same.1]
      exact single.homes found
    · exact single.homes held
  · obtain ⟨old, holds, _⟩ := held holds
    exact single.resolved present alive target holds
  · obtain ⟨none, closing⟩ := single.unresolved present alive target
    refine ⟨none, fun holds => ?_⟩
    obtain ⟨old, holds, closed⟩ := held holds
    rw [closed]
    exact closing holds

/-- The memory of a connection is given back, and its relay designates none. -/
theorem frees (single : Single resolve state) {number : Nat} {conn : RelayConn} {relay : Relay}
    (found : state.engine.conn number = some conn) (home : state.engine.relay conn.relay = some relay)
    (kept : state.connReleased number = false)
    (relays : next.engine.relay = Function.update state.engine.relay conn.relay (some { relay with conn := none }))
    (conns : next.engine.conn = state.engine.conn)
    (released : next.connReleased = Function.update state.connReleased number true) : Single resolve next := by
  have held : ∀ {ref other current}, HeldConn next ref other current → other ≠ number ∧ HeldConn state ref other current := by
    rintro ref other current ⟨held, names, unreleased⟩
    rw [released] at unreleased
    rw [conns] at held
    by_cases same : other = number
    · rw [same, Function.update_self] at unreleased
      cases unreleased
    · rw [Function.update_of_ne same] at unreleased
      exact ⟨same, held, names, unreleased⟩
  refine ⟨fun {other current} held => ?_, fun {ref current other _} present alive target holds => ?_,
    fun {ref current} present alive target => ?_⟩
  · rw [conns] at held
    obtain ⟨old, present⟩ := single.homes held
    rw [relays]
    by_cases same : current.relay = conn.relay
    · exact ⟨_, by rw [same, Function.update_self]⟩
    · exact ⟨old, by rw [Function.update_of_ne same, present]⟩
  · obtain ⟨different, holds⟩ := held holds
    rw [relays] at present
    rcases update_eq_some present with ⟨rfl, rfl⟩ | ⟨_, present⟩
    · -- both would be the one that the relay designated
      have designated := single.resolved home alive target holds
      rw [single.resolved home alive target ⟨found, rfl, kept⟩] at designated
      exact absurd (Option.some.inj designated).symm different
    · exact single.resolved present alive target holds
  · rw [relays] at present
    rcases update_eq_some present with ⟨rfl, rfl⟩ | ⟨_, present⟩
    · exact ⟨rfl, fun holds => (single.unresolved home alive target).2 (held holds).2⟩
    · obtain ⟨none, closing⟩ := single.unresolved present alive target
      exact ⟨none, fun holds => closing (held holds).2⟩

theorem sideClosed (single : Single resolve state) {number : Nat} {conn : RelayConn} {side : RelaySide}
    (found : state.engine.conn number = some conn) (kept : state.connReleased number = false)
    (ending : FreeEnding (sideFinished state number conn side) number (conn.finish side) next) : Single resolve next := by
  have single := single.finishes found side
  have now : (sideFinished state number conn side).engine.conn number = some (conn.finish side) := Function.update_self ..
  cases ending with
  | held => exact single
  | orphaned _ gone =>
    obtain ⟨relay, home⟩ := single.homes now
    exact absurd (gone.symm.trans home) (Option.some_ne_none _).symm
  | freed _ home => exact single.frees now home kept rfl rfl rfl

theorem step (single : Single resolve state) (linked : Linked (forget state)) {input : RelayEvent × RelayEnv}
    (accepting : Accepting resolve state input) (stepped : forwarder.step state input = some next) :
    Single resolve next := by
  have quiet {next : Forwarder} (engine : next.engine = state.engine) (released : next.connReleased = state.connReleased) :
      Single resolve next :=
    single.shuts (.of_eq (congrArg Engine.conn engine) (Nat.le_of_eq (congrArg Engine.allocated engine).symm))
      (.of_relay (congrArg Engine.relay engine)) released
  obtain ⟨enabled, rfl⟩ := forwarder_step stepped
  rcases callback_turn input.2 enabled with ⟨ref, relay, _, found, closing, same⟩ | turn
  · have destroyed := linked.destroyed found closing
    rw [same]
    refine single.shuts (.of_eq rfl (Nat.le_refl _)) ?_ rfl
    exact @KeepsAlive.set _ _ ref { relay with listener := relay.listener.finish } destroyed rfl
  generalize state.callback input.2 input.1 = next at turn ⊢
  cases turn with
  | opens _ opens =>
    cases opens with
    | nothing same | numbered same =>
      subst same
      exact single.shuts (.of_eq rfl (Nat.le_refl _)) (.of_relay rfl) rfl
    | added relay relays same list conn =>
      subst same
      exact single.opened conn (linked.numbered (Nat.le_refl state.engine.allocated)).1 rfl rfl rfl
  | destroys _ chosen refs => exact single.shuts (.destroyAll chosen refs _) (.destroyAll chosen refs _) rfl
  | accepts asked ending =>
    cases ending with
    | ignored => exact single
    | rejected => exact quiet rfl rfl
    | admitted found alive vacant =>
      obtain ⟨accept, address⟩ := accepting _ _ _ asked found
      exact single.admits found alive vacant accept address (relayAdmit_effect input.2 state _ _)
  | @transfers ref _ _ ending =>
    cases ending with
    | flows => exact quiet rfl rfl
    | closes => exact single.shuts (.close state.engine ref) (.close state.engine ref) rfl
  | closes found closing ending => exact single.sideClosed found (linked.quiet found closing) ending
  | forgets => exact quiet rfl rfl

end Single

/-- A connection of this relay that is open: neither freed nor closing. -/
def OpenConn (state : Forwarder) (ref number : Nat) : Prop := ∃ conn, HeldConn state ref number conn ∧ conn.closing = false

/-- A relay has at most one open connection, designates the one it has, and turns
every other client away without touching it. -/
theorem one_connection_per_relay {resolve : Bytes → UInt16 → Int} {events : List (RelayEvent × RelayEnv)}
    {state : Forwarder} (accepting : forwarder.Conforms (Accepting resolve) .start events)
    (executed : forwarder.run .start events = some state) {ref : Nat} {relay : Relay}
    (found : state.engine.relay ref = some relay) (alive : relay.closing = false) :
    (∀ one other, OpenConn state ref one → OpenConn state ref other → one = other) ∧
    (∀ number, OpenConn state ref number → relay.conn = some number) ∧
    ∀ status env next, relay.conn.isSome = true → forwarder.step state (.incoming ref status, env) = some next →
      next.engine = state.engine ∧ next.flow = state.flow ∧ next.connReleased = state.connReleased := by
  have single : Linked (forget state) ∧ Single resolve state := by
    refine forwarder.conforming_induction (fun _ state => Linked (forget state) ∧ Single resolve state)
      ⟨linked_start.forgotten, single_start resolve⟩ ?_ accepting executed
    intro _ _ _ _ _ kept allowed stepped
    exact ⟨kept.1.forget_step stepped, kept.2.step kept.1 allowed stepped⟩
  have designated : ∀ number, OpenConn state ref number → relay.conn = some number := by
    rintro number ⟨conn, holds, live⟩
    by_cases target : resolve relay.targetHost relay.targetPort = 0
    · exact single.2.resolved found alive target holds
    · have closing := (single.2.unresolved found alive target).2 holds
      rw [live] at closing
      cases closing
  refine ⟨fun one other first second => ?_, designated, fun status env next taken stepped => ?_⟩
  · exact Option.some.inj ((designated one first).symm.trans (designated other second))
  · obtain ⟨_, rfl⟩ := forwarder_step stepped
    have ending := relayAcceptCb_ending env state ref status
    simp only [Forwarder.callback]
    generalize relayAcceptCb env state ref status = next at ending ⊢
    cases ending with
    | ignored | rejected => exact ⟨rfl, rfl, rfl⟩
    | admitted held _ vacant =>
      cases found.symm.trans held
      simp [vacant] at taken

/-- A relay with a client, to which a second one comes. -/
def secondClient : List (RelayEvent × RelayEnv) :=
  [(.open 1 (ascii "127.0.0.1") 8080 (ascii "127.0.0.1") 80, {}), (.incoming 0 0, {}), (.incoming 0 0, {})]

def servedClient : Forwarder := (forwarder.run .start secondClient).get (by decide)

theorem one_connection_per_relay_second : ∃ relay, servedClient.engine.relay 0 = some relay ∧ relay.closing = false ∧
    OpenConn servedClient 0 1 ∧ relay.conn = some 1 ∧ servedClient.rejected = 1 := by
  have executed : forwarder.run .start secondClient = some servedClient := (Option.some_get (by decide)).symm
  have accepting : forwarder.Conforms (Accepting fun _ _ => 0) .start secondClient := by
    refine forwarder.conforms_of_forall fun input member state => ?_
    simp only [secondClient, List.mem_cons, List.not_mem_nil, or_false] at member
    rcases member with rfl | rfl | rfl <;> exact fun _ _ _ _ _ => ⟨rfl, rfl⟩
  obtain ⟨relay, found⟩ : ∃ relay, servedClient.engine.relay 0 = some relay := ⟨_, rfl⟩
  have alive : relay.closing = false := by
    cases found
    rfl
  have opened : OpenConn servedClient 0 1 := ⟨_, ⟨rfl, rfl, rfl⟩, rfl⟩
  exact ⟨relay, found, alive, opened, (one_connection_per_relay accepting executed found alive).2.1 1 opened, by decide⟩

end Luagent.Proofs
