import Luagent.Proofs.RelaySteps

/-! The memory of relays and connections. A connection names its relay until it is
freed itself, and the two are freed in callbacks of their own. -/

namespace Luagent.Proofs
open Foundation

def Settled (state : Forwarder) (ref : Nat) : Prop :=
  state.connReleased ref = true → ∀ conn, state.engine.conn ref = some conn → ∀ side, conn.isClosed side = true

/-- What holds as long as no listener's memory goes before its connections. -/
structure Linked (state : Forwarder) : Prop where
  names : ∀ {ref conn}, state.engine.conn ref = some conn → state.connReleased ref = false →
    state.relayReleased conn.relay = false
  gone : ∀ {ref}, state.relayReleased ref = true →
    ∃ relay, state.engine.relay ref = some relay ∧ relay.closing = true ∧ relay.listener.phase = .closed
  usable : ∀ {ref relay}, state.engine.relay ref = some relay → relay.closing = false → relay.listener.phase = .open
  finished : ∀ {ref conn side}, state.engine.conn ref = some conn → conn.isClosed side = true →
    (conn.handle side).phase = .closed
  quiet : ∀ {ref conn side}, state.engine.conn ref = some conn → (conn.handle side).isClosing = true →
    state.connReleased ref = false
  active : ∀ {ref side}, (state.flow ref).connecting = true ∨ (state.flow ref).reading side = true ∨
    (state.flow ref).writes ≠ [] → Settled state ref
  designated : ∀ {ref relay conn}, state.engine.relay ref = some relay → relay.conn = some conn →
    conn < state.engine.allocated ∧ Settled state conn
  numbered : ∀ {ref}, state.engine.allocated ≤ ref →
    state.engine.relay ref = none ∧ state.engine.conn ref = none ∧ state.connReleased ref = false
  honest : ∀ visit ∈ state.followed, visit.released = false

theorem linked_start : Linked .start where
  names := nofun
  gone := nofun
  usable := nofun
  finished := nofun
  quiet := nofun
  active := fun _ => nofun
  designated := nofun
  numbered := fun _ => ⟨rfl, rfl, rfl⟩
  honest := nofun

namespace Linked
variable {state : Forwarder} {ref : Nat}

theorem below {conn : RelayConn} (linked : Linked state) (found : state.engine.conn ref = some conn) :
    ref < state.engine.allocated := by
  by_contra beyond
  rw [(linked.numbered (Nat.le_of_not_lt beyond)).2.1] at found
  cases found

theorem below_relay {relay : Relay} (linked : Linked state) (found : state.engine.relay ref = some relay) :
    ref < state.engine.allocated := by
  by_contra beyond
  rw [(linked.numbered (Nat.le_of_not_lt beyond)).1] at found
  cases found

theorem present {relay : Relay} (linked : Linked state) (found : state.engine.relay ref = some relay)
    (alive : relay.closing = false) : state.relayReleased ref = false := by
  by_contra released
  obtain ⟨other, same, closing, _⟩ := linked.gone (eq_true_of_ne_false released)
  cases found.symm.trans same
  rw [alive] at closing
  cases closing

theorem setFlow (linked : Linked state) (flow : Flow) (settled : Settled state ref) :
    Linked (state.setFlow ref flow) where
  names := linked.names
  gone := linked.gone
  usable := linked.usable
  finished := linked.finished
  quiet := linked.quiet
  active := by
    intro other side busy
    by_cases same : other = ref
    · rw [same]
      exact settled
    · simp only [Forwarder.setFlow, Function.update_of_ne same] at busy
      exact linked.active busy
  designated := linked.designated
  numbered := linked.numbered
  honest := linked.honest

/-- A connection is replaced by one for the same relay that is closed as far. -/
theorem setConn {conn dead : RelayConn} (linked : Linked state) (found : state.engine.conn ref = some conn)
    (relay : dead.relay = conn.relay) (flags : ∀ side, conn.isClosed side = true → dead.isClosed side = true)
    (finished : ∀ side, dead.isClosed side = true → (dead.handle side).phase = .closed)
    (quiet : ∀ side, (dead.handle side).isClosing = true → state.connReleased ref = false) :
    Linked { state with engine := state.engine.setConn ref dead } := by
  have settled : ∀ {other}, Settled state other → Settled { state with engine := state.engine.setConn ref dead } other := by
    intro other settled released current held side
    rcases update_eq_some held with ⟨rfl, rfl⟩ | ⟨_, held⟩
    · exact flags side (settled released conn found side)
    · exact settled released current held side
  refine ⟨?_, linked.gone, linked.usable, ?_, ?_, fun busy => settled (linked.active busy),
    fun held designates => (linked.designated held designates).imp_right settled, ?_, linked.honest⟩
  · intro other current held alive
    rcases update_eq_some held with ⟨rfl, rfl⟩ | ⟨_, held⟩
    · rw [relay]
      exact linked.names found alive
    · exact linked.names held alive
  · intro other current side held closed
    rcases update_eq_some held with ⟨rfl, rfl⟩ | ⟨_, held⟩
    · exact finished side closed
    · exact linked.finished held closed
  · intro other current side held closing
    rcases update_eq_some held with ⟨rfl, rfl⟩ | ⟨_, held⟩
    · exact quiet side closing
    · exact linked.quiet held closing
  · intro other beyond
    obtain ⟨noRelay, noConn, unreleased⟩ := linked.numbered beyond
    have different : other ≠ ref := fun same => by
      rw [same, found] at noConn
      cases noConn
    refine ⟨noRelay, ?_, unreleased⟩
    simp only [Engine.setConn, Function.update_of_ne different]
    exact noConn

theorem close (linked : Linked state) (settled : Settled state ref) : Linked (state.close ref) := by
  unfold Forwarder.close
  cases relayClose_effect state.engine ref with
  | nothing _ same =>
    rw [same]
    exact linked
  | closed conn dead found same shut =>
    rw [same]
    refine linked.setConn found shut.relay (fun side closed => shut.flags ▸ closed) ?_ ?_
    · intro side closed
      rw [shut.flags] at closed
      rw [shut.handles, closed]
      exact linked.finished found closed
    · intro side closing
      by_contra released
      have closed := settled (eq_true_of_ne_false released) conn found side
      rw [shut.handles, closed] at closing
      exact released (linked.quiet found closing)

/-- A relay is replaced; if its memory is gone already, it stays closed. -/
theorem setRelay {relay dead : Relay} (linked : Linked state) (found : state.engine.relay ref = some relay)
    (kept : state.relayReleased ref = true → dead.closing = relay.closing ∧ dead.listener = relay.listener)
    (usable : dead.closing = false → dead.listener.phase = .open)
    (designated : ∀ conn, dead.conn = some conn → conn < state.engine.allocated ∧ Settled state conn) :
    Linked { state with engine := state.engine.setRelay ref dead } := by
  refine ⟨linked.names, ?_, ?_, linked.finished, linked.quiet, linked.active, ?_, ?_, linked.honest⟩
  · intro other released
    obtain ⟨current, held, closing, closed⟩ := linked.gone released
    by_cases same : other = ref
    · subst same
      cases found.symm.trans held
      refine ⟨dead, by simp only [Engine.setRelay, Function.update_self], ?_, ?_⟩
      · rw [(kept released).1, closing]
      · rw [(kept released).2, closed]
    · exact ⟨current, by simp only [Engine.setRelay, Function.update_of_ne same, held], closing, closed⟩
  · intro other current held alive
    rcases update_eq_some held with ⟨rfl, rfl⟩ | ⟨_, held⟩
    · exact usable alive
    · exact linked.usable held alive
  · intro other current number held designates
    rcases update_eq_some held with ⟨rfl, rfl⟩ | ⟨_, held⟩
    · exact designated number designates
    · exact linked.designated held designates
  · intro other beyond
    obtain ⟨noRelay, rest⟩ := linked.numbered beyond
    have different : other ≠ ref := fun same => by
      rw [same, found] at noRelay
      cases noRelay
    refine ⟨?_, rest⟩
    simp only [Engine.setRelay, Function.update_of_ne different]
    exact noRelay

theorem relist (linked : Linked state) (relays : List Nat) (nextRelayId : UInt32) :
    Linked { state with engine := { state.engine with relays, nextRelayId } } :=
  ⟨linked.names, linked.gone, linked.usable, linked.finished, linked.quiet, linked.active, linked.designated,
    linked.numbered, linked.honest⟩

theorem destroy (linked : Linked state) (ref : Nat) :
    Linked { state with engine := relayDestroy state.engine ref } := by
  unfold relayDestroy
  split
  · exact linked
  next relay found =>
    split
    · exact linked
    next alive =>
      have present := linked.present found (eq_false_of_ne_true alive)
      have unreleased : ¬ state.relayReleased ref = true := by simp [present]
      cases designates : relay.conn with
      | none =>
        exact (linked.setRelay found (fun released => absurd released unreleased) (by nofun) (by nofun)).relist _ _
      | some conn =>
        have closed := linked.close (linked.designated found designates).2
        have found' : (state.close conn).engine.relay ref = some relay := by
          cases relayClose_effect state.engine conn with
          | nothing _ same => simp only [Forwarder.close, same, found]
          | closed _ _ _ same => simp only [Forwarder.close, same, Engine.setConn, found]
        exact (closed.setRelay found' (fun released => absurd released unreleased) (by nofun) (by nofun)).relist _ _

theorem destroyAll (linked : Linked state) (chosen : Engine → Nat → Bool) (refs : List Nat) :
    Linked { state with engine := Proofs.destroyAll chosen refs state.engine } :=
  @destroyAll_keeps (fun engine => Linked { state with engine }) (fun _ ref linked => linked.destroy ref) chosen refs _ linked

/-- A relay is added at the next number. -/
theorem addRelay (linked : Linked state) {relay : Relay} (usable : relay.closing = false → relay.listener.phase = .open)
    (conn : relay.conn = none) :
    Linked { state with engine := { state.engine with
      relay := Function.update state.engine.relay state.engine.allocated (some relay)
      allocated := state.engine.allocated + 1 } } := by
  have unused := linked.numbered (Nat.le_refl state.engine.allocated)
  refine ⟨linked.names, ?_, ?_, linked.finished, linked.quiet, linked.active, ?_, ?_, linked.honest⟩
  · intro other released
    obtain ⟨current, held, closing, closed⟩ := linked.gone released
    have different := Nat.ne_of_lt (linked.below_relay held)
    exact ⟨current, by simp only [Function.update_of_ne different, held], closing, closed⟩
  · intro other current held alive
    rcases update_eq_some held with ⟨rfl, rfl⟩ | ⟨_, held⟩
    · exact usable alive
    · exact linked.usable held alive
  · intro other current number held designates
    rcases update_eq_some held with ⟨rfl, rfl⟩ | ⟨_, held⟩
    · rw [conn] at designates
      cases designates
    · exact (linked.designated held designates).imp_left Nat.lt_succ_of_lt
  · intro other beyond
    have beyond : state.engine.allocated + 1 ≤ other := beyond
    obtain ⟨noRelay, rest⟩ := linked.numbered (Nat.le_of_succ_le beyond)
    refine ⟨?_, rest⟩
    simp only [Function.update_of_ne (Nat.ne_of_gt beyond), noRelay]

theorem opened (linked : Linked state) {engine : Engine} (opens : Opens state.engine engine) :
    Linked { state with engine } := by
  cases opens with
  | nothing same =>
    rw [same]
    exact linked
  | numbered same =>
    rw [same]
    exact linked.relist _ _
  | added relay relays same list conn usable =>
    rw [same]
    exact (linked.addRelay usable conn).relist _ _

/-- A connection is added at the next number. -/
theorem addConn (linked : Linked state) {conn : RelayConn} {flow : Flow} {released : Bool}
    (names : released = false → state.relayReleased conn.relay = false) (unset : ∀ side, conn.isClosed side = false)
    (quiet : ∀ side, (conn.handle side).isClosing = true → released = false)
    (idle : released = true → flow = .zero) :
    Linked { state with
      engine := { state.engine with
        conn := Function.update state.engine.conn state.engine.allocated (some conn)
        allocated := state.engine.allocated + 1 }
      flow := Function.update state.flow state.engine.allocated flow
      connReleased := Function.update state.connReleased state.engine.allocated released } := by
  have settled : ∀ {other}, other ≠ state.engine.allocated → Settled state other →
      ∀ {next : Forwarder}, next.connReleased = Function.update state.connReleased state.engine.allocated released →
        next.engine.conn = Function.update state.engine.conn state.engine.allocated (some conn) → Settled next other := by
    intro other different settled next freed conns gone current held
    rw [freed, Function.update_of_ne different] at gone
    rw [conns, Function.update_of_ne different] at held
    exact settled gone current held
  refine ⟨?_, linked.gone, linked.usable, ?_, ?_, ?_, ?_, ?_, linked.honest⟩
  · intro other current held alive
    rcases update_eq_some held with ⟨rfl, rfl⟩ | ⟨same, held⟩
    · simp only [Function.update_self] at alive
      exact names alive
    · simp only [Function.update_of_ne same] at alive
      exact linked.names held alive
  · intro other current side held closed
    rcases update_eq_some held with ⟨rfl, rfl⟩ | ⟨_, held⟩
    · rw [unset] at closed
      cases closed
    · exact linked.finished held closed
  · intro other current side held closing
    rcases update_eq_some held with ⟨rfl, rfl⟩ | ⟨same, held⟩
    · simp only [Function.update_self]
      exact quiet side closing
    · simp only [Function.update_of_ne same]
      exact linked.quiet held closing
  · intro other side busy
    by_cases same : other = state.engine.allocated
    · subst same
      intro gone
      simp only [Function.update_self] at busy gone
      rw [idle gone] at busy
      simp [Flow.zero] at busy
    · simp only [Function.update_of_ne same] at busy
      exact settled same (linked.active busy) rfl rfl
  · intro other relay number held designates
    obtain ⟨below, was⟩ := linked.designated held designates
    exact ⟨Nat.lt_succ_of_lt below, settled (Nat.ne_of_lt below) was rfl rfl⟩
  · intro other beyond
    have beyond : state.engine.allocated + 1 ≤ other := beyond
    have different := Nat.ne_of_gt beyond
    obtain ⟨noRelay, noConn, unreleased⟩ := linked.numbered (Nat.le_of_succ_le beyond)
    exact ⟨noRelay, by simp only [Function.update_of_ne different, noConn],
      by simp only [Function.update_of_ne different, unreleased]⟩

theorem admitted (linked : Linked state) (env : RelayEnv) {relay : Relay} (found : state.engine.relay ref = some relay)
    (alive : relay.closing = false) : Linked (relayAdmit env state ref relay) := by
  have present := linked.present found alive
  cases relayAdmit_effect env state ref relay with
  | nothing same =>
    rw [same]
    exact linked
  | freed conn same names unset _ quiet =>
    rw [same]
    refine linked.addConn nofun unset (fun side closing => ?_) (fun _ => rfl)
    rw [quiet] at closing
    cases closing
  | made designated conn flow same names unset =>
    have unreleased := (linked.numbered (Nat.le_refl state.engine.allocated)).2.2
    have kept : Function.update state.connReleased state.engine.allocated false = state.connReleased := by
      rw [← unreleased, Function.update_eq_self]
    have added := @addConn state linked conn flow false (fun _ => names ▸ present) unset (fun _ _ => rfl) nofun
    rw [kept] at added
    rw [same]
    cases designated with
    | false => exact added
    | true =>
      have listening : relay.listener.phase = .open := linked.usable found alive
      refine added.setRelay found (fun _ => ⟨rfl, rfl⟩) (fun _ => listening) ?_
      rintro number ⟨⟩
      refine ⟨Nat.lt_succ_self _, fun released => ?_⟩
      rw [unreleased] at released
      cases released

theorem settled (linked : Linked state) (busy : BusyFlow (state.flow ref)) : Settled state ref := by
  rcases busy with connecting | ⟨side, reading⟩ | writes
  · exact @active state linked ref .inbound (.inl connecting)
  · exact linked.active (.inr (.inl reading))
  · exact @active state linked ref .inbound (.inr (.inr writes))

/-- Only the listener of a relay that was destroyed is being closed. -/
theorem destroyed (linked : Linked state) {relay : Relay} (found : state.engine.relay ref = some relay)
    (closing : relay.listener.isClosing = true) : relay.closing = true := by
  by_contra alive
  have listening := linked.usable found (eq_false_of_ne_true alive)
  simp [Handle.isClosing, listening] at closing

/-- The relay's memory goes after the memory of every connection that names it. -/
theorem release (linked : Linked state) {relay : Relay} (found : state.engine.relay ref = some relay)
    (closing : relay.listener.isClosing = true)
    (vacated : ∀ number conn, state.engine.conn number = some conn → conn.relay = ref → state.connReleased number = true) :
    Linked (listenerFinished state ref relay) := by
  have destroyed := linked.destroyed found closing
  unfold listenerFinished
  refine ⟨?_, ?_, ?_, linked.finished, linked.quiet, linked.active, ?_, ?_, linked.honest⟩
  · intro number conn held alive
    have different : conn.relay ≠ ref := fun same => by
      rw [vacated number conn held same] at alive
      cases alive
    simp only [Function.update_of_ne different]
    exact linked.names held alive
  · intro other released
    by_cases same : other = ref
    · subst same
      exact ⟨{ relay with listener := relay.listener.finish }, by simp only [Engine.setRelay, Function.update_self],
        destroyed, rfl⟩
    · simp only [Function.update_of_ne same] at released
      obtain ⟨current, held, rest⟩ := linked.gone released
      exact ⟨current, by simp only [Engine.setRelay, Function.update_of_ne same, held], rest⟩
  · intro other current held alive
    rcases update_eq_some held with ⟨rfl, rfl⟩ | ⟨_, held⟩
    · rw [destroyed] at alive
      cases alive
    · exact linked.usable held alive
  · intro other current number held designates
    rcases update_eq_some held with ⟨rfl, rfl⟩ | ⟨_, held⟩
    · exact linked.designated found designates
    · exact linked.designated held designates
  · intro other beyond
    obtain ⟨noRelay, rest⟩ := linked.numbered beyond
    refine ⟨?_, rest⟩
    have different : other ≠ ref := fun same => by
      rw [same, found] at noRelay
      cases noRelay
    simp only [Engine.setRelay, Function.update_of_ne different, noRelay]

/-- Both sides are closed, so that the connection's memory goes. -/
theorem free (linked : Linked state) {conn : RelayConn} (found : state.engine.conn ref = some conn)
    (unreleased : state.connReleased ref = false) (closed : ∀ side, conn.isClosed side = true) :
    Linked { state with
      connReleased := Function.update state.connReleased ref true
      followed := state.followed ++ [⟨ref, conn.relay, state.relayReleased conn.relay⟩] } := by
  have settled : ∀ {other}, Settled state other → ∀ {next : Forwarder}, next.engine = state.engine →
      next.connReleased = Function.update state.connReleased ref true → Settled next other := by
    intro other settled next engine freed gone current held
    rw [engine] at held
    by_cases same : other = ref
    · subst same
      cases found.symm.trans held
      exact closed
    · rw [freed, Function.update_of_ne same] at gone
      exact settled gone current held
  refine ⟨?_, linked.gone, linked.usable, linked.finished, ?_, fun busy => settled (linked.active busy) rfl rfl,
    fun held designates => (linked.designated held designates).imp_right (settled · rfl rfl), ?_, ?_⟩
  · intro other current held alive
    by_cases same : other = ref
    · subst same
      simp at alive
    · simp only [Function.update_of_ne same] at alive
      exact linked.names held alive
  · intro other current side held closing
    by_cases same : other = ref
    · subst same
      cases found.symm.trans held
      simp [Handle.isClosing, linked.finished held (closed side)] at closing
    · simp only [Function.update_of_ne same]
      exact linked.quiet held closing
  · intro other beyond
    have different : other ≠ ref := Nat.ne_of_gt (Nat.lt_of_lt_of_le (linked.below found) beyond)
    simp only [Function.update_of_ne different]
    exact linked.numbered beyond
  · intro visit member
    rcases List.mem_append.mp member with earlier | last
    · exact linked.honest visit earlier
    · rw [List.mem_singleton.mp last]
      exact linked.names found unreleased

theorem maybeFree (linked : Linked state) {conn : RelayConn} (found : state.engine.conn ref = some conn)
    (unreleased : state.connReleased ref = false) {next : Forwarder} (ending : FreeEnding state ref conn next) : Linked next := by
  cases ending with
  | held => exact linked
  | orphaned closed => exact linked.free found unreleased closed
  | @freed relay closed home =>
    have listening : relay.closing = false → relay.listener.phase = .open := linked.usable home
    have cleared : Linked { state with engine := state.engine.setRelay conn.relay { relay with conn := none } } :=
      linked.setRelay home (fun _ => ⟨rfl, rfl⟩) listening (by nofun)
    exact cleared.free found unreleased closed

theorem sideClosed (linked : Linked state) {conn : RelayConn} {side : RelaySide} (found : state.engine.conn ref = some conn)
    (closing : (conn.handle side).isClosing = true) : Linked (sideFinished state ref conn side) := by
  have unreleased := linked.quiet found closing
  refine linked.setConn found ?_ ?_ ?_ fun _ _ => unreleased
  · cases side <;> rfl
  · cases side <;> rintro ⟨⟩ <;> simp [RelayConn.isClosed, RelayConn.finish]
  · intro other closed
    by_cases same : other = side
    · subst same
      cases other <;> rfl
    · have kept : (conn.finish side).handle other = conn.handle other := by
        cases side <;> cases other <;> first | rfl | exact absurd rfl same
      have flag : (conn.finish side).isClosed other = conn.isClosed other := by
        cases side <;> cases other <;> first | rfl | exact absurd rfl same
      rw [kept]
      exact linked.finished found (flag ▸ closed)

end Linked

/-- When the loop has closed a listener, the connections of its relay are freed. -/
def Vacated (state : Forwarder) (input : RelayEvent × RelayEnv) : Prop :=
  ∀ ref, input.1 = .listenerClosed ref →
    ∀ number conn, state.engine.conn number = some conn → conn.relay = ref → state.connReleased number = true

theorem Linked.turn {env : RelayEnv} {state next : Forwarder} {event : RelayEvent} (linked : Linked state)
    (turn : RelayTurn env state event next) : Linked next := by
  have rejects (rejected : Nat) : Linked { state with rejected } :=
    ⟨linked.names, linked.gone, linked.usable, linked.finished, linked.quiet, linked.active, linked.designated,
      linked.numbered, linked.honest⟩
  cases turn with
  | opens _ opens => exact linked.opened opens
  | destroys _ chosen refs => exact linked.destroyAll chosen refs
  | accepts _ ending =>
    cases ending with
    | ignored => exact linked
    | rejected => exact rejects _
    | admitted found alive => exact linked.admitted env found alive
  | transfers busy ending =>
    have settled := linked.settled busy
    cases ending with
    | flows flow => exact linked.setFlow flow settled
    | closes flow => exact (linked.setFlow flow settled).close settled
  | closes found closing ending =>
    exact (linked.sideClosed found closing).maybeFree (Function.update_self ..) (linked.quiet found closing) ending
  | forgets => exact rejects _

theorem Linked.step {state next : Forwarder} {input : RelayEvent × RelayEnv} (linked : Linked state)
    (vacated : Vacated state input) (stepped : forwarder.step state input = some next) : Linked next := by
  obtain ⟨enabled, rfl⟩ := forwarder_step stepped
  rcases callback_turn input.2 enabled with ⟨ref, relay, asked, found, closing, same⟩ | turn
  · rw [same]
    exact linked.release found closing (vacated ref asked)
  · exact linked.turn turn

private theorem linked_run {events : List (RelayEvent × RelayEnv)} {final : Forwarder}
    (conforms : forwarder.Conforms Vacated .start events) (executed : forwarder.run .start events = some final) :
    Linked final :=
  forwarder.conforming_induction (fun _ state => Linked state) linked_start
    (fun _ _ _ _ _ linked vacated stepped => linked.step vacated stepped) conforms executed

/-- Every time that `relay_maybe_free` follows `conn->relay`, the relay is still there. -/
theorem relays_outlive_connections {events : List (RelayEvent × RelayEnv)} {final : Forwarder}
    (conforms : forwarder.Conforms Vacated .start events) (executed : forwarder.run .start events = some final) :
    ∀ visit ∈ final.followed, visit.released = false :=
  (linked_run conforms executed).honest

/-- A relay whose client waits for the target, and that is closed then. -/
def closedRelay : List (RelayEvent × RelayEnv) :=
  [(.open 1 (ascii "127.0.0.1") 8080 (ascii "127.0.0.1") 80, {}), (.incoming 0 0, {}), (.close 1, {})]

/-- The loop closes the handles of a connection, which had not been connected yet. -/
def closedConn (conn : Nat) : List (RelayEvent × RelayEnv) :=
  [(.connected conn (-125), {}), (.sideClosed conn .outbound, {}), (.sideClosed conn .inbound, {})]

def closedListener : RelayEvent × RelayEnv := (.listenerClosed 0, {})

/-- libuv closes the handle first that was handed to it last, which is the listener. -/
theorem relay_followed_after_release :
    (forwarder.run .start (closedRelay ++ [closedListener] ++ closedConn 1)).map (·.followed) =
      some [⟨1, 0, true⟩] := by
  decide

theorem relays_outlive_connections_last : ∃ final,
    forwarder.run .start (closedRelay ++ closedConn 1 ++ [closedListener]) = some final ∧
      final.followed.length = 1 ∧ ∀ visit ∈ final.followed, visit.released = false := by
  have before : forwarder.Conforms Vacated .start (closedRelay ++ closedConn 1) := by
    refine forwarder.conforms_of_forall fun input member state ref same => ?_
    simp only [closedRelay, closedConn, List.cons_append, List.nil_append, List.mem_cons, List.not_mem_nil, or_false]
      at member
    rcases member with rfl | rfl | rfl | rfl | rfl | rfl <;> cases same
  have conforms : forwarder.Conforms Vacated .start (closedRelay ++ closedConn 1 ++ [closedListener]) := by
    refine forwarder.conforms_append.mpr ⟨before, fun state executed _ _ number conn held _ => ?_⟩
    have below := (linked_run before executed).below held
    cases executed
    match number, below with
    | 0, _ => cases held
    | 1, _ => rfl
  exact ⟨_, rfl, rfl, relays_outlive_connections conforms rfl⟩

end Luagent.Proofs
