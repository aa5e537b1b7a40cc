import Luagent.Proofs.RelayStream
import Mathlib.Algebra.GroupWithZero.Nat

/-! A relay's connection in each direction: what is handed to `uv_write` is the
beginning of what was read, and the counters of pending bytes are exact. -/

namespace Luagent.Proofs
open Foundation

/-- The bytes in the writes to a side that did not complete yet. -/
def unfinished (flow : Flow) (dst : RelaySide) : Nat := ((flow.writesTo dst).map (·.bytes.length)).sum

/-- What a flow keeps whether its connection is closing or not. -/
structure FaithfulFlow (flow : Flow) : Prop where
  begins : ∀ side : RelaySide, flow.accepted side.other <+: flow.read side
  pending : ∀ side, flow.pending side = unfinished flow side
  bounded : ∀ side, flow.pending side ≤ portfwdMaxPendingBytes
  connected : ∀ side, flow.reading side = true → flow.connected .outbound = true

def Complete (flow : Flow) : Prop := ∀ side : RelaySide, flow.accepted side.other = flow.read side

private theorem unfinished_append {flow after : Flow} {write : RelayWrite} (writes : after.writes = flow.writes ++ [write])
    (dst : RelaySide) : unfinished after dst = unfinished flow dst + if write.dst = dst then write.bytes.length else 0 := by
  simp only [unfinished, Flow.writesTo, writes, List.filter_append, List.map_append, List.sum_append]
  split
  next same => simp [same]
  next different => simp [different]

private theorem unfinished_erase {flow after : Flow} {write : RelayWrite} (writes : after.writes = flow.writes.erase write)
    (first : (flow.writesTo write.dst).head? = some write) :
    unfinished flow write.dst = write.bytes.length + unfinished after write.dst := by
  obtain ⟨rest, shape⟩ : ∃ rest, flow.writesTo write.dst = write :: rest := List.head?_eq_some_iff.mp first
  have after : after.writesTo write.dst = rest := by
    rw [Flow.writesTo, writes, filter_erase, if_pos (by simp), ← Flow.writesTo, shape, List.erase_cons_head]
  rw [unfinished, unfinished, after, shape, List.map_cons, List.sum_cons]

private theorem unfinished_erase_other {flow after : Flow} {write : RelayWrite}
    (writes : after.writes = flow.writes.erase write)
    {dst : RelaySide} (different : write.dst ≠ dst) : unfinished after dst = unfinished flow dst := by
  rw [unfinished, unfinished, Flow.writesTo, writes, filter_erase, if_neg (by simpa using different), Flow.writesTo]

namespace FaithfulFlow
variable {flow after : Flow}

theorem congr (faithful : FaithfulFlow flow) (read : after.read = flow.read) (accepted : after.accepted = flow.accepted)
    (pending : after.pending = flow.pending) (writes : after.writes = flow.writes)
    (connected : ∀ side, after.reading side = true → after.connected .outbound = true) : FaithfulFlow after where
  begins side := by
    rw [read, accepted]
    exact faithful.begins side
  pending side := by
    rw [pending, unfinished, Flow.writesTo, writes]
    exact faithful.pending side
  bounded side := by
    rw [pending]
    exact faithful.bounded side
  connected := connected

theorem zero : FaithfulFlow .zero where
  begins _ := List.prefix_refl _
  pending _ := rfl
  bounded _ := Nat.zero_le _
  connected := nofun

theorem guard (faithful : FaithfulFlow flow) {write : RelayWrite} (first : (flow.writesTo write.dst).head? = some write) :
    write.bytes.length ≤ flow.pending write.dst := by
  rw [faithful.pending, @unfinished_erase flow { flow with writes := flow.writes.erase write } write rfl first]
  exact Nat.le_add_right _ _

theorem completes (faithful : FaithfulFlow flow) {write : RelayWrite} (first : (flow.writesTo write.dst).head? = some write)
    (writes : after.writes = flow.writes.erase write) (read : after.read = flow.read)
    (completes : FlowCompletes flow write after) : FaithfulFlow after := by
  have guard := faithful.guard first
  have before := faithful.pending write.dst
  rw [unfinished_erase writes first] at before
  have left : ∀ side, after.pending side = unfinished after side ∧ after.pending side ≤ flow.pending side := by
    intro side
    rw [completes.pending, if_pos guard]
    by_cases same : side = write.dst
    · subst same
      rw [Function.update_self]
      exact ⟨by omega, by omega⟩
    · rw [Function.update_of_ne same, unfinished_erase_other writes (Ne.symm same)]
      exact ⟨faithful.pending side, Nat.le_refl _⟩
  refine ⟨fun side => ?_, fun side => (left side).1, fun side => Nat.le_trans (left side).2 (faithful.bounded side), ?_⟩
  · rw [read, completes.accepted]
    exact faithful.begins side
  · rw [completes.reading, completes.connected]
    exact faithful.connected

/-- Bytes were read and could not be forwarded. -/
theorem refused (faithful : FaithfulFlow flow) {side : RelaySide} {bytes : Bytes}
    (rest : after = { flow with read := Function.update flow.read side (flow.read side ++ bytes) }) : FaithfulFlow after := by
  subst rest
  refine ⟨fun source => ?_, faithful.pending, faithful.bounded, faithful.connected⟩
  by_cases same : source = side
  · subst same
    simp only [Function.update_self]
    exact (faithful.begins source).trans (List.prefix_append _ _)
  · simp only [Function.update_of_ne same]
    exact faithful.begins source

/-- Bytes were read and forwarded. -/
theorem forwarded (faithful : FaithfulFlow flow) (complete : Complete flow) {side : RelaySide} {bytes : Bytes}
    (room : flow.pending side.other + bytes.length ≤ portfwdMaxPendingBytes)
    (rest : after = { flow with
      read := Function.update flow.read side (flow.read side ++ bytes)
      pending := Function.update flow.pending side.other (flow.pending side.other + bytes.length)
      writes := flow.writes ++ [⟨side.other, bytes⟩]
      accepted := Function.update flow.accepted side.other (flow.accepted side.other ++ bytes) }) :
    FaithfulFlow after ∧ Complete after := by
  have whole : Complete after := by
    intro source
    subst rest
    by_cases same : source = side
    · subst same
      simp only [Function.update_self]
      rw [complete source]
    · have different : source.other ≠ side.other := fun equal => same (by
        rw [← other_other source, equal, other_other])
      simp only [Function.update_of_ne same, Function.update_of_ne different]
      exact complete source
  have writes : after.writes = flow.writes ++ [⟨side.other, bytes⟩] := by rw [rest]
  have pending : after.pending =
      Function.update flow.pending side.other (flow.pending side.other + bytes.length) := by rw [rest]
  refine ⟨⟨fun source => ?_, fun dst => ?_, fun dst => ?_, by rw [rest]; exact faithful.connected⟩, whole⟩
  · exact whole source ▸ List.prefix_refl _
  · rw [pending, unfinished_append writes]
    by_cases same : dst = side.other
    · subst same
      rw [Function.update_self, if_pos rfl, faithful.pending]
    · rw [Function.update_of_ne same, if_neg (Ne.symm same), Nat.add_zero, faithful.pending]
  · rw [pending]
    by_cases same : dst = side.other
    · subst same
      rw [Function.update_self]
      exact room
    · rw [Function.update_of_ne same]
      exact faithful.bounded dst

end FaithfulFlow

structure Conveys (state : Forwarder) : Prop where
  faithful : ∀ ref, FaithfulFlow (state.flow ref)
  complete : ∀ {ref conn}, state.engine.conn ref = some conn → conn.closing = false → Complete (state.flow ref)
  fresh : ∀ {ref}, state.engine.allocated ≤ ref → state.flow ref = .zero

private theorem conveys_start : Conveys .start := ⟨fun _ => .zero, nofun, fun _ => rfl⟩

namespace Conveys
variable {state next : Forwarder}

/-- One flow changes, that of a connection that exists. -/
theorem flows (conveys : Conveys state) (closes : OnlyShuts state.engine next.engine) {ref : Nat} {flow : Flow}
    (flows : next.flow = Function.update state.flow ref flow) (known : ref < state.engine.allocated)
    (faithful : FaithfulFlow flow)
    (complete : ∀ {conn}, state.engine.conn ref = some conn → next.engine.conn ref = some conn → conn.closing = false →
      Complete flow) : Conveys next := by
  refine ⟨fun other => ?_, fun {other conn} found alive => ?_, fun {other} beyond => ?_⟩
  · rw [flows]
    by_cases same : other = ref
    · rw [same, Function.update_self]
      exact faithful
    · rw [Function.update_of_ne same]
      exact conveys.faithful other
  · rcases closes.conn other with same | ⟨_, dead, _, held, shut⟩
    · rw [flows]
      by_cases equal : other = ref
      · subst equal
        rw [Function.update_self]
        exact complete (same ▸ found) found alive
      · rw [Function.update_of_ne equal]
        exact conveys.complete (same ▸ found) alive
    · cases held.symm.trans found
      rw [shut.closing] at alive
      cases alive
  · have beyond := Nat.le_trans closes.allocated beyond
    rw [flows, Function.update_of_ne (Nat.ne_of_gt (Nat.lt_of_lt_of_le known beyond))]
    exact conveys.fresh beyond

theorem shuts (conveys : Conveys state) (closes : OnlyShuts state.engine next.engine) (flows : next.flow = state.flow) :
    Conveys next := by
  refine ⟨fun ref => flows ▸ conveys.faithful ref, fun {ref conn} found alive => ?_, fun beyond => ?_⟩
  · rw [flows]
    rcases closes.conn ref with same | ⟨_, dead, _, held, shut⟩
    · exact conveys.complete (same ▸ found) alive
    · cases held.symm.trans found
      rw [shut.closing] at alive
      cases alive
  · rw [flows]
    exact conveys.fresh (Nat.le_trans closes.allocated beyond)

/-- A new connection through which nothing went yet. -/
theorem added (conveys : Conveys state) {conn : RelayConn} {flow : Flow}
    (conns : next.engine.conn = Function.update state.engine.conn state.engine.allocated (some conn))
    (flows : next.flow = Function.update state.flow state.engine.allocated flow)
    (allocated : next.engine.allocated = state.engine.allocated + 1) (faithful : FaithfulFlow flow) (complete : Complete flow) :
    Conveys next := by
  refine ⟨fun other => ?_, fun {other current} found alive => ?_, fun {other} beyond => ?_⟩
  · rw [flows]
    by_cases same : other = state.engine.allocated
    · rw [same, Function.update_self]
      exact faithful
    · rw [Function.update_of_ne same]
      exact conveys.faithful other
  · rw [conns] at found
    rw [flows]
    rcases update_eq_some found with ⟨rfl, rfl⟩ | ⟨different, found⟩
    · rw [Function.update_self]
      exact complete
    · rw [Function.update_of_ne different]
      exact conveys.complete found alive
  · rw [allocated] at beyond
    rw [flows, Function.update_of_ne (Nat.ne_of_gt beyond)]
    exact conveys.fresh (Nat.le_of_succ_le beyond)

theorem admits (conveys : Conveys state) {env : RelayEnv} {ref : Nat} {relay : Relay}
    (effect : AdmitEffect env state ref relay next) : Conveys next := by
  have complete : Complete .zero := fun _ => rfl
  cases effect with
  | nothing same =>
    rw [same]
    exact conveys
  | freed conn same => exact conveys.added (by rw [same]) (by rw [same]) (by rw [same]) .zero complete
  | made designated conn flow same _ _ _ idle calm =>
    obtain ⟨writes, read, accepted, _⟩ := idle
    refine conveys.added (by rw [same]) (by rw [same]) (by rw [same])
      (FaithfulFlow.zero.congr read accepted calm.1 writes ?_) ?_
    · rw [calm.2]
      nofun
    · intro side
      rw [read, accepted]
      rfl

/-- The target is reached, or not. -/
theorem connects (conveys : Conveys state) {ref : Nat} {flow : Flow} (known : ref < state.engine.allocated)
    (closes : OnlyShuts state.engine next.engine) (flows : next.flow = Function.update state.flow ref flow)
    (rest : flow = { state.flow ref with connecting := false, connected := flow.connected, reading := flow.reading })
    (opens : flow.connected .outbound = true ∨
      flow.connected = (state.flow ref).connected ∧ flow.reading = (state.flow ref).reading) : Conveys next := by
  have same : flow.read = (state.flow ref).read ∧ flow.accepted = (state.flow ref).accepted ∧
      flow.pending = (state.flow ref).pending ∧ flow.writes = (state.flow ref).writes := by
    rw [rest]
    exact ⟨rfl, rfl, rfl, rfl⟩
  obtain ⟨read, accepted, pending, writes⟩ := same
  refine conveys.flows closes flows known ((conveys.faithful ref).congr read accepted pending writes ?_) ?_
  · intro side reading
    rcases opens with connected | ⟨same, unread⟩
    · exact connected
    · rw [same]
      rw [unread] at reading
      exact (conveys.faithful ref).connected side reading
  · intro conn held _ alive side
    rw [read, accepted]
    exact conveys.complete held alive side

theorem closes (conveys : Conveys state) {ref : Nat} {flow : Flow} (known : ref < state.engine.allocated)
    (faithful : FaithfulFlow flow) : Conveys ((state.setFlow ref flow).close ref) := by
  refine conveys.flows (.close state.engine ref) rfl known faithful ?_
  intro current _ held alive
  rw [relayClose_closing held] at alive
  cases alive

theorem reads (conveys : Conveys state) {ref : Nat} {conn : RelayConn} {side : RelaySide} {bytes : Bytes}
    (known : ref < state.engine.allocated) (found : state.engine.conn ref = some conn) (alive : conn.closing = false)
    (effect : ReadEffect state ref side bytes next) : Conveys next := by
  cases effect with
  | empty _ same =>
    rw [same]
    exact conveys
  | refused flow same rest =>
    rw [same]
    exact conveys.closes known ((conveys.faithful ref).refused rest)
  | forwarded flow same _ room rest =>
    rw [same]
    obtain ⟨faithful, complete⟩ := (conveys.faithful ref).forwarded (conveys.complete found alive) room rest
    exact conveys.flows (.of_eq rfl (Nat.le_refl _)) rfl known faithful fun _ _ _ => complete

theorem writes (conveys : Conveys state) {ref : Nat} {write : RelayWrite} {status : Int}
    (known : ref < state.engine.allocated) (first : ((state.flow ref).writesTo write.dst).head? = some write)
    (effect : WriteEffect state ref write status next) : Conveys next := by
  cases effect with
  | failed flow same _ writes read _ completes =>
    rw [same]
    exact conveys.closes known ((conveys.faithful ref).completes first writes read completes)
  | done flow same _ writes read _ completes =>
    rw [same]
    refine conveys.flows (.of_eq rfl (Nat.le_refl _)) rfl known
      ((conveys.faithful ref).completes first writes read completes) ?_
    intro current held _ alive side
    rw [read, completes.accepted]
    exact conveys.complete held alive side

theorem finishes (conveys : Conveys state) {ref : Nat} {conn : RelayConn} {side : RelaySide}
    (found : state.engine.conn ref = some conn) (flows : next.flow = state.flow)
    (conns : next.engine.conn = Function.update state.engine.conn ref (some (conn.finish side)))
    (allocated : next.engine.allocated = state.engine.allocated) : Conveys next := by
  have closing : (conn.finish side).closing = conn.closing := by cases side <;> rfl
  refine ⟨fun other => flows ▸ conveys.faithful other, fun {other current} held alive => ?_, fun beyond => ?_⟩
  · rw [flows]
    rw [conns] at held
    rcases update_eq_some held with ⟨rfl, rfl⟩ | ⟨_, held⟩
    · exact conveys.complete found (closing ▸ alive)
    · exact conveys.complete held alive
  · rw [flows]
    exact conveys.fresh (allocated ▸ beyond)

theorem moved (conveys : Conveys state) (carried : Carried state) (moved : Moved state next) : Conveys next := by
  have below : ∀ {ref conn}, state.engine.conn ref = some conn → ref < state.engine.allocated := by
    intro ref conn found
    by_contra beyond
    rw [carried.numbered (Nat.le_of_not_lt beyond)] at found
    cases found
  cases moved with
  | shuts closes flows => exact conveys.shuts closes flows
  | admits ref relay effect => exact conveys.admits effect
  | connects ref flow closes flows rest opens known =>
    obtain ⟨conn, found⟩ := known
    exact conveys.connects (below found) closes flows rest opens
  | reads env ref conn side bytes found opened same =>
    have alive := carried.alive found opened
    rw [same]
    exact conveys.reads (below found) found alive (relayReadCb_effect env side bytes found alive)
  | writes ref conn write status found _ first same =>
    rw [same]
    exact conveys.writes (below found) first (relayWriteCb_effect state ref write status)
  | finishes ref conn side found _ flows conns allocated => exact conveys.finishes found flows conns allocated

end Conveys

private theorem conveys_run {events : List (RelayEvent × RelayEnv)} {state : Forwarder}
    (executed : forwarder.run .start events = some state) : Carried state ∧ Conveys state :=
  @Machine.run_invariant _ _ forwarder (fun state => Carried state ∧ Conveys state)
    (fun _ _ _ kept stepped =>
      ⟨kept.1.moved (forwarder_moved stepped), kept.2.moved kept.1 (forwarder_moved stepped)⟩)
    _ _ _ ⟨carried_start, conveys_start⟩ executed

/-- What a step hands to `uv_write`, it hands over for a connection that is
connected and not closing. -/
private theorem forwards_connected {state next : Forwarder} (carried : Carried state) (conveys : Conveys state)
    (moved : Moved state next) {ref : Nat} {dst : RelaySide}
    (grown : (next.flow ref).accepted dst ≠ (state.flow ref).accepted dst) :
    (state.flow ref).connected .outbound = true ∧ ∃ conn, state.engine.conn ref = some conn ∧ conn.closing = false := by
  -- a step that changes one flow, and not what was accepted there
  have unchanged : ∀ {number : Nat} {flow : Flow}, next.flow = Function.update state.flow number flow →
      flow.accepted = (state.flow number).accepted → False := by
    intro number flow flows same
    apply grown
    rw [flows]
    by_cases equal : ref = number
    · rw [equal, Function.update_self, same]
    · rw [Function.update_of_ne equal]
  have new : (state.flow state.engine.allocated).accepted = Flow.zero.accepted := by rw [conveys.fresh (Nat.le_refl _)]
  cases moved with
  | shuts _ flows => exact absurd (by rw [flows]) grown
  | admits number relay effect =>
    exfalso
    cases effect with
    | nothing same => exact grown (by rw [same])
    | freed conn same => exact unchanged (by rw [same]) new.symm
    | made designated conn flow same _ _ _ idle => exact unchanged (by rw [same]) (idle.2.2.1.trans new.symm)
  | connects number flow _ flows rest => exact (unchanged flows (by rw [rest])).elim
  | reads env number conn side bytes found opened same reading =>
    have alive := carried.alive found opened
    have connected := (conveys.faithful number).connected side reading
    subst same
    by_cases equal : ref = number
    · subst equal
      exact ⟨connected, conn, found, alive⟩
    · exfalso
      cases relayReadCb_effect env side bytes found alive with
      | empty _ same => exact grown (by rw [same])
      | refused flow same => exact grown (by rw [same]; simp [Forwarder.close, Forwarder.setFlow, Function.update_of_ne equal])
      | forwarded flow same => exact grown (by rw [same]; simp [Forwarder.setFlow, Function.update_of_ne equal])
  | writes number conn write status _ _ _ same =>
    exfalso
    subst same
    cases relayWriteCb_effect state number write status with
    | failed flow same _ _ _ _ completes => exact unchanged (by rw [same]; rfl) completes.accepted
    | done flow same _ _ _ _ completes => exact unchanged (by rw [same]; rfl) completes.accepted
  | finishes _ _ _ _ _ flows => exact absurd (by rw [flows]) grown

/-- A connection of a relay, in any state that the relays can reach. -/
structure FaithfulRelay (state : Forwarder) (ref : Nat) : Prop where
  begins : ∀ side : RelaySide, (state.flow ref).accepted side.other <+: (state.flow ref).read side
  pending : ∀ side, (state.flow ref).pending side = unfinished (state.flow ref) side
  bounded : ∀ side, (state.flow ref).pending side ≤ portfwdMaxPendingBytes
  forwards : ∀ input next dst, forwarder.step state input = some next →
    (next.flow ref).accepted dst ≠ (state.flow ref).accepted dst →
    (state.flow ref).connected .outbound = true ∧ ∃ conn, state.engine.conn ref = some conn ∧ conn.closing = false
  guard : ∀ write status env next, forwarder.step state (.written ref write status, env) = some next →
    write.bytes.length ≤ (state.flow ref).pending write.dst

/-- In every run, what is forwarded to a side is the beginning of what was read from
the other one, nothing is forwarded before the target is connected or after the
connection is closing, and the counters are the lengths of the writes in progress. -/
theorem relay_stream_faithful {events : List (RelayEvent × RelayEnv)} {state : Forwarder}
    (executed : forwarder.run .start events = some state) (ref : Nat) : FaithfulRelay state ref := by
  obtain ⟨carried, conveys⟩ := conveys_run executed
  have faithful := conveys.faithful ref
  refine ⟨faithful.begins, faithful.pending, faithful.bounded, ?_, ?_⟩
  · intro input next dst stepped grown
    exact forwards_connected carried conveys (forwarder_moved stepped) grown
  · intro write status env next stepped
    obtain ⟨enabled, _⟩ := forwarder_step stepped
    simp only [Forwarder.enabled, Bool.and_eq_true, beq_iff_eq] at enabled
    exact faithful.guard enabled.1

/-- A relay that carries bytes both ways, until a client's bytes cannot be written. -/
def carriedBytes : List (RelayEvent × RelayEnv) :=
  [(.open 1 (ascii "127.0.0.1") 8080 (ascii "127.0.0.1") 80, {}), (.incoming 0 0, {}), (.connected 1 0, {}),
    (.read 1 .inbound (ascii "abc"), {}), (.read 1 .outbound (ascii "xy"), {}), (.written 1 ⟨.outbound, ascii "abc"⟩ 0, {}),
    (.read 1 .inbound (ascii "de"), { write := -32 })]

def carriedPart : Forwarder := (forwarder.run .start carriedBytes).get (by decide)

theorem relay_stream_faithful_part :
    FaithfulRelay carriedPart 1 ∧ (carriedPart.flow 1).read .inbound = ascii "abcde" ∧
    (carriedPart.flow 1).accepted .outbound = ascii "abc" ∧ (carriedPart.flow 1).pending .outbound = 0 ∧
    (carriedPart.flow 1).pending .inbound = 2 :=
  ⟨relay_stream_faithful (Option.some_get (by decide)).symm 1, by decide, by decide, by decide, by decide⟩

end Luagent.Proofs
