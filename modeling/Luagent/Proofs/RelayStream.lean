import Luagent.Proofs.RelaySteps

/-! The bytes that go through a relay's connection. Until the connection closes,
what was read from one side is what was written to the other and what waits to be. -/

namespace Luagent.Proofs
open Foundation

def waiting (flow : Flow) (dst : RelaySide) : Bytes := (flow.writesTo dst).flatMap (·.bytes)

def WholeFlow (flow : Flow) : Prop := ∀ side :
    RelaySide, flow.read side = flow.written side.other ++ waiting flow side.other

def Filled (flow : Flow) : Prop := ∀ write ∈ flow.writes, write.bytes ≠ []

private theorem waiting_eq_nil {flow : Flow} (filled : Filled flow) (dst : RelaySide) :
    waiting flow dst = [] ↔ flow.writesTo dst = [] := by
  constructor
  · intro none
    refine List.eq_nil_iff_forall_not_mem.mpr fun write member => ?_
    have empty := List.flatMap_eq_nil_iff.mp none write member
    exact filled write (List.mem_filter.mp member).1 empty
  · intro none
    simp only [waiting, none, List.flatMap_nil]

theorem other_other (side : RelaySide) : side.other.other = side := by cases side <;> rfl

theorem filter_erase {α : Type} [DecidableEq α] (keep : α → Bool) (entry : α) (entries : List α) :
    (entries.erase entry).filter keep = if keep entry then (entries.filter keep).erase entry else entries.filter keep := by
  induction entries with
  | nil => simp
  | cons head rest ih =>
    by_cases same : head = entry
    · subst same
      cases kept : keep head <;> simp [kept]
    · rw [List.erase_cons_tail (by simpa using same)]
      cases kept : keep head <;> cases entryKept : keep entry <;> simp_all

private theorem waiting_erase {flow : Flow} {write : RelayWrite} {after : Flow}
    (writes : after.writes = flow.writes.erase write)
    (first : (flow.writesTo write.dst).head? = some write) :
    waiting flow write.dst = write.bytes ++ waiting after write.dst := by
  obtain ⟨rest, split⟩ := List.head?_eq_some_iff.mp first
  have left : after.writesTo write.dst = rest := by
    rw [Flow.writesTo, writes, filter_erase, if_pos (by simp)]
    rw [Flow.writesTo] at split
    rw [split, List.erase_cons_head]
  rw [waiting, waiting, split, left, List.flatMap_cons]

private theorem waiting_erase_other {flow : Flow} {write : RelayWrite} {after : Flow}
    (writes : after.writes = flow.writes.erase write)
    {dst : RelaySide} (different : write.dst ≠ dst) : waiting after dst = waiting flow dst := by
  rw [waiting, waiting, Flow.writesTo, writes, filter_erase, if_neg (by simpa using different), Flow.writesTo]

private theorem waiting_append {flow after : Flow} {write : RelayWrite} (writes : after.writes = flow.writes ++ [write])
    (dst : RelaySide) : waiting after dst = waiting flow dst ++ if write.dst = dst then write.bytes else [] := by
  simp only [waiting, Flow.writesTo, writes, List.filter_append, List.flatMap_append]
  split
  next same => simp [same]
  next different => simp [different]

private theorem whole_congr {flow after : Flow} (whole : WholeFlow flow) (writes : after.writes = flow.writes)
    (read : after.read = flow.read) (written : after.written = flow.written) : WholeFlow after := by
  intro side
  rw [read, written, waiting, Flow.writesTo, writes]
  exact whole side

structure Carried (state : Forwarder) : Prop where
  finished : ∀ {ref conn side}, state.engine.conn ref = some conn → conn.isClosed side = true →
    (conn.handle side).phase ≠ .open
  shut : ∀ {ref conn}, state.engine.conn ref = some conn → conn.closing = true → ∀ side, (conn.handle side).phase ≠ .open
  whole : ∀ {ref conn}, state.engine.conn ref = some conn → conn.closing = false → WholeFlow (state.flow ref)
  filled : ∀ ref, Filled (state.flow ref)
  numbered : ∀ {ref}, state.engine.allocated ≤ ref → state.engine.conn ref = none

theorem carried_start : Carried .start :=
  ⟨nofun, nofun, nofun, nofun, fun _ => rfl⟩

theorem relayClose_closing {engine : Engine} {ref : Nat} {conn : RelayConn}
    (found : (relayClose engine ref).conn ref = some conn) : conn.closing = true := by
  cases relayClose_effect engine ref with
  | nothing gone same =>
    rw [same] at found
    exact gone conn found
  | closed before dead _ same shut =>
    rw [same] at found
    rcases update_eq_some found with ⟨_, rfl⟩ | ⟨different, _⟩
    · exact shut.closing
    · exact absurd rfl different

namespace Carried
variable {state next : Forwarder}

/-- Connections are shut at most; what goes through those that stay open is whole. -/
theorem shuts (carried : Carried state) (closes : OnlyShuts state.engine next.engine)
    (whole : ∀ {ref conn}, state.engine.conn ref = some conn → next.engine.conn ref = some conn →
      conn.closing = false → WholeFlow (next.flow ref))
    (filled : ∀ ref, Filled (next.flow ref)) : Carried next := by
  refine ⟨?_, ?_, ?_, filled, ?_⟩
  · intro ref conn side found closed
    rcases closes.conn ref with same | ⟨before, dead, was, held, shut⟩
    · exact carried.finished (same ▸ found) closed
    · cases held.symm.trans found
      rw [shut.flags] at closed
      rw [shut.handles, if_pos closed]
      exact carried.finished was closed
  · intro ref conn found closing side
    rcases closes.conn ref with same | ⟨before, dead, was, held, shut⟩
    · exact carried.shut (same ▸ found) closing side
    · cases held.symm.trans found
      rw [shut.handles]
      split
      next closed => exact carried.finished was closed
      next => simp
  · intro ref conn found alive
    rcases closes.conn ref with same | ⟨before, dead, was, held, shut⟩
    · exact whole (same ▸ found) found alive
    · cases held.symm.trans found
      rw [shut.closing] at alive
      cases alive
  · intro ref beyond
    have absent := carried.numbered (Nat.le_trans closes.allocated beyond)
    rcases closes.conn ref with same | ⟨before, dead, was, _⟩
    · rw [same, absent]
    · rw [absent] at was
      cases was

/-- The same when one flow changes. -/
theorem flows (carried : Carried state) (closes : OnlyShuts state.engine next.engine) {ref : Nat} {flow : Flow}
    (flows : next.flow = Function.update state.flow ref flow)
    (whole : ∀ {conn}, state.engine.conn ref = some conn → next.engine.conn ref = some conn →
      conn.closing = false → WholeFlow flow)
    (filled : Filled flow) : Carried next := by
  refine carried.shuts closes ?_ ?_
  · intro other conn found held alive
    rw [flows]
    by_cases same : other = ref
    · subst same
      rw [Function.update_self]
      exact whole found held alive
    · rw [Function.update_of_ne same]
      exact carried.whole found alive
  · intro other
    rw [flows]
    by_cases same : other = ref
    · rw [same, Function.update_self]
      exact filled
    · rw [Function.update_of_ne same]
      exact carried.filled other

/-- A new connection through which nothing went yet. -/
theorem added (carried : Carried state) (conn : RelayConn) (flow : Flow)
    (conns : next.engine.conn = Function.update state.engine.conn state.engine.allocated (some conn))
    (flows : next.flow = Function.update state.flow state.engine.allocated flow)
    (allocated : next.engine.allocated = state.engine.allocated + 1) (unset : ∀ side, conn.isClosed side = false)
    (shut : conn.closing = true → ∀ side, (conn.handle side).phase ≠ .open) (writes : flow.writes = [])
    (read : flow.read = Flow.zero.read) (written : flow.written = Flow.zero.written) : Carried next := by
  have zero : WholeFlow .zero := by rintro ⟨⟩ <;> rfl
  have whole : WholeFlow flow := whole_congr zero writes read written
  refine ⟨?_, ?_, ?_, ?_, ?_⟩
  · intro ref current side found closed
    rw [conns] at found
    rcases update_eq_some found with ⟨rfl, rfl⟩ | ⟨_, found⟩
    · rw [unset] at closed
      cases closed
    · exact carried.finished found closed
  · intro ref current found closing
    rw [conns] at found
    rcases update_eq_some found with ⟨rfl, rfl⟩ | ⟨_, found⟩
    · exact shut closing
    · exact carried.shut found closing
  · intro ref current found alive
    rw [conns] at found
    rw [flows]
    rcases update_eq_some found with ⟨rfl, rfl⟩ | ⟨different, found⟩
    · rw [Function.update_self]
      exact whole
    · rw [Function.update_of_ne different]
      exact carried.whole found alive
  · intro ref write member
    rw [flows] at member
    by_cases same : ref = state.engine.allocated
    · rw [same, Function.update_self, writes] at member
      cases member
    · rw [Function.update_of_ne same] at member
      exact carried.filled ref write member
  · intro ref beyond
    rw [allocated] at beyond
    rw [conns, Function.update_of_ne (Nat.ne_of_gt beyond)]
    exact carried.numbered (Nat.le_of_succ_le beyond)

theorem admits (carried : Carried state) {env : RelayEnv} {ref : Nat} {relay : Relay}
    (effect : AdmitEffect env state ref relay next) : Carried next := by
  cases effect with
  | nothing same =>
    rw [same]
    exact carried
  | freed conn same _ unset alive _ =>
    refine carried.added conn .zero ?_ ?_ ?_ unset ?_ rfl rfl rfl
    · rw [same]
    · rw [same]
    · rw [same]
    · rw [alive]
      nofun
  | made designated conn flow same _ unset shut idle =>
    refine carried.added conn flow ?_ ?_ ?_ unset shut idle.1 idle.2.1 idle.2.2.2
    · rw [same]
    · rw [same]
    · rw [same]

theorem alive (carried : Carried state) {ref : Nat} {conn : RelayConn} {side : RelaySide}
    (found : state.engine.conn ref = some conn) (opened : (conn.handle side).phase = .open) : conn.closing = false := by
  by_contra closing
  exact carried.shut found (eq_true_of_ne_false closing) side opened

theorem reads (carried : Carried state) {ref : Nat} {conn : RelayConn} {side : RelaySide} {bytes : Bytes}
    (found : state.engine.conn ref = some conn) (alive : conn.closing = false)
    (effect : ReadEffect state ref side bytes next) : Carried next := by
  cases effect with
  | empty _ same =>
    rw [same]
    exact carried
  | refused flow same rest =>
    subst same
    refine carried.flows (.close state.engine ref) rfl ?_ ?_
    · intro current _ held alive
      rw [relayClose_closing held] at alive
      cases alive
    · rw [rest]
      exact carried.filled ref
  | forwarded flow same some _ rest =>
    subst same
    refine carried.flows (.of_eq rfl (Nat.le_refl _)) rfl ?_ ?_
    · intro current _ _ _ source
      have before := carried.whole found alive source
      have writes : flow.writes = (state.flow ref).writes ++ [⟨side.other, bytes⟩] := by rw [rest]
      have read : flow.read = Function.update (state.flow ref).read side ((state.flow ref).read side ++ bytes) := by
        rw [rest]
      have written : flow.written = (state.flow ref).written := by rw [rest]
      rw [waiting_append writes, read, written]
      by_cases same : source = side
      · subst same
        rw [Function.update_self, before, if_pos rfl, List.append_assoc]
      · have different : ¬ side.other = source.other := fun equal => same (by
          rw [← other_other source, ← equal, other_other])
        rw [Function.update_of_ne same, before, if_neg different, List.append_nil]
    · intro write member
      rw [rest] at member
      rcases List.mem_append.mp member with earlier | last
      · exact carried.filled ref write earlier
      · rw [List.mem_singleton.mp last]
        exact some

theorem writes (carried : Carried state) {ref : Nat} {write : RelayWrite} {status : Int}
    (first : ((state.flow ref).writesTo write.dst).head? = some write)
    (effect : WriteEffect state ref write status next) : Carried next := by
  have filled : ∀ {flow : Flow}, flow.writes = (state.flow ref).writes.erase write → Filled flow := by
    intro flow writes other member
    rw [writes] at member
    exact carried.filled ref other (List.mem_of_mem_erase member)
  cases effect with
  | failed flow same _ writes =>
    subst same
    refine carried.flows (.close state.engine ref) rfl ?_ (filled writes)
    intro conn _ held alive
    rw [relayClose_closing held] at alive
    cases alive
  | done flow same _ writes read written =>
    subst same
    refine carried.flows (.of_eq rfl (Nat.le_refl _)) rfl ?_ (filled writes)
    intro conn found _ alive side
    rw [read, written, carried.whole found alive side]
    by_cases equal : write.dst = side.other
    · rw [← equal, Function.update_self, waiting_erase writes first, List.append_assoc]
    · rw [Function.update_of_ne (Ne.symm equal), waiting_erase_other writes equal]

theorem finishes (carried : Carried state) {ref : Nat} {conn : RelayConn} {side : RelaySide}
    (found : state.engine.conn ref = some conn) (flows : next.flow = state.flow)
    (conns : next.engine.conn = Function.update state.engine.conn ref (some (conn.finish side)))
    (allocated : next.engine.allocated = state.engine.allocated) : Carried next := by
  have same : ∀ other, other = side ∨
      (conn.finish side).handle other = conn.handle other ∧ (conn.finish side).isClosed other = conn.isClosed other := by
    intro other
    cases side <;> cases other <;> simp [RelayConn.finish, RelayConn.handle, RelayConn.isClosed]
  have closed : ((conn.finish side).handle side).phase ≠ .open := by cases side <;> nofun
  have closing : (conn.finish side).closing = conn.closing := by cases side <;> rfl
  refine ⟨?_, ?_, ?_, flows ▸ carried.filled, ?_⟩
  · intro number current other held isClosed
    rw [conns] at held
    rcases update_eq_some held with ⟨rfl, rfl⟩ | ⟨_, held⟩
    · rcases same other with rfl | ⟨handle, flag⟩
      · exact closed
      · rw [handle]
        exact carried.finished found (flag ▸ isClosed)
    · exact carried.finished held isClosed
  · intro number current held gone other
    rw [conns] at held
    rcases update_eq_some held with ⟨rfl, rfl⟩ | ⟨_, held⟩
    · rcases same other with rfl | ⟨handle, _⟩
      · exact closed
      · rw [handle]
        exact carried.shut found (closing ▸ gone) other
    · exact carried.shut held gone other
  · intro number current held alive
    rw [conns] at held
    rw [flows]
    rcases update_eq_some held with ⟨rfl, rfl⟩ | ⟨_, held⟩
    · exact carried.whole found (closing ▸ alive)
    · exact carried.whole held alive
  · intro number beyond
    rw [allocated] at beyond
    have absent := carried.numbered beyond
    have different : number ≠ ref := fun equal => by
      rw [equal, found] at absent
      cases absent
    rw [conns, Function.update_of_ne different, absent]

theorem moved (carried : Carried state) (moved : Moved state next) : Carried next := by
  cases moved with
  | shuts closes flows =>
    refine carried.shuts closes (fun found _ alive => ?_) (fun ref => flows ▸ carried.filled ref)
    rw [flows]
    exact carried.whole found alive
  | admits ref relay effect => exact carried.admits effect
  | connects ref flow closes flows rest =>
    refine carried.flows closes flows (fun found _ alive => ?_) ?_
    · rw [rest]
      exact whole_congr (carried.whole found alive) rfl rfl rfl
    · rw [rest]
      exact carried.filled ref
  | reads env ref conn side bytes found opened same =>
    rw [same]
    have alive := carried.alive found opened
    exact carried.reads found alive (relayReadCb_effect env side bytes found alive)
  | writes ref conn write status _ _ first same =>
    rw [same]
    exact carried.writes first (relayWriteCb_effect state ref write status)
  | finishes ref conn side found _ flows conns allocated => exact carried.finishes found flows conns allocated

end Carried

structure Over (state : Forwarder) (ref : Nat) (written : RelaySide → Bytes) : Prop where
  closing : ∃ conn, state.engine.conn ref = some conn ∧ conn.closing = true
  written : (state.flow ref).written = written

namespace Over
variable {state next : Forwarder} {ref : Nat} {written : RelaySide → Bytes}

/-- What is closing is not shut again. -/
theorem shuts (isOver : Over state ref written) (closes : OnlyShuts state.engine next.engine)
    (flow : (next.flow ref).written = (state.flow ref).written) : Over next ref written := by
  obtain ⟨conn, found, closing⟩ := isOver.closing
  refine ⟨?_, flow.trans isOver.written⟩
  rcases closes.conn ref with same | ⟨before, dead, was, _, shut⟩
  · exact ⟨conn, same.trans found, closing⟩
  · cases found.symm.trans was
    have alive := shut.alive
    rw [closing] at alive
    cases alive

theorem flows (isOver : Over state ref written) (closes : OnlyShuts state.engine next.engine) {number : Nat} {flow : Flow}
    (flows : next.flow = Function.update state.flow number flow)
    (same : number = ref → flow.written = (state.flow ref).written) : Over next ref written := by
  refine isOver.shuts closes ?_
  rw [flows]
  by_cases equal : number = ref
  · rw [equal, Function.update_self, same equal]
  · rw [Function.update_of_ne (Ne.symm equal)]

theorem added (isOver : Over state ref written) (carried : Carried state) {conn : RelayConn} {flow : Flow}
    (conns : next.engine.conn = Function.update state.engine.conn state.engine.allocated (some conn))
    (flows : next.flow = Function.update state.flow state.engine.allocated flow) : Over next ref written := by
  obtain ⟨old, found, closing⟩ := isOver.closing
  have different : ref ≠ state.engine.allocated := fun equal => by
    rw [carried.numbered (Nat.le_of_eq equal.symm)] at found
    cases found
  refine ⟨⟨old, ?_, closing⟩, ?_⟩
  · rw [conns, Function.update_of_ne different, found]
  · rw [flows, Function.update_of_ne different, isOver.written]

theorem moved (isOver : Over state ref written) (carried : Carried state) (moved : Moved state next) :
    Over next ref written := by
  obtain ⟨conn, found, closing⟩ := isOver.closing
  cases moved with
  | shuts closes flows => exact isOver.shuts closes (by rw [flows])
  | admits number relay effect =>
    cases effect with
    | nothing same =>
      rw [same]
      exact isOver
    | freed added same => exact isOver.added carried (by rw [same]) (by rw [same])
    | made designated added flow same => exact isOver.added carried (by rw [same]) (by rw [same])
  | connects number flow closes flows rest =>
    refine isOver.flows closes flows ?_
    rintro rfl
    rw [rest]
  | reads env number other side bytes held opened same =>
    have alive := carried.alive held opened
    have different : number ≠ ref := by
      rintro rfl
      cases held.symm.trans found
      rw [closing] at alive
      cases alive
    rw [same]
    cases relayReadCb_effect env side bytes held alive with
    | empty _ same =>
      rw [same]
      exact isOver
    | refused flow same =>
      rw [same]
      exact isOver.flows (.close state.engine number) rfl fun equal => absurd equal different
    | forwarded flow same =>
      rw [same]
      exact isOver.flows (.of_eq rfl (Nat.le_refl _)) rfl fun equal => absurd equal different
  | writes number other write status held opened _ same =>
    rw [same]
    cases relayWriteCb_effect state number write status with
    | failed flow same _ _ _ unchanged =>
      rw [same]
      refine isOver.flows (.close state.engine number) rfl ?_
      rintro rfl
      exact unchanged
    | done flow same success =>
      rw [same]
      refine isOver.flows (.of_eq rfl (Nat.le_refl _)) rfl ?_
      -- a closing handle completes no write well
      rintro rfl
      cases held.symm.trans found
      exact absurd (opened.resolve_right (Int.not_lt.mpr success)) (carried.shut held closing _)
  | finishes number other side held _ flows conns _ =>
    refine ⟨?_, by rw [flows, isOver.written]⟩
    by_cases equal : ref = number
    · subst equal
      cases held.symm.trans found
      refine ⟨conn.finish side, by rw [conns, Function.update_self], ?_⟩
      rw [← closing]
      cases side <;> rfl
    · exact ⟨conn, by rw [conns, Function.update_of_ne equal, found], closing⟩

end Over

private theorem carried_run {events : List (RelayEvent × RelayEnv)} {final : Forwarder}
    (executed : forwarder.run .start events = some final) : Carried final :=
  forwarder.run_invariant (fun _ _ _ carried stepped => carried.moved (forwarder_moved stepped)) carried_start executed

private theorem over_run {state final : Forwarder} {ref : Nat} {written : RelaySide → Bytes}
    {events : List (RelayEvent × RelayEnv)}
    (carried : Carried state) (isOver : Over state ref written) (executed : forwarder.run state events = some final) :
    Over final ref written :=
  (forwarder.run_invariant (fun current _ _ (both : Carried current ∧ Over current ref written) stepped =>
    have moved := forwarder_moved stepped
    ⟨both.1.moved moved, both.2.moved both.1 moved⟩) ⟨carried, isOver⟩ executed).2

/-- When one side ends, the connection is closed. Every byte that was read from it
reaches the other side exactly if no write to that side is left by then. -/
theorem relay_delivers_iff {history later : List (RelayEvent × RelayEnv)} {state next final : Forwarder} {ref : Nat}
    {side : RelaySide} {env : RelayEnv} (executed : forwarder.run .start history = some state)
    (ended : forwarder.step state (.ended ref side, env) = some next)
    (continued : forwarder.run next later = some final) :
    (final.flow ref).written side.other = (state.flow ref).read side ↔ (state.flow ref).writesTo side.other = [] := by
  have carried := carried_run executed
  obtain ⟨enabled, same⟩ := forwarder_step ended
  obtain ⟨_, conn, found, opened⟩ := reads_open enabled
  have alive := carried.alive found opened
  have isOver : Over next ref (state.flow ref).written := by
    rw [same]
    refine ⟨?_, rfl⟩
    cases relayClose_effect state.engine ref with
    | nothing gone _ =>
      rw [gone conn found] at alive
      cases alive
    | closed _ dead _ same shut => exact ⟨dead, by simp only [Forwarder.callback, Forwarder.close, same, Engine.setConn,
        Function.update_self], shut.closing⟩
  rw [(over_run (carried.moved (forwarder_moved ended)) isOver continued).written, carried.whole found alive side,
    List.self_eq_append_right, waiting_eq_nil (carried.filled ref)]

/-- A client that is connected to the target and sends two bytes. -/
def sentBytes : List (RelayEvent × RelayEnv) :=
  [(.open 1 (ascii "127.0.0.1") 8080 (ascii "127.0.0.1") 80, {}), (.incoming 0 0, {}), (.connected 1 0, {}),
    (.read 1 .inbound (ascii "hi"), {})]

def clientEnded : RelayEvent × RelayEnv := (.ended 1 .inbound, {})

def taken (status : Int) : RelayEvent × RelayEnv := (.written 1 ⟨.outbound, ascii "hi"⟩ status, {})

def closedSides : List (RelayEvent × RelayEnv) := [(.sideClosed 1 .outbound, {}), (.sideClosed 1 .inbound, {})]

/-- The client ends before the target has taken what it sent. -/
theorem last_bytes_dropped :
    (forwarder.run .start (sentBytes ++ [clientEnded, taken (-125)] ++ closedSides)).map
      (fun final => ((final.flow 1).read .inbound, (final.flow 1).written .outbound, final.connReleased 1)) =
      some (ascii "hi", [], true) := by
  decide

theorem relay_delivers_iff_hi : ∃ state next final, forwarder.run .start (sentBytes ++ [taken 0]) = some state ∧
    forwarder.step state clientEnded = some next ∧ forwarder.run next closedSides = some final ∧
      (state.flow 1).read .inbound = ascii "hi" ∧
        (final.flow 1).written .outbound = (state.flow 1).read .inbound :=
  ⟨_, _, _, rfl, rfl, rfl, rfl,
    (@relay_delivers_iff (sentBytes ++ [taken 0]) closedSides _ _ _ 1 .inbound {} rfl rfl rfl).mpr rfl⟩

end Luagent.Proofs
