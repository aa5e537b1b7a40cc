import Luagent.Proofs.Balance
import Mathlib.Algebra.BigOperators.Group.Finset.Piecewise

/-! The counters of the agent and those of its sessions. Each is counted twice, once
for the agent and once for the session it belongs to, so that the agent's are the sum
of those of all sessions there were. -/

namespace Luagent.Proofs.CounterShares
open Foundation Balance

/-- Whatever is counted is counted for the session and for the agent. Only a relay may
be closed that belongs to another session. -/
def Level (before after : Link) : Prop := ∀ counter, counter ≠ .relayCloses →
  after.tally.global counter + before.tally.session counter = before.tally.global counter + after.tally.session counter

namespace Level
variable {before middle after : Link}

theorem of_counts {counted : List Counter} (counts : Counts before counted after) : Level before after :=
  fun counter _ => counts.global counter

theorem trans (first : Level before middle) (second : Level middle after) : Level before after := by
  intro counter other
  have earlier := first counter other
  have later := second counter other
  omega

theorem of_talks {before after : World} (talks : Talks before after) :
    Level before.link after.link := of_counts talks.counts

end Level

section callbacks
variable {env : Env} {world : World}

private theorem op_level {op : Op} {after : World} (effect : OpEffect env op world after) :
    Level world.link after.link := by
  cases effect with
  | nothing => exact .of_counts (.refl _)
  | opened listenHost listenPort targetHost targetPort =>
    unfold portfwdOpen
    simp only
    split
    · exact .of_counts (.one world.link .relayOpens)
    · exact .of_counts (.refl _)
  | closed relayId =>
    intro counter other
    have ending := portClose_ending world relayId
    generalize portfwdClose world relayId = result at ending ⊢
    cases ending with
    | unknown => rfl
    | destroyed =>
      dsimp only
      split
      · simp only [Tally.add, if_neg other]
      · simp only [Tally.addFor, if_neg other]
  | spawned _ path args timeoutMs idleTimeoutMs =>
    obtain ⟨counted, leaked, counts, _⟩ := spawn_books env world 0 path args timeoutMs idleTimeoutMs false
    exact .of_counts counts

private theorem text_level {type : Option FrameType} {reqId : UInt32} {payload : Bytes} {after : World}
    (idle : world.download = transferInit) (effect : TextEffect env world type reqId payload after) :
    Level world.link after.link := by
  cases effect with
  | talked talks => exact .of_talks talks
  | operated _ _ effect talks => exact (op_level effect).trans (.of_counts talks.counts)
  | began =>
    obtain ⟨counted, leaked, counts, _⟩ := putBegin_books env world reqId payload
    exact .of_counts counts
  | downloaded =>
    obtain ⟨counted, leaked, counts, _⟩ := getBegin_books env world reqId payload idle
    exact .of_counts counts
  | spawned _ path args timeoutMs idleTimeoutMs =>
    obtain ⟨counted, leaked, counts, _⟩ := spawn_books env world reqId path args timeoutMs idleTimeoutMs true
    exact .of_counts counts
  | killed _ _ kill talks =>
    subst kill
    exact .of_counts talks.counts

private theorem control_level (idle : world.download = transferInit) (slot : UploadSlot world.upload) (message : Message) :
    Level world.link (protocolHandleControl env world message).1.link := by
  have effect := control_effect env world message
  generalize protocolHandleControl env world message = after at effect
  cases effect with
  | chunk =>
    obtain ⟨⟨counted, leaked, counts, _⟩, _⟩ := putChunk_books env slot message.reqId message.payload
    exact .of_counts counts
  | ended =>
    obtain ⟨⟨counted, leaked, counts, _⟩, _⟩ := putEnd_books env slot message.reqId
    exact .of_counts counts
  | text _ effect => exact text_level idle effect

private theorem tick_level (idle : world.download = transferInit) : Level world.link (heartbeatCb env world).link := by
  cases tick_step env idle with
  | closed _ same =>
    rw [same]
    exact .of_counts (.refl _)
  | idle _ _ shut =>
    rw [shut]
    exact .of_counts (sessionClose_counts _)
  | checked _ _ middle reached _ timed =>
    obtain ⟨counted, leaked, counts, _⟩ := checkUpload_books env (heartbeatPing env world)
    rw [← reached] at counts
    have timeouts : Level middle.link (procCheckTimeouts env middle).link := by
      have ending := checkTimeouts_ending env middle
      generalize procCheckTimeouts env middle = checked at ending ⊢
      cases ending with
      | still => exact .of_counts (.refl _)
      | killed => exact .of_counts (.one middle.link .processTimeouts)
    rw [timed]
    exact (Level.of_counts (heartbeatPing_counts env world)).trans ((Level.of_counts counts).trans timeouts)

private theorem close_level (name : SessionHandle) : Level world.link (closeCb env world name).link := by
  have ending := closeCb_ending env world name
  generalize closeCb env world name = next at ending ⊢
  cases ending with
  | plain _ shut | dropped _ shut | released _ shut =>
    cases shut
    exact .of_counts (.of_tally rfl)

private theorem callback_level (idle : world.download = transferInit) (slot : UploadSlot world.upload) (event : Event) :
    Level world.link (callback env world event).link := by
  cases event with
  | read action =>
    cases action with
    | received => exact .of_counts (.refl _)
    | badHeader => exact .of_counts ((parseFailure_counts world.link).quiet_first (sessionClose_counts _))
    | overflow | hangup => exact .of_counts (sessionClose_counts _)
    | dispatch message =>
      have handled := @control_level env (world.countFrame message) idle slot message
      exact (Level.of_counts (frameRx_counts world.link _)).trans handled
  | tick => exact tick_level idle
  | written write => exact .of_counts (.of_tally rfl)
  | exited status => exact .of_counts (exitCb_counts env world status)
  | output pipe bytes => exact .of_counts (sendFrame_counts env world.link ..)
  | ended pipe => exact .of_counts (.refl _)
  | closed name => exact close_level name

private theorem agent_level {next : World} {input : Upload.Input} (sound : SoundSession world.toSession)
    (stepped : agent.step world input = some next) : Level world.link next.link := by
  obtain ⟨_, rfl⟩ := agent_step stepped
  exact callback_level sound.download sound.upload input.1

end callbacks

/-- What the sessions that are there report. -/
def reported (state : ServerState) (counter : Counter) : Nat :=
  ∑ id ∈ Finset.range state.nextSessionId, (state.session id).elim 0 fun session => session.link.tally.session counter

/-- The session that a step releases, as it was at the end. -/
def departing (state : ServerState) (event : ServerEvent) (_ : ServerState) : List Session :=
  match event with
  | .session id event env =>
    match (state.session id).bind fun session => agent.step (state.world id session) (event, env) with
    | some next => if next.released = 0 then [] else [next.toSession]
    | none => []
  | _ => []

/-- What these sessions have counted. -/
def tallied (sessions : List Session) (counter : Counter) : Nat :=
  (sessions.map fun session => session.link.tally.session counter).sum

section relays

private theorem filter_length_sum {α : Type} {count : Nat} {belongs : Nat → α → Bool} {refs : List α}
    (owned : ∀ ref ∈ refs, ∃ owner, owner < count ∧ ∀ id, belongs id ref = true ↔ id = owner) :
    ∑ id ∈ Finset.range count, (refs.filter (belongs id)).length = refs.length := by
  induction refs with
  | nil => simp
  | cons ref refs ih =>
    obtain ⟨⟨owner, inside, only⟩, others⟩ := List.forall_mem_cons.mp owned
    have split : ∀ id, ((ref :: refs).filter (belongs id)).length =
        (if id = owner then 1 else 0) + (refs.filter (belongs id)).length := by
      intro id
      by_cases own : id = owner
      · rw [List.filter_cons_of_pos ((only id).mpr own), List.length_cons, if_pos own, Nat.add_comm]
      · rw [List.filter_cons_of_neg (fun belongs => own ((only id).mp belongs)), if_neg own, Nat.zero_add]
    rw [Finset.sum_congr rfl fun id _ => split id, Finset.sum_add_distrib, ih others, Finset.sum_ite_eq',
      if_pos (Finset.mem_range.mpr inside), List.length_cons, Nat.add_comm]

private theorem listed_sum {state : ServerState} (kept : Kept state) :
    ∑ id ∈ Finset.range state.nextSessionId, portfwdListed state.engine id = state.engine.relays.length := by
  refine filter_length_sum fun ref member => ?_
  obtain ⟨relay, held, _⟩ := kept.inOrder.registry.usable ref member
  refine ⟨relay.owner, ?_, fun id => ?_⟩
  · by_contra outside
    have unlisted := kept.orphans relay.owner (kept.numbered relay.owner (Nat.le_of_not_lt outside))
    rw [portfwdListed, List.length_eq_zero_iff, List.filter_eq_nil_iff] at unlisted
    exact unlisted ref member (by simp [Engine.ownedBy, held])
  · simp only [Engine.ownedBy, held, Option.any_some, beq_iff_eq]
    exact eq_comm

end relays

private theorem reported_extended {state next : ServerState} (extended : next.nextSessionId = state.nextSessionId + 1)
    (same : ∀ id, id < state.nextSessionId → next.session id = state.session id) (counter : Counter) :
    reported next counter = reported state counter +
      (next.session state.nextSessionId).elim 0 fun session => session.link.tally.session counter := by
  rw [reported, extended, Finset.sum_range_succ]
  congr 1
  refine Finset.sum_congr rfl fun id member => ?_
  rw [same id (Finset.mem_range.mp member)]

private theorem connect_shares {env : Env} {state next : ServerState} (kept : Kept state)
    (connects : Connects env state next)
    (counter : Counter) : next.global counter + reported state counter = state.global counter + reported next counter := by
  cases connects with
  | refused session _ global nextSessionId =>
    rw [global]
    rcases nextSessionId with same | extended
    · rw [reported, reported, same, session]
    · rw [reported_extended extended fun id _ => by rw [session], session, kept.numbered _ (Nat.le_refl _)]
      rfl
  | accepted start fresh session _ global nextSessionId =>
    have counted : start.link.tally.global counter + 0 = state.global counter + start.link.tally.session counter :=
      fresh.counted.global counter
    have kept : ∀ id, id < state.nextSessionId → next.session id = state.session id := by
      intro id inside
      rw [session, Function.update_of_ne (Nat.ne_of_lt inside)]
    rw [reported_extended nextSessionId kept, global, session, Function.update_self, Option.elim_some]
    omega

section session
variable {state : ServerState} {id : Nat} {session : Session} {event : Event} {env : Env} {next : World}

private theorem departing_tallied (found : state.session id = some session)
    (stepped : agent.step (state.world id session) (event, env) = some next) (counter : Counter) :
    ((state.after id next).session id).elim 0 (fun session => session.link.tally.session counter) +
      tallied (departing state (.session id event env) (state.after id next)) counter = next.link.tally.session counter := by
  simp only [ServerState.after, if_true, departing, found, Option.bind_some, stepped, World.survivor]
  split
  · simp [tallied]
  · simp [tallied]

private theorem others_share (kept : Kept state)
    (closes : ∀ other, other ≠ id →
      next.link.tally.others other .relayCloses + portfwdListed next.engine other = portfwdListed state.engine other)
    (other : Nat) (different : other ≠ id) :
    ((state.after id next).session other).elim 0 (fun session => session.link.tally.session .relayCloses) +
        portfwdListed next.engine other =
      (state.session other).elim 0 (fun session => session.link.tally.session .relayCloses) + portfwdListed state.engine other := by
  have closed := closes other different
  simp only [ServerState.after, if_neg different]
  cases found : state.session other with
  | none =>
    have none := kept.orphans other found
    simp only [Option.map_none, Option.elim_none]
    omega
  | some current =>
    simp only [Option.map_some, Option.elim_some, Session.credit]
    omega

private theorem closes_share (sessionId : session.sessionId = id) (sound : SoundSession (state.world id session).toSession)
    (inOrder : InOrder state.engine) (stepped : agent.step (state.world id session) (event, env) = some next) :
    next.link.tally.global .relayCloses + session.link.tally.session .relayCloses + portfwdListed state.engine id +
        next.engine.relays.length =
      state.global .relayCloses + next.link.tally.session .relayCloses + portfwdListed next.engine id +
        state.engine.relays.length := by
  obtain ⟨accounts, _, left⟩ := agent_accounts sound inOrder stepped
  obtain ⟨leaked, drift, _⟩ := accounts.drift .relay
  have opens := agent_level sound stepped .relayOpens nofun
  have number : next.sessionId = id := accounts.sessionId.trans sessionId
  have listed : ownUse (state.world id session) .relay = portfwdListed state.engine id := by
    rw [ownUse_live sound.live, world_heldBy, Resource.heldBy, sessionId]
  have relisted : ownUse next .relay = portfwdListed next.engine id := by
    by_cases live : next.released = 0
    · rw [ownUse_live live, Resource.heldBy, number]
    · have none := left live
      rw [show (state.world id session).sessionId = id from sessionId] at none
      simp [ownUse, World.survivor, live, none]
  have own := drift.session
  have all := drift.global
  simp only [Resource.gap, Resource.opened, Resource.closed, listed, relisted, agentUse] at own all
  simp only [ServerState.world] at own all opens
  omega

private theorem session_shares (kept : Kept state) (found : state.session id = some session)
    (stepped : agent.step (state.world id session) (event, env) = some next) (counter : Counter) :
    (state.after id next).global counter + reported state counter = state.global counter +
      reported (state.after id next) counter + tallied (departing state (.session id event env) (state.after id next)) counter := by
  obtain ⟨sound, sessionId⟩ := kept.sound id session found
  have inside : id < state.nextSessionId := by
    by_contra outside
    rw [kept.numbered id (Nat.le_of_not_lt outside)] at found
    cases found
  have sound : SoundSession (state.world id session).toSession := ⟨sound.download, sound.upload, sound.live⟩
  have level := agent_level sound stepped
  have shares := (agent_accounts sound kept.inOrder stepped).1.shares
  have parting := departing_tallied found stepped counter
  have before : (state.session id).elim 0 (fun session => session.link.tally.session counter) =
      session.link.tally.session counter := by rw [found]; rfl
  by_cases isClose : counter = .relayCloses
  · subst isClose
    have closes := closes_share sessionId sound kept.inOrder stepped
    have listed := listed_sum kept
    have relisted := listed_sum (session_advances kept found stepped).kept
    have sums := @sum_exchange state.nextSessionId id inside
      (fun other => (state.session other).elim 0 (fun session => session.link.tally.session .relayCloses) +
        portfwdListed state.engine other)
      (fun other => ((state.after id next).session other).elim 0 (fun session => session.link.tally.session .relayCloses) +
        portfwdListed next.engine other) (others_share kept (world_closes sessionId shares))
    simp only [Finset.sum_add_distrib] at sums
    simp only [reported]
    simp only [ServerState.after, ServerState.engine] at closes listed relisted sums parting ⊢
    omega
  · have own := level counter isClose
    have sums := @sum_exchange state.nextSessionId id inside
      (fun other => (state.session other).elim 0 fun session => session.link.tally.session counter)
      (fun other => ((state.after id next).session other).elim 0 fun session => session.link.tally.session counter)
      (fun other different => ?_)
    · simp only [reported]
      simp only [ServerState.after, ServerState.world] at own sums parting ⊢
      omega
    · simp only [ServerState.after, if_neg different]
      cases state.session other with
      | none => rfl
      | some current =>
        simp only [Option.map_some, Option.elim_some, Session.credit, shares.rest other counter isClose]
        exact Nat.add_zero _

end session

private theorem server_shares {state next : ServerState} {event : ServerEvent} (kept : Kept state)
    (stepped : server.step state event = some next) (counter : Counter) :
    next.global counter + reported state counter =
      state.global counter + reported next counter + tallied (departing state event next) counter := by
  cases event with
  | connect env =>
    cases stepped
    exact connect_shares kept (connect_connects state env) counter
  | session id event env =>
    obtain ⟨session, found, stepped⟩ := Option.bind_eq_some_iff.mp stepped
    obtain ⟨left, handled, rfl⟩ := Option.map_eq_some_iff.mp stepped
    exact session_shares kept found handled counter
  | relay event env =>
    simp only [server] at stepped
    split at stepped
    · cases stepped
      rfl
    · cases stepped

/-- Nothing is counted twice and nothing is lost: over any run with any number of
sessions, each counter of the agent is the sum of what the sessions that are there
report and of what those had counted that were released. -/
theorem counters_shared {fs : FileSystem} {history : List ServerEvent} {state : ServerState}
    (executed : server.run (.start fs) history = some state) (counter : Counter) :
    state.global counter = reported state counter + tallied (server.gather departing (.start fs) history) counter := by
  refine (server.run_induction (fun history state => Kept state ∧
    state.global counter = reported state counter + tallied (server.gather departing (.start fs) history) counter)
    ⟨(start_followed fs).kept, rfl⟩ ?_ executed).2
  rintro history state event next reached ⟨kept, shared⟩ stepped
  refine ⟨(server_advances kept stepped).kept, ?_⟩
  have step := server_shares kept stepped counter
  rw [server.gather_step departing reached stepped, tallied, List.map_append, List.sum_append]
  simp only [tallied] at step shared ⊢
  omega

/-- Two sessions are closed, and the first of them is released. -/
def oneReleased : List ServerEvent :=
  [.connect {}, .connect {}, .session 1 (.read .hangup) {}, .session 1 (.closed .tcp) {}, .session 1 (.closed .heartbeatTimer) {},
    .session 2 (.read .hangup) {}]

def released : ServerState := (server.run (.start .empty) oneReleased).get (by decide +kernel)

theorem counters_shared_released : reported released .sessionDisconnects = 1 ∧
    tallied (server.gather departing (.start .empty) oneReleased) .sessionDisconnects = 1 ∧
    released.global .sessionDisconnects = reported released .sessionDisconnects +
      tallied (server.gather departing (.start .empty) oneReleased) .sessionDisconnects := by
  refine ⟨by decide +kernel, by decide +kernel, ?_⟩
  exact counters_shared (Option.some_get (by decide +kernel)).symm .sessionDisconnects

end Luagent.Proofs.CounterShares
