import Luagent.Proofs.Connecting
import Luagent.Proofs.SessionBooks
import Mathlib.Algebra.BigOperators.Group.Finset.Basic

/-! The counters of the transfers, the processes and the relays over whole runs of the
agent, with any number of sessions. -/

namespace Luagent.Proofs.Balance
open Foundation

/-- How many are in use in the whole agent. -/
def inUse (state : ServerState) : Resource → Nat
  | .relay => state.engine.relays.length
  | resource => ∑ id ∈ Finset.range state.nextSessionId, (state.session id).elim 0 (resource.heldBy state.engine)

/-- What was opened was closed or is in use, by the counters of every session and by
those of the agent. -/
structure Balanced (state : ServerState) (resource : Resource) : Prop where
  session : ∀ id session, state.session id = some session → resource.opened session.link.tally.session =
    resource.closed session.link.tally.session + resource.heldBy state.engine session
  global : resource.opened state.global = resource.closed state.global + inUse state resource

def globalGap (state : ServerState) (resource : Resource) : Int := resource.gap state.global (inUse state resource)

def SessionsLevel (state : ServerState) (resource : Resource) : Prop :=
  ∀ id session, state.session id = some session →
    resource.gap session.link.tally.session (resource.heldBy state.engine session) = 0

private theorem balanced_iff (state : ServerState) (resource : Resource) :
    Balanced state resource ↔ globalGap state resource = 0 ∧ SessionsLevel state resource := by
  constructor
  · intro balanced
    refine ⟨?_, fun id session found => ?_⟩
    · have global := balanced.global
      simp only [globalGap, Resource.gap]
      omega
    · have own := balanced.session id session found
      simp only [Resource.gap]
      omega
  · rintro ⟨global, level⟩
    refine ⟨fun id session found => ?_, ?_⟩
    · have own := level id session found
      simp only [Resource.gap] at own
      omega
    · simp only [globalGap, Resource.gap] at global
      omega

/-- The agent between two callbacks. -/
structure Kept (state : ServerState) : Prop where
  numbered : ∀ id, state.nextSessionId ≤ id → state.session id = none
  sound : ∀ id session, state.session id = some session → SoundSession session ∧ session.sessionId = id
  inOrder : InOrder state.engine
  /-- the relays of a released session are gone -/
  orphans : ∀ id, state.session id = none → portfwdListed state.engine id = 0

structure Advances (state next : ServerState) (lost : Resource → Prop) : Prop where
  kept : Kept next
  drift : ∀ resource, ∃ leaked : Nat, globalGap next resource = globalGap state resource + leaked ∧
    (leaked = 0 ↔ ¬ lost resource) ∧ (leaked = 0 → SessionsLevel state resource → SessionsLevel next resource)

/-- One summand is exchanged. -/
theorem sum_exchange {count id : Nat} (inside : id < count) {before after : Nat → Nat}
    (same : ∀ other, other ≠ id → after other = before other) :
    ∑ other ∈ Finset.range count, after other + before id = ∑ other ∈ Finset.range count, before other + after id := by
  have member := Finset.mem_range.mpr inside
  have rest : ∑ other ∈ (Finset.range count).erase id, after other = ∑ other ∈ (Finset.range count).erase id, before other :=
    Finset.sum_congr rfl fun other erased => same other (Finset.ne_of_mem_erase erased)
  have now := Finset.add_sum_erase (Finset.range count) after member
  have earlier := Finset.add_sum_erase (Finset.range count) before member
  omega

section session
variable {state : ServerState} {id : Nat} {session : Session} {next : World}

private theorem credit_heldBy (engine : Engine) (session : Session) (counted : Counter → Nat) (resource : Resource) :
    resource.heldBy engine (session.credit counted) = resource.heldBy engine session := by
  cases resource <;> rfl

private theorem heldBy_of_ne {resource : Resource} (other : resource ≠ .relay) (before after : Engine) (session : Session) :
    resource.heldBy before session = resource.heldBy after session := by
  cases resource with
  | transfer => rfl
  | process => rfl
  | relay => exact absurd rfl other

theorem world_heldBy (state : ServerState) (id : Nat) (session : Session) (resource : Resource) :
    resource.heldBy (state.world id session).engine (state.world id session).toSession =
      resource.heldBy state.engine session := by
  cases resource <;> rfl

private theorem after_inUse (found : state.session id = some session) (inside : id < state.nextSessionId)
    (live : session.released = 0) (resource : Resource) :
    inUse (state.after id next) resource + agentUse (state.world id session) resource =
      inUse state resource + agentUse next resource := by
  by_cases isRelay : resource = .relay
  · subst isRelay
    exact Nat.add_comm ..
  · have own : agentUse (state.world id session) resource = (state.session id).elim 0 (resource.heldBy state.engine) := by
      rw [agentUse_of_ne isRelay, ownUse_live (by exact live), world_heldBy, found]
      rfl
    have left : agentUse next resource = ((state.after id next).session id).elim 0 (resource.heldBy next.engine) := by
      rw [agentUse_of_ne isRelay]
      simp only [ServerState.after, if_true]
      rfl
    have total : ∀ state : ServerState, inUse state resource = ∑ id ∈ Finset.range state.nextSessionId,
        (state.session id).elim 0 (resource.heldBy state.engine) := by
      intro state
      cases resource with
      | transfer => rfl
      | process => rfl
      | relay => exact absurd rfl isRelay
    rw [own, left, total, total]
    refine @sum_exchange state.nextSessionId id inside (fun other => (state.session other).elim 0 (resource.heldBy state.engine))
      (fun other => ((state.after id next).session other).elim 0 (resource.heldBy next.engine)) fun other different => ?_
    simp only [ServerState.after, if_neg different]
    cases state.session other with
    | none => rfl
    | some current =>
      simp only [Option.map_some, Option.elim_some, credit_heldBy]
      exact heldBy_of_ne isRelay ..

private theorem credit_gap {before after : Engine} {session : Session} (resource : Resource) {counted : Counter → Nat}
    (closes : counted .relayCloses + portfwdListed after session.sessionId = portfwdListed before session.sessionId)
    (rest : ∀ counter, counter ≠ .relayCloses → counted counter = 0) :
    resource.gap (session.credit counted).link.tally.session (resource.heldBy after (session.credit counted)) =
      resource.gap session.link.tally.session (resource.heldBy before session) := by
  rw [credit_heldBy]
  cases resource with
  | transfer => simp [Resource.gap, Resource.opened, Resource.closed, Session.credit, rest, Resource.heldBy]
  | process => simp [Resource.gap, Resource.opened, Resource.closed, Session.credit, rest, Resource.heldBy]
  | relay =>
    have opens := rest .relayOpens (by decide)
    simp only [Resource.gap, Resource.opened, Resource.closed, Resource.heldBy, Session.credit]
    omega

private theorem survivor_some {world : World} {session : Session} (survives : world.survivor = some session) :
    world.released = 0 ∧ session = world.toSession := by
  unfold World.survivor at survives
  split at survives
  next live => exact ⟨live, (Option.some.inj survives).symm⟩
  next => cases survives

theorem after_session {other : Nat} {current : Session} (held : (state.after id next).session other = some current) :
    (other = id ∧ next.released = 0 ∧ current = next.toSession) ∨
      other ≠ id ∧ ∃ earlier, state.session other = some earlier ∧
        current = earlier.credit (next.link.tally.others other) := by
  by_cases same : other = id
  · simp only [ServerState.after, if_pos same] at held
    exact .inl ⟨same, survivor_some held⟩
  · simp only [ServerState.after, if_neg same] at held
    obtain ⟨earlier, found, credited⟩ := Option.map_eq_some_iff.mp held
    exact .inr ⟨same, earlier, found, credited.symm⟩

theorem world_closes (sessionId : session.sessionId = id) (shares : Shares (state.world id session) next) (other : Nat)
    (different : other ≠ id) :
    next.link.tally.others other .relayCloses + portfwdListed next.engine other = portfwdListed state.engine other := by
  have closes := shares.closes other (by rw [show (state.world id session).sessionId = id from sessionId]; exact different)
  exact closes.trans (Nat.zero_add _)

theorem session_advances {event : Event} {env : Env} (kept : Kept state) (found : state.session id = some session)
    (stepped : agent.step (state.world id session) (event, env) = some next) :
    Advances state (state.after id next) (Loses env (state.world id session) event) := by
  obtain ⟨sound, sessionId⟩ := kept.sound id session found
  have inside : id < state.nextSessionId := by
    by_contra outside
    rw [kept.numbered id (Nat.le_of_not_lt outside)] at found
    cases found
  obtain ⟨accounts, again, left⟩ := @agent_accounts (state.world id session) next (event, env)
    ⟨sound.download, sound.upload, sound.live⟩ kept.inOrder stepped
  have closes := world_closes sessionId accounts.shares
  constructor
  · refine ⟨fun other outside => ?_, fun other current held => ?_, accounts.shares.inOrder, fun other none => ?_⟩
    · have different : other ≠ id := by
        rintro rfl
        exact absurd inside (Nat.not_lt.mpr outside)
      simp only [ServerState.after, if_neg different, kept.numbered other outside, Option.map_none]
    · rcases after_session held with ⟨rfl, live, rfl⟩ | ⟨_, earlier, was, rfl⟩
      · exact ⟨again live, accounts.sessionId.trans sessionId⟩
      · obtain ⟨before, number⟩ := kept.sound other earlier was
        exact ⟨⟨before.download, before.upload, before.live⟩, number⟩
    · by_cases same : other = id
      · subst same
        simp only [ServerState.after, if_true, World.survivor] at none
        split at none
        next => cases none
        next gone =>
          have listed := left gone
          rwa [show (state.world other session).sessionId = other from sessionId] at listed
      · simp only [ServerState.after, if_neg same, Option.map_eq_none_iff] at none
        have before := kept.orphans other none
        have now := closes other same
        simp only [ServerState.after, ServerState.engine] at before now ⊢
        omega
  · intro resource
    obtain ⟨leaked, drift, exactly⟩ := accounts.drift resource
    refine ⟨leaked, ?_, exactly, fun nothing level other current held => ?_⟩
    · have global := drift.global
      have use := @after_inUse state id session next found inside sound.live resource
      simp only [globalGap, Resource.gap] at global ⊢
      simp only [ServerState.after, ServerState.world] at global use ⊢
      omega
    · rcases after_session held with ⟨rfl, live, rfl⟩ | ⟨different, earlier, was, rfl⟩
      · have own := drift.session
        rw [ownUse_live live, ownUse_live (by exact sound.live), nothing] at own
        rw [world_heldBy] at own
        exact own.trans ((Int.add_zero _).trans (level other session found))
      · obtain ⟨_, rfl⟩ := kept.sound other earlier was
        exact (credit_gap resource (closes _ different) (accounts.shares.rest _)).trans (level _ earlier was)

end session

section connect
variable {env : Env} {number : Nat} {counts : Tally} {fs : FileSystem} {engine : Engine} {start : World}

private theorem fresh_unused (fresh : Fresh env number counts fs engine start) (unlisted : portfwdListed engine number = 0)
    (resource : Resource) : resource.heldBy engine start.toSession = 0 := by
  cases resource with
  | transfer => simp [Resource.heldBy, activeTransfers, fresh.upload, fresh.download, transferInit]
  | process => simp [Resource.heldBy, fresh.proc, procInit]
  | relay => rw [Resource.heldBy, fresh.sessionId, unlisted]

private theorem fresh_uncounted (fresh : Fresh env number counts fs engine start) (resource : Resource) :
    resource.gap start.link.tally.session 0 = 0 := by
  have session : ∀ counter, isResource counter = true → start.link.tally.session counter = 0 + [].count counter :=
    fresh.counted.session
  rw [Resource.gap, resource.opened_add session, resource.closed_add session, (nothing_counted resource).1,
    (nothing_counted resource).2]
  cases resource <;> rfl

private theorem fresh_global (fresh : Fresh env number counts fs engine start) (resource : Resource) (use : Nat) :
    resource.gap start.link.tally.global use = resource.gap counts.global use := by
  have global : ∀ counter, isResource counter = true →
      start.link.tally.global counter = counts.global counter + [].count counter := fun _ => fresh.counted.total
  rw [Resource.gap, resource.opened_add global, resource.closed_add global, (nothing_counted resource).1,
    (nothing_counted resource).2]
  rfl

end connect

private theorem inUse_extended {state next : ServerState} {resource : Resource} (engine : next.engine = state.engine)
    (nextSessionId : next.nextSessionId = state.nextSessionId + 1)
    (same : ∀ id, id < state.nextSessionId → next.session id = state.session id)
    (unused : (next.session state.nextSessionId).elim 0 (resource.heldBy state.engine) = 0) :
    inUse next resource = inUse state resource := by
  have sums : ∑ id ∈ Finset.range next.nextSessionId, (next.session id).elim 0 (resource.heldBy next.engine) =
      ∑ id ∈ Finset.range state.nextSessionId, (state.session id).elim 0 (resource.heldBy state.engine) := by
    rw [nextSessionId, engine, Finset.sum_range_succ, unused, Nat.add_zero]
    refine Finset.sum_congr rfl fun id member => ?_
    rw [same id (Finset.mem_range.mp member)]
  cases resource with
  | relay => exact congrArg (fun engine => engine.relays.length) engine
  | transfer => exact sums
  | process => exact sums

/-- What a connection does to the agent. -/
inductive Connects (env : Env) (state next : ServerState) : Prop where
  | refused (session : next.session = state.session) (engine : next.engine = state.engine)
      (global : next.global = state.global)
      (nextSessionId : next.nextSessionId = state.nextSessionId ∨ next.nextSessionId = state.nextSessionId + 1)
  | accepted (start : World)
      (fresh : Fresh env state.nextSessionId { global := state.global, parseFailures := state.parseFailures } state.fs
        state.engine start)
      (session : next.session = Function.update state.session state.nextSessionId (some start.toSession))
      (engine : next.engine = state.engine) (global : next.global = start.link.tally.global)
      (nextSessionId : next.nextSessionId = state.nextSessionId + 1)

theorem connect_connects (state : ServerState) (env : Env) : Connects env state (state.connect env) := by
  unfold ServerState.connect
  simp only
  split
  · refine .refused rfl rfl rfl ?_
    simp only
    split
    · exact .inr rfl
    · exact .inl rfl
  next start connected =>
    have memory : env.alloc .session = true := by
      by_contra missing
      simp [onNewConnection, missing] at connected
    exact .accepted start (connected_fresh connected) rfl rfl rfl (if_pos memory)

private theorem connect_advances {env : Env} {state next : ServerState} (kept : Kept state)
    (connects : Connects env state next) :
    Advances state next fun _ => False := by
  have free := kept.numbered state.nextSessionId (Nat.le_refl _)
  cases connects with
  | refused session engine global nextSessionId =>
    constructor
    · refine ⟨fun id outside => ?_, ?_, engine ▸ kept.inOrder, ?_⟩
      · rw [session]
        exact kept.numbered id (by omega)
      · rw [session]
        exact kept.sound
      · rw [session, engine]
        exact kept.orphans
    · refine fun resource => ⟨0, ?_, by simp, fun _ level => ?_⟩
      · have use : inUse next resource = inUse state resource := by
          rcases nextSessionId with same | extended
          · cases resource <;> simp only [inUse, same, session, engine]
          · exact inUse_extended engine extended (fun _ _ => by rw [session]) (by rw [session, free]; rfl)
        rw [globalGap, use, global]
        exact (Int.add_zero _).symm
      · unfold SessionsLevel
        rw [session, engine]
        exact level
  | accepted start fresh session engine global nextSessionId =>
    have unlisted := kept.orphans _ free
    have unused := fresh_unused fresh unlisted
    constructor
    · refine ⟨fun id outside => ?_, fun id current found => ?_, engine ▸ kept.inOrder, fun id none => ?_⟩
      · rw [session, Function.update_of_ne (by omega)]
        exact kept.numbered id (by omega)
      · rw [session] at found
        rcases update_eq_some found with ⟨rfl, rfl⟩ | ⟨_, found⟩
        · exact ⟨⟨fresh.download, .inl fresh.upload, fresh.released⟩, fresh.sessionId⟩
        · exact kept.sound id current found
      · rw [engine]
        by_cases same : id = state.nextSessionId
        · exact same ▸ unlisted
        · rw [session, Function.update_of_ne same] at none
          exact kept.orphans id none
    · refine fun resource => ⟨0, ?_, by simp, fun _ level id current found => ?_⟩
      · have use : inUse next resource = inUse state resource := by
          refine inUse_extended engine nextSessionId (fun id inside => ?_) ?_
          · rw [session, Function.update_of_ne (by omega)]
          · rw [session, Function.update_self]
            exact unused resource
        rw [globalGap, use, global]
        exact (fresh_global fresh resource _).trans (Int.add_zero _).symm
      · rw [session] at found
        rw [engine]
        rcases update_eq_some found with ⟨rfl, rfl⟩ | ⟨_, found⟩
        · rw [unused resource]
          exact fresh_uncounted fresh resource
        · exact level id current found

private theorem traffic_advances {state : ServerState} (kept : Kept state) {event : RelayEvent} (env : RelayEnv)
    (passes : event.registers = false) (enabled : state.forwarder.enabled event = true) :
    Advances state { state with forwarder := state.forwarder.callback env event, reading := none } fun _ => False := by
  have traffic := callback_traffic kept.inOrder.listeners env passes enabled
  have inOrder : InOrder (state.forwarder.callback env event).engine :=
    ⟨traffic.tidy.registry kept.inOrder.registry, traffic.tidy.listeners kept.inOrder.listeners⟩
  have listed : ∀ owner, portfwdListed (state.forwarder.callback env event).engine owner = portfwdListed state.engine owner := by
    intro owner
    rw [listed_eq inOrder.registry, traffic.listings, listed_eq kept.inOrder.registry]
    rfl
  have held : ∀ (resource : Resource) session, resource.heldBy (state.forwarder.callback env event).engine session =
      resource.heldBy state.engine session := by
    intro resource session
    cases resource with
    | transfer => rfl
    | process => rfl
    | relay => exact listed session.sessionId
  refine ⟨⟨kept.numbered, kept.sound, inOrder, fun id none => (listed id).trans (kept.orphans id none)⟩, fun resource =>
    ⟨0, ?_, by simp, fun _ level id session found => ?_⟩⟩
  · have use : inUse { state with forwarder := state.forwarder.callback env event, reading := none } resource =
        inUse state resource := by
      cases resource with
      | relay => exact congrArg List.length traffic.relays
      | transfer => rfl
      | process => rfl
    rw [globalGap, use]
    exact (Int.add_zero _).symm
  · have before := level id session found
    rw [← held] at before
    exact before

/-- What an event loses to the counters. -/
def EventLoses (state : ServerState) : ServerEvent → Resource → Prop
  | .session id event env, resource => ∃ session, state.session id = some session ∧
      Loses env (state.world id session) event resource
  | _, _ => False

theorem server_advances {state next : ServerState} {event : ServerEvent} (kept : Kept state)
    (stepped : server.step state event = some next) : Advances state next (EventLoses state event) := by
  cases event with
  | connect env =>
    cases stepped
    exact connect_advances kept (connect_connects state env)
  | session id event env =>
    obtain ⟨session, found, stepped⟩ := Option.bind_eq_some_iff.mp stepped
    obtain ⟨left, handled, rfl⟩ := Option.map_eq_some_iff.mp stepped
    obtain ⟨again, drift⟩ := session_advances kept found handled
    refine ⟨again, fun resource => ?_⟩
    have same : EventLoses state (.session id event env) resource ↔ Loses env (state.world id session) event resource := by
      simp [EventLoses, found]
    rw [same]
    exact drift resource
  | relay event env =>
    simp only [server] at stepped
    split at stepped
    next both =>
      cases stepped
      simp only [Bool.and_eq_true, Bool.not_eq_true'] at both
      exact traffic_advances kept env both.1 both.2
    next => cases stepped

/-- A step of the agent loses nothing to the counters. -/
def Careful (state : ServerState) (event : ServerEvent) : Prop := ∀ resource, ¬ EventLoses state event resource

/-- Along a run the counters of the agent are never behind, and they are level exactly
when no step has lost anything. -/
structure Reckoned (history : List ServerEvent) (start state : ServerState) : Prop where
  kept : Kept state
  ahead : ∀ resource, 0 ≤ globalGap state resource
  level : ∀ resource, globalGap state resource = 0 → SessionsLevel state resource
  careful : (∀ resource, globalGap state resource = 0) ↔ server.Conforms Careful start history

theorem start_followed (fs : FileSystem) : Reckoned [] (.start fs) (.start fs) := by
  have even : ∀ resource, globalGap (.start fs) resource = 0 := by
    intro resource
    cases resource <;> rfl
  have none : ∀ (id : Nat) (session : Session), (ServerState.start fs).session id ≠ some session := by
    intro id session found
    cases found
  have listeners : Listeners portfwdEngineInit := by
    intro ref relay found
    cases found
  exact ⟨⟨fun _ _ => rfl, fun id session found => absurd found (none id session), ⟨registry_init, listeners⟩, fun _ _ => rfl⟩,
    fun resource => (even resource).ge, fun _ _ id session found => absurd found (none id session),
    iff_of_true even trivial⟩

theorem Reckoned.step {history : List ServerEvent} {start state next : ServerState} {event : ServerEvent}
    (followed : Reckoned history start state) (executed : server.run start history = some state)
    (stepped : server.step state event = some next) : Reckoned (history ++ [event]) start next := by
  obtain ⟨kept, drift⟩ := server_advances followed.kept stepped
  refine ⟨kept, fun resource => ?_, fun resource even => ?_, ?_⟩
  · obtain ⟨leaked, ahead, _⟩ := drift resource
    have before := followed.ahead resource
    omega
  · obtain ⟨leaked, ahead, _, levels⟩ := drift resource
    have before := followed.ahead resource
    exact levels (by omega) (followed.level resource (by omega))
  · have split : ∀ resource, globalGap next resource = 0 ↔
        globalGap state resource = 0 ∧ ¬ EventLoses state event resource := by
      intro resource
      obtain ⟨leaked, ahead, exactly, _⟩ := drift resource
      have before := followed.ahead resource
      rw [← exactly]
      omega
    rw [server.conforms_append, ← followed.careful, forall_congr' split, forall_and]
    refine and_congr_right fun _ => ⟨fun careful other same => ?_, fun careful => careful state executed⟩
    cases executed.symm.trans same
    exact careful

theorem followed_of_run {fs : FileSystem} {history : List ServerEvent} {state : ServerState}
    (executed : server.run (.start fs) history = some state) : Reckoned history (.start fs) state :=
  server.run_induction (fun history state => Reckoned history (.start fs) state) (start_followed fs)
    (fun _ _ _ _ executed followed stepped => followed.step executed stepped) executed

/-- In a run of the agent the counters of every session and of the agent agree with
what is in use exactly when no step loses a transfer, a child or a relay. -/
theorem counters_balance_iff {fs : FileSystem} {history : List ServerEvent} {state : ServerState}
    (executed : server.run (.start fs) history = some state) :
    (∀ resource, Balanced state resource) ↔ server.Conforms Careful (.start fs) history := by
  have followed := followed_of_run executed
  rw [← followed.careful]
  simp only [balanced_iff]
  exact forall_congr' fun resource => and_iff_left_of_imp (followed.level resource)

/-- One connection, and a begin request for an upload. -/
def beginning (env : Env) : List ServerEvent := [.connect {}, .session 1 Upload.beginHi env]

def failedBegin : ServerState := (server.run (.start .empty) (beginning { fsOpen := -13 })).get (by decide)

/-- An upload whose file cannot be opened stays counted as started. -/
theorem failed_begin_drifts :
    server.run (.start .empty) (beginning { fsOpen := -13 }) = some failedBegin ∧
      failedBegin.global .transferStarts = 1 ∧ failedBegin.global .transferCompletes = 0 ∧
      failedBegin.global .transferAborts = 0 ∧ inUse failedBegin .transfer = 0 ∧ ¬ Balanced failedBegin .transfer := by
  refine ⟨(Option.some_get (by decide)).symm, by decide +kernel, by decide +kernel, by decide +kernel,
    by decide, fun balanced => ?_⟩
  exact absurd balanced.global (by decide +kernel)

def begun : ServerState := (server.run (.start .empty) (beginning {})).get (by decide)

private theorem beginning_careful : server.Conforms Careful (.start .empty) (beginning {}) := by
  refine ⟨fun _ => id, fun connected stepped => ⟨?_, fun _ _ => trivial⟩⟩
  rintro resource ⟨session, _, lost⟩
  cases resource with
  | relay => exact lost
  | process => exact absurd lost.1 (by decide)
  | transfer =>
    obtain ⟨_, _, _, path, size, asks, fails⟩ := lost
    have named : kvCopy 512 (cstr (ascii "path=a\nsize=2")) (ascii "path") = some (ascii "a") := by decide
    have sized : kvU64 (cstr (ascii "path=a\nsize=2")) (ascii "size") = some 2 := by decide
    cases Option.some.inj (asks.path.symm.trans named)
    cases Option.some.inj (asks.size.symm.trans sized)
    exact absurd fails (by decide)

theorem counters_balance_iff_begun : server.run (.start .empty) (beginning {}) = some begun ∧
    inUse begun .transfer = 1 ∧ ∀ resource, Balanced begun resource := by
  have executed : server.run (.start .empty) (beginning {}) = some begun := (Option.some_get (by decide)).symm
  exact ⟨executed, by decide, (counters_balance_iff executed).mpr beginning_careful⟩

end Luagent.Proofs.Balance
