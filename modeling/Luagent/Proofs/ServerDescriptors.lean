import Luagent.Proofs.Balance
import Luagent.Proofs.Descriptors

/-! The descriptors of the whole agent: whatever its sessions do at once and whichever
calls fail, an open descriptor belongs to the upload of exactly one of them. -/

namespace Luagent.Proofs.ServerDescriptors
open Foundation FileSystem Descriptors

private theorem released_drops {env : Env} {world : World} {event : Event} (live : world.released = 0)
    (idle : world.download = transferInit) (gone : (callback env world event).released ≠ 0) :
    (callback env world event).upload.file = none := by
  cases callback_slot env world event idle with
  | talked _ _ released | spawned _ _ _ _ released | exited _ _ _ _ released | ended _ _ _ _ released =>
    exact absurd (released.trans live) gone
  | closed name _ handled =>
    rw [handled] at gone ⊢
    have ending := closeCb_ending env world name
    generalize closeCb env world name = next at ending gone ⊢
    cases ending with
    | plain _ shut | dropped _ shut =>
      cases shut
      exact absurd live gone
    | released => rfl

/-- What a step of the agent is to the sessions and the files. -/
inductive ServesFiles (state : ServerState) (event : ServerEvent) (next : ServerState) : Prop where
  /-- Connections and relays leave the files and the sessions there are alone. -/
  | beside (apart : ∀ id happened env, event ≠ .session id happened env) (fs : next.fs = state.fs)
      (kept : ∀ id session, state.session id = some session → next.session id = some session)
      (known : ∀ id session, next.session id = some session →
        state.session id = some session ∨ state.session id = none ∧ session.upload = transferInit)
  | served (id : Nat) (session : Session) (input : Upload.Input) (after : World) (isSession : event = .session id input.1 input.2)
      (found : state.session id = some session) (stepped : agent.step (state.world id session) input = some after)
      (result : next = state.after id after)

theorem server_serves {state next : ServerState} {event : ServerEvent} (kept : Balance.Kept state)
    (stepped : server.step state event = some next) : ServesFiles state event next := by
  cases event with
  | connect env =>
    cases stepped
    have fs : (state.connect env).fs = state.fs := by
      unfold ServerState.connect
      simp only
      split <;> rfl
    cases Balance.connect_connects state env with
    | refused session =>
      refine .beside (fun _ _ _ same => by cases same) fs (fun _ _ found => by rwa [session]) fun id other found => ?_
      exact .inl (by rwa [session] at found)
    | accepted start fresh session =>
      have free := kept.numbered _ (Nat.le_refl state.nextSessionId)
      refine .beside (fun _ _ _ same => by cases same) fs ?_ ?_
      · intro id other found
        rw [session, Function.update_of_ne]
        · exact found
        · rintro rfl
          rw [free] at found
          cases found
      · intro id other found
        rw [session] at found
        by_cases new : id = state.nextSessionId
        · rw [new, Function.update_self] at found
          cases found
          exact .inr ⟨new ▸ free, fresh.upload⟩
        · rw [Function.update_of_ne new] at found
          exact .inl found
  | session id event env =>
    obtain ⟨session, found, stepped⟩ := Option.bind_eq_some_iff.mp stepped
    obtain ⟨after, stepped, result⟩ := Option.map_eq_some_iff.mp stepped
    exact .served id session (event, env) after rfl found stepped result.symm
  | relay event env =>
    simp only [server] at stepped
    split at stepped
    · cases stepped
      exact .beside (fun _ _ _ same => by cases same) rfl (fun _ _ found => found) fun _ _ found => .inl found
    · cases stepped

def held (state : ServerState) (id : Nat) : Option Nat := (state.session id).bind fun session => session.upload.file

theorem held_of_found {state : ServerState} {id : Nat} {session : Session} (found : state.session id = some session) :
    held state id = session.upload.file := by
  rw [held, found, Option.bind_some]

private theorem held_of_free {state : ServerState} {id : Nat} (free : state.session id = none) : held state id = none := by
  rw [held, free, Option.bind_none]

structure SharedOut (fs : FileSystem) (state : ServerState) : Prop where
  slots : ∀ id session, state.session id = some session → Slot session.upload
  shared : SharedOwners fs.opened (held state) state.fs
  foreign : ∀ fd, fd < fs.opened → state.fs.fds fd = fs.fds fd ∧ state.fs.closes fd = fs.closes fd

private theorem start_shared (fs : FileSystem) : SharedOut fs (.start fs) where
  slots _ _ found := by cases found
  shared := .start fs
  foreign _ _ := ⟨rfl, rfl⟩

private theorem held_after {state : ServerState} {id : Nat} {after : World}
    (dropped : after.released ≠ 0 → after.upload.file = none) :
    held (state.after id after) = Function.update (held state) id after.upload.file := by
  funext other
  by_cases same : other = id
  · rw [same, Function.update_self]
    unfold held ServerState.after World.survivor
    simp only [if_pos]
    split
    · rfl
    next gone => exact (dropped gone).symm
  · rw [Function.update_of_ne same]
    unfold held ServerState.after
    simp only [if_neg same, Option.bind_map]
    rfl

/-- The session that is served trades in what it holds. -/
theorem SharedOut.served {fs : FileSystem} {state : ServerState} {id : Nat} {session : Session} {input : Upload.Input}
    {after : World} (shared : SharedOut fs state) (kept : Balance.Kept state) (found : state.session id = some session)
    (stepped : agent.step (state.world id session) input = some after) :
    Slot after.upload ∧ Exchanges state.fs after.fs (held state id) after.upload.file ∧
      (after.released ≠ 0 → after.upload.file = none) := by
  obtain ⟨_, rfl⟩ := agent_step stepped
  obtain ⟨sound, _⟩ := kept.sound id session found
  have owns : state.fs.Owns session.upload.file := held_of_found found ▸ shared.shared.owned id
  have trades := @callback_trades input.2 (state.world id session) (shared.slots id session found) owns sound.download input.1
  exact ⟨trades.slot, held_of_found found ▸ trades.fs, released_drops sound.live sound.download⟩

theorem SharedOut.step {fs : FileSystem} {state next : ServerState} {event : ServerEvent} (shared : SharedOut fs state)
    (kept : Balance.Kept state) (stepped : server.step state event = some next) : SharedOut fs next := by
  cases server_serves kept stepped with
  | beside _ same old known =>
    have unchanged : held next = held state := by
      funext id
      cases found : state.session id with
      | some session => rw [held_of_found found, held_of_found (old id session found)]
      | none =>
        rw [held_of_free found]
        cases new : next.session id with
        | none => exact held_of_free new
        | some session =>
          rcases known id session new with there | ⟨_, fresh⟩
          · rw [found] at there
            cases there
          · rw [held_of_found new, fresh]
            rfl
    refine ⟨fun id session found => ?_, unchanged ▸ same ▸ shared.shared, same ▸ shared.foreign⟩
    rcases known id session found with there | ⟨_, fresh⟩
    · exact shared.slots id session there
    · rw [fresh]
      rfl
  | served id session input after _ found moved result =>
    subst result
    obtain ⟨slot, exchanged, dropped⟩ := shared.served kept found moved
    refine ⟨fun other current there => ?_, ?_, fun fd old => ?_⟩
    · rcases Balance.after_session there with ⟨_, _, rfl⟩ | ⟨_, earlier, before, rfl⟩
      · exact slot
      · exact shared.slots other earlier before
    · rw [held_after dropped]
      exact shared.shared.exchange exchanged
    · -- the session has none of these
      have others := exchanged.others fd (Nat.lt_of_lt_of_le old shared.shared.later) fun mine =>
        absurd (shared.shared.issued mine) (Nat.not_le.mpr old)
      exact ⟨others.1.trans (shared.foreign fd old).1, others.2.trans (shared.foreign fd old).2⟩

theorem shared_of_run {fs : FileSystem} {history : List ServerEvent} {state : ServerState}
    (executed : server.run (.start fs) history = some state) : SharedOut fs state :=
  server.run_induction (fun _ state => SharedOut fs state) (start_shared fs)
    (fun _ _ _ _ reached shared stepped => shared.step (Balance.followed_of_run reached).kept stepped) executed

/-- In every state of the agent a descriptor that was opened since its start is open and
that of the upload of exactly one session, or it was closed once and no session has it;
an upload in progress has such a descriptor, and those that were open before stay as they were. -/
theorem descriptors_shared {fs : FileSystem} {history : List ServerEvent} {state : ServerState}
    (executed : server.run (.start fs) history = some state) :
    (∀ fd, fd < fs.opened → state.fs.fds fd = fs.fds fd ∧ state.fs.closes fd = fs.closes fd) ∧
    (∀ fd, fs.opened ≤ fd → fd < state.fs.opened →
      (state.fs.Held fd ∧ ∃! id, ∃ session, state.session id = some session ∧ session.upload.active = true ∧
          session.upload.file = some fd) ∨
        state.fs.Gone fd ∧ ∀ id session, state.session id = some session → session.upload.file ≠ some fd) ∧
    ∀ id session, state.session id = some session → session.upload.active = true →
      ∃ fd, session.upload.file = some fd ∧ fs.opened ≤ fd ∧ state.fs.Held fd := by
  have out := shared_of_run executed
  have has_iff : ∀ fd id, held state id = some fd ↔ ∃ session, state.session id = some session ∧
      session.upload.active = true ∧ session.upload.file = some fd := by
    intro fd id
    constructor
    · intro mine
      obtain ⟨session, found, file⟩ := Option.bind_eq_some_iff.mp mine
      refine ⟨session, found, ?_, file⟩
      rw [out.slots id session found, file]
      rfl
    · rintro ⟨session, found, _, file⟩
      exact (held_of_found found).trans file
  refine ⟨out.foreign, fun fd late issued => ?_, fun id session found active => ?_⟩
  · by_cases isOpen : (state.fs.fds fd).isSome = true
    · have sole := (out.shared.open_iff late).mp isOpen
      refine .inl ⟨?_, (existsUnique_congr (has_iff fd)).mp sole⟩
      obtain ⟨id, mine, _⟩ := sole
      exact out.shared.owned id fd mine
    · have nobodys : ∀ id, held state id ≠ some fd := fun id mine => isOpen (out.shared.owned id fd mine).1
      exact .inr ⟨out.shared.gone fd late issued nobodys, fun id session found file =>
        nobodys id ((held_of_found found).trans file)⟩
  · have slot := out.slots id session found
    rw [Slot, active] at slot
    obtain ⟨fd, file⟩ := Option.isSome_iff_exists.mp slot.symm
    have mine := (held_of_found found).trans file
    exact ⟨fd, file, out.shared.issued mine, out.shared.owned id fd mine⟩

/-- Two clients begin an upload each. -/
def twoBegins : List ServerEvent :=
  [.connect {}, .connect {}, .session 1 Upload.beginHi {},
    .session 2 (Upload.request .putBegin 3 (ascii "path=b\nsize=1")) {}]

def twoBegun : ServerState := (server.run (.start .empty) twoBegins).get (by decide)

theorem descriptors_shared_two : twoBegun.fs.opened = 2 ∧ ∃! id, ∃ session, twoBegun.session id = some session ∧
    session.upload.active = true ∧ session.upload.file = some 1 := by
  have issued : twoBegun.fs.opened = 2 := by decide
  have executed : server.run (.start .empty) twoBegins = some twoBegun := (Option.some_get (by decide)).symm
  have either := (descriptors_shared executed).2.1 1 (by decide) (by decide)
  refine ⟨issued, (either.resolve_right fun gone => ?_).2⟩
  exact absurd gone.1.1 (by decide)

end Luagent.Proofs.ServerDescriptors
