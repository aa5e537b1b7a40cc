import Luagent.Proofs.Heartbeat
import Luagent.Proofs.UploadSoundness
import Luagent.Watch

/-! The reader of the daemon gives up on an idle connection. A PING falls due only
when nothing was sent for as long as the reader's socket waits. -/

namespace Luagent.Proofs.ReaderTimeout
open Foundation

private theorem watch_step {state next : Watch} {input : Event × Nat × Env} (stepped : watch.step state input = some next) :
    state.now ≤ input.2.1 ∧ ∃ world due, agent.step state.world (input.1, input.2.2.at input.2.1) = some world ∧
      next = state.advance ⟨world, input.2.1, due⟩ := by
  simp only [watch, Option.map_eq_some_iff] at stepped
  obtain ⟨clocked, moved, rfl⟩ := stepped
  have step := Heartbeat.clocked_step moved
  exact ⟨step.later, clocked.world, clocked.dueMs, step.moved, by rw [← step.now]⟩

private theorem sendFrame_now {env : Env} {link : Link} {type : UInt8} {reqId : UInt32} {payload : Bytes} {time : Nat}
    (clock : ∀ send, env.sentAt send = time) (sent : (sessionSendFrame env link type reqId payload).2 = true) :
    (sessionSendFrame env link type reqId payload).1.lastTxMs = time := by
  revert sent
  unfold sessionSendFrame
  simp only
  split
  · nofun
  · split
    · nofun
    · split
      · nofun
      · split
        · nofun
        · split
          · nofun
          · split
            · nofun
            · exact fun _ => clock _

private theorem speaks_now {env : Env} {before after : Link} {frames : List Sent} (speaks : Speaks env before frames after)
    {time : Nat} (clock : ∀ send, env.sentAt send = time) : frames = [] ∨ after.lastTxMs = time := by
  induction speaks with
  | silent => exact .inl rfl
  | send link type reqId payload =>
    split
    next sent => exact .inr (sendFrame_now clock sent)
    next => exact .inl rfl
  | trans earlier second first later =>
    rcases later with none | now
    · rcases first with empty | before
      · exact .inl (by rw [empty, none]; rfl)
      · rcases second.lastTx with same | ⟨send, now⟩
        · exact .inr (same.trans before)
        · exact .inr (now.trans (clock send))
    · exact .inr now

section callbacks
variable {env : Env} {world : World} {event : Event}

private theorem callback_queued : (callback env world event).link.queued =
    world.link.queued ++ framesSince world.link (callback env world event).link := by
  by_cases written : ∃ write, event = .written write
  · obtain ⟨write, rfl⟩ := written
    simp [framesSince, callback, onWriteDone, Link.uvWritten]
  · obtain ⟨frames, speaks, _⟩ := callback_speech env world (not_exists.mp written)
    rw [framesSince, speaks.queued, List.drop_left]

private theorem callback_sent_now {time : Nat} (clock : ∀ send, env.sentAt send = time)
    (spoke : framesSince world.link (callback env world event).link ≠ []) : (callback env world event).link.lastTxMs = time := by
  by_cases written : ∃ write, event = .written write
  · obtain ⟨write, rfl⟩ := written
    simp [framesSince, callback, onWriteDone, Link.uvWritten] at spoke
  · obtain ⟨frames, speaks, _⟩ := callback_speech env world (not_exists.mp written)
    rw [framesSince, speaks.queued, List.drop_left] at spoke
    exact (speaks_now speaks clock).resolve_left spoke

private theorem silent_before_due (undue : elapsedMs env.now world.link.lastTxMs < heartbeatIdleMs)
    (pings : ∀ frame ∈ framesSince world.link (callback env world event).link, frame.type = FrameType.ping.code) :
    framesSince world.link (callback env world event).link = [] := by
  rw [List.eq_nil_iff_forall_not_mem]
  intro frame member
  have ping := pings frame member
  by_cases tick : event = .tick
  · subst tick
    have complains : Complains world.link (callback env world .tick).link :=
      Heartbeat.tick_complains fun due => absurd undue (Nat.not_lt.mpr due)
    obtain ⟨errors, queued, complaints⟩ := complains
    rw [framesSince, queued, List.drop_left] at member
    rw [complaints frame member] at ping
    exact absurd ping (by decide)
  · have unpinged := @Heartbeat.unpinged env world event tick _ rfl
    rw [pinged, List.any_eq_false] at unpinged
    exact unpinged frame member (by simpa using ping)

end callbacks

/-- What holds of an idle connection since the last reply, when these frames had
been sent. -/
structure Idle (replied : Nat) (frames : List Sent) (state : Watch) : Prop where
  sent : replied ≤ state.world.link.lastTxMs
  past : state.world.link.lastTxMs ≤ state.now
  waits : state.now < replied + recvTimeoutMs →
    state.running = true ∧ state.heardMs = replied ∧ state.world.link.queued = frames
  raised : replied + recvTimeoutMs ≤ state.now → state.running = false

theorem Idle.step {replied : Nat} {frames : List Sent} {state next : Watch} {input : Event × Nat × Env}
    (idle : Idle replied frames state) (quiet : OnlyHeartbeats state input) (stepped : watch.step state input = some next) :
    Idle replied frames next := by
  have pings := quiet next stepped
  obtain ⟨event, time, env⟩ := input
  obtain ⟨later, world, due, moved, rfl⟩ := watch_step stepped
  obtain ⟨_, rfl⟩ := agent_step moved
  have lastTx : (callback (env.at time) state.world event).link.lastTxMs = state.world.link.lastTxMs ∨
      (callback (env.at time) state.world event).link.lastTxMs = time :=
    Heartbeat.callback_lastTx (env.at time) state.world event fun _ => rfl
  have sent := idle.sent
  have past := idle.past
  simp only at later
  refine ⟨?_, ?_, fun early => ?_, fun late => ?_⟩
  · simp only [Watch.advance]
    omega
  · simp only [Watch.advance]
    omega
  · simp only [Watch.advance] at early pings ⊢
    obtain ⟨running, heard, same⟩ := idle.waits (by omega)
    have undue : elapsedMs (env.at time).now state.world.link.lastTxMs < heartbeatIdleMs := by
      simp only [Env.at]
      rw [Heartbeat.elapsedMs_of_le (past.trans later) (by simp only [recvTimeoutMs] at early; omega)]
      simp only [recvTimeoutMs, heartbeatIdleMs] at *
      omega
    have silent := silent_before_due undue pings
    refine ⟨by simp [running, heard, early], ?_, ?_⟩
    · exact (if_pos (List.isEmpty_iff.mpr silent)).trans heard
    · rw [callback_queued, silent, List.append_nil, same]
  · simp only [Watch.advance] at late ⊢
    rcases Nat.lt_or_ge state.now (replied + recvTimeoutMs) with early | late
    · rw [(idle.waits early).2.1]
      simp [late]
    · rw [idle.raised late]
      rfl

private theorem idle_run {replied : Nat} {frames : List Sent} {state final : Watch} {events : List (Event × Nat × Env)}
    (idle : Idle replied frames state) (quiet : watch.Conforms OnlyHeartbeats state events)
    (executed : watch.run state events = some final) : Idle replied frames final :=
  watch.conforming_induction (fun _ state => Idle replied frames state) idle
    (fun _ _ _ _ _ idle quiet stepped => idle.step quiet stepped) quiet executed

/-- The agent sends a frame while the reader waits. -/
structure Replied (earlier : Watch) (reply : Event × Nat × Env) (state : Watch) : Prop where
  step : watch.step earlier reply = some state
  frame : framesSince earlier.world.link state.world.link ≠ []
  running : state.running = true

theorem Replied.idle {earlier state : Watch} {reply : Event × Nat × Env} (replied : Replied earlier reply state) :
    Idle state.now state.world.link.queued state := by
  obtain ⟨event, time, env⟩ := reply
  obtain ⟨step, frame, running⟩ := replied
  obtain ⟨later, world, due, moved, rfl⟩ := watch_step step
  obtain ⟨_, rfl⟩ := agent_step moved
  have now : (callback (env.at time) earlier.world event).link.lastTxMs = time :=
    callback_sent_now (fun _ => rfl) frame
  refine ⟨?_, ?_, fun _ => ⟨running, ?_, rfl⟩, fun late => ?_⟩
  · exact Nat.le_of_eq now.symm
  · exact Nat.le_of_eq now
  · simp only [Watch.advance] at frame ⊢
    rw [if_neg (by simpa using frame)]
  · simp only [Watch.advance, recvTimeoutMs] at late
    omega

/-- After a reply with which the agent has nothing more to send but heartbeats, the
reader is there exactly until its socket has waited for as long as it does, and no
frame comes before. -/
theorem reader_survives_iff {earlier state final : Watch} {reply : Event × Nat × Env} {events : List (Event × Nat × Env)}
    (replied : Replied earlier reply state) (quiet : watch.Conforms OnlyHeartbeats state events)
    (executed : watch.run state events = some final) :
    (final.running = true ↔ final.now < state.now + recvTimeoutMs) ∧
      (framesSince state.world.link final.world.link ≠ [] → state.now + recvTimeoutMs ≤ final.now) := by
  have idle := idle_run replied.idle quiet executed
  refine ⟨⟨fun running => ?_, fun early => (idle.waits early).1⟩, fun beats => ?_⟩
  · by_contra late
    rw [idle.raised (Nat.le_of_not_lt late)] at running
    cases running
  · by_contra early
    obtain ⟨_, _, same⟩ := idle.waits (Nat.lt_of_not_le early)
    simp [framesSince, same] at beats

def greeting : Watch := ⟨.start Upload.freshSession 0, 0, true⟩

def hello : Event × Nat × Env := (Upload.request .hello 1 (ascii "client=linux-daemon"), 300, {})

def greeted : Watch := (watch.step greeting hello).get (by decide)

def ticks (count : Nat) : List (Event × Nat × Env) := (List.range count).map fun index => (.tick, (index + 1) * 1000, {})

/-- The PING that ends the silence comes at 6000 ms, when the reader has given up. -/
theorem reader_gives_up : watch.step greeting hello = some greeted ∧ framesSince greeting.world.link greeted.world.link ≠ [] ∧
    greeted.running = true ∧ watch.Conforms OnlyHeartbeats greeted (ticks 6) ∧
    ∃ final, watch.run greeted (ticks 6) = some final ∧ final.running = false ∧
      (framesSince greeted.world.link final.world.link).map Sent.type = [FrameType.ping.code] ∧ final.now = 6000 :=
  ⟨(Option.some_get (by decide)).symm, by decide +kernel, by decide, by decide +kernel,
    (watch.run greeted (ticks 6)).get (by decide +kernel), (Option.some_get _).symm, by decide +kernel, by decide +kernel,
    by decide +kernel⟩

theorem reader_survives_iff_five : ∃ final, watch.run greeted (ticks 5) = some final ∧
    ((final.running = true ↔ final.now < greeted.now + recvTimeoutMs) ∧
      (framesSince greeted.world.link final.world.link ≠ [] → greeted.now + recvTimeoutMs ≤ final.now)) ∧ final.now = 5000 :=
  ⟨(watch.run greeted (ticks 5)).get (by decide +kernel), (Option.some_get _).symm,
    @reader_survives_iff greeting greeted _ hello (ticks 5) ⟨(Option.some_get (by decide)).symm, by decide +kernel,
      by decide⟩
      (by decide +kernel) (Option.some_get _).symm, by decide +kernel⟩

end Luagent.Proofs.ReaderTimeout
