import Luagent.Proofs.Heartbeat
import Luagent.Proofs.ProcessOutput
import Luagent.Proofs.Punctual

/-! The timeouts of `heartbeat_cb` come in time: as long as a session is open, nothing
it watches outlasts its timeout by more than the period of the timer. -/

namespace Luagent.Proofs.Deadlines
open Foundation ExitReason Punctual

/-- Every kill of the child in the slot for one of these reasons. -/
def Tried (proc : ProcState) (reasons : List KillReason) : Prop :=
  ∃ kill ∈ proc.kills, kill.child = proc.spawned ∧ kill.reason ∈ reasons

/-- What is due for the child in the slot by the time of a tick. -/
structure Watched (proc : ProcState) (now dueMs : Nat) : Prop where
  started : proc.startedMs ≤ now
  lastIo : proc.lastIoMs ≤ now
  timeout : 0 < proc.timeoutMs → proc.startedMs + proc.timeoutMs + heartbeatTimerMs ≤ dueMs → Tried proc [.timeout]
  idle : 0 < proc.idleTimeoutMs → proc.lastIoMs + proc.idleTimeoutMs + heartbeatTimerMs ≤ dueMs →
    Tried proc [.timeout, .idle]

/-- The next tick is near, and nothing will be long overdue by then. -/
structure Prompt (state : Clocked) : Prop where
  order : state.now ≤ state.dueMs
  near : state.dueMs ≤ state.now + heartbeatTimerMs
  heard : state.world.lastRxMs ≤ state.now
  rx : state.dueMs < state.world.lastRxMs + sessionIdleMs + heartbeatTimerMs
  progressed : state.world.upload.active = true → state.world.upload.lastProgressMs ≤ state.now
  upload : state.world.upload.active = true → state.world.upload.lastProgressMs ≠ 0 →
    state.dueMs < state.world.upload.lastProgressMs + transferIdleMs + heartbeatTimerMs
  child : state.world.proc.active = true → Watched state.world.proc state.now state.dueMs

section child
variable {env : Env} {world next : World} {event : Event}

private theorem child_step (change : AgentChange env world event next) (idle : world.download = transferInit)
    (stepped : next = { callback env world event with reading := event.reads }) (active : next.proc.active = true) :
    (world.proc.active = true ∧ next.proc.spawned = world.proc.spawned ∧ next.proc.startedMs = world.proc.startedMs ∧
      next.proc.timeoutMs = world.proc.timeoutMs ∧ next.proc.idleTimeoutMs = world.proc.idleTimeoutMs ∧
      (next.proc.lastIoMs = world.proc.lastIoMs ∨ next.proc.lastIoMs = env.now)) ∨
    next.proc.startedMs = env.now ∧ next.proc.lastIoMs = env.now := by
  have proc : next.proc = (callback env world event).proc := by rw [stepped]
  have same := ProcessOutput.SameChild.of_change change
  by_cases output : ∃ pipe bytes, event = .output pipe bytes
  · obtain ⟨pipe, bytes, rfl⟩ := output
    have spawned : next.proc.spawned = world.proc.spawned := by rw [proc]; rfl
    obtain ⟨was, _, started, timeout, idle⟩ := same.kept spawned active
    refine .inl ⟨was, spawned, started, timeout, idle, .inr ?_⟩
    rw [proc]
    rfl
  · have silent : ∀ pipe bytes, event ≠ .output pipe bytes := fun pipe bytes isOutput => output ⟨pipe, bytes, isOutput⟩
    have times := callback_child env silent idle
    rw [← proc] at times
    cases times with
    | kept times =>
      obtain ⟨was, _, started, timeout, idle⟩ := same.kept times.spawned active
      exact .inl ⟨was, times.spawned, started, timeout, idle, .inl times.lastIoMs⟩
    | ended inactive => exact absurd active (by simp [inactive])
    | started startedMs lastIoMs => exact .inr ⟨startedMs, lastIoMs⟩

theorem Tried.kept {before after : ProcState} {reasons : List KillReason} (tried : Tried before reasons) {more : List Kill}
    (kills : after.kills = before.kills ++ more) (spawned : after.spawned = before.spawned) : Tried after reasons := by
  obtain ⟨kill, member, same, reason⟩ := tried
  exact ⟨kill, kills ▸ List.mem_append_left more member, same.trans spawned.symm, reason⟩

/-- Until the next tick nothing falls due. -/
theorem Watched.step {now time dueMs : Nat} (watched : world.proc.active = true → Watched world.proc now dueMs)
    (later : now ≤ time) (near : dueMs ≤ time + heartbeatTimerMs) (clock : env.now = time)
    (change : AgentChange env world event next) (idle : world.download = transferInit)
    (stepped : next = { callback env world event with reading := event.reads }) (active : next.proc.active = true) :
    Watched next.proc time dueMs := by
  have proc : next.proc = (callback env world event).proc := by rw [stepped]
  have kills := callback_kills env event idle
  rw [← proc] at kills
  rcases child_step change idle stepped active with ⟨was, spawned, started, timeout, idleTimeout, io⟩ | ⟨started, io⟩
  · have before := watched was
    refine ⟨started ▸ before.started.trans later, ?_, ?_, ?_⟩
    · rcases io with same | now
      · exact same ▸ before.lastIo.trans later
      · rw [now, clock]
    · rw [started, timeout]
      exact fun positive due => (before.timeout positive due).kept kills spawned
    · rw [idleTimeout]
      intro positive due
      rcases io with same | now
      · exact (before.idle positive (same ▸ due)).kept kills spawned
      · omega
  · refine ⟨?_, ?_, fun positive due => ?_, fun positive due => ?_⟩ <;> omega

end child

section tick
variable {env : Env} {world : World}

private theorem timedOut_of_timeout {now : Nat} {proc : ProcState} (active : proc.active = true)
    (positive : 0 < proc.timeoutMs)
    (late : proc.timeoutMs ≤ elapsedMs now proc.startedMs) : timedOut now proc = some .timeout := by
  unfold timedOut
  rw [if_neg (by simp [active]), if_pos ⟨positive, late⟩]

private theorem timedOut_of_idle {now : Nat} {proc : ProcState} (active : proc.active = true)
    (positive : 0 < proc.idleTimeoutMs)
    (late : proc.idleTimeoutMs ≤ elapsedMs now proc.lastIoMs) :
    ∃ reason ∈ [KillReason.timeout, .idle], timedOut now proc = some reason := by
  unfold timedOut
  rw [if_neg (by simp [active])]
  split
  · exact ⟨.timeout, by simp, rfl⟩
  · rw [if_pos ⟨positive, late⟩]
    exact ⟨.idle, by simp, rfl⟩

/-- A tick that leaves the session open found neither it nor the upload idle for too
long, and has killed the child if that was due. -/
private theorem tick_open (idle : world.download = transferInit) (live : (heartbeatCb env world).link.life.closed = false) :
    ¬ world.idlesOut env.now ∧
      ((heartbeatCb env world).upload.active = true →
        (heartbeatCb env world).upload = world.upload ∧ transferStalled world.upload env.now = false) ∧
      killTried env world .tick = timedOut env.now world.proc := by
  cases tick_step env idle with
  | closed closed same =>
    rw [same, closed] at live
    cases live
  | idle _ _ shut =>
    rw [shut] at live
    have closed : world.close.link.life.closed = true := by
      change (sessionClose world.link).life.closed = true
      rw [sessionClose_life, life_close_closed]
    rw [closed] at live
    cases live
  | checked live early middle reached _ timed =>
    refine ⟨early, fun active => ?_, ?_⟩
    · have pinged := (heartbeatPing_same env world).upload
      have same : (heartbeatCb env world).upload = (transferCheckTimeoutUpload env (heartbeatPing env world)).upload := by
        rw [timed, (checkTimeouts_same env middle).upload, reached]
      have ending := checkUpload_ending env (heartbeatPing env world)
      generalize transferCheckTimeoutUpload env (heartbeatPing env world) = checked at ending same
      cases ending with
      | going going => exact ⟨same.trans pinged, pinged ▸ going⟩
      | stalled =>
        rw [same] at active
        cases active
    · exact if_neg (by simp only [live, Bool.false_eq_true, false_or]; exact early)

/-- A tick has killed a child that was due. -/
theorem Watched.tick {next : World} {now time : Nat} (watched : world.proc.active = true → Watched world.proc now time)
    (later : now ≤ time) (small : time < 2 ^ 64) (clock : env.now = time) (change : AgentChange env world .tick next)
    (idle : world.download = transferInit) (stepped : next = { callback env world .tick with reading := Event.tick.reads })
    (tried : killTried env world .tick = timedOut env.now world.proc) (active : next.proc.active = true) :
    Watched next.proc time (time + heartbeatTimerMs) := by
  have proc : next.proc = (callback env world .tick).proc := by rw [stepped]
  have kills := callback_kills env .tick idle
  rw [← proc, tried, clock] at kills
  rcases child_step change idle stepped active with ⟨was, spawned, started, timeout, idleTimeout, io⟩ | ⟨started, io⟩
  · have before := watched was
    have killed {reason : KillReason} {reasons : List KillReason} (timed : timedOut time world.proc = some reason)
        (member : reason ∈ reasons) : Tried next.proc reasons := by
      refine ⟨⟨world.proc.spawned, reason, env.kill⟩, ?_, spawned.symm, member⟩
      rw [kills, timed]
      exact List.mem_append_right _ (List.mem_singleton_self _)
    have since (past : Nat) (bound : past ≤ now) : elapsedMs time past = time - past :=
      Heartbeat.elapsedMs_of_le (bound.trans later) (by omega)
    refine ⟨started ▸ before.started.trans later, ?_, fun positive due => ?_, fun positive due => ?_⟩
    · rcases io with same | now
      · exact same ▸ before.lastIo.trans later
      · rw [now, clock]
    · rw [started, timeout] at due
      refine killed (timedOut_of_timeout was (timeout ▸ positive) ?_) (List.mem_singleton_self _)
      rw [since _ before.started]
      omega
    · rcases io with same | now
      · rw [same, idleTimeout] at due
        have late : world.proc.idleTimeoutMs ≤ elapsedMs time world.proc.lastIoMs := by
          rw [since _ before.lastIo]
          omega
        obtain ⟨reason, member, timed⟩ := timedOut_of_idle was (idleTimeout ▸ positive) late
        exact killed timed member
      · omega
  · refine ⟨?_, ?_, fun positive due => ?_, fun positive due => ?_⟩ <;> omega

end tick

namespace Prompt
variable {state : Clocked} {env : Env} {event : Event} {time : Nat} {world : World}

/-- A callback between two ticks. -/
theorem callback (prompt : Prompt state) (other : event ≠ .tick) (later : state.now ≤ time) (inTime : time ≤ state.dueMs)
    (clock : env.now = time) (change : AgentChange env state.world event world) (idle : state.world.download = transferInit)
    (stepped : world = { Luagent.callback env state.world event with reading := event.reads }) :
    Prompt ⟨world, time, state.dueMs⟩ := by
  have near : state.dueMs ≤ time + heartbeatTimerMs := prompt.near.trans (Nat.add_le_add_right later _)
  have rx : world.lastRxMs = time ∨ world.lastRxMs = state.world.lastRxMs := by
    rw [stepped]
    by_cases receipt : event = .read .received
    · subst receipt
      exact .inl clock
    · exact .inr (callback_lastRx env state.world receipt)
  have upload : world.upload = state.world.upload ∨ world.upload.active = false ∨ world.upload.lastProgressMs = time := by
    rw [stepped]
    cases callback_upload env event idle with
    | kept _ same => exact .inl same
    | ended inactive => exact .inr (.inl inactive)
    | progressed now => exact .inr (.inr (now.trans clock))
  refine ⟨inTime, near, ?_, ?_, fun active => ?_, fun active began => ?_, fun active => ?_⟩
  · have heard := prompt.heard
    rcases rx with now | same <;> simp only <;> omega
  · have before := prompt.rx
    unfold sessionIdleMs heartbeatTimerMs at *
    rcases rx with now | same <;> simp only <;> omega
  · rcases upload with same | inactive | now
    · exact same ▸ (prompt.progressed (same ▸ active)).trans later
    · exact (Bool.false_ne_true (inactive.symm.trans active)).elim
    · exact now.le
  · rcases upload with same | inactive | now
    · simp only [same] at active began ⊢
      exact prompt.upload active began
    · exact (Bool.false_ne_true (inactive.symm.trans active)).elim
    · simp only [now]
      unfold transferIdleMs heartbeatTimerMs at *
      omega
  · exact Watched.step prompt.child later near clock change idle stepped active

/-- A tick, at the time it was due. -/
theorem tick (prompt : Prompt state) (small : state.dueMs < 2 ^ 64) (clock : env.now = state.dueMs)
    (change : AgentChange env state.world .tick world) (idle : state.world.download = transferInit)
    (stepped : world = { Luagent.callback env state.world .tick with reading := Event.tick.reads })
    (live : world.link.life.closed = false) : Prompt ⟨world, state.dueMs, state.dueMs + heartbeatTimerMs⟩ := by
  obtain ⟨awake, going, tried⟩ := tick_open idle (show (heartbeatCb env state.world).link.life.closed = false by
    rw [stepped] at live
    exact live)
  have since (past : Nat) (bound : past ≤ state.now) : elapsedMs env.now past = state.dueMs - past := by
    rw [clock]
    exact Heartbeat.elapsedMs_of_le (bound.trans prompt.order) (by omega)
  have rx : world.lastRxMs = state.world.lastRxMs := by
    rw [stepped]
    exact callback_lastRx env state.world (by decide)
  have kept : world.upload.active = true →
      world.upload = state.world.upload ∧ transferStalled state.world.upload env.now = false := by
    rw [stepped]
    exact going
  refine ⟨Nat.le_add_right _ _, Nat.le_refl _, ?_, ?_, fun active => ?_, fun active began => ?_, fun active => ?_⟩
  · exact rx ▸ prompt.heard.trans prompt.order
  · rw [World.idlesOut, since _ prompt.heard] at awake
    simp only [rx]
    omega
  · obtain ⟨same, _⟩ := kept active
    exact same ▸ (prompt.progressed (same ▸ active)).trans prompt.order
  · obtain ⟨same, fine⟩ := kept active
    simp only [same] at active began ⊢
    have early : ¬ transferIdleMs ≤ elapsedMs env.now state.world.upload.lastProgressMs := fun late => by
      simp [transferStalled, active, began, late] at fine
    rw [since _ (prompt.progressed active)] at early
    omega
  · exact Watched.tick prompt.child prompt.order small clock change idle stepped tried active

end Prompt

private theorem prompt_step {state next : Clocked} {input : Event × Nat × Env}
    (stepped : clocked.step state input = some next)
    (prompt : Prompt state) (small : input.2.1 < 2 ^ 64) (idle : state.world.download = transferInit)
    (shape : UploadShape state.world) (live : next.world.link.life.closed = false) : Prompt next := by
  obtain ⟨event, time, env⟩ := input
  obtain ⟨world, now, dueMs⟩ := next
  obtain ⟨later, punctual, inTime, moved, atTime, due⟩ := Heartbeat.clocked_step stepped
  have change := agent_change idle shape moved
  obtain ⟨_, same⟩ := agent_step moved
  have before : state.world.link.life.closed = false := by
    refine @ProcessOutput.closed_stays (env.at time) state.world event ?_
    rw [same] at live
    exact live
  simp only at atTime due
  subst atTime due
  by_cases tick : event = .tick
  · subst tick
    obtain rfl : now = state.dueMs := punctual rfl
    exact prompt.tick small rfl change idle same live
  · rw [if_neg tick]
    exact prompt.callback tick later (inTime before) rfl change idle same

private theorem prompt_start {env : Env} {sessionId : Nat} {counts : Tally} {fs : FileSystem} {engine : Engine}
    {start : World}
    (fresh : Fresh env sessionId counts fs engine start) : Prompt (.start start env.now) := by
  have rx : start.lastRxMs = env.now := fresh.lastRxMs
  refine ⟨Nat.le_add_right _ _, Nat.le_refl _, rx.le, ?_, fun active => ?_, fun active => ?_, fun active => ?_⟩
  · simp only [Clocked.start, rx, sessionIdleMs]
    omega
  · simp only [Clocked.start, fresh.upload] at active
    cases active
  · simp only [Clocked.start, fresh.upload] at active
    cases active
  · simp only [Clocked.start, fresh.proc] at active
    cases active

private theorem prompt_run {env : Env} {sessionId : Nat} {counts : Tally} {fs : FileSystem} {engine : Engine}
    {start : World}
    {events : List (Event × Nat × Env)} {state : Clocked}
    (connected : onNewConnection env sessionId counts fs engine = some start)
    (executed : clocked.run (.start start env.now) events = some state) (small : ∀ input ∈ events, input.2.1 < 2 ^ 64)
    (live : state.world.link.life.closed = false) : Prompt state := by
  have both := clocked.run_induction (fun events state => (∃ history, agent.run start history = some state.world) ∧
    ((∀ input ∈ events, input.2.1 < 2 ^ 64) → state.world.link.life.closed = false → Prompt state))
    ⟨⟨[], rfl⟩, fun _ _ => prompt_start (connected_fresh connected)⟩ ?_ executed
  · exact both.2 small live
  intro events state input next _ ⟨⟨history, reached⟩, prompt⟩ stepped
  have tracked := Upload.run_tracked connected reached
  have moved := (Heartbeat.clocked_step stepped).moved
  refine ⟨⟨history ++ [(input.1, input.2.2.at input.2.1)], ?_⟩, fun bounded live => ?_⟩
  · rw [agent.run_append, reached, Option.bind_some, agent.run_singleton, moved]
  · have before : state.world.link.life.closed = false := by
      refine @ProcessOutput.closed_stays (input.2.2.at input.2.1) state.world input.1 ?_
      rw [(agent_step moved).2] at live
      exact live
    have earlier := prompt (fun other member => bounded other (List.mem_append_left _ member)) before
    exact prompt_step stepped earlier (bounded input (List.mem_append_right _ (List.mem_singleton_self _)))
      tracked.download tracked.shape live

/-- No timeout comes late. In every run with a clock of 64 bits, at every time at which
the session is open: something was received less than 16 s ago, an upload in progress
was begun or went on less than 21 s ago (unless its clock shows 0), and a child whose
timeout or idle timeout was over a second ago was tried to be killed for that. -/
theorem deadlines_kept {env : Env} {sessionId : Nat} {counts : Tally} {fs : FileSystem} {engine : Engine} {start : World}
    {events : List (Event × Nat × Env)} {state : Clocked}
    (connected : onNewConnection env sessionId counts fs engine = some start)
    (executed : clocked.run (.start start env.now) events = some state) (small : ∀ input ∈ events, input.2.1 < 2 ^ 64)
    (live : state.world.link.life.closed = false) :
    state.now < state.world.lastRxMs + sessionIdleMs + heartbeatTimerMs ∧
    (state.world.upload.active = true → state.world.upload.lastProgressMs ≠ 0 →
      state.now < state.world.upload.lastProgressMs + transferIdleMs + heartbeatTimerMs) ∧
    (state.world.proc.active = true → 0 < state.world.proc.timeoutMs →
      state.world.proc.startedMs + state.world.proc.timeoutMs + heartbeatTimerMs ≤ state.now →
      Tried state.world.proc [.timeout]) ∧
    (state.world.proc.active = true → 0 < state.world.proc.idleTimeoutMs →
      state.world.proc.lastIoMs + state.world.proc.idleTimeoutMs + heartbeatTimerMs ≤ state.now →
      Tried state.world.proc [.timeout, .idle]) := by
  have prompt := prompt_run connected executed small live
  have order := prompt.order
  refine ⟨order.trans_lt prompt.rx, fun active began => order.trans_lt (prompt.upload active began), ?_, ?_⟩
  · exact fun active positive late => (prompt.child active).timeout positive (late.trans order)
  · exact fun active positive late => (prompt.child active).idle positive (late.trans order)

/-- A child with a timeout of a second that does not go away. -/
def stubborn : List (Event × Nat × Env) :=
  [(Upload.request .procSpawn 7 (ascii "path=sleep\ntimeout_ms=1000"), 0, {}), (.tick, 1000, {}), (.tick, 2000, {})]

def stubbornSession : Clocked := (clocked.run (.start Upload.freshSession 0) stubborn).get (by decide +kernel)

theorem deadlines_kept_stubborn : stubbornSession.world.proc.active = true ∧ Tried stubbornSession.world.proc [.timeout] := by
  have live : stubbornSession.world.link.life.closed = false := by decide +kernel
  have active : stubbornSession.world.proc.active = true := by decide +kernel
  have connected : onNewConnection {} 1 {} .empty portfwdEngineInit = some Upload.freshSession := (Option.some_get (by decide)).symm
  refine ⟨active, ?_⟩
  exact (deadlines_kept connected (Option.some_get (by decide +kernel)).symm (by decide) live).2.2.1 active
    (by decide +kernel) (by decide +kernel)

end Luagent.Proofs.Deadlines
