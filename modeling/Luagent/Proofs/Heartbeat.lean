import Luagent.Clock
import Luagent.Proofs.Outbound
import Luagent.Proofs.ProcessOutput

/-! When a session idles out. A PING is due after five seconds without a
transmission, the session is closed after fifteen without a receipt, and other
transmissions put off the PING. -/

namespace Luagent.Proofs
open Foundation

structure SameClock (before after : World) : Prop where
  lastRx : after.lastRxMs = before.lastRxMs := by rfl
  nextReqId : after.nextReqId = before.nextReqId := by rfl

theorem SameClock.trans {before middle after : World} (first : SameClock before middle) (later : SameClock middle after) :
    SameClock before after := ⟨later.lastRx.trans first.lastRx, later.nextReqId.trans first.nextReqId⟩

theorem Talks.sameClock {before after : World} (talks : Talks before after) : SameClock before after := by
  rw [talks.same]
  exact ⟨rfl, rfl⟩

theorem UploadOnly.sameClock {before after : World} (only : UploadOnly before after) : SameClock before after := by
  obtain ⟨_, _, _, same⟩ := only
  rw [same]
  exact ⟨rfl, rfl⟩

section handlers
variable (env : Env) (world : World) (reqId : UInt32)

private theorem getLoop_clock (fd : Nat) (world : World) : SameClock world (getLoop env reqId fd world).1 := by
  unfold getLoop
  split
  next more =>
    simp only
    split
    · exact ⟨rfl, rfl⟩
    · split
      · exact ⟨rfl, rfl⟩
      next some =>
        split
        · exact ⟨rfl, rfl⟩
        · exact .trans (by exact ⟨rfl, rfl⟩) (getLoop_clock fd _)
  next => exact ⟨rfl, rfl⟩
termination_by world.download.totalSize - world.download.offset
decreasing_by
  omega

private theorem getBegin_clock (payload : Bytes) : SameClock world (transferHandleGetBegin env world reqId payload).1 := by
  have ending := getBegin_ending env world reqId payload
  generalize transferHandleGetBegin env world reqId payload = result at ending ⊢
  cases ending with
  | busy | missing | unnamed | unopened | unsized | overflowed | unanswered | unbuffered => exact ⟨rfl, rfl⟩
  | looped => exact .trans (by exact ⟨rfl, rfl⟩) (getLoop_clock env reqId _ _)

private theorem spawn_clock (path : Bytes) (args : List Bytes) (timeoutMs idleTimeoutMs : Nat) (sendAck : Bool) :
    SameClock world (procSpawnCommon env world reqId path args timeoutMs idleTimeoutMs sendAck).1 := by
  have ending := spawn_ending env world reqId path args timeoutMs idleTimeoutMs sendAck
  generalize procSpawnCommon env world reqId path args timeoutMs idleTimeoutMs sendAck = after at ending
  cases ending <;> exact ⟨rfl, rfl⟩

end handlers

private theorem text_clock {env : Env} {world after : World} {type : Option FrameType} {reqId : UInt32} {payload : Bytes}
    (effect : TextEffect env world type reqId payload after) : SameClock world after := by
  cases effect with
  | talked talks => exact talks.sameClock
  | operated _ _ effect talks =>
    refine .trans ?_ talks.sameClock
    cases effect with
    | nothing | opened => exact ⟨rfl, rfl⟩
    | closed relayId =>
      have ending := portClose_ending world relayId
      generalize portfwdClose world relayId = result at ending ⊢
      cases ending <;> exact ⟨rfl, rfl⟩
    | spawned => exact .trans (spawn_clock ..) ⟨rfl, rfl⟩
  | began => exact (putBegin_only ..).sameClock
  | downloaded => exact getBegin_clock ..
  | spawned => exact spawn_clock ..
  | killed _ _ kill talks =>
    subst kill
    exact .trans (by exact ⟨rfl, rfl⟩) talks.sameClock

private theorem control_clock (env : Env) (world : World) (message : Message) :
    SameClock world (protocolHandleControl env world message).1 := by
  have effect := control_effect env world message
  generalize protocolHandleControl env world message = result at effect
  cases effect with
  | chunk => exact (putChunk_only ..).sameClock
  | ended => exact (putEnd_only ..).sameClock
  | text _ effect => exact text_clock effect

/-- What the checks of `heartbeat_cb` that follow the PING leave alone. -/
theorem checks_clock (env : Env) (world : World) : SameClock world
    (procCheckTimeouts env (transferCheckTimeoutDownload env (transferCheckTimeoutUpload env world))) := by
  have upload : SameClock world (transferCheckTimeoutUpload env world) := by
    have ending := checkUpload_ending env world
    generalize transferCheckTimeoutUpload env world = next at ending ⊢
    cases ending <;> exact ⟨rfl, rfl⟩
  have download (world : World) : SameClock world (transferCheckTimeoutDownload env world) := by
    have ending := checkDownload_ending env world
    generalize transferCheckTimeoutDownload env world = next at ending ⊢
    cases ending <;> exact ⟨rfl, rfl⟩
  have proc (world : World) : SameClock world (procCheckTimeouts env world) := by
    have ending := checkTimeouts_ending env world
    generalize procCheckTimeouts env world = next at ending ⊢
    cases ending <;> exact ⟨rfl, rfl⟩
  exact (upload.trans (download _)).trans (proc _)

/-- Receipts are noted by nothing but a read, and only a tick numbers a PING. -/
theorem callback_clock (env : Env) (world : World) {event : Event} (other : event ≠ .read .received)
    (tick : event ≠ .tick) :
    SameClock world (callback env world event) := by
  cases event with
  | read action =>
    cases action with
    | received => exact absurd rfl other
    | dispatch message => exact .trans (by exact ⟨rfl, rfl⟩) (control_clock env (world.countFrame message) message)
    | badHeader | overflow | hangup => exact ⟨rfl, rfl⟩
  | tick => exact absurd rfl tick
  | written | output => exact ⟨rfl, rfl⟩
  | exited status =>
    simp only [callback, procExitCb]
    exact ⟨rfl, rfl⟩
  | ended pipe => cases pipe <;> exact ⟨rfl, rfl⟩
  | closed name =>
    have ending := closeCb_ending env world name
    simp only [callback]
    generalize closeCb env world name = next at ending ⊢
    cases ending with
    | plain _ shut | dropped _ shut | released _ shut =>
      cases shut
      exact ⟨rfl, rfl⟩

/-- A transmission is noted when a frame is queued, at the time that send reads. -/
theorem Speaks.lastTx {env : Env} {before after : Link} {frames : List Sent} (speaks : Speaks env before frames after) :
    after.lastTxMs = before.lastTxMs ∨ ∃ send, after.lastTxMs = env.sentAt send := by
  induction speaks with
  | silent silent => exact .inl silent.lastTx
  | send link type reqId payload =>
    unfold sessionSendFrame
    split
    · exact .inl rfl
    · split
      · exact .inl (sessionClose_silent link).lastTx
      · simp only
        split
        · exact .inl rfl
        · split
          · exact .inl rfl
          · split
            · exact .inl rfl
            · split <;> exact .inr ⟨_, rfl⟩
  | trans _ _ first later =>
    rcases later with same | sent
    · rw [same]
      exact first
    · exact .inr sent

theorem callback_sent (env : Env) (world : World) (event : Event) :
    (callback env world event).link.lastTxMs = world.link.lastTxMs ∨
      ∃ send, (callback env world event).link.lastTxMs = env.sentAt send := by
  by_cases written : ∃ write, event = .written write
  · obtain ⟨write, rfl⟩ := written
    exact .inl rfl
  · obtain ⟨_, speaks, _⟩ := callback_speech env world (not_exists.mp written)
    exact speaks.lastTx

namespace Heartbeat

theorem callback_lastTx (env : Env) (world : World) (event : Event) {time : Nat} (clock : ∀ send, env.sentAt send = time) :
    (callback env world event).link.lastTxMs = world.link.lastTxMs ∨ (callback env world event).link.lastTxMs = time :=
  (callback_sent env world event).imp_right fun ⟨send, sent⟩ => sent.trans (clock send)

theorem spoken_ping {env : Env} {world : World} {event : Event} {frame : Sent} (spoken : Spoken env world event frame)
    (ping : frame.type = FrameType.ping.code) : event = .tick := by
  have member := spoken.of_type ping
  cases event with
  | tick => rfl
  | read action => cases action <;> simp [Event.frameTypes] at member
  | output pipe => cases pipe <;> simp [Event.frameTypes, Pipe.frameType] at member
  | _ => simp [Event.frameTypes] at member

/-- Only a tick queues a PING. -/
theorem unpinged {env : Env} {world : World} {event : Event} (other : event ≠ .tick) {next : World}
    (same : next.link.queued = (callback env world event).link.queued) : pinged world next = false := by
  rw [pinged, framesSince, same]
  by_cases written : ∃ write, event = .written write
  · obtain ⟨write, rfl⟩ := written
    simp [callback, onWriteDone, Link.uvWritten]
  · obtain ⟨frames, speaks, spoken⟩ := callback_speech env world (not_exists.mp written)
    rw [speaks.queued, List.drop_left, List.any_eq_false]
    intro frame member ping
    exact other (spoken_ping (spoken frame member) (by simpa using ping))

theorem elapsedMs_of_le {now since : Nat} (before : since ≤ now) (small : now - since < 2 ^ 64) :
    elapsedMs now since = now - since := by
  unfold elapsedMs
  rw [Nat.add_sub_assoc before, Nat.add_mod_left, Nat.mod_eq_of_lt small]

def checks (env : Env) (world : World) : World :=
  procCheckTimeouts env (transferCheckTimeoutDownload env (transferCheckTimeoutUpload env world))

structure Checked (time : Nat) (stalled : Bool) (before after : Link) : Prop where
  complains : Complains before after
  lastTx : after.lastTxMs = before.lastTxMs ∨ (stalled = true ∧ after.lastTxMs = time)
  live : after.life.closed = false → before.life.closed = false

private theorem checks_idle (env : Env) {world : World} (idle : world.download = transferInit) :
    checks env world = procCheckTimeouts env (transferCheckTimeoutUpload env world) := by
  have download : (transferCheckTimeoutUpload env world).download = transferInit := by rw [checkUpload_download, idle]
  rw [checks, checkDownload_idle env download]

private theorem checks_complain (env : Env) (world : World) : Complains world.link (checks env world).link := by
  have upload (world : World) : Complains world.link (transferCheckTimeoutUpload env world).link := by
    have ending := checkUpload_ending env world
    generalize transferCheckTimeoutUpload env world = next at ending ⊢
    cases ending with
    | going => exact ⟨[], by simp, by simp⟩
    | stalled => exact sendError_complains env (diagCountTransferAbort world.link) ..
  have download (world : World) : Complains world.link (transferCheckTimeoutDownload env world).link := by
    have ending := checkDownload_ending env world
    generalize transferCheckTimeoutDownload env world = next at ending ⊢
    cases ending with
    | going => exact ⟨[], by simp, by simp⟩
    | stalled => exact sendError_complains env (diagCountTransferAbort world.link) ..
  unfold checks Complains
  rw [(checkTimeouts_silent env _).queued]
  exact (upload world).trans (download _)

/-- A tick that sends no PING queues errors only. -/
theorem tick_complains {env : Env} {world : World}
    (quiet : heartbeatIdleMs ≤ elapsedMs env.now world.link.lastTxMs → world.link.life.closed = true ∨ world.idlesOut env.now) :
    Complains world.link (heartbeatCb env world).link := by
  have ending := tick_ending env world
  generalize heartbeatCb env world = next at ending ⊢
  cases ending with
  | closed => exact ⟨[], by simp, by simp⟩
  | idle => exact ⟨[], (sessionClose_silent world.link).queued.trans (List.append_nil _).symm, by simp⟩
  | checked live early =>
    rw [heartbeatPing_early fun due => (quiet due).elim (by simp [live]) early]
    exact checks_complain env world

private theorem checks_checked (env : Env) {world : World} (idle : world.download = transferInit) {time : Nat}
    (clock : ∀ send, env.sentAt send = time) :
    Checked time (transferStalled world.upload env.now) world.link (checks env world).link := by
  have silent := checkTimeouts_silent env (transferCheckTimeoutUpload env world)
  obtain ⟨_, speaks, _⟩ := checkUpload_speech env world world rfl
  refine ⟨checks_complain env world, ?_, ?_⟩
  · rw [checks_idle env idle, silent.lastTx]
    rcases speaks.lastTx with same | ⟨send, sent⟩
    · exact .inl same
    · by_cases stalled : transferStalled world.upload env.now = true
      · exact .inr ⟨stalled, sent.trans (clock send)⟩
      · rw [checkUpload_going env (eq_false_of_ne_true stalled)]
        exact .inl rfl
  · rw [checks_idle env idle]
    exact (speaks.silent_last silent).live

private theorem ping_sent {env : Env} {world : World} (due : heartbeatIdleMs ≤ elapsedMs env.now world.link.lastTxMs)
    {time : Nat}
    (clock : ∀ send, env.sentAt send = time) (request : env.alloc (.writeReq world.link.sends) = true)
    (buffer : env.alloc (.writeBuf world.link.sends) = true) (write : env.uvWrite world.link.sends = 0)
    (live : (heartbeatPing env world).link.life.closed = false) :
    (heartbeatPing env world).link.queued =
        world.link.queued ++ [⟨FrameType.ping.code, world.nextReqId, ascii "status=ping"⟩] ∧
      (heartbeatPing env world).link.lastTxMs = time := by
  have ending := heartbeatPing_ending env world
  generalize heartbeatPing env world = next at ending live ⊢
  obtain early | _ := ending
  · exact absurd due early
  obtain ⟨before, room⟩ := sendFrame_room live
  have can : CanSend env (diagCountHeartbeat world.link) (ascii "status=ping").length :=
    ⟨before, room, request, buffer, write⟩
  have bounded : (ascii "status=ping").length ≤ maxFramePayload := by decide
  refine ⟨(sendFrame_queues world.nextReqId (by decide) bounded can).queued, ?_⟩
  have encoded := frameEncodeHeader_some (by decide : FrameType.ping.code ≠ 0) 0 world.nextReqId bounded
  simp only [World.sendText, sessionSendText, sessionSendFrame]
  rw [if_neg (by simp [can.live]), if_neg (by have := can.room; omega)]
  simp only [can.request, can.buffer, can.accepted, encoded, Bool.not_true, Bool.false_eq_true, if_false, ne_eq,
    not_true_eq_false]
  exact clock _

/-- A tick has something to send for which the write queue has no room: the PING, or
the error of a stalled upload. -/
def overflows (env : Env) (world : World) : Bool :=
  (decide (heartbeatIdleMs ≤ elapsedMs env.now world.link.lastTxMs) && full world.link (ascii "status=ping").length) ||
    (transferStalled world.upload env.now &&
      full (heartbeatPing env world).link (errorText "timeout" (ascii "transfer stalled")).length)

private theorem ping_closed_iff {env : Env} {world : World} (live : world.link.life.closed = false) :
    (heartbeatPing env world).link.life.closed = true ↔
      heartbeatIdleMs ≤ elapsedMs env.now world.link.lastTxMs ∧ full world.link (ascii "status=ping").length = true := by
  have ending := heartbeatPing_ending env world
  generalize heartbeatPing env world = next at ending ⊢
  cases ending with
  | early early => simp [live, early]
  | pinged due =>
    have closes := @sendFrame_closed_iff env (diagCountHeartbeat world.link) FrameType.ping.code world.nextReqId
      (ascii "status=ping")
    have before : (diagCountHeartbeat world.link).life.closed ≠ true := ne_true_of_eq_false live
    rw [or_iff_right before] at closes
    exact closes.trans (and_iff_right due).symm

private theorem checkUpload_closed_iff (env : Env) (world : World) :
    (transferCheckTimeoutUpload env world).link.life.closed = true ↔ world.link.life.closed = true ∨
      transferStalled world.upload env.now = true ∧
        full world.link (errorText "timeout" (ascii "transfer stalled")).length = true := by
  have text : utilSnprintf 512 (errorText "timeout" (ascii "transfer stalled")) =
      some (errorText "timeout" (ascii "transfer stalled")) := by decide
  have ending := checkUpload_ending env world
  generalize transferCheckTimeoutUpload env world = next at ending ⊢
  cases ending with
  | going going => simp [going]
  | stalled stalled =>
    have closes := @sendFrame_closed_iff env (diagCountTransferAbort world.link) FrameType.error.code world.upload.reqId
      (errorText "timeout" (ascii "transfer stalled"))
    simp only [stalled, true_and, World.abortUpload, World.sendError, sessionSendError, text]
    exact closes

/-- A tick closes an open session that idles out or that overflows, and no other one. -/
theorem tick_closes_iff {env : Env} {world : World} (idle : world.download = transferInit)
    (live : world.link.life.closed = false) :
    (heartbeatCb env world).link.life.closed = true ↔ world.idlesOut env.now ∨ overflows env world = true := by
  cases tick_step env idle with
  | closed closed => simp [live] at closed
  | idle _ late shut =>
    rw [shut]
    simp [World.close, sessionClose_life, life_close_closed, late]
  | checked _ early middle reached _ timed =>
    rw [timed, (checkTimeouts_alike env middle).1, reached, checkUpload_closed_iff, ping_closed_iff live,
      (heartbeatPing_same env world).upload]
    simp [overflows, early]

/-- How long after the last receipt the server may still send anything but PINGs. -/
def talkativeMs : Nat := 8000

/-- Events at which the server has nothing to send but, at a tick, a PING. -/
def nothingToSend (world : World) (time : Nat) : Event → Bool
  | .output .. | .exited _ | .read (.dispatch _) => false
  | .tick => !transferStalled world.upload time
  | _ => true

/-- The server does not go on sending to a client it has not heard of for a
while, and memory and libuv let it send the PINGs. -/
structure Sparse (state : Timed) (input : Event × Nat × Env) : Prop where
  sparse : state.world.lastRxMs + talkativeMs < input.2.1 → nothingToSend state.world input.2.1 input.1 = true
  request : input.1 = .tick → input.2.2.alloc (.writeReq state.world.link.sends) = true
  buffer : input.1 = .tick → input.2.2.alloc (.writeBuf state.world.link.sends) = true
  write : input.1 = .tick → input.2.2.uvWrite state.world.link.sends = 0

/-- Where the deadlines of an open session stand. -/
structure InTime (state : Timed) : Prop where
  received : state.world.lastRxMs ≤ state.now
  sent : state.world.link.lastTxMs ≤ state.now
  due : state.now ≤ state.dueMs
  soon : state.dueMs ≤ state.now + heartbeatTimerMs
  /-- No PING is out and the next one is early enough, or one is out and was. -/
  pings : (state.unanswered = [] ∧ state.world.link.lastTxMs ≤ state.world.lastRxMs + talkativeMs ∧
      state.dueMs < state.world.link.lastTxMs + heartbeatIdleMs + heartbeatTimerMs) ∨
    ∃ ping rest, state.unanswered = ping :: rest ∧ ping ≤ state.world.link.lastTxMs ∧
      ping + answerMs < state.world.lastRxMs + sessionIdleMs ∧ state.now ≤ ping + answerMs

/-- A tick within the deadlines does not close the session. -/
theorem InTime.not_idle {state : Timed} (inTime : InTime state) {time : Nat} (later : state.now ≤ time)
    (inside : time ≤ state.dueMs) (answered : ∀ ping ∈ state.unanswered, time ≤ ping + answerMs) :
    elapsedMs time state.world.lastRxMs < sessionIdleMs := by
  have received := inTime.received
  have bound : time < state.world.lastRxMs + sessionIdleMs := by
    rcases inTime.pings with ⟨_, talkative, early⟩ | ⟨ping, rest, out, _, early, _⟩
    · simp only [talkativeMs, heartbeatIdleMs, heartbeatTimerMs, sessionIdleMs] at *
      omega
    · have := answered ping (by rw [out]; exact List.mem_cons_self)
      omega
  rw [elapsedMs_of_le (received.trans later) (by simp only [sessionIdleMs] at bound; omega)]
  omega

/-- One callback of a session with a clock. -/
structure ClockedStep (state : Clocked) (input : Event × Nat × Env) (next : Clocked) : Prop where
  later : state.now ≤ input.2.1
  onTick : input.1 = .tick → input.2.1 = state.dueMs
  inside : state.world.link.life.closed = false → input.2.1 ≤ state.dueMs
  moved : agent.step state.world (input.1, input.2.2.at input.2.1) = some next.world
  now : next.now = input.2.1
  due : next.dueMs = if input.1 = .tick then state.dueMs + heartbeatTimerMs else state.dueMs

theorem clocked_step {state next : Clocked} {input : Event × Nat × Env} (stepped : clocked.step state input = some next) :
    ClockedStep state input next := by
  simp only [clocked, Option.ite_none_right_eq_some, Option.map_eq_some_iff] at stepped
  obtain ⟨passes, world, moved, rfl⟩ := stepped
  simp only [Clocked.passes, Bool.and_eq_true, decide_eq_true_eq, Bool.or_eq_true, bne_iff_ne, ne_eq, beq_iff_eq] at passes
  obtain ⟨⟨later, tick⟩, inside⟩ := passes
  refine ⟨later, fun isTick => tick.resolve_left (not_not.mpr isTick), fun live => inside.resolve_left ?_, moved, rfl, rfl⟩
  rw [live]
  decide

private theorem timed_step {state next : Timed} {input : Event × Nat × Env}
    (stepped : timedAgent.step state input = some next) :
    ClockedStep state.toClocked input next.toClocked ∧
      (state.world.link.life.closed = false → ∀ ping ∈ state.unanswered, input.2.1 ≤ ping + answerMs) ∧
      next.unanswered = (if input.1 = .read .received then [] else state.unanswered) ++
        if pinged state.world next.world then [next.now] else [] := by
  simp only [timedAgent, Option.ite_none_right_eq_some, Option.map_eq_some_iff] at stepped
  obtain ⟨answers, clocked, moved, rfl⟩ := stepped
  refine ⟨clocked_step moved, fun live => ?_, rfl⟩
  simpa [Timed.answers, live] using answers

/-- A callback that is neither a receipt nor a tick. -/
theorem InTime.callback {state next : Timed} (inTime : InTime state) (later : state.now ≤ next.now)
    (inside : next.now ≤ state.dueMs) (answered : ∀ ping ∈ state.unanswered, next.now ≤ ping + answerMs)
    (due : next.dueMs = state.dueMs) (unanswered : next.unanswered = state.unanswered)
    (rx : next.world.lastRxMs = state.world.lastRxMs)
    (tx : next.world.link.lastTxMs = state.world.link.lastTxMs ∨
      (next.world.link.lastTxMs = next.now ∧ next.now ≤ state.world.lastRxMs + talkativeMs)) : InTime next := by
  have sent := inTime.sent
  have received := inTime.received
  have soon := inTime.soon
  refine ⟨by omega, by omega, by omega, by omega, ?_⟩
  rw [unanswered, due, rx]
  rcases inTime.pings with ⟨none, talkative, early⟩ | ⟨ping, rest, out, before, early, _⟩
  · refine .inl ⟨none, by omega, ?_⟩
    simp only [heartbeatIdleMs, heartbeatTimerMs] at *
    omega
  · exact .inr ⟨ping, rest, out, by omega, early, answered ping (by rw [out]; exact List.mem_cons_self)⟩

/-- Any receipt answers the PINGs. -/
theorem InTime.receipt {state next : Timed} (inTime : InTime state) (later : state.now ≤ next.now)
    (inside : next.now ≤ state.dueMs) (due : next.dueMs = state.dueMs) (unanswered : next.unanswered = [])
    (rx : next.world.lastRxMs = next.now) (tx : next.world.link.lastTxMs = state.world.link.lastTxMs) : InTime next := by
  have sent := inTime.sent
  have soon := inTime.soon
  refine ⟨by omega, by omega, by omega, by omega, .inl ⟨unanswered, by omega, ?_⟩⟩
  rw [due, tx]
  simp only [heartbeatIdleMs, heartbeatTimerMs] at *
  rcases inTime.pings with ⟨_, _, early⟩ | ⟨ping, _, _, before, _, recent⟩
  · exact early
  · simp only [answerMs] at recent
    omega

/-- A tick at which no PING is due. -/
theorem InTime.waits {state next : Timed} (inTime : InTime state) (now : next.now = state.dueMs)
    (answered : ∀ ping ∈ state.unanswered, next.now ≤ ping + answerMs)
    (due : next.dueMs = state.dueMs + heartbeatTimerMs) (unanswered : next.unanswered = state.unanswered)
    (rx : next.world.lastRxMs = state.world.lastRxMs) (undue : next.now < state.world.link.lastTxMs + heartbeatIdleMs)
    (tx : next.world.link.lastTxMs = state.world.link.lastTxMs ∨
      (next.world.link.lastTxMs = next.now ∧ next.now ≤ state.world.lastRxMs + talkativeMs)) : InTime next := by
  have sent := inTime.sent
  have received := inTime.received
  have reached := inTime.due
  refine ⟨by omega, by omega, by omega, by omega, ?_⟩
  rw [unanswered, due, rx]
  rcases inTime.pings with ⟨none, talkative, _⟩ | ⟨ping, rest, out, before, early, _⟩
  · exact .inl ⟨none, by omega, by omega⟩
  · exact .inr ⟨ping, rest, out, by omega, early, answered ping (by rw [out]; exact List.mem_cons_self)⟩

/-- A tick that sends a PING. No other one is out then. -/
theorem InTime.pings_now {state next : Timed} (inTime : InTime state) (now : next.now = state.dueMs)
    (answered : ∀ ping ∈ state.unanswered, next.now ≤ ping + answerMs)
    (due : next.dueMs = state.dueMs + heartbeatTimerMs) (unanswered : next.unanswered = state.unanswered ++ [next.now])
    (rx : next.world.lastRxMs = state.world.lastRxMs) (isDue : state.world.link.lastTxMs + heartbeatIdleMs ≤ next.now)
    (tx : next.world.link.lastTxMs = next.now) : InTime next := by
  have received := inTime.received
  have reached := inTime.due
  refine ⟨by omega, by omega, by omega, by omega, .inr ?_⟩
  rcases inTime.pings with ⟨none, talkative, early⟩ | ⟨ping, rest, out, before, _, _⟩
  · refine ⟨next.now, [], by rw [unanswered, none]; rfl, by omega, ?_, by omega⟩
    rw [rx]
    simp only [talkativeMs, heartbeatIdleMs, heartbeatTimerMs, sessionIdleMs, answerMs] at *
    omega
  · have := answered ping (by rw [out]; exact List.mem_cons_self)
    simp only [heartbeatIdleMs, answerMs] at *
    omega

/-- The time since the last transmission does not wrap. -/
theorem InTime.since_sent {state : Timed} (inTime : InTime state) {time : Nat} (later : state.now ≤ time)
    (inside : time ≤ state.dueMs) : elapsedMs time state.world.link.lastTxMs = time - state.world.link.lastTxMs := by
  have soon := inTime.soon
  have sent := inTime.sent
  apply elapsedMs_of_le (sent.trans later)
  rcases inTime.pings with ⟨_, _, early⟩ | ⟨ping, _, _, before, _, recent⟩
  · simp only [heartbeatIdleMs, heartbeatTimerMs] at early
    omega
  · simp only [answerMs, heartbeatTimerMs] at recent soon
    omega

private theorem quiet_lastTx {env : Env} {world : World} {event : Event} {time : Nat} (other : event ≠ .tick)
    (quiet : nothingToSend world time event = true) :
    (callback env world event).link.lastTxMs = world.link.lastTxMs := by
  cases event with
  | read action =>
    cases action with
    | received => rfl
    | dispatch => cases quiet
    | badHeader => exact (sessionClose_silent (diagCountParseFailure world.link)).lastTx
    | overflow | hangup => exact (sessionClose_silent world.link).lastTx
  | tick => exact absurd rfl other
  | written => rfl
  | exited | output => cases quiet
  | ended pipe => rfl
  | closed name => exact (close_silent env world name).lastTx

private theorem checked_lastRx (env : Env) (world : World) :
    (checks env (heartbeatPing env world)).lastRxMs = world.lastRxMs := by
  rw [checks, (checks_clock env (heartbeatPing env world)).lastRx]
  have ending := heartbeatPing_ending env world
  generalize heartbeatPing env world = middle at ending ⊢
  cases ending <;> rfl

private theorem pinged_true {before after : World} {reqId : UInt32} {payload : Bytes} {errors : List Sent}
    (queued : after.link.queued = before.link.queued ++ [⟨FrameType.ping.code, reqId, payload⟩] ++ errors) :
    pinged before after = true := by
  rw [pinged, framesSince, queued, List.append_assoc, List.drop_left]
  rfl

private theorem pinged_false {before after : World} (complains : Complains before.link after.link) :
    pinged before after = false := by
  obtain ⟨errors, queued, complaints⟩ := complains
  rw [pinged, framesSince, queued, List.drop_left, List.any_eq_false]
  intro frame member ping
  rw [complaints frame member] at ping
  cases ping

private theorem inTime_tick {state next : Timed} {time : Nat} {env : Env} (inTime : InTime state)
    (idle : state.world.download = transferInit) (sparse : Sparse state (.tick, time, env))
    (stepped : timedAgent.step state (.tick, time, env) = some next) (before : state.world.link.life.closed = false)
    (live : next.world.link.life.closed = false) : InTime next := by
  obtain ⟨⟨later, atTick, inside, moved, now, due⟩, answered, unanswered⟩ := timed_step stepped
  obtain ⟨_, world⟩ := agent_step moved
  have atTick : time = state.dueMs := atTick rfl
  have now : next.now = time := now
  have inside := inside before
  have answered := answered before
  have clock : ∀ send, (env.at time).sentAt send = time := fun _ => rfl
  have unidle := inTime.not_idle later inside answered
  have passed : elapsedMs time state.world.link.lastTxMs = time - state.world.link.lastTxMs :=
    inTime.since_sent later inside
  have reached := inTime.sent
  have beats : heartbeatCb (env.at time) state.world = checks (env.at time) (heartbeatPing (env.at time) state.world) :=
    tick_checked before (Nat.not_le.mpr unidle)
  have download : (heartbeatPing (env.at time) state.world).download = transferInit := by
    rw [(heartbeatPing_same _ state.world).download, idle]
  have checked := checks_checked (env.at time) download clock
  rw [← beats] at checked
  have link : next.world.link = (heartbeatCb (env.at time) state.world).link := by rw [world]; rfl
  have rx : next.world.lastRxMs = state.world.lastRxMs := by
    rw [world]
    exact (congrArg (·.lastRxMs) beats).trans (checked_lastRx _ _)
  rw [← link] at checked
  by_cases isDue : heartbeatIdleMs ≤ elapsedMs time state.world.link.lastTxMs
  · obtain ⟨queued, sent⟩ := @ping_sent (env.at time) _ isDue _ clock (sparse.request rfl) (sparse.buffer rfl)
      (sparse.write rfl) (checked.live live)
    obtain ⟨errors, complaints, _⟩ := checked.complains
    refine inTime.pings_now (now.trans atTick) (by rw [now]; exact answered) due ?_ rx (by omega) ?_
    · rw [unanswered, pinged_true (complaints.trans (by rw [queued])), now]
      rfl
    · rw [now]
      rcases checked.lastTx with same | ⟨_, again⟩
      · rw [same, sent]
      · exact again
  · rw [heartbeatPing_early isDue] at checked
    refine inTime.waits (now.trans atTick) (by rw [now]; exact answered) due ?_ rx (by omega) ?_
    · rw [unanswered, pinged_false checked.complains]
      exact List.append_nil _
    · rw [now]
      rcases checked.lastTx with same | ⟨stalled, again⟩
      · exact .inl same
      · refine .inr ⟨again, ?_⟩
        by_contra tooLate
        have quiet := sparse.sparse (by simpa using tooLate)
        have stalled : transferStalled state.world.upload time = true := stalled
        simp [nothingToSend, stalled] at quiet

private theorem inTime_step {state next : Timed} {input : Event × Nat × Env}
    (inTime : state.world.link.life.closed = false → InTime state) (idle : state.world.download = transferInit)
    (sparse : Sparse state input) (stepped : timedAgent.step state input = some next)
    (live : next.world.link.life.closed = false) : InTime next := by
  obtain ⟨event, time, env⟩ := input
  obtain ⟨⟨later, _, inside, moved, now, due⟩, answered, unanswered⟩ := timed_step stepped
  obtain ⟨_, world⟩ := agent_step moved
  simp only at later inside now due answered unanswered
  have before : state.world.link.life.closed = false := by
    rw [world] at live
    exact ProcessOutput.closed_stays live
  have inside := inside before
  have answered := answered before
  have inTime := inTime before
  by_cases tick : event = .tick
  · subst tick
    exact inTime_tick inTime idle sparse stepped before live
  · have unpinged : pinged state.world next.world = false := unpinged tick (by rw [world])
    rw [if_neg tick] at due
    simp only [unpinged, Bool.false_eq_true, if_false, List.append_nil] at unanswered
    by_cases receipt : event = .read .received
    · subst receipt
      rw [if_pos rfl] at unanswered
      exact inTime.receipt (by rw [now]; exact later) (by rw [now]; exact inside) due unanswered (by rw [world, now]; rfl)
        (by rw [world]; rfl)
    · rw [if_neg receipt] at unanswered
      have same := callback_clock (env.at time) state.world receipt tick
      refine inTime.callback (by rw [now]; exact later) (by rw [now]; exact inside) (by rw [now]; exact answered) due
        unanswered (by rw [world]; exact same.lastRx) ?_
      rw [world, now]
      rcases callback_lastTx (env.at time) state.world event (fun _ => rfl) with kept | sent
      · exact .inl kept
      · by_cases quiet : nothingToSend state.world time event = true
        · exact .inl (quiet_lastTx tick quiet)
        · refine .inr ⟨sent, ?_⟩
          by_contra tooLate
          exact quiet (sparse.sparse (by simpa using tooLate))

private theorem untimed_run {state final : Timed} {inputs : List (Event × Nat × Env)}
    (executed : timedAgent.run state inputs = some final) :
    agent.run state.world (inputs.map fun input => (input.1, input.2.2.at input.2.1)) = some final.world := by
  induction inputs generalizing state with
  | nil =>
    cases executed
    rfl
  | cons input inputs ih =>
    obtain ⟨next, stepped, continued⟩ := timedAgent.run_cons_some executed
    simp only [List.map_cons, Machine.run, (timed_step stepped).1.moved, Option.bind_some]
    exact ih continued

/-- No tick finds the session of a client idle that answers every PING in time, as
long as the server stops talking to it eight seconds after its last receipt. A tick
that closes the session had no room for what it was to send. -/
theorem responsive_not_idled_out {connectEnv : Env} {sessionId : Nat} {counts : Tally} {fs : FileSystem} {engine : Engine}
    {start : World} {history : List (Event × Nat × Env)} {state next : Timed} {time : Nat} {env : Env}
    (connected : onNewConnection connectEnv sessionId counts fs engine = some start)
    (sparse : timedAgent.Conforms Sparse (.start start connectEnv.now) history)
    (executed : timedAgent.run (.start start connectEnv.now) history = some state)
    (live : state.world.link.life.closed = false) (ticked : timedAgent.step state (.tick, time, env) = some next) :
    ¬ state.world.idlesOut time ∧
      (next.world.link.life.closed = true → overflows (env.at time) state.world = true) := by
  have inTime : state.world.link.life.closed = false → InTime state := by
    refine timedAgent.conforming_induction (fun _ state => state.world.link.life.closed = false → InTime state) ?_ ?_
      sparse executed
    · intro _
      have rx := (connected_fresh connected).lastRxMs
      have tx := (connected_fresh connected).lastTxMs
      refine ⟨rx.le, tx.le, Nat.le_add_right .., Nat.le_refl _, .inl ⟨rfl, ?_, ?_⟩⟩
      · simp only [Timed.start, Clocked.start, rx, tx]
        omega
      · simp only [Timed.start, Clocked.start, tx, heartbeatIdleMs, heartbeatTimerMs]
        omega
    · intro past middle input following reached earlier allowed stepped live
      have idle := (Upload.run_tracked connected (untimed_run reached)).download
      exact inTime_step earlier idle allowed stepped live
  obtain ⟨⟨later, _, inside, moved, _, _⟩, answered, _⟩ := timed_step ticked
  obtain ⟨_, world⟩ := agent_step moved
  have awake : ¬ state.world.idlesOut time := Nat.not_le.mpr ((inTime live).not_idle later (inside live) (answered live))
  refine ⟨awake, fun closed => ?_⟩
  have idle := (Upload.run_tracked connected (untimed_run executed)).download
  rw [world] at closed
  exact ((tick_closes_iff idle live).mp closed).resolve_left awake

def happens (event : Event) (time : Nat) : Event × Nat × Env := (event, time, {})

/-- Ticks every second. -/
def ticks (first count : Nat) : List (Event × Nat × Env) :=
  (List.range count).map fun index => happens .tick ((first + index) * 1000)

/-- A child that writes something every four seconds, for a client that has
nothing to say. -/
def chattyChild : List (Event × Nat × Env) :=
  let spawn := Upload.spawnX
  let output := Event.output .stdout (ascii ".")
  [happens (.read .received) 0, happens spawn 0] ++ ticks 1 4 ++ [happens output 4000] ++ ticks 5 4 ++
    [happens output 8000] ++ ticks 9 4 ++ [happens output 12000] ++ ticks 13 2

set_option maxRecDepth 4000 in
def chattySession : Timed := (timedAgent.run (.start Upload.freshSession 0) chattyChild).get (by decide +kernel)

def chattyLater : Timed := (timedAgent.step chattySession (happens .tick 15000)).get (by decide +kernel)

/-- It is closed in the fifteenth second, without ever having been sent a PING. -/
theorem chatty_session_idles_out :
    timedAgent.run (.start Upload.freshSession 0) chattyChild = some chattySession ∧
    timedAgent.step chattySession (happens .tick 15000) = some chattyLater ∧
    chattySession.world.link.queued.all (fun frame => frame.type != FrameType.ping.code) = true ∧
    chattySession.unanswered = [] ∧ chattySession.world.idlesOut 15000 ∧
    overflows (Env.at {} 15000) chattySession.world = false ∧
    chattySession.world.link.life.closed = false ∧ chattyLater.world.link.life.closed = true :=
  ⟨(Option.some_get (by decide +kernel)).symm, (Option.some_get (by decide +kernel)).symm, by decide +kernel,
   by decide +kernel, by decide +kernel, by decide +kernel,
    by decide +kernel, by decide +kernel⟩

/-- A client that answers its first PING. -/
def answeredPing : List (Event × Nat × Env) := ticks 1 5 ++ [happens (.read .received) 5500]

def answeredSession : Timed := (timedAgent.run (.start Upload.freshSession 0) answeredPing).get (by decide +kernel)

def answeredLater : Timed := (timedAgent.step answeredSession (happens .tick 6000)).get (by decide +kernel)

theorem responsive_not_idled_out_ping :
    answeredSession.world.link.queued.length = 1 ∧ overflows (Env.at {} 6000) answeredSession.world = false ∧
      ¬ answeredSession.world.idlesOut 6000 ∧ answeredLater.world.link.life.closed = false := by
  have connected : onNewConnection {} 1 {} .empty portfwdEngineInit = some Upload.freshSession :=
    (Option.some_get (by decide)).symm
  have sparse : timedAgent.Conforms Sparse (.start Upload.freshSession 0) answeredPing := by
    apply timedAgent.conforms_of_forall
    intro input member state
    have early : input.2.1 ≤ 8000 ∧ input.2.2 = {} := by
      rcases List.mem_append.mp member with member | member
      · obtain ⟨index, inside, rfl⟩ := List.mem_map.mp member
        have := List.mem_range.mp inside
        exact ⟨by simp only [happens]; omega, rfl⟩
      · rw [List.mem_singleton.mp member]
        exact ⟨by simp only [happens]; omega, rfl⟩
    refine ⟨fun late => ?_, ?_, ?_, ?_⟩
    · simp only [talkativeMs] at late
      omega
    all_goals
      rw [early.2]
      exact fun _ => rfl
  obtain ⟨awake, closes⟩ := @responsive_not_idled_out _ _ _ _ _ _ _ _ answeredLater 6000 {} connected sparse
    (Option.some_get (by decide +kernel)).symm (by decide +kernel) (Option.some_get (by decide +kernel)).symm
  have room : overflows (Env.at {} 6000) answeredSession.world = false := by decide +kernel
  exact ⟨by decide +kernel, room, awake, eq_false_of_ne_true fun closed => Bool.noConfusion ((closes closed).symm.trans room)⟩

end Heartbeat
end Luagent.Proofs
