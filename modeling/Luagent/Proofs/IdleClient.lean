import Luagent.Clock
import Luagent.Dialogue
import Luagent.Proofs.Heartbeat

/-! A client that has nothing to ask. Every five seconds the agent sends a PING, the
reader answers with a PONG, and the agent answers the PONG with an error, which the
reader files under the number of the PING. -/

namespace Luagent.Proofs.IdleClient
open Foundation Client

def envAt (time : Nat) : Env := ({} : Env).at time

/-- A session in which nothing goes on: these writes did not complete yet, these
frames of the agent were not read, and these frames of the client not handled. -/
structure Calm (state : Dialogue) (lastTx lastRx : Nat) (number : UInt32) (held : List WriteReq)
    (unread unhandled : List Sent) : Prop where
  tcp : state.world.link.life.tcp.phase = .open
  timer : state.world.link.life.heartbeatTimer.phase = .open
  live : state.world.link.life.closed = false
  writes : state.world.link.writes = held
  outstanding : state.world.link.pendingWriteBytes = (held.map (·.buf.length)).sum
  lastTx : state.world.link.lastTxMs = lastTx
  lastRx : state.world.lastRxMs = lastRx
  upload : state.world.upload = transferInit
  download : state.world.download = transferInit
  child : state.world.proc.active = false
  number : state.world.nextReqId = number
  unread : state.world.link.queued.drop state.client.received = unread
  unhandled : state.client.sent.drop state.handled = unhandled
  arrived : state.client.received ≤ state.world.link.queued.length
  handled : state.handled ≤ state.client.sent.length
  greeted : state.client.greeted = true
  next : state.client.nextReqId = 1000

/-- A frame that was sent while nothing else waited. -/
structure SentAlone (before : Link) (frame : Sent) (time : Nat) (write : WriteReq) (after : Link) : Prop where
  life : after.life = before.life
  lastTx : after.lastTxMs = time
  writes : after.writes = [write]
  outstanding : after.pendingWriteBytes = write.buf.length
  queued : after.queued = before.queued ++ [frame]

private theorem send_alone {link : Link} (live : link.life.closed = false) (none : link.pendingWriteBytes = 0)
    (empty : link.writes = []) (time : Nat) (type : FrameType) (reqId : UInt32) {payload : Bytes}
    (short : payload.length ≤ 1000) :
    ∃ write, SentAlone link ⟨type.code, reqId, payload⟩ time write
      (sessionSendFrame (envAt time) link type.code reqId payload).1 := by
  have bounded : payload.length ≤ maxFramePayload := by unfold maxFramePayload; omega
  have encoded := frameEncodeHeader_some (code_ne_zero type) 0 reqId bounded
  have room : ¬ maxWriteQueueBytes < link.pendingWriteBytes + frameHeaderSize + payload.length := by
    unfold maxWriteQueueBytes frameHeaderSize
    omega
  refine ⟨⟨link.sends, headerBytes ⟨type.code, 0, reqId, payload.length.toUInt32⟩ ++ payload⟩, ?_⟩
  simp only [sessionSendFrame, live, room, encoded, Bool.false_eq_true, if_false]
  refine ⟨rfl, rfl, ?_, ?_, rfl⟩
  · simp [envAt, Env.at, diagCountFrameTx, empty]
  · simp [envAt, Env.at, diagCountFrameTx, none]

private theorem heartbeat_only_pings {env : Env} {world : World} (live : world.link.life.closed = false)
    (awake : ¬ world.idlesOut env.now) (upload : world.upload = transferInit)
    (download : world.download = transferInit) (child : world.proc.active = false) :
    heartbeatCb env world = heartbeatPing env world := by
  have same := heartbeatPing_same env world
  have childless : (heartbeatPing env world).proc.active = false := by
    rw [(heartbeatPing_sameRest env world).proc, child]
  have unstalled : transferCheckTimeoutUpload env (heartbeatPing env world) = heartbeatPing env world :=
    checkUpload_going env (by simp [same.upload, upload, transferStalled, transferInit])
  rw [tick_checked live awake, unstalled, checkDownload_idle env (same.download.trans download)]
  exact checkTimeouts_inactive env childless

/-- The session has sent one frame and is as idle as before. -/
structure Sends (world : World) (frame : Sent) (time : Nat) (write : WriteReq) (next : World) : Prop where
  link : SentAlone world.link frame time write next.link
  lastRx : next.lastRxMs = world.lastRxMs
  upload : next.upload = world.upload
  download : next.download = world.download
  proc : next.proc = world.proc

private theorem tick_sends {world : World} (time : Nat) (timer : world.link.life.heartbeatTimer.phase = .open)
    (live : world.link.life.closed = false) (writes : world.link.writes = []) (none : world.link.pendingWriteBytes = 0)
    (upload : world.upload = transferInit) (download : world.download = transferInit) (child : world.proc.active = false)
    (awake : ¬ world.idlesOut time) (due : heartbeatIdleMs ≤ elapsedMs time world.link.lastTxMs) :
    ∃ next write, agent.step world (.tick, envAt time) = some next ∧ next.nextReqId = world.nextReqId + 1 ∧
      Sends world ⟨FrameType.ping.code, world.nextReqId, ascii "status=ping"⟩ time write next := by
  have counted : (diagCountHeartbeat world.link).pendingWriteBytes = 0 := none
  obtain ⟨write, sent⟩ := @send_alone (diagCountHeartbeat world.link) live counted writes time .ping world.nextReqId
    (ascii "status=ping") (by decide)
  have beat : heartbeatCb (envAt time) world = heartbeatPing (envAt time) world :=
    heartbeat_only_pings live awake upload download child
  have stepped : agent.step world (.tick, envAt time) =
      some { heartbeatPing (envAt time) world with reading := false } := by
    simp only [agent, enabled, timer, BEq.rfl, if_true, callback, beat, Event.reads]
  have pinged : heartbeatPing (envAt time) world = _ := if_pos due
  rw [pinged] at stepped
  exact ⟨_, write, stepped, rfl, ⟨sent.life, sent.lastTx, sent.writes, sent.outstanding, sent.queued⟩, rfl, rfl, rfl, rfl⟩

private theorem pong_sends {world : World} (time : Nat) (tcp : world.link.life.tcp.phase = .open)
    (live : world.link.life.closed = false) (writes : world.link.writes = []) (none : world.link.pendingWriteBytes = 0)
    {message : Message} (isPong : message.type = FrameType.pong.code) :
    ∃ next write, agent.step world (.read (.dispatch message), envAt time) = some next ∧
      next.nextReqId = world.nextReqId ∧
      Sends world ⟨FrameType.error.code, message.reqId, errorText "bad_type" (ascii "unsupported frame type")⟩ time write
        next := by
  have counted : (diagCountProtocolError (world.countFrame message).link).pendingWriteBytes = 0 := none
  obtain ⟨write, sent⟩ := @send_alone (diagCountProtocolError (world.countFrame message).link) live counted writes time
    .error message.reqId (errorText "bad_type" (ascii "unsupported frame type")) (by decide)
  have fits : utilSnprintf 512 (errorText "bad_type" (ascii "unsupported frame type")) =
      some (errorText "bad_type" (ascii "unsupported frame type")) := by decide
  have stepped : agent.step world (.read (.dispatch message), envAt time) =
      some { ({ world.countFrame message with link := diagCountProtocolError (world.countFrame message).link }.sendError
        (envAt time) message.reqId "bad_type" (ascii "unsupported frame type")) with reading := true } := by
    simp only [agent, enabled, tcp, BEq.rfl, Bool.true_or, if_true, callback, perform,
      control_text isPong (show FrameType.pong ≠ .putChunk by decide) (show FrameType.pong ≠ .putEnd by decide),
      handleText, envAt, Env.at, Event.reads, Action.closes, Bool.not_false]
  simp only [World.sendError, sessionSendError, fits, sessionSendText] at stepped
  exact ⟨_, write, stepped, rfl, ⟨sent.life, sent.lastTx, sent.writes, sent.outstanding, sent.queued⟩, rfl, rfl, rfl, rfl⟩

namespace Calm
variable {state : Dialogue} {lastTx lastRx : Nat} {number : UInt32}

theorem sends {unhandled left : List Sent} (calm : Calm state lastTx lastRx number [] [] unhandled) {event : Event}
    {frame : Sent} {time handled : Nat} {write : WriteReq} {world : World} (sends : Sends state.world frame time write world)
    (handles : state.client.sent.drop handled = left) (within : handled ≤ state.client.sent.length) :
    Calm { state.advance event world with handled } time lastRx world.nextReqId [write] [frame] left where
  tcp := by
    rw [← calm.tcp, ← sends.link.life]
    rfl
  timer := by
    rw [← calm.timer, ← sends.link.life]
    rfl
  live := by
    rw [← calm.live, ← sends.link.life]
    rfl
  writes := sends.link.writes
  outstanding := by simp only [Dialogue.advance, sends.link.outstanding, List.map_cons, List.map_nil, List.sum_singleton]
  lastTx := sends.link.lastTx
  lastRx := sends.lastRx.trans calm.lastRx
  upload := sends.upload.trans calm.upload
  download := sends.download.trans calm.download
  child := by
    rw [← calm.child, ← sends.proc]
    rfl
  number := rfl
  unread := by
    simp only [Dialogue.advance, sends.link.queued, List.drop_append_of_le_length calm.arrived, calm.unread, List.nil_append]
  unhandled := handles
  arrived := by
    simp only [Dialogue.advance, sends.link.queued, List.length_append]
    exact Nat.le_add_right_of_le calm.arrived
  handled := within
  greeted := calm.greeted
  next := calm.next

theorem pings (calm : Calm state lastTx lastRx number [] [] []) {time : Nat} (due : lastTx + heartbeatIdleMs ≤ time)
    (awake : lastRx ≤ time) (soon : time < lastRx + sessionIdleMs) (small : time < 2 ^ 64) :
    ∃ next write, dialogue.step state (.callback .tick (envAt time)) = some next ∧ next.client = state.client ∧
      Calm next time lastRx (number + 1) [write] [⟨FrameType.ping.code, number, ascii "status=ping"⟩] [] := by
  have quiet : elapsedMs time state.world.lastRxMs = time - lastRx := by
    rw [calm.lastRx, Heartbeat.elapsedMs_of_le awake (by omega)]
  have silent : elapsedMs time state.world.link.lastTxMs = time - lastTx := by
    rw [calm.lastTx, Heartbeat.elapsedMs_of_le (by omega) (by omega)]
  obtain ⟨world, write, stepped, next, sends⟩ := tick_sends time calm.timer calm.live calm.writes calm.outstanding calm.upload
    calm.download calm.child (by omega) (by omega)
  refine ⟨state.advance .tick world, write, ?_, rfl, ?_⟩
  · simp only [dialogue, Dialogue.move, stepped, Option.map_some]
  · rw [← calm.number, ← next]
    exact calm.sends sends calm.unhandled calm.handled

/-- The loop completes the write. -/
theorem completes {write : WriteReq} {unread unhandled : List Sent}
    (calm : Calm state lastTx lastRx number [write] unread unhandled) :
    ∃ next, dialogue.step state (.callback (.written write) {}) = some next ∧ next.client = state.client ∧
      Calm next lastTx lastRx number [] unread unhandled := by
  obtain ⟨world, stepped, done⟩ : ∃ world, agent.step state.world (.written write, {}) = some world ∧
      world = { state.world with link := onWriteDone (state.world.link.uvWritten write) write, reading := false } := by
    refine ⟨_, ?_, rfl⟩
    simp [agent, enabled, calm.writes, calm.tcp, callback, Event.reads]
  have outstanding := calm.outstanding
  simp only [List.map_cons, List.map_nil, List.sum_singleton] at outstanding
  refine ⟨state.advance (.written write) world, ?_, rfl, ?_⟩
  · simp only [dialogue, Dialogue.move, stepped, Option.map_some]
  · subst done
    exact { calm with
      writes := by simp [Dialogue.advance, onWriteDone, Link.uvWritten, calm.writes]
      outstanding := by simp [Dialogue.advance, onWriteDone, Link.uvWritten, outstanding] }

/-- The reader reads the only frame that it has not read. -/
theorem reads {frame : Sent} {held : List WriteReq} {unhandled : List Sent}
    (calm : Calm state lastTx lastRx number held [frame] unhandled) :
    dialogue.step state .read = some { state with client := state.client.read frame } ∧
      state.client.received + 1 ≤ state.world.link.queued.length ∧
      state.world.link.queued.drop (state.client.received + 1) = [] := by
  have arriving : state.arriving = some frame := by
    rw [Dialogue.arriving, ← List.head?_drop, calm.unread]
    rfl
  refine ⟨?_, (List.getElem?_eq_some_iff.mp arriving).1, ?_⟩
  · simp only [dialogue, Dialogue.move, arriving, calm.greeted, if_true]
  · rw [← List.drop_drop, calm.unread]
    rfl

/-- The reader answers the PING. -/
theorem answers {reqId : UInt32} {payload : Bytes}
    (calm : Calm state lastTx lastRx number [] [⟨FrameType.ping.code, reqId, payload⟩] []) :
    ∃ next, dialogue.step state .read = some next ∧ next.client.pending = state.client.pending ∧
      Calm next lastTx lastRx number [] [] [pongFrame reqId] := by
  obtain ⟨stepped, arrived, unread⟩ := calm.reads
  refine ⟨_, stepped, rfl, { calm with unread, arrived, unhandled := ?_, handled := ?_ }⟩
  · simp only [Connection.read, if_true, List.drop_append_of_le_length calm.handled, calm.unhandled, List.nil_append]
  · simp only [Connection.read, if_true, List.length_append]
    exact Nat.le_add_right_of_le calm.handled

/-- The agent notes that it heard of the client. -/
theorem hears {unread unhandled : List Sent} (calm : Calm state lastTx lastRx number [] unread unhandled) (time : Nat) :
    ∃ next, dialogue.step state (.callback (.read .received) (envAt time)) = some next ∧ next.client = state.client ∧
      Calm next lastTx time number [] unread unhandled := by
  obtain ⟨world, stepped, done⟩ : ∃ world, agent.step state.world (.read .received, envAt time) = some world ∧
      world = { state.world with lastRxMs := time, reading := true } := by
    refine ⟨_, ?_, rfl⟩
    simp [agent, enabled, calm.tcp, callback, perform, envAt, Env.at, Event.reads, Action.closes]
  refine ⟨state.advance (.read .received) world, ?_, rfl, ?_⟩
  · simp only [dialogue, Dialogue.move, stepped, Option.map_some]
  · subst done
    exact { calm with lastRx := rfl }

/-- The agent answers the PONG. -/
theorem complains {reqId : UInt32} (calm : Calm state lastTx lastRx number [] [] [pongFrame reqId]) (time : Nat) :
    ∃ next write, dialogue.step state (.dispatch (envAt time)) = some next ∧ next.client = state.client ∧
      Calm next time lastRx number [write]
        [⟨FrameType.error.code, reqId, errorText "bad_type" (ascii "unsupported frame type")⟩] [] := by
  have sent : state.client.sent[state.handled]? = some (pongFrame reqId) := by
    rw [← List.head?_drop, calm.unhandled]
    rfl
  have bounded : (pongFrame reqId).payload.length ≤ maxFramePayload := by simp [pongFrame, maxFramePayload, ascii]
  have known : ¬ (pongFrame reqId).type = 0 := code_ne_zero .pong
  let message : Message := ⟨(pongFrame reqId).type, (pongFrame reqId).reqId, (pongFrame reqId).payload, bounded⟩
  obtain ⟨world, write, stepped, next, sends⟩ := @pong_sends state.world time calm.tcp calm.live calm.writes
    calm.outstanding message rfl
  refine ⟨{ state.advance (.read (.dispatch message)) world with handled := state.handled + 1 }, write, ?_, rfl, ?_⟩
  · simp only [dialogue, Dialogue.move, Dialogue.dispatch, sent, dif_pos bounded, if_neg known]
    rw [show agent.step state.world (.read (.dispatch message), envAt time) = some world from stepped]
    rfl
  · rw [← calm.number, ← next]
    refine calm.sends sends ?_ (List.getElem?_eq_some_iff.mp sent).1
    rw [← List.drop_drop, calm.unhandled]
    rfl

theorem files {reqId : UInt32} {payload : Bytes}
    (calm : Calm state lastTx lastRx number [] [⟨FrameType.error.code, reqId, payload⟩] []) :
    ∃ next filed, dialogue.step state .read = some next ∧
      next.client.pending = Function.update state.client.pending reqId.toNat (some filed) ∧
      Calm next lastTx lastRx number [] [] [] := by
  obtain ⟨stepped, arrived, unread⟩ := calm.reads
  refine ⟨_, _, stepped, rfl, { calm with unread, arrived }⟩

end Calm

def beat (time : Nat) (ping error : WriteReq) : List Move :=
  [.callback .tick (envAt time), .callback (.written ping) {}, .read, .callback (.read .received) (envAt time),
    .dispatch (envAt time), .callback (.written error) {}, .read]

private theorem round {state : Dialogue} {time : Nat} {number : UInt32} (calm : Calm state time time number [] [] [])
    (small : time + heartbeatIdleMs < 2 ^ 64) :
    ∃ moves next filed, dialogue.run state moves = some next ∧
      next.client.pending = Function.update state.client.pending number.toNat (some filed) ∧
      Calm next (time + heartbeatIdleMs) (time + heartbeatIdleMs) (number + 1) [] [] [] := by
  obtain ⟨pinged, ping, tick, client₁, calm⟩ :=
    calm.pings (Nat.le_refl _) (Nat.le_add_right _ _) (Nat.add_lt_add_left (by decide) time) small
  obtain ⟨flushed, done, client₂, calm⟩ := calm.completes
  obtain ⟨answered, read, pending, calm⟩ := calm.answers
  obtain ⟨heard, received, client₃, calm⟩ := calm.hears (time + heartbeatIdleMs)
  obtain ⟨complained, error, dispatch, client₄, calm⟩ := calm.complains (time + heartbeatIdleMs)
  obtain ⟨reflushed, again, client₅, calm⟩ := calm.completes
  obtain ⟨next, filed, last, files, calm⟩ := calm.files
  refine ⟨beat (time + heartbeatIdleMs) ping error, next, filed, ?_, ?_, calm⟩
  · simp only [beat, Machine.run, tick, done, read, received, dispatch, again, last, Option.bind_some]
  · rw [files, client₅, client₄, client₃, pending, client₂, client₁]

/-- Every PING so far has left an error. -/
theorem rounds {start : Dialogue} (calm : Calm start 0 0 1 [] [] []) (count : Nat)
    (small : heartbeatIdleMs * count < 2 ^ 64) (few : count < 2 ^ 32) :
    ∃ moves next, dialogue.run start moves = some next ∧
      Calm next (heartbeatIdleMs * count) (heartbeatIdleMs * count) (count + 1).toUInt32 [] [] [] ∧
      ∀ number, 1 ≤ number → number ≤ count → ∃ filed, next.client.pending number = some filed := by
  induction count with
  | zero => exact ⟨[], start, rfl, calm, by omega⟩
  | succ count ih =>
    rw [Nat.mul_succ] at small ⊢
    obtain ⟨earlier, middle, executed, rests, before⟩ := ih (by omega) (by omega)
    obtain ⟨moves, next, filed, continued, pending, rests⟩ := round rests small
    have number : (count + 1).toUInt32.toNat = count + 1 := by
      simp only [Nat.toUInt32, UInt32.toNat_ofNat']
      exact Nat.mod_eq_of_lt few
    refine ⟨earlier ++ moves, next, ?_, ?_, ?_⟩
    · rw [dialogue.run_append, executed, Option.bind_some, continued]
    · convert rests using 1
      simp [Nat.toUInt32]
    · intro other positive within
      rw [pending, number]
      by_cases last : other = count + 1
      · rw [last, Function.update_self]
        exact ⟨filed, rfl⟩
      · rw [Function.update_of_ne last]
        exact before other positive (by omega)

def greeting : List Move :=
  [.dispatch {}, .callback (.written ⟨0, encodeFrame ⟨FrameType.ack.code, 1, ascii "status=ok\nmessage=hello"⟩⟩) {}, .greet]

def greeted : Dialogue := (dialogue.run (.start Upload.freshSession) greeting).get (by decide +kernel)

theorem greeted_calm : Calm greeted 0 0 1 [] [] [] := by
  constructor <;> decide +kernel

end Luagent.Proofs.IdleClient
