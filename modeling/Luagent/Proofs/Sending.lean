import Luagent.Proofs.Counters
import Luagent.Proofs.FrameCodec

/-! What a send can do to a session: it queues its frame, or it fails, or it
closes the session because the write queue is full. -/

namespace Luagent.Proofs
open Foundation

theorem life_close_of_closed {life : Life} (closed : life.closed = true) : life.close = life := by
  simp [Life.close, closed]

theorem life_close_closed (life : Life) : life.close.closed = true := by
  unfold Life.close
  split
  next closed => exact closed
  next => simp only; split <;> rfl

def Quiet (before after : Life) : Prop := after = before ∨ after = before.close

theorem Quiet.refl (life : Life) : Quiet life life := .inl rfl

theorem Quiet.trans {before middle after : Life} (first : Quiet before middle) (second : Quiet middle after) :
    Quiet before after := by
  rcases first with rfl | rfl
  · exact second
  · rcases second with rfl | rfl
    · exact .inr rfl
    · exact .inr (life_close_of_closed (life_close_closed before))

theorem sessionClose_life (link : Link) : (sessionClose link).life = link.life.close := by
  unfold sessionClose
  split
  next closed => exact (life_close_of_closed closed).symm
  next => rfl

/-- Whether a frame can be queued now. -/
structure CanSend (env : Env) (link : Link) (length : Nat) : Prop where
  live : link.life.closed = false
  room : link.pendingWriteBytes + frameHeaderSize + length ≤ maxWriteQueueBytes
  request : env.alloc (.writeReq link.sends) = true
  buffer : env.alloc (.writeBuf link.sends) = true
  accepted : env.uvWrite link.sends = 0

theorem CanSend.counted {env : Env} {link : Link} {length : Nat} (can : CanSend env link length) (tally : Tally) :
    CanSend env { link with tally } length := ⟨can.live, can.room, can.request, can.buffer, can.accepted⟩

theorem frameEncodeHeader_some {type : UInt8} (known : type ≠ 0) (flags : UInt8) (reqId : UInt32) {length : Nat}
    (bounded : length ≤ maxFramePayload) :
    frameEncodeHeader frameHeaderSize ⟨type, flags, reqId, length.toUInt32⟩ =
      some (headerBytes ⟨type, flags, reqId, length.toUInt32⟩) := by
  have small : length.toUInt32.toNat = length := Nat.mod_eq_of_lt (by unfold maxFramePayload at bounded; omega)
  have valid : frameValidateHeader ⟨type, flags, reqId, length.toUInt32⟩ = true := by
    unfold frameValidateHeader
    rw [if_neg (by simp only [small]; omega), if_neg (by simpa using known)]
  simp [frameEncodeHeader, valid]

/-- What a send that succeeds leaves. -/
structure Queues (before : Link) (frame : Sent) (after : Link) : Prop where
  life : after.life = before.life
  sends : after.sends = before.sends + 1
  pending : after.pendingWriteBytes = before.pendingWriteBytes + frameHeaderSize + frame.payload.length
  queued : after.queued = before.queued ++ [frame]

section sends
variable (env : Env) (link : Link) (type : UInt8) (reqId : UInt32) (payload : Bytes)

theorem sendFrame_life : Quiet link.life (sessionSendFrame env link type reqId payload).1.life := by
  unfold sessionSendFrame
  split
  · exact .refl _
  · split
    · exact .inr (sessionClose_life link)
    · simp only
      split
      · exact .refl _
      · split
        · exact .refl _
        · split
          · exact .refl _
          · split <;> exact .refl _

/-- The frame is queued exactly when the send reports success. -/
theorem sendFrame_queued : (sessionSendFrame env link type reqId payload).1.queued =
    link.queued ++ if (sessionSendFrame env link type reqId payload).2 then [⟨type, reqId, payload⟩] else [] := by
  unfold sessionSendFrame
  split
  · simp
  · split
    · unfold sessionClose
      split <;> simp [diagCountSessionDisconnect, Link.count]
    · simp only
      split
      · simp
      · split
        · simp
        · split
          · simp
          · split <;> simp [diagCountFrameTx]

variable {env link type payload}

theorem sendFrame_sent (known : type ≠ 0) (bounded : payload.length ≤ maxFramePayload)
    (can : CanSend env link payload.length) : (sessionSendFrame env link type reqId payload).2 = true := by
  unfold sessionSendFrame
  rw [if_neg (by simp [can.live]), if_neg (by have := can.room; omega)]
  simp [can.request, can.buffer, can.accepted, frameEncodeHeader_some known 0 reqId bounded]

theorem sendFrame_queues (known : type ≠ 0) (bounded : payload.length ≤ maxFramePayload)
    (can : CanSend env link payload.length) :
    Queues link ⟨type, reqId, payload⟩ (sessionSendFrame env link type reqId payload).1 := by
  have encoded := frameEncodeHeader_some known 0 reqId bounded
  unfold sessionSendFrame
  rw [if_neg (by simp [can.live]), if_neg (by have := can.room; omega)]
  simp only [can.request, can.buffer, can.accepted, encoded, Bool.not_true, Bool.false_eq_true, if_false, ne_eq,
    not_true_eq_false]
  refine ⟨rfl, rfl, ?_, rfl⟩
  simp [diagCountFrameTx, Nat.add_assoc]

theorem canSend_of_sent (sent : (sessionSendFrame env link type reqId payload).2 = true) :
    CanSend env link payload.length := by
  unfold sessionSendFrame at sent
  split at sent
  · cases sent
  next live =>
    split at sent
    · cases sent
    next room =>
      simp only at sent
      split at sent
      · cases sent
      next request =>
        split at sent
        · cases sent
        next buffer =>
          split at sent
          · cases sent
          · split at sent
            · cases sent
            next accepted =>
              exact ⟨by simpa using live, by omega, by simpa using request, by simpa using buffer,
                by simpa [diagCountFrameTx] using accepted⟩

end sends

theorem sendError_life (env : Env) (link : Link) (reqId : UInt32) (code : String) (message : Bytes) :
    Quiet link.life (sessionSendError env link reqId code message).1.life := by
  unfold sessionSendError
  split
  · exact .refl _
  · exact sendFrame_life env link _ reqId _

def Complains (before after : Link) : Prop :=
  ∃ frames, after.queued = before.queued ++ frames ∧ ∀ frame ∈ frames, frame.type = FrameType.error.code

theorem sendError_complains (env : Env) (link : Link) (reqId : UInt32) (code : String) (message : Bytes) :
    Complains link (sessionSendError env link reqId code message).1 := by
  unfold sessionSendError
  split
  · exact ⟨[], by simp, by simp⟩
  · refine ⟨_, sendFrame_queued env link _ reqId _, ?_⟩
    intro frame member
    split at member
    · rw [List.mem_singleton.mp member]
    · cases member

theorem Complains.trans {before middle after : Link} (first : Complains before middle) (later : Complains middle after) :
    Complains before after := by
  obtain ⟨early, queued, errors⟩ := first
  obtain ⟨late, further, others⟩ := later
  refine ⟨early ++ late, by rw [further, queued, List.append_assoc], fun frame member => ?_⟩
  rcases List.mem_append.mp member with member | member
  · exact errors frame member
  · exact others frame member

structure Talks (before after : World) : Prop where
  same : after = { before with link := after.link } := by rfl
  life : Quiet before.link.life after.link.life
  counts : Counts before.link [] after.link

namespace Talks
variable {before middle after : World}

theorem trans (first : Talks before middle) (second : Talks middle after) : Talks before after where
  same := by
    have later := second.same
    rw [first.same] at later
    exact later
  life := first.life.trans second.life
  counts := first.counts.quiet_first second.counts

theorem sendError (world : World) (env : Env) (reqId : UInt32) (code : String) (message : Bytes) :
    Talks world (world.sendError env reqId code message) :=
  { life := sendError_life env world.link reqId code message, counts := sendError_counts .. }

theorem countError (world : World) (env : Env) (reqId : UInt32) (code : String) (message : Bytes) :
    Talks world ({ world with link := diagCountProtocolError world.link }.sendError env reqId code message) where
  life := sendError_life env (diagCountProtocolError world.link) reqId code message
  counts := (Counts.other world.link rfl 1).quiet_first (sendError_counts env (diagCountProtocolError world.link) ..)

theorem sendText (world : World) (env : Env) (type : FrameType) (reqId : UInt32) (text : Bytes) :
    Talks world (world.sendText env type reqId text).1 :=
  { life := sendFrame_life env world.link type.code reqId text, counts := sendFrame_counts .. }

end Talks

end Luagent.Proofs
