import Luagent.Client
import Luagent.Proofs.Connecting
import Luagent.Proofs.Speech
import Luagent.Proofs.UploadSteps
import Mathlib.Algebra.BigOperators.Group.List.Basic
import Mathlib.Algebra.Order.BigOperators.Group.List

/-! The way out: the write queue of a session, and what the client daemon makes of
the bytes that left it. -/

namespace Luagent.Proofs.Outbound
open Foundation Client

/-! ## Reading from the socket -/

/-- The connection stays open: no piece is empty. -/
def Flowing (sock : Socket) : Prop := ∀ piece ∈ sock, piece ≠ []

private theorem recv_flowing {sock : Socket} {count : Nat} (flowing : Flowing sock) (wanted : 0 < count)
    (present : sock.flatten ≠ []) :
    ∃ chunk rest, recv sock count = some (chunk, rest) ∧ chunk.length ≠ 0 ∧ Flowing rest := by
  cases sock with
  | nil => exact absurd rfl present
  | cons piece rest =>
    have some : piece ≠ [] := flowing piece List.mem_cons_self
    have long : 0 < piece.length := List.length_pos_iff.mpr some
    refine ⟨_, _, rfl, ?_, ?_⟩
    · rw [List.length_take]
      omega
    · split
      · exact fun other member => flowing other (List.mem_cons_of_mem _ member)
      next longer =>
        intro other member
        rcases List.mem_cons.mp member with rfl | member
        · intro none
          have := congrArg List.length none
          simp only [List.length_drop, List.length_nil] at this
          omega
        · exact flowing other (List.mem_cons_of_mem _ member)

private theorem recvLoop_ok {sock : Socket} {count : Nat} {out : Bytes} (flowing : Flowing sock)
    (small : out.length ≤ count)
    (enough : count ≤ out.length + sock.flatten.length) :
    ∃ bytes rest, recvLoop sock count out = .ok (bytes, rest) ∧ Flowing rest := by
  unfold recvLoop
  by_cases more : out.length < count
  · have present : sock.flatten ≠ [] := by
      intro none
      rw [none, List.length_nil] at enough
      omega
    obtain ⟨chunk, rest, received, some, flows⟩ := recv_flowing flowing (by omega : 0 < count - out.length) present
    obtain ⟨arrived, bounded⟩ := recv_flatten received
    have total := congrArg List.length arrived
    simp only [List.length_append] at total
    rw [dif_pos more, received]
    simp only [some, ↓reduceDIte]
    exact recvLoop_ok flows (by rw [List.length_append]; omega) (by rw [List.length_append]; omega)
  · rw [dif_neg more]
    exact ⟨out, sock, rfl, flowing⟩
termination_by count - out.length
decreasing_by
  rw [List.length_append]
  omega

private theorem recvExact_ok {sock : Socket} {first more : Bytes} (flowing : Flowing sock)
    (arrived : sock.flatten = first ++ more) :
    ∃ rest, recvExact sock first.length = .ok (first, rest) ∧ rest.flatten = more ∧ Flowing rest := by
  have enough : first.length ≤ ([] : Bytes).length + sock.flatten.length := by
    rw [arrived, List.length_append, List.length_nil]
    omega
  obtain ⟨bytes, rest, received, flows⟩ := recvLoop_ok flowing (Nat.zero_le first.length) enough
  obtain ⟨same, exact⟩ := recvExact_flatten received
  rw [arrived] at same
  obtain ⟨rfl, rfl⟩ := List.append_inj same exact.symm
  exact ⟨rest, received, rfl, flows⟩

/-- The bytes of a frame on the wire. -/
def wireBytes (frame : Sent) : Bytes :=
  headerBytes ⟨frame.type, 0, frame.reqId, frame.payload.length.toUInt32⟩ ++ frame.payload

theorem toUInt32_length {payload : Bytes} (bounded : payload.length ≤ maxFramePayload) :
    payload.length.toUInt32.toNat = payload.length := by
  apply Nat.mod_eq_of_lt
  unfold maxFramePayload at bounded
  omega

private theorem decodeFrame_wireBytes {sock : Socket} {frame : Sent} {more : Bytes} (flowing : Flowing sock)
    (bounded : frame.payload.length ≤ maxFramePayload) (arrived : sock.flatten = wireBytes frame ++ more) :
    ∃ rest, decodeFrame sock = .ok (frame, rest) ∧ rest.flatten = more ∧ Flowing rest := by
  obtain ⟨type, reqId, payload⟩ := frame
  unfold wireBytes at arrived
  rw [List.append_assoc] at arrived
  obtain ⟨middle, header, between, flows⟩ := recvExact_ok flowing arrived
  obtain ⟨rest, body, remaining, flowsOn⟩ := recvExact_ok flows between
  refine ⟨rest, ?_, remaining, flowsOn⟩
  have fields := headerAt_headerBytes ⟨type, 0, reqId, payload.length.toUInt32⟩ []
  rw [List.append_nil] at fields
  have typed : (headerBytes ⟨type, 0, reqId, payload.length.toUInt32⟩).getD 4 0 = type := congrArg FrameHeader.type fields
  have numbered : readU32le ((headerBytes ⟨type, 0, reqId, payload.length.toUInt32⟩).drop 6) = reqId :=
    congrArg FrameHeader.reqId fields
  have sized : readU32le ((headerBytes ⟨type, 0, reqId, payload.length.toUInt32⟩).drop 10) = payload.length.toUInt32 :=
    congrArg FrameHeader.length fields
  have marked : (headerBytes ⟨type, 0, reqId, payload.length.toUInt32⟩).take 4 = magic := rfl
  have header : recvExact sock 14 = .ok (headerBytes ⟨type, 0, reqId, payload.length.toUInt32⟩, middle) := header
  simp only [decodeFrame, header, bind, Except.bind, marked, ne_eq, not_true_eq_false, if_false, sized,
    toUInt32_length bounded, body, typed, numbered]

private theorem flowing_nil {sock : Socket} (flowing : Flowing sock) (arrived : sock.flatten = []) : sock = [] := by
  cases sock with
  | nil => rfl
  | cons piece rest => exact absurd (List.flatten_eq_nil_iff.mp arrived piece List.mem_cons_self) (flowing piece List.mem_cons_self)

private theorem decodeFrame_nil : decodeFrame [] = .error .waits := by
  have waits : recvExact [] 14 = .error .waits := by
    rw [recvExact, recvLoop]
    rfl
  simp only [decodeFrame, waits, bind, Except.bind]

private theorem decodeAll_wireBytes {frames : List Sent}
    (bounded : ∀ frame ∈ frames, frame.payload.length ≤ maxFramePayload) :
    ∀ {sock : Socket}, Flowing sock → sock.flatten = (frames.map wireBytes).flatten → decodeAll sock = (frames, .waits) := by
  induction frames with
  | nil =>
    intro sock flowing arrived
    rw [flowing_nil flowing arrived, decodeAll]
    split
    next failed =>
      rw [decodeFrame_nil] at failed
      cases failed
      rfl
    next found => rw [decodeFrame_nil] at found; cases found
  | cons frame frames ih =>
    intro sock flowing arrived
    rw [List.map_cons, List.flatten_cons] at arrived
    obtain ⟨rest, decoded, remaining, flows⟩ := decodeFrame_wireBytes flowing (bounded frame List.mem_cons_self) arrived
    have later := ih (fun other member => bounded other (List.mem_cons_of_mem _ member)) flows remaining
    rw [decodeAll]
    split
    next failed => rw [decoded] at failed; cases failed
    next found =>
      rw [decoded] at found
      cases found
      rw [later]

/-! ## The write queue -/

/-- The connection side of a session and the buffers libuv accepted so far. -/
structure State where
  link : Link
  accepted : List Bytes

inductive Call where
  | send (type : UInt8) (reqId : UInt32) (payload : Bytes) (env : Env)
  | written (write : WriteReq)
  /-- whatever else changes the counters and the lifetime -/
  | other (life : Life) (tally : Tally)

def calls : Machine State Call where
  step state
    | .send type reqId payload env =>
      if type = 0 then none
      else
        let link := (sessionSendFrame env state.link type reqId payload).1
        some ⟨link, state.accepted ++ (link.writes.drop state.link.writes.length).map (·.buf)⟩
    | .written write => if write ∈ state.link.writes then some { state with link := onWriteDone (state.link.uvWritten write) write } else none
    | .other life tally =>
      if state.link.life.closed && !life.closed then none else some { state with link := { state.link with life, tally } }

def State.start (env : Env) (sessionId : Nat) (counts : Tally) : State := ⟨(sessionInit env sessionId counts).link, []⟩

/-- How a send leaves the queue: as it was, or longer by the frame. -/
inductive SendEffect (link : Link) (type : UInt8) (reqId : UInt32) (payload : Bytes) : Link × Bool → Prop where
  | refused {after : Link} (pending : after.pendingWriteBytes = link.pendingWriteBytes) (writes : after.writes = link.writes)
      (queued : after.queued = link.queued) (sends : link.sends ≤ after.sends) :
      SendEffect link type reqId payload (after, false)
  | accepted {after : Link} (bounded : payload.length ≤ maxFramePayload)
      (room : link.pendingWriteBytes + frameHeaderSize + payload.length ≤ maxWriteQueueBytes)
      (pending : after.pendingWriteBytes = link.pendingWriteBytes + (wireBytes ⟨type, reqId, payload⟩).length)
      (writes : after.writes = link.writes ++ [⟨link.sends, wireBytes ⟨type, reqId, payload⟩⟩])
      (queued : after.queued = link.queued ++ [⟨type, reqId, payload⟩]) (sends : after.sends = link.sends + 1) :
      SendEffect link type reqId payload (after, true)

private theorem encodeHeader_valid {header : FrameHeader} {bytes : Bytes}
    (encoded : frameEncodeHeader frameHeaderSize header = some bytes) :
    bytes = headerBytes header ∧ header.length.toNat ≤ maxFramePayload := by
  unfold frameEncodeHeader at encoded
  split at encoded
  · cases encoded
  · split at encoded
    next valid => exact ⟨(Option.some.inj encoded).symm, ValidHeader.length_le ⟨header, valid⟩⟩
    · cases encoded

theorem send_effect (env : Env) (link : Link) (type : UInt8) (reqId : UInt32) (payload : Bytes) :
    SendEffect link type reqId payload (sessionSendFrame env link type reqId payload) := by
  unfold sessionSendFrame
  split
  · exact .refused rfl rfl rfl (Nat.le_refl _)
  · split
    · obtain ⟨pending, _, sends, writes, queued, _⟩ := sessionClose_silent link
      exact .refused pending writes queued sends.ge
    next room =>
      -- the limit on the queue keeps the length far below the casts to 32 bits
      have room : link.pendingWriteBytes + frameHeaderSize + payload.length ≤ maxWriteQueueBytes := by omega
      have exact : payload.length.toUInt32.toNat = payload.length := by
        apply Nat.mod_eq_of_lt
        unfold maxWriteQueueBytes at room
        omega
      simp only
      split
      · exact .refused rfl rfl rfl (Nat.le_succ _)
      · split
        · exact .refused rfl rfl rfl (Nat.le_succ _)
        · split
          · exact .refused rfl rfl rfl (Nat.le_succ _)
          next header encoded =>
            obtain ⟨rfl, bounded⟩ := encodeHeader_valid encoded
            split
            · exact .refused (Nat.add_sub_cancel ..) rfl rfl (Nat.le_succ _)
            · exact .accepted (exact ▸ bounded) room rfl rfl rfl rfl

/-- What every state of the queue keeps. -/
structure QueueBalanced (state : State) : Prop where
  sum : state.link.pendingWriteBytes = (state.link.writes.map (·.buf.length)).sum
  bounded : state.link.pendingWriteBytes ≤ maxWriteQueueBytes
  numbered : ∀ write ∈ state.link.writes, write.send < state.link.sends
  distinct : state.link.writes.Nodup
  wire : state.accepted = state.link.queued.map wireBytes
  payloads : ∀ frame ∈ state.link.queued, frame.payload.length ≤ maxFramePayload

theorem length_wireBytes (frame : Sent) : (wireBytes frame).length = frameHeaderSize + frame.payload.length := by
  rw [wireBytes, List.length_append, length_headerBytes]

namespace QueueBalanced
variable {state next : State}

theorem send (balanced : QueueBalanced state) (env : Env) (type : UInt8) (reqId : UInt32) (payload : Bytes) :
    QueueBalanced ⟨(sessionSendFrame env state.link type reqId payload).1, state.accepted ++
      ((sessionSendFrame env state.link type reqId payload).1.writes.drop state.link.writes.length).map (·.buf)⟩ := by
  have effect := send_effect env state.link type reqId payload
  generalize sessionSendFrame env state.link type reqId payload = result at effect
  cases effect with
  | refused pending writes queued sends =>
    refine ⟨?_, ?_, ?_, ?_, ?_, ?_⟩
    · simp only [pending, writes]
      exact balanced.sum
    · simp only [pending]
      exact balanced.bounded
    · intro write member
      simp only [writes] at member
      exact (balanced.numbered write member).trans_le sends
    · simp only [writes]
      exact balanced.distinct
    · simp only [writes, queued, List.drop_length, List.map_nil, List.append_nil]
      exact balanced.wire
    · simp only [queued]
      exact balanced.payloads
  | accepted bounded room pending writes queued sends =>
    refine ⟨?_, ?_, ?_, ?_, ?_, ?_⟩
    · simp [pending, writes, balanced.sum]
    · simp only [pending, length_wireBytes]
      omega
    · intro write member
      simp only [writes, sends] at member ⊢
      rcases List.mem_append.mp member with member | member
      · exact (balanced.numbered write member).trans (Nat.lt_succ_self _)
      · rw [List.mem_singleton.mp member]
        exact Nat.lt_succ_self _
    · simp only [writes]
      refine List.Nodup.append balanced.distinct (List.nodup_singleton _) ?_
      intro write member last
      have number := balanced.numbered write member
      rw [List.mem_singleton.mp last] at number
      exact Nat.lt_irrefl _ number
    · simp [writes, queued, balanced.wire]
    · intro frame member
      simp only [queued] at member
      rcases List.mem_append.mp member with member | member
      · exact balanced.payloads frame member
      · rw [List.mem_singleton.mp member]
        exact bounded

theorem counted (balanced : QueueBalanced state) {write : WriteReq} (member : write ∈ state.link.writes) :
    write.buf.length ≤ state.link.pendingWriteBytes := by
  rw [balanced.sum]
  exact List.single_le_sum (fun _ _ => Nat.zero_le _) _ (List.mem_map_of_mem member)

theorem written (balanced : QueueBalanced state) {write : WriteReq} (member : write ∈ state.link.writes) :
    QueueBalanced { state with link := onWriteDone (state.link.uvWritten write) write } := by
  have guard := balanced.counted member
  have erased : state.link.writes.filter (· ≠ write) = state.link.writes.erase write := by
    rw [balanced.distinct.erase_eq_filter]
    exact List.filter_congr fun other _ => by simp [bne, beq_eq_decide]
  have left := List.sum_map_erase (fun write : WriteReq => write.buf.length) member
  have inside : ∀ other ∈ state.link.writes.erase write, other ∈ state.link.writes := fun _ => List.mem_of_mem_erase
  refine ⟨?_, ?_, ?_, ?_, balanced.wire, balanced.payloads⟩
  · simp only [onWriteDone, Link.uvWritten, guard, if_true, erased]
    rw [balanced.sum]
    omega
  · simp only [onWriteDone, Link.uvWritten, guard, if_true]
    exact (Nat.sub_le ..).trans balanced.bounded
  · intro other member
    simp only [onWriteDone, Link.uvWritten, erased] at member ⊢
    exact balanced.numbered other (inside other member)
  · simp only [onWriteDone, Link.uvWritten, erased]
    exact balanced.distinct.erase write

theorem step (balanced : QueueBalanced state) {call : Call} (stepped : calls.step state call = some next) :
    QueueBalanced next := by
  cases call with
  | send type reqId payload env =>
    simp only [calls, Option.ite_none_left_eq_some] at stepped
    obtain ⟨_, ⟨⟩⟩ := stepped
    exact balanced.send env type reqId payload
  | written write =>
    simp only [calls, Option.ite_none_right_eq_some] at stepped
    obtain ⟨member, ⟨⟩⟩ := stepped
    exact balanced.written member
  | other life tally =>
    simp only [calls, Option.ite_none_left_eq_some] at stepped
    obtain ⟨_, ⟨⟩⟩ := stepped
    exact ⟨balanced.sum, balanced.bounded, balanced.numbered, balanced.distinct, balanced.wire, balanced.payloads⟩

end QueueBalanced

/-- The frame of a call that `session_send_frame` accepts. -/
def acceptedBy (state : State) : Call → List Sent
  | .send type reqId payload env =>
    if (sessionSendFrame env state.link type reqId payload).2 then [⟨type, reqId, payload⟩] else []
  | _ => []

/-- The frames of the calls that were accepted, in order. -/
def acceptedFrames (start : State) (history : List Call) : List Sent :=
  calls.gather (fun state call _ => acceptedBy state call) start history

private theorem queued_step {state next : State} {call : Call} (stepped : calls.step state call = some next) :
    next.link.queued = state.link.queued ++ acceptedBy state call := by
  cases call with
  | send type reqId payload env =>
    simp only [calls, Option.ite_none_left_eq_some] at stepped
    obtain ⟨_, ⟨⟩⟩ := stepped
    exact sendFrame_queued ..
  | written write =>
    simp only [calls, Option.ite_none_right_eq_some] at stepped
    obtain ⟨_, ⟨⟩⟩ := stepped
    exact (List.append_nil _).symm
  | other life tally =>
    simp only [calls, Option.ite_none_left_eq_some] at stepped
    obtain ⟨_, ⟨⟩⟩ := stepped
    exact (List.append_nil _).symm

private theorem queued_run {start state : State} {history : List Call} (executed : calls.run start history = some state) :
    state.link.queued = start.link.queued ++ acceptedFrames start history := by
  refine calls.run_induction (fun history state => state.link.queued = start.link.queued ++ acceptedFrames start history)
    (List.append_nil _).symm ?_ executed
  intro history state call next reached queued stepped
  have longer : acceptedFrames start (history ++ [call]) = acceptedFrames start history ++ acceptedBy state call :=
    calls.gather_step _ reached stepped
  rw [queued_step stepped, queued, longer, List.append_assoc]

/-- The queue is accounted for, and what was accepted arrives. -/
structure FaithfulQueue (frames : List Sent) (state : State) : Prop where
  sum : state.link.pendingWriteBytes = (state.link.writes.map (·.buf.length)).sum
  bounded : state.link.pendingWriteBytes ≤ maxWriteQueueBytes
  guard : ∀ write ∈ state.link.writes, write.buf.length ≤ state.link.pendingWriteBytes
  untruncated : ∀ frame ∈ frames, frame.payload.length.toUInt32.toNat = frame.payload.length ∧
    (frameHeaderSize + frame.payload.length).toUInt32.toNat = frameHeaderSize + frame.payload.length
  refused : ∀ env type reqId payload, (sessionSendFrame env state.link type reqId payload).2 = false →
    (sessionSendFrame env state.link type reqId payload).1.pendingWriteBytes = state.link.pendingWriteBytes
  decoded : ∀ sock, Flowing sock → sock.flatten = state.accepted.flatten →
    decodeAll sock = (frames, .waits)

theorem QueueBalanced.faithful {state : State} (balanced : QueueBalanced state) :
    FaithfulQueue state.link.queued state where
  sum := balanced.sum
  bounded := balanced.bounded
  guard _ member := balanced.counted member
  untruncated frame member := by
    have bounded := balanced.payloads frame member
    refine ⟨toUInt32_length bounded, Nat.mod_eq_of_lt ?_⟩
    unfold maxFramePayload at bounded
    unfold frameHeaderSize
    omega
  refused env type reqId payload := by
    have effect := send_effect env state.link type reqId payload
    generalize sessionSendFrame env state.link type reqId payload = result at effect ⊢
    intro failed
    cases effect with
    | refused pending => exact pending
    | accepted => cases failed
  decoded sock flowing arrived := by
    rw [balanced.wire] at arrived
    exact decodeAll_wireBytes balanced.payloads flowing arrived

/-- Over any order of sends and completions. -/
theorem outbound_faithful {env : Env} {sessionId : Nat} {counts : Tally} {history : List Call} {state : State}
    (executed : calls.run (.start env sessionId counts) history = some state) :
    FaithfulQueue (acceptedFrames (.start env sessionId counts) history) state := by
  have initially : QueueBalanced (.start env sessionId counts) :=
    ⟨rfl, Nat.zero_le _, by simp [State.start, sessionInit], List.nodup_nil, rfl, by simp [State.start, sessionInit]⟩
  have balanced := calls.run_invariant (fun _ _ _ balanced stepped => balanced.step stepped) initially executed
  have queued : state.link.queued = acceptedFrames (.start env sessionId counts) history := queued_run executed
  exact queued ▸ balanced.faithful

/-- A frame goes out and its write completes. -/
def pingOut : List Call :=
  [.send FrameType.ping.code 1 (ascii "status=ping") {},
    .written ⟨0, wireBytes ⟨FrameType.ping.code, 1, ascii "status=ping"⟩⟩]

def pingSent : State := (calls.run (.start {} 1 {}) pingOut).get (by decide +kernel)

theorem outbound_faithful_ping :
    pingSent.link.pendingWriteBytes = 0 ∧
    decodeAll [pingSent.accepted.flatten.take 3, pingSent.accepted.flatten.drop 3] =
      ([⟨FrameType.ping.code, 1, ascii "status=ping"⟩], .waits) := by
  have faithful : FaithfulQueue (acceptedFrames (.start {} 1 {}) pingOut) pingSent :=
    outbound_faithful (Option.some_get (by decide +kernel)).symm
  have accepted : acceptedFrames (.start {} 1 {}) pingOut = [⟨FrameType.ping.code, 1, ascii "status=ping"⟩] := by
    decide +kernel
  refine ⟨by decide +kernel, accepted ▸ faithful.decoded _ ?_ ?_⟩
  · intro piece member
    rcases List.mem_cons.mp member with rfl | member
    · decide +kernel
    · rw [List.mem_singleton.mp member]
      decide +kernel
  · simp

/-! ## The session makes such calls -/

def MakesCalls (before after : Link) : Prop := ∀ accepted, ∃ made later, calls.run ⟨before, accepted⟩ made = some ⟨after, later⟩

theorem MakesCalls.trans {before middle after : Link} (first : MakesCalls before middle)
    (second : MakesCalls middle after) :
    MakesCalls before after := by
  intro accepted
  obtain ⟨made, between, executed⟩ := first accepted
  obtain ⟨further, later, continued⟩ := second between
  refine ⟨made ++ further, later, ?_⟩
  rw [calls.run_append, executed]
  exact continued

private theorem leads_silent {before after : Link} (silent : Silent before after) : MakesCalls before after := by
  intro accepted
  refine ⟨[.other after.life after.tally], accepted, ?_⟩
  have same : after = { before with life := after.life, tally := after.tally } := by
    obtain ⟨life, pendingWriteBytes, lastTxMs, sends, writes, queued, tally⟩ := after
    obtain ⟨rfl, rfl, rfl, rfl, rfl, _⟩ := silent
    rfl
  have stays : (before.life.closed && !after.life.closed) = false := by
    cases closed : before.life.closed with
    | false => rfl
    | true => rw [silent.closed closed]; rfl
  rw [calls.run_singleton]
  simp only [calls, stays, Bool.false_eq_true, if_false]
  rw [← same]

private theorem leads_speaks {env : Env} {before after : Link} {frames : List Sent}
    (speaks : Speaks env before frames after) :
    MakesCalls before after := by
  induction speaks with
  | silent silent => exact leads_silent silent
  | send link type reqId payload =>
    intro accepted
    have stepped : calls.step ⟨link, accepted⟩ (.send type.code reqId payload env) = some ⟨_, _⟩ :=
      if_neg (code_ne_zero type)
    exact ⟨_, _, (calls.run_singleton _ _).trans stepped⟩
  | trans _ _ first later => exact first.trans later

private theorem leads_step {world next : World} {input : Event × Env} (stepped : agent.step world input = some next) :
    MakesCalls world.link next.link := by
  obtain ⟨event, env⟩ := input
  obtain ⟨allowed, rfl⟩ := agent_step stepped
  by_cases written : ∃ write, event = .written write
  · obtain ⟨write, rfl⟩ := written
    intro accepted
    have member : write ∈ world.link.writes := by
      simp only [enabled, Bool.and_eq_true, List.contains_iff_mem] at allowed
      exact allowed.1
    refine ⟨[.written write], accepted, ?_⟩
    rw [calls.run_singleton]
    simp only [calls, member, if_true]
    rfl
  · obtain ⟨_, speaks, _⟩ := callback_speech env world (not_exists.mp written)
    exact leads_speaks speaks

private theorem connected_silent {env : Env} {sessionId : Nat} {counts : Tally} {fs : FileSystem} {engine : Engine}
    {start : World}
    (connected : onNewConnection env sessionId counts fs engine = some start) :
    Silent (sessionInit env sessionId counts).link start.link := by
  have fresh := connected_fresh connected
  exact ⟨fresh.pending, fresh.lastTxMs, fresh.sends, fresh.writes, fresh.queued, fun closed => by cases closed⟩

theorem session_calls {env : Env} {sessionId : Nat} {counts : Tally} {fs : FileSystem} {engine : Engine}
    {start world : World}
    {history : List (Event × Env)} (connected : onNewConnection env sessionId counts fs engine = some start)
    (executed : agent.run start history = some world) :
    ∃ made accepted, calls.run (.start env sessionId counts) made = some ⟨world.link, accepted⟩ := by
  refine @Machine.run_invariant _ _ agent (fun world => MakesCalls (sessionInit env sessionId counts).link world.link) ?_ _ _ _
    (leads_silent (connected_silent connected)) executed []
  intro _ _ _ before stepped
  exact before.trans (leads_step stepped)

end Luagent.Proofs.Outbound
