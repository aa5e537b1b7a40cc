import Luagent.Proofs.Answers
import Luagent.Proofs.Framing
import Luagent.Proofs.KeyValues
import Luagent.Proofs.UploadSoundness

/-! A file on its way from the client to the disk: the frames of `put_file`, cut
into reads in any way, put together again by `read_cb` and handled one after the
other, with other callbacks in between. -/

namespace Luagent.Proofs.PutFile
open Foundation FileSystem Client Stream Framing

section frames
variable {reqId : UInt32} {path data : Bytes}

private theorem flatten_slices (data : Bytes) (count : Nat) :
    ((List.range count).map fun index => (data.drop (index * 4096)).take 4096).flatten = data.take (count * 4096) := by
  induction count with
  | zero => simp
  | succ count ih =>
    rw [List.range_succ, List.map_append, List.flatten_append, ih, Nat.succ_mul, List.take_add]
    simp

theorem flatten_putSlices (data : Bytes) : (putSlices data).flatten = data := by
  rw [putSlices, flatten_slices]
  exact List.take_of_length_le (by omega)

theorem putSlices_short {slice : Bytes} (member : slice ∈ putSlices data) : slice.length ≤ 4096 := by
  obtain ⟨index, _, rfl⟩ := List.mem_map.mp member
  exact List.length_take_le ..

/-- What is asked of a remote path: that it is one line, and that the reply to the
first request fits the agent's buffer. -/
structure SendableFile (reqId : UInt32) (path data : Bytes) : Prop where
  named : path ≠ []
  clean : Clean path
  text : 0 ∉ path
  fits : (beginReply reqId path data.length).length < 256
  small : data.length < 2 ^ 63

theorem putBeginItems_plain (clean : Clean path) : ∀ item ∈ putBeginItems path data, Plain item := by
  intro item member
  simp only [putBeginItems, List.mem_cons, List.not_mem_nil, or_false] at member
  rcases member with rfl | rfl | rfl
  · exact .of_clean (by decide) clean
  · exact .of_clean (by decide) (decimal_clean _)
  · exact .of_clean (by decide) ⟨by decide, by decide⟩

theorem SendableFile.short (sendable : SendableFile reqId path data) : path.length < 256 := by
  have fits := sendable.fits
  simp only [beginReply, List.length_append] at fits
  omega

/-- The agent reads what the client has written. -/
theorem SendableFile.asks (sendable : SendableFile reqId path data) :
    Asks (encodeKv (putBeginItems path data)) path data.length ∧
      kvBoolDefault (encodeKv (putBeginItems path data)) (ascii "overwrite") false = true := by
  have small := sendable.small
  have short := sendable.short
  have plain := @putBeginItems_plain path data sendable.clean
  have found (key value : Bytes) (bound : firstBound (putBeginItems path data) key = some value) (ends : equalsSign ∉ key)
      {size : Nat} (fits : value.length < size) : kvCopy size (encodeKv (putBeginItems path data)) key = some value := by
    rw [kvCopy_encodeKv plain ends, bound]
    simp [Option.filter, fits]
  refine ⟨⟨?_, ?_⟩, ?_⟩
  · refine found _ _ ?_ (by decide) (by omega)
    exact firstBound_cons_bound (by simp [sendable.named])
  · have digits := @decimal_length_le data.length 19 (by decide) (by omega)
    have size := found (ascii "size") (decimal data.length) (by
      rw [putBeginItems, firstBound_skip (by decide)]
      exact firstBound_cons_bound (by simp [decimal_ne_nil])) (by decide) (show _ < 64 by omega)
    rw [kvU64, size]
    exact parseUnsigned_decimal (by omega)
  · have overwrite := found (ascii "overwrite") (ascii "1") (by
      rw [putBeginItems, firstBound_skip (by decide), firstBound_skip (by decide)]
      exact firstBound_cons_bound (by decide)) (by decide) (show _ < 16 by decide)
    rw [kvBoolDefault, overwrite]
    decide

theorem SendableFile.cstr (sendable : SendableFile reqId path data) :
    cstr (encodeKv (putBeginItems path data)) = encodeKv (putBeginItems path data) := by
  apply cstr_of_notMem
  apply notMem_encodeKv (by decide) (by decide)
  intro item member
  simp only [putBeginItems, List.mem_cons, List.not_mem_nil, or_false] at member
  rcases member with rfl | rfl | rfl
  · exact ⟨(by decide : 0 ∉ ascii "path"), sendable.text⟩
  · refine ⟨(by decide : 0 ∉ ascii "size"), fun zero => ?_⟩
    have digit := decimal_digits zero
    revert digit
    decide
  · exact ⟨by decide, by decide⟩

private theorem encodeKv_length (items : List (Bytes × Bytes)) :
    (encodeKv items).length ≤ (items.map fun item => item.1.length + item.2.length + 2).sum := by
  induction items with
  | nil => exact Nat.zero_le _
  | cons item items ih =>
    cases items with
    | nil =>
      simp only [encodeKv_singleton, List.length_append, List.length_cons, List.map_cons, List.map_nil, List.sum_cons,
        List.sum_nil]
      omega
    | cons next items =>
      rw [encodeKv_cons, List.map_cons, List.sum_cons]
      simp only [List.length_append, List.length_cons] at ih ⊢
      omega

theorem SendableFile.frames_short (sendable : SendableFile reqId path data) :
    ∀ sent ∈ putFrames reqId path data, sent.type ≠ 0 ∧ sent.payload.length ≤ 4096 := by
  have short := sendable.short
  have small := sendable.small
  have digits := @decimal_length_le data.length 19 (by decide) (by omega)
  intro sent member
  rcases List.mem_cons.mp member with rfl | member
  · refine ⟨by exact (by decide : FrameType.putBegin.code ≠ 0), ?_⟩
    have bound := encodeKv_length (putBeginItems path data)
    have sizes : (ascii "path").length = 4 ∧ (ascii "size").length = 4 ∧ (ascii "overwrite").length = 9 ∧
        (ascii "1").length = 1 := by decide
    simp only [putBeginItems, List.map_cons, List.map_nil, List.sum_cons, List.sum_nil, sizes] at bound
    simp only [putBeginItems]
    omega
  · rcases List.mem_append.mp member with chunk | last
    · obtain ⟨slice, inside, rfl⟩ := List.mem_map.mp chunk
      exact ⟨by exact (by decide : FrameType.putChunk.code ≠ 0), putSlices_short inside⟩
    · rw [List.mem_singleton.mp last]
      exact ⟨by exact (by decide : FrameType.putEnd.code ≠ 0), Nat.zero_le _⟩

end frames

section reading

/-- A frame as it was sent, from the message it arrived as. -/
def arrived (message : Message) : Sent := ⟨message.type, message.reqId, message.payload⟩

private theorem header_valid {sent : Sent} (known : sent.type ≠ 0) (short : sent.payload.length ≤ 4096) :
    frameValidateHeader ⟨sent.type, 0, sent.reqId, sent.payload.length.toUInt32⟩ = true ∧
      sent.payload.length.toUInt32.toNat = sent.payload.length := by
  have length : sent.payload.length.toUInt32.toNat = sent.payload.length := Nat.mod_eq_of_lt (by omega)
  unfold frameValidateHeader maxFramePayload
  rw [if_neg (by simp only [length]; omega), if_neg (by simpa using known)]
  exact ⟨rfl, length⟩

def frameOf (sent : Sent) (known : sent.type ≠ 0) (short : sent.payload.length ≤ 4096) : Frame :=
  ⟨⟨_, (header_valid known short).1⟩, sent.payload, (header_valid known short).2.symm⟩

private theorem exists_frames {sents : List Sent} (valid : ∀ sent ∈ sents, sent.type ≠ 0 ∧ sent.payload.length ≤ 4096) :
    ∃ frames : List Frame, frames.map Frame.encode = sents.map encodeFrame ∧
      (frames.map Frame.message).map arrived = sents ∧ ∀ frame ∈ frames, frame.payload.length ≤ 4096 := by
  induction sents with
  | nil => exact ⟨[], rfl, rfl, by simp⟩
  | cons sent sents ih =>
    obtain ⟨frames, encoded, messages, short⟩ := ih fun other member => valid other (List.mem_cons_of_mem _ member)
    obtain ⟨known, bounded⟩ := valid sent List.mem_cons_self
    refine ⟨frameOf sent known bounded :: frames, ?_, ?_, ?_⟩
    · rw [List.map_cons, List.map_cons, encoded]
      rfl
    · rw [List.map_cons, List.map_cons, messages]
      rfl
    · intro other member
      rcases List.mem_cons.mp member with rfl | member
      · exact bounded
      · exact short other member

/-- However the stream is cut, the frames of the file are handed on, and the
session is not closed. -/
private theorem file_delivered {reqId : UInt32} {path data : Bytes} (sendable : SendableFile reqId path data) {rx : Receive}
    (cap : rx.cap = readChunk * 4) (empty : rx.content = []) {reads : List Bytes}
    (sized : ∀ read ∈ reads, 1 ≤ read.length ∧ read.length ≤ readChunk)
    (cut : reads.flatten = ((putFrames reqId path data).map encodeFrame).flatten) :
    (dispatched (deliver rx (reads.map .data)).2).map arrived = putFrames reqId path data ∧
      (deliver rx (reads.map .data)).2.any Action.closes = false := by
  obtain ⟨frames, encoded, messages, short⟩ := exists_frames sendable.frames_short
  have stream : reads.flatten = frameCodec.encodeAll frames := by
    rw [cut, ← encoded]
    rfl
  have parsed : frameCodec.parse reads.flatten = ⟨frames, [], false⟩ := by
    rw [stream]
    exact frameCodec.parse_encodeAll frames
  have announced : AnnouncedWithin (rx.cap - readChunk + 1) (rx.content ++ reads.flatten) := by
    rw [empty, List.nil_append, stream, cap]
    refine announced_encodeAll fun frame member => ?_
    have := short frame member
    have size : frame.encode.length = frameHeaderSize + frame.payload.length := by simp [Frame.encode]
    rw [size]
    unfold frameHeaderSize readChunk
    omega
  have fits := announced_fits rx.cap readChunk (by rw [cap]; decide) rx.content reads (fun read member => (sized read member).2)
    (by rw [empty]; exact frameCodec.empty) announced
  have filled : ∀ read ∈ reads, read ≠ [] := by
    rintro _ member rfl
    exact absurd (sized [] member).1 (by decide)
  obtain ⟨handed, -, closes, -⟩ := deliver_feed rx reads filled fits
  obtain ⟨items, rejected, -⟩ := frameCodec.feed_parse [] reads frameCodec.empty
  rw [List.nil_append, parsed] at items rejected
  rw [empty] at handed closes
  rw [handed, closes, items, rejected]
  exact ⟨messages, rfl⟩

end reading

/-- The session is in use. -/
structure Open (life : Life) : Prop where
  live : life.closed = false
  tcp : life.tcp.phase = .open

/-- What a callback has to leave to the file, and what the calls made for a frame
of the file return. -/
structure PutUndisturbed (path : Path) (world : World) (input : Upload.Input) : Prop where
  happens : (∀ action, input.1 ≠ .read action) → enabled world input.1 = true
  stays : (∀ action, input.1 ≠ .read action) → Open (callback input.2 world input.1).link.life
  timely : input.1 = .tick → transferStalled world.upload input.2.now = false
  inUse : ∀ name, input.1 = .closed name → 1 < world.link.life.closeRefs
  copies : input.2.alloc .payloadCopy = true ∧ input.2.alloc .transferPath = true ∧ input.2.alloc .transferTmpPath = true
  answers : ∀ message, input.1 = .read (.dispatch message) → CanSend input.2 world.link 255
  opens : 0 ≤ input.2.fsOpen
  writes : ∀ count : Nat, (count : Int) ≤ input.2.fsWrite count
  closes : 0 ≤ input.2.fsClose
  /-- the old file, if there is one, can be removed -/
  clears : 0 ≤ input.2.fsUnlink path ∨ world.fs.names path = none
  moves : 0 ≤ input.2.fsRename

section handlers
variable {env : Env} {world : World} {reqId : UInt32} {path data : Bytes}

private theorem sendAck {link : Link} {text : Bytes} (short : text.length < 256) (can : CanSend env link 255)
    (reqId : UInt32) :
    Queues link ⟨FrameType.ack.code, reqId, text⟩ (sessionSendText env link .ack reqId text).1 := by
  refine sendFrame_queues reqId (by decide) (by unfold maxFramePayload; omega) ⟨can.live, ?_, can.request, can.buffer, can.accepted⟩
  have := can.room
  omega

structure PutBegun (env : Env) (world : World) (reqId : UInt32) (path data : Bytes) (after : World) : Prop where
  upload : after.upload = openedUpload env reqId (encodeKv (putBeginItems path data)) path data.length world.fs.nextFd
  fs : after.fs = world.fs.create (partPath path)
  download : after.download = world.download
  reply : Queues world.link ⟨FrameType.ack.code, reqId, beginReply reqId path data.length⟩ after.link

private theorem putBegin_works (sendable : SendableFile reqId path data) (idle : world.upload = transferInit)
    (copies : env.alloc .transferPath = true ∧ env.alloc .transferTmpPath = true) (opens : 0 ≤ env.fsOpen)
    (can : CanSend env world.link 255) :
    PutBegun env world reqId path data
      (transferHandlePutBegin env world reqId (encodeKv (putBeginItems path data))).1 := by
  obtain ⟨asks, overwrite⟩ := sendable.asks
  have queues := @sendAck env (diagCountTransferStart world.link) _ sendable.fits
    (can.counted _) reqId
  have ending := putBegin_ending env world reqId (encodeKv (putBeginItems path data))
  generalize transferHandlePutBegin env world reqId (encodeKv (putBeginItems path data)) = result at ending ⊢
  cases ending with
  | busy active =>
    rw [idle] at active
    cases active
  | missing _ missing => exact absurd asks (missing _ _)
  | unnamed _ _ memory => exact absurd copies memory
  | uncreated _ _ _ failed => omega
  | overflowed _ again _ _ long =>
    obtain ⟨rfl, rfl⟩ := asks.unique again
    exact absurd sendable.fits (Nat.not_lt.mpr long)
  | begun _ again =>
    obtain ⟨rfl, rfl⟩ := asks.unique again
    exact ⟨rfl, rfl, rfl, ⟨queues.life, queues.sends, queues.pending, queues.queued⟩⟩

private theorem putChunk_works {fd file : Nat} {payload : Bytes} (uploading : Uploading world path fd file)
    (request : world.upload.reqId = reqId)
    (within : (world.upload.offset + payload.length) % 2 ^ 64 ≤ world.upload.totalSize)
    (writes : ∀ count : Nat, (count : Int) ≤ env.fsWrite count) :
    transferHandlePutChunk env world reqId payload =
      ({ world with
        fs := world.fs.pwrite fd world.upload.offset payload
        upload := { world.upload with
          offset := (world.upload.offset + payload.length) % 2 ^ 64, lastProgressMs := env.now } }, true) := by
  have accepted : uploadRefusal world.upload reqId = none := by
    simp [uploadRefusal, uploading.active, uploading.mode, request]
  have enough := writes payload.length
  have wrote : chunkWrite env world payload = (world.fs.pwrite fd world.upload.offset payload, (payload.length : Int)) := by
    have whole : payload.take (env.fsWrite payload.length).toNat = payload := List.take_of_length_le (by omega)
    simp only [chunkWrite, uploading.descriptor, Option.getD_some, uvFsWrite, uploading.described, whole, Option.isNone_some,
      Bool.false_eq_true, if_false]
    rw [if_neg (by omega)]
  have ending := putChunk_ending env world reqId payload
  generalize transferHandlePutChunk env world reqId payload = result at ending ⊢
  cases ending with
  | refused refusal =>
    rw [accepted] at refusal
    cases refusal
  | exceeding _ exceeds => omega
  | unwritten _ _ short =>
    rw [wrote] at short
    simp only [Int.toNat_natCast] at short
    omega
  | stored => rw [wrote]

end handlers

section others
variable {env : Env} {world : World} {event : Event}

private theorem close_leaves {name : SessionHandle} (inUse : 1 < world.link.life.closeRefs) :
    LeavesFiles world (closeCb env world name) := by
  have ending := closeCb_ending env world name
  generalize closeCb env world name = next at ending ⊢
  cases ending with
  | plain _ shut | dropped _ shut =>
    cases shut
    exact ⟨rfl, rfl, .refl _⟩
  | released _ _ _ last => omega

private theorem other_leaves (other : ∀ action, event ≠ .read action) (idle : world.download = transferInit)
    (timely : event = .tick → transferStalled world.upload env.now = false)
    (inUse : ∀ name, event = .closed name → 1 < world.link.life.closeRefs) :
    LeavesFiles world (callback env world event) := by
  cases event with
  | read action => exact absurd rfl (other action)
  | tick => exact tick_leaves idle (timely rfl)
  | written | exited | output | ended => exact ⟨rfl, rfl, .refl _⟩
  | closed name => exact close_leaves (inUse name rfl)

private theorem other_unanswered (other : ∀ action, event ≠ .read action) (idle : world.download = transferInit)
    (timely : event = .tick → transferStalled world.upload env.now = false) :
    ∃ frames, (callback env world event).link.queued = world.link.queued ++ frames ∧ frames.filter isAnswer = [] := by
  by_cases written : ∃ write, event = .written write
  · obtain ⟨write, rfl⟩ := written
    exact ⟨[], (List.append_nil _).symm, rfl⟩
  · obtain ⟨frames, speaks, spoken⟩ := callback_speech env world fun write same => written ⟨write, same⟩
    refine ⟨frames, speaks.queued, List.filter_eq_nil_iff.mpr fun frame member answer => ?_⟩
    cases spoken frame member with
    | served => exact other _ rfl
    | unlabelled => exact other _ rfl
    | ping => cases answer
    | stalled slot stalled =>
      rcases slot with rfl | rfl
      · rw [timely rfl] at stalled
        cases stalled
      · rw [idle] at stalled
        cases stalled
    | exit => cases answer
    | output pipe => cases pipe <;> cases answer

end others

def Answered (before : Link) (answers : List Sent) (link : Link) : Prop :=
  ∃ said, link.queued = before.queued ++ said ∧ said.filter isAnswer = answers

theorem Answered.more {before middle after : Link} {answers frames : List Sent} (answered : Answered before answers middle)
    (queued : after.queued = middle.queued ++ frames) : Answered before (answers ++ frames.filter isAnswer) after := by
  obtain ⟨said, earlier, rfl⟩ := answered
  exact ⟨said ++ frames, by rw [queued, earlier, List.append_assoc], List.filter_append ..⟩

def beginAck (reqId : UInt32) (path data : Bytes) : Sent := ⟨FrameType.ack.code, reqId, beginReply reqId path data.length⟩

def endAck (reqId : UInt32) (path data : Bytes) : Sent := ⟨FrameType.ack.code, reqId, putEndReply path data.length⟩

/-- How far the file has come, with the frames that are still to be handled. -/
inductive Stage (reqId : UInt32) (path data : Bytes) (before : Link) : List Sent → World → Prop where
  | waiting {world : World} (upload : world.upload = transferInit) (answered : Answered before [] world.link) :
      Stage reqId path data before (putFrames reqId path data) world
  | sending {world : World} (fd file : Nat) (received : Bytes) (rest : List Bytes) (uploading : Uploading world path fd file)
      (stored : Stored world file received) (request : world.upload.reqId = reqId)
      (size : world.upload.totalSize = data.length) (overwrite : world.upload.overwrite = true)
      (parts : received ++ rest.flatten = data) (short : ∀ slice ∈ rest, slice.length ≤ 4096)
      (answered : Answered before [beginAck reqId path data] world.link) :
      Stage reqId path data before (rest.map (putChunkFrame reqId) ++ [putEndFrame reqId]) world
  | done {world : World} (upload : world.upload = transferInit) (content : world.fs.read path = some data)
      (tidy : world.fs.names (partPath path) = none)
      (answered : Answered before [beginAck reqId path data, endAck reqId path data] world.link) :
      Stage reqId path data before [] world

section stages
variable {reqId : UInt32} {path data : Bytes} {before : Link} {remaining later : List Sent} {world next : World}

/-- A callback that leaves the file alone. -/
theorem Stage.quiet (stage : Stage reqId path data before remaining world) (leaves : LeavesFiles world next)
    {frames : List Sent} (queued : next.link.queued = world.link.queued ++ frames) (silent : frames.filter isAnswer = []) :
    Stage reqId path data before remaining next := by
  have said {answers : List Sent} (answered : Answered before answers world.link) : Answered before answers next.link := by
    have more := answered.more queued
    rwa [silent, List.append_nil] at more
  cases stage with
  | waiting upload answered => exact .waiting (leaves.upload.trans upload) (said answered)
  | sending fd file received rest uploading stored request size overwrite parts short answered =>
    refine .sending fd file received rest (uploading.preserved leaves.upload leaves.fs) (stored.preserved leaves.upload leaves.fs)
      ?_ ?_ ?_ parts short (said answered) <;> rw [leaves.upload] <;> assumption
  | done upload content tidy answered =>
    refine .done (leaves.upload.trans upload) ?_ ?_ (said answered)
    · rw [FileSystem.read, leaves.fs.names, leaves.fs.data]
      exact content
    · rw [leaves.fs.names]
      exact tidy

structure Ready (world : World) : Prop where
  download : world.download = transferInit
  isOpen : Open world.link.life

abbrev handle (env : Env) (world : World) (message : Message) : World :=
  (protocolHandleControl env (world.countFrame message) message).1

variable {env : Env} {message : Message}

private theorem begin_stage (sendable : SendableFile reqId path data) (ready : Ready world)
    (upload : world.upload = transferInit)
    (answered : Answered before [] world.link)
    (undisturbed : PutUndisturbed path world (.read (.dispatch message), env))
    (frame : arrived message = ⟨FrameType.putBegin.code, reqId, encodeKv (putBeginItems path data)⟩) :
    Ready (handle env world message) ∧ Stage reqId path data before
      ((putSlices data).map (putChunkFrame reqId) ++ [putEndFrame reqId]) (handle env world message) := by
  obtain ⟨type, rfl, payload⟩ : message.type = FrameType.putBegin.code ∧ message.reqId = reqId ∧
      message.payload = encodeKv (putBeginItems path data) := by simpa [arrived] using frame
  have can := undisturbed.answers message rfl
  have copied : env.alloc .payloadCopy = true := undisturbed.copies.1
  have handled : protocolHandleControl env (world.countFrame message) message =
      transferHandlePutBegin env (world.countFrame message) message.reqId (encodeKv (putBeginItems path data)) := by
    rw [control_text type (by decide) (by decide), if_pos copied, payload, sendable.cstr]
    rfl
  have begun := @putBegin_works env (world.countFrame message) message.reqId path data sendable upload undisturbed.copies.2
    undisturbed.opens (can.counted _)
  rw [← handled] at begun
  obtain ⟨asks, overwrite⟩ := sendable.asks
  obtain ⟨uploading, stored⟩ := uploading_of_opened asks sendable.fits begun.upload begun.fs
  refine ⟨⟨begun.download.trans ready.download, ?_⟩, .sending _ _ [] (putSlices data) uploading stored ?_ ?_ ?_ ?_ ?_ ?_⟩
  · rw [begun.reply.life]
    exact ready.isOpen
  · rw [begun.upload]
    rfl
  · rw [begun.upload]
    rfl
  · rw [begun.upload]
    exact overwrite
  · exact flatten_putSlices data
  · exact fun slice => putSlices_short
  · exact answered.more begun.reply.queued

private theorem chunk_stage (sendable : SendableFile reqId path data) (ready : Ready world) {fd file : Nat}
    {received slice : Bytes}
    {rest : List Bytes} (uploading : Uploading world path fd file) (stored : Stored world file received)
    (request : world.upload.reqId = reqId) (size : world.upload.totalSize = data.length)
    (overwrite : world.upload.overwrite = true) (parts : received ++ (slice :: rest).flatten = data)
    (short : ∀ other ∈ slice :: rest, other.length ≤ 4096)
    (answered : Answered before [beginAck reqId path data] world.link)
    (undisturbed : PutUndisturbed path world (.read (.dispatch message), env))
    (frame : arrived message = putChunkFrame reqId slice) :
    Ready (handle env world message) ∧ Stage reqId path data before
      (rest.map (putChunkFrame reqId) ++ [putEndFrame reqId]) (handle env world message) := by
  obtain ⟨type, rfl, rfl⟩ : message.type = FrameType.putChunk.code ∧ message.reqId = reqId ∧ message.payload = slice := by
    simpa [arrived, putChunkFrame] using frame
  have small := sendable.small
  have offset := stored.offset
  have fitting : received.length + message.payload.length ≤ data.length := by
    rw [← parts]
    simp
  have within : (world.upload.offset + message.payload.length) % 2 ^ 64 ≤ world.upload.totalSize := by
    rw [offset, size, Nat.mod_eq_of_lt (by omega)]
    exact fitting
  have handled := @putChunk_works env (world.countFrame message) message.reqId path fd file message.payload
    (uploading.counted message) request within undisturbed.writes
  rw [← control_chunk type] at handled
  have after : ∀ next, next = handle env world message → Ready next ∧ Stage message.reqId path data before
      (rest.map (putChunkFrame message.reqId) ++ [putEndFrame message.reqId]) next := by
    intro next same
    rw [handle, handled] at same
    have upload : next.upload = { world.upload with
        offset := (world.upload.offset + message.payload.length) % 2 ^ 64, lastProgressMs := env.now } := by rw [same]; rfl
    have fs : next.fs = world.fs.pwrite fd world.upload.offset message.payload := by rw [same]; rfl
    have queued : next.link.queued = world.link.queued ++ [] := by rw [same]; exact (List.append_nil _).symm
    refine ⟨⟨?_, ?_⟩, .sending fd file (received ++ message.payload) rest (uploading_of_stored uploading within upload fs)
      (stored_append uploading stored (size ▸ small) message.bounded upload fs) ?_ ?_ ?_ ?_ ?_ ?_⟩
    · rw [same]
      exact ready.download
    · rw [same]
      exact ready.isOpen
    · rw [upload]
      exact request
    · rw [upload]
      exact size
    · rw [upload]
      exact overwrite
    · rw [← parts, List.flatten_cons, List.append_assoc]
    · exact fun other member => short other (List.mem_cons_of_mem _ member)
    · exact answered.more queued
  exact after _ rfl

private theorem cleared_free_target {overwrite : Bool} (asked : overwrite = true) {fs : FileSystem}
    (clears : 0 ≤ env.fsUnlink path ∨ fs.names path = none) : (cleared env fs overwrite path).names path = none := by
  unfold cleared uvFsUnlink
  rw [if_pos asked]
  rcases clears with works | absent
  · rw [if_neg (by omega)]
    simp
  · split
    · exact absent
    · simp

private theorem end_stage (ready : Ready world) {fd file : Nat} (uploading : Uploading world path fd file)
    (stored : Stored world file data) (request : world.upload.reqId = reqId) (size : world.upload.totalSize = data.length)
    (overwrite : world.upload.overwrite = true) (answered : Answered before [beginAck reqId path data] world.link)
    (undisturbed : PutUndisturbed path world (.read (.dispatch message), env))
    (frame : arrived message = putEndFrame reqId) :
    Ready (handle env world message) ∧ Stage reqId path data before [] (handle env world message) := by
  obtain ⟨type, rfl, _⟩ : message.type = FrameType.putEnd.code ∧ message.reqId = reqId ∧ message.payload = [] := by
    simpa [arrived, putEndFrame] using frame
  have counted := uploading.counted message
  have can := undisturbed.answers message rfl
  have download := (putEnd_only env (world.countFrame message) message.reqId).download
  have effect := putEnd_effect env counted message.reqId
  rw [← control_end type] at download effect
  cases effect with
  | refused other => exact absurd request other
  | dropped _ early =>
    rcases early with incomplete | unclosed
    · exact absurd (stored.offset.trans size.symm) incomplete
    · exact absurd undisturbed.closes (Int.not_le.mpr unclosed)
  | unmoved _ _ _ failed => exact absurd undisturbed.moves (Int.not_le.mpr failed)
  | finished _ _ _ _ _ upload fs reply =>
    have short : (putEndReply path world.upload.totalSize).length < 256 :=
      Nat.lt_of_le_of_lt (putEndReply_length _ path _) uploading.fits
    have queues := @sendAck env (world.countFrame message).link _ short
      (can.counted _) message.reqId
    have free := @cleared_free_target path env _ overwrite (world.fs.close fd) (by
      rw [close_names]
      exact undisturbed.clears)
    have part : (cleared env (world.fs.close fd) world.upload.overwrite path).names (partPath path) = some file := by
      rw [cleared_names_of_ne env _ _ (partPath_ne path).symm, close_names, uploading.named]
    have life : (handle env world message).link.life = world.link.life := by
      rw [handle, reply]
      exact queues.life
    have queued : (handle env world message).link.queued = world.link.queued ++ [endAck message.reqId path data] := by
      rw [handle, reply]
      refine queues.queued.trans ?_
      rw [size]
      rfl
    have moved : (handle env world message).fs =
        (cleared env (world.fs.close fd) world.upload.overwrite path).rename (partPath path) path := fs
    refine ⟨⟨download.trans ready.download, life ▸ ready.isOpen⟩, .done upload ?_ ?_ (answered.more queued)⟩
    · rw [moved]
      exact (uploading.read_renamed env _).trans (congrArg some stored.content)
    · rw [moved]
      exact rename_names_source _ part (by rw [free]; simp) (partPath_ne path).symm

private theorem frame_stage (sendable : SendableFile reqId path data) (ready : Ready world)
    (stage : Stage reqId path data before (arrived message :: later) world)
    (undisturbed : PutUndisturbed path world (.read (.dispatch message), env)) :
    Ready (handle env world message) ∧ Stage reqId path data before later (handle env world message) := by
  generalize shape : arrived message :: later = remaining at stage
  cases stage with
  | waiting upload answered =>
    obtain ⟨frame, rfl⟩ := List.cons.inj shape
    exact begin_stage sendable ready upload answered undisturbed frame
  | sending fd file received rest uploading stored request size overwrite parts short answered =>
    cases rest with
    | nil =>
      obtain ⟨frame, rfl⟩ := List.cons.inj shape
      rw [List.flatten_nil, List.append_nil] at parts
      subst parts
      exact end_stage ready uploading stored request size overwrite answered undisturbed frame
    | cons slice rest =>
      obtain ⟨frame, rfl⟩ := List.cons.inj shape
      exact chunk_stage sendable ready uploading stored request size overwrite parts short answered undisturbed frame
  | done => cases shape

def handles : Event → List Sent
  | .read (.dispatch message) => [arrived message]
  | _ => []

private theorem callback_stage {event : Event} (sendable : SendableFile reqId path data) (ready : Ready world)
    (stage : Stage reqId path data before (handles event ++ later) world) (undisturbed : PutUndisturbed path world (event, env))
    (harmless : ∀ action, event = .read action → action.closes = false) :
    enabled world event = true ∧ Ready (callback env world event) ∧
      Stage reqId path data before later (callback env world event) := by
  have listening : (world.link.life.tcp.phase == .open) = true := by rw [ready.isOpen.tcp]; rfl
  by_cases other : ∀ action, event ≠ .read action
  · have unhandled : handles event ++ later = later := by
      cases event with
      | read action => exact absurd rfl (other action)
      | _ => rfl
    rw [unhandled] at stage
    have leaves := other_leaves other ready.download undisturbed.timely undisturbed.inUse
    obtain ⟨frames, queued, silent⟩ := other_unanswered other ready.download undisturbed.timely
    exact ⟨undisturbed.happens other, ⟨leaves.download.trans ready.download, undisturbed.stays other⟩,
      stage.quiet leaves queued silent⟩
  · obtain ⟨action, rfl⟩ : ∃ action, event = .read action := by simpa using other
    cases action with
    | received => exact ⟨listening, ⟨ready.download, ready.isOpen⟩, stage.quiet ⟨rfl, rfl, .refl _⟩ (List.append_nil _).symm rfl⟩
    | dispatch message => exact ⟨by simp [enabled, listening], frame_stage sendable ready stage undisturbed⟩
    | badHeader | overflow | hangup => cases harmless _ rfl

private theorem run_stage {inputs : List Upload.Input} (sendable : SendableFile reqId path data) (ready : Ready world)
    (stage : Stage reqId path data before (inputs.flatMap fun input => handles input.1) world)
    (undisturbed : agent.Conforms (PutUndisturbed path) world inputs)
    (harmless : ∀ input ∈ inputs, ∀ action, input.1 = .read action → action.closes = false) :
    ∃ final, agent.run world inputs = some final ∧ Stage reqId path data before [] final := by
  induction inputs generalizing world with
  | nil => exact ⟨world, rfl, stage⟩
  | cons input inputs ih =>
    obtain ⟨allowed, ready, stage⟩ := callback_stage sendable ready stage undisturbed.1 (harmless input List.mem_cons_self)
    obtain ⟨next, stepped⟩ : ∃ next, agent.step world input = some next := ⟨_, if_pos allowed⟩
    have shape := (agent_step stepped).2
    have same : LeavesFiles (callback input.2 world input.1) next := by
      rw [shape]
      exact ⟨rfl, rfl, .refl _⟩
    have link : next.link = (callback input.2 world input.1).link := by rw [shape]
    have queued : next.link.queued = (callback input.2 world input.1).link.queued ++ [] := by rw [link, List.append_nil]
    obtain ⟨final, executed, last⟩ := ih ⟨same.download.trans ready.download, link ▸ ready.isOpen⟩
      (stage.quiet same queued rfl) (undisturbed.2 next stepped)
      fun other member => harmless other (List.mem_cons_of_mem _ member)
    exact ⟨final, by simp only [Machine.run, stepped, Option.bind_some, executed], last⟩

end stages

/-- What `read_cb` does in a run, callback by callback. -/
def readAction (input : Upload.Input) : Option Action :=
  match input.1 with
  | .read action => some action
  | _ => none

private theorem handles_dispatched (inputs : List Upload.Input) :
    inputs.flatMap (fun input => handles input.1) = (dispatched (inputs.filterMap readAction)).map arrived := by
  induction inputs with
  | nil => rfl
  | cons input inputs ih =>
    obtain ⟨event, env⟩ := input
    rw [List.flatMap_cons, ih]
    cases event with
    | read action => cases action <;> rfl
    | _ => rfl

/-- The file is at its place and its temporary name is gone; the client got the two
acknowledgements, the last one with the number of bytes, and no other answer. -/
structure Uploaded (reqId : UInt32) (path data : Bytes) (before after : World) : Prop where
  content : after.fs.read path = some data
  tidy : after.fs.names (partPath path) = none
  answers : Answers.answersSince before.link after.link =
    [⟨FrameType.ack.code, reqId, beginReply reqId path data.length⟩,
      ⟨FrameType.ack.code, reqId, putEndReply path data.length⟩]

/-- A file that is sent to a session without an upload arrives. -/
theorem put_file_uploads {connectEnv : Env} {sessionId : Nat} {counts : Tally} {fs : FileSystem} {engine : Engine}
    {start world : World} {history inputs : List Upload.Input} {rx : Receive} {reads : List Bytes}
    {reqId : UInt32} {path data : Bytes}
    (connected : onNewConnection connectEnv sessionId counts fs engine = some start)
    (reached : agent.run start history = some world)
    (idle : world.upload.active = false) (isOpen : Open world.link.life)
    (cap : rx.cap = readChunk * 4) (empty : rx.content = [])
    (sendable : SendableFile reqId path data)
    (sized : ∀ read ∈ reads, 1 ≤ read.length ∧ read.length ≤ readChunk)
    (cut : reads.flatten = ((putFrames reqId path data).map encodeFrame).flatten)
    (performed : inputs.filterMap readAction = (deliver rx (reads.map .data)).2)
    (undisturbed : agent.Conforms (PutUndisturbed path) world inputs) :
    ∃ final, agent.run world inputs = some final ∧ Uploaded reqId path data world final := by
  have tracked := Upload.run_tracked connected reached
  have upload : world.upload = transferInit := by
    rcases tracked.upload with idle | ⟨path, fd, file, received, progress⟩
    · exact idle
    · rw [progress.uploading.active] at idle
      cases idle
  obtain ⟨frames, unclosed⟩ := file_delivered sendable cap empty sized cut
  have handled : (inputs.flatMap fun input => handles input.1) = putFrames reqId path data := by
    rw [handles_dispatched, performed, frames]
  have harmless : ∀ input ∈ inputs, ∀ action, input.1 = .read action → action.closes = false := by
    intro input member action isRead
    have inside : action ∈ inputs.filterMap readAction :=
      List.mem_filterMap.mpr ⟨input, member, by simp [readAction, isRead]⟩
    rw [performed] at inside
    exact eq_false_of_ne_true fun closes => by
      rw [List.any_eq_true.mpr ⟨action, inside, closes⟩] at unclosed
      cases unclosed
  have waiting : Stage reqId path data world.link (inputs.flatMap fun input => handles input.1) world := by
    rw [handled]
    exact .waiting upload ⟨[], (List.append_nil _).symm, rfl⟩
  obtain ⟨final, executed, stage⟩ := run_stage sendable ⟨tracked.download, isOpen⟩ waiting undisturbed harmless
  refine ⟨final, executed, ?_⟩
  generalize last : ([] : List Sent) = remaining at stage
  cases stage with
  | waiting => cases last
  | sending _ _ _ rest => simp at last
  | done _ content tidy answered =>
    obtain ⟨said, queued, answers⟩ := answered
    refine ⟨content, tidy, ?_⟩
    rw [Answers.answersSince, framesSince, queued, List.drop_left]
    exact answers

/-- Two bytes for the file `a`, in one read. -/
def hiFrames : List Frame :=
  [frameOf ⟨FrameType.putBegin.code, 1000, encodeKv (putBeginItems (ascii "a") (ascii "hi"))⟩ (by decide) (by decide),
    frameOf (putChunkFrame 1000 (ascii "hi")) (by decide) (by decide), frameOf (putEndFrame 1000) (by decide) (by decide)]

def hiStream : Bytes := ((putFrames 1000 (ascii "a") (ascii "hi")).map encodeFrame).flatten

def hiInputs : List Upload.Input :=
  (.read .received, {}) :: hiFrames.map fun frame => (.read (.dispatch frame.message), {})

def emptyBuffer : Receive := .fresh (List.replicate (readChunk * 4) 0) List.length_replicate

private theorem hi_performed : hiInputs.filterMap readAction = (deliver emptyBuffer ([hiStream].map .data)).2 := by
  have parsed : frameCodec.parse (emptyBuffer.content ++ hiStream) = ⟨hiFrames, [], false⟩ := by
    have stream : emptyBuffer.content ++ hiStream = frameCodec.encodeAll hiFrames := by decide
    rw [stream]
    exact frameCodec.parse_encodeAll hiFrames
  rw [deliver_cons emptyBuffer hiStream [] (by decide) (by decide), parsed]
  rfl

private theorem undisturbed_read {world : World} {action : Action} (live : world.link.life.closed = false)
    (room : world.link.pendingWriteBytes + 269 ≤ maxWriteQueueBytes) :
    PutUndisturbed (ascii "a") world (.read action, {}) where
  happens other := absurd rfl (other action)
  stays other := absurd rfl (other action)
  timely isTick := by cases isTick
  inUse name isClosed := by cases isClosed
  copies := ⟨rfl, rfl, rfl⟩
  answers message _ := ⟨live, by unfold frameHeaderSize; omega, rfl, rfl, rfl⟩
  opens := Int.le_refl 0
  writes count := Int.le_refl count
  closes := Int.le_refl 0
  clears := .inl (Int.le_refl 0)
  moves := Int.le_refl 0

theorem put_file_uploads_hi : ∃ final, agent.run Upload.freshSession hiInputs = some final ∧
    Uploaded 1000 (ascii "a") (ascii "hi") Upload.freshSession final := by
  refine @put_file_uploads {} 1 {} .empty portfwdEngineInit Upload.freshSession _ [] hiInputs emptyBuffer [hiStream] 1000
    (ascii "a") (ascii "hi") (Option.some_get (by decide)).symm rfl (by decide) ⟨by decide, by decide⟩ rfl rfl
    ⟨by decide, ⟨by decide, by decide⟩, by decide, by decide, by decide⟩ ?_ (List.append_nil _) hi_performed ?_
  · intro read member
    rw [List.mem_singleton.mp member]
    decide
  · refine agent.conforms_cons (undisturbed_read (by decide) (by decide)) rfl ?_
    refine agent.conforms_cons (undisturbed_read (by decide +kernel) (by decide +kernel))
      (Option.some_get (by decide +kernel)).symm ?_
    refine agent.conforms_cons (undisturbed_read (by decide +kernel) (by decide +kernel))
      (Option.some_get (by decide +kernel)).symm ?_
    exact ⟨undisturbed_read (by decide +kernel) (by decide +kernel), fun _ _ => trivial⟩

end Luagent.Proofs.PutFile
