import Luagent.Proofs.UploadFinalise

/-! Downloads. The handler reads the whole file and queues every frame of the
reply before it returns, so the reply must fit into the write queue at once. -/

namespace Luagent.Proofs.Download
open Foundation FileSystem

/-- The calls a send makes succeed. -/
def Accepts (env : Env) (send : Nat) : Prop :=
  env.alloc (.writeReq send) = true ∧ env.alloc (.writeBuf send) = true ∧ env.uvWrite send = 0

def queueCost (lengths : List Nat) : Nat := (lengths.map (frameHeaderSize + ·)).sum

private theorem queueCost_cons (length : Nat) (rest : List Nat) :
    queueCost (length :: rest) = frameHeaderSize + length + queueCost rest := rfl

private theorem queueCost_eq (lengths : List Nat) : queueCost lengths = lengths.sum + frameHeaderSize * lengths.length := by
  induction lengths with
  | nil => rfl
  | cons length rest ih =>
    rw [queueCost_cons, ih, List.sum_cons, List.length_cons, Nat.mul_succ]
    omega

structure CanSendAll (env : Env) (link : Link) (lengths : List Nat) : Prop where
  live : link.life.closed = false
  accepts : ∀ index < lengths.length, Accepts env (link.sends + index)
  room : link.pendingWriteBytes + queueCost lengths ≤ maxWriteQueueBytes

theorem CanSendAll.head {env : Env} {link : Link} {length : Nat} {rest : List Nat}
    (can : CanSendAll env link (length :: rest)) : CanSend env link length := by
  obtain ⟨request, buffer, accepted⟩ := can.accepts 0 (Nat.succ_pos _)
  have room := can.room
  rw [queueCost_cons] at room
  exact ⟨can.live, by omega, request, buffer, accepted⟩

theorem CanSendAll.nil {env : Env} {link next : Link} {frame : Sent} (can : CanSend env link frame.payload.length)
    (queues : Queues link frame next) : CanSendAll env next [] where
  live := by rw [queues.life]; exact can.live
  accepts := by simp
  room := by
    have pending := queues.pending
    have room := can.room
    simpa [queueCost, pending] using room

private theorem canSendAll_cons {env : Env} {link next : Link} {frame : Sent} {rest : List Nat}
    (can : CanSend env link frame.payload.length) (queues : Queues link frame next) :
    CanSendAll env link (frame.payload.length :: rest) ↔ CanSendAll env next rest := by
  have pending := queues.pending
  have sends := queues.sends
  have cost := queueCost_cons frame.payload.length rest
  constructor
  · rintro ⟨live, accepts, room⟩
    refine ⟨by rw [queues.life]; exact live, fun index inside => ?_, by omega⟩
    rw [sends, Nat.add_assoc, Nat.add_comm 1]
    exact accepts (index + 1) (Nat.succ_lt_succ inside)
  · rintro ⟨live, accepts, room⟩
    refine ⟨by rw [← queues.life]; exact live, fun index inside => ?_, by omega⟩
    cases index with
    | zero => exact ⟨can.request, can.buffer, can.accepted⟩
    | succ index =>
      have later := accepts index (Nat.lt_of_succ_lt_succ inside)
      rw [sends, Nat.add_assoc, Nat.add_comm 1] at later
      exact later

/-- The bytes a read at this offset of the download loop returns. -/
def chunkAt (env : Env) (content : Bytes) (chunkSize offset : Nat) : Bytes :=
  let left := content.length - offset
  let toRead := if left < chunkSize then left else chunkSize
  (content.drop offset).take (min toRead (env.fsRead offset toRead).toNat)

/-- The chunks in which a file is read, from an offset on. -/
def readChunks (env : Env) (content : Bytes) (chunkSize offset : Nat) : List Bytes :=
  if _more : offset < content.length then
    if _empty : (chunkAt env content chunkSize offset).length = 0 then []
    else
      chunkAt env content chunkSize offset ::
        readChunks env content chunkSize (offset + (chunkAt env content chunkSize offset).length)
  else []
termination_by content.length - offset
decreasing_by
  omega

/-- Before the end of a file of this size a read returns something, and not more
than it was asked for. -/
def Reads (env : Env) (size : Nat) : Prop := ∀ offset length, 0 < length → offset + length ≤ size →
  1 ≤ env.fsRead offset length ∧ env.fsRead offset length ≤ length

private theorem chunkAt_length_pos {env : Env} {content : Bytes} {chunkSize offset : Nat} (reads : Reads env content.length)
    (positive : 0 < chunkSize) (more : offset < content.length) : 0 < (chunkAt env content chunkSize offset).length := by
  simp only [chunkAt, List.length_take, List.length_drop]
  generalize asked : (if content.length - offset < chunkSize then content.length - offset else chunkSize) = toRead
  have := reads offset toRead (by split at asked <;> omega) (by split at asked <;> omega)
  omega

private theorem chunkAt_length_le (env : Env) (content : Bytes) (chunkSize offset : Nat) :
    (chunkAt env content chunkSize offset).length ≤ chunkSize := by
  simp only [chunkAt, List.length_take]
  split <;> omega

private theorem chunkAt_append (env : Env) (content : Bytes) (chunkSize offset : Nat) :
    chunkAt env content chunkSize offset ++ content.drop (offset + (chunkAt env content chunkSize offset).length) =
      content.drop offset := by
  generalize taken : min (if content.length - offset < chunkSize then content.length - offset else chunkSize)
    (env.fsRead offset (if content.length - offset < chunkSize then content.length - offset else chunkSize)).toNat = count
  have chunk : chunkAt env content chunkSize offset = (content.drop offset).take count := by rw [← taken]; rfl
  rw [chunk, ← List.drop_drop]
  exact List.prefix_iff_eq_append.mp (List.take_prefix count _)

private theorem readChunks_flatten {env : Env} {content : Bytes} {chunkSize : Nat} (reads : Reads env content.length)
    (positive : 0 < chunkSize)
    (offset : Nat) : (readChunks env content chunkSize offset).flatten = content.drop offset := by
  unfold readChunks
  split
  next more =>
    have := chunkAt_length_pos reads positive more
    rw [dif_neg (by omega), List.flatten_cons, readChunks_flatten reads positive, chunkAt_append]
  next done => rw [List.flatten_nil, List.drop_of_length_le (by omega)]
termination_by content.length - offset
decreasing_by
  omega

def endText : Bytes := ascii "status=ok"

def getChunk (reqId : UInt32) (bytes : Bytes) : Sent := ⟨FrameType.getChunk.code, reqId, bytes⟩

def getEnd (reqId : UInt32) : Sent := ⟨FrameType.getEnd.code, reqId, endText⟩

def Unended (before after : Link) : Prop :=
  ∃ frames, after.queued = before.queued ++ frames ∧ ∀ frame ∈ frames, frame.type ≠ FrameType.getEnd.code

namespace Unended
variable {before middle after : Link}

theorem of_same (same : after.queued = before.queued) : Unended before after := ⟨[], by simp [same], by simp⟩

theorem trans (first : Unended before middle) (second : Unended middle after) : Unended before after := by
  obtain ⟨early, earlyQueued, earlyOther⟩ := first
  obtain ⟨late, lateQueued, lateOther⟩ := second
  refine ⟨early ++ late, by rw [lateQueued, earlyQueued, List.append_assoc], fun frame member => ?_⟩
  rcases List.mem_append.mp member with found | found
  · exact earlyOther frame found
  · exact lateOther frame found

theorem of_queues {frame : Sent} (queues : Queues before frame after) (other : frame.type ≠ FrameType.getEnd.code) :
    Unended before after := ⟨[frame], queues.queued, by simpa using other⟩

theorem of_complains (complains : Complains before after) : Unended before after := by
  obtain ⟨frames, queued, errors⟩ := complains
  refine ⟨frames, queued, fun frame member => ?_⟩
  rw [errors frame member]
  decide

theorem of_failed {env : Env} {type : UInt8} {reqId : UInt32} {payload : Bytes}
    (failed : (sessionSendFrame env before type reqId payload).2 = false) :
    Unended before (sessionSendFrame env before type reqId payload).1 := by
  have queued := sendFrame_queued env before type reqId payload
  rw [failed] at queued
  exact of_same (by simpa using queued)

end Unended

/-- What the loop makes of a link: the rest of the reply, or nothing complete. -/
inductive LoopEffect (env : Env) (reqId : UInt32) (chunks : List Bytes) (before after : Link) : Prop where
  | completed (can : CanSendAll env before (chunks.map List.length ++ [endText.length]))
      (life : after.life = before.life)
      (queued : after.queued = before.queued ++ (chunks.map (getChunk reqId) ++ [getEnd reqId]))
  | stopped (cannot : ¬ CanSendAll env before (chunks.map List.length ++ [endText.length]))
      (unended : Unended before after)

/-- The loop reads this file in chunks that fit into a frame. -/
structure Reading (content : Bytes) (fd : Nat) (world : World) : Prop where
  file : world.fs.content fd = content
  total : world.download.totalSize = content.length
  positive : 0 < world.download.chunkSize
  bounded : world.download.chunkSize ≤ maxFramePayload

theorem Reading.read {env : Env} {content : Bytes} {fd : Nat} {world : World} (reads : Reads env content.length)
    (reading : Reading content fd world) (more : world.download.offset < world.download.totalSize) :
    uvFsRead env world.fs fd world.download.offset
      (if world.download.totalSize - world.download.offset < world.download.chunkSize
        then world.download.totalSize - world.download.offset else world.download.chunkSize) =
      .ok (chunkAt env content world.download.chunkSize world.download.offset) := by
  have positive := reading.positive
  have total := reading.total
  simp only [chunkAt, ← total]
  generalize asked : (if world.download.totalSize - world.download.offset < world.download.chunkSize
    then world.download.totalSize - world.download.offset else world.download.chunkSize) = toRead
  have := reads world.download.offset toRead (by split at asked <;> omega) (by split at asked <;> omega)
  rw [uvFsRead, if_neg (by omega), reading.file]

private theorem getLoop_effect {env : Env} {content : Bytes} {fd : Nat} {world : World}
    (reads : Reads env content.length) (reqId : UInt32)
    (reading : Reading content fd world) :
    LoopEffect env reqId (readChunks env content world.download.chunkSize world.download.offset) world.link
      (getLoop env reqId fd world).1.link := by
  unfold getLoop readChunks
  by_cases more : world.download.offset < world.download.totalSize
  case pos =>
    have inside : world.download.offset < content.length := reading.total ▸ more
    have some := chunkAt_length_pos reads reading.positive inside
    have fits := Nat.le_trans (chunkAt_length_le env content world.download.chunkSize world.download.offset) reading.bounded
    have found := reading.read reads more
    rw [dif_pos more, dif_pos inside, dif_neg (by omega)]
    simp only [found]
    generalize chunkAt env content world.download.chunkSize world.download.offset = bytes at *
    rw [dif_neg (by omega)]
    by_cases sent : (sessionSendFrame env world.link FrameType.getChunk.code reqId bytes).2 = true
    case pos =>
      have can := canSend_of_sent reqId sent
      have queues := sendFrame_queues reqId (show FrameType.getChunk.code ≠ 0 by decide) fits can
      simp only [sent, Bool.not_true, Bool.false_eq_true, if_false]
      have rest := @getLoop_effect env content fd { world with
        link := (sessionSendFrame env world.link FrameType.getChunk.code reqId bytes).1
        download := { world.download with
          offset := world.download.offset + bytes.length
          lastProgressMs := env.now } } reads reqId ⟨reading.file, reading.total, reading.positive, reading.bounded⟩
      have whole := @canSendAll_cons env world.link _ _
        ((readChunks env content world.download.chunkSize (world.download.offset + bytes.length)).map List.length ++
          [endText.length]) can queues
      cases rest with
      | completed fitting life queued =>
        refine .completed (whole.mpr fitting) (life.trans queues.life) ?_
        rw [queued, queues.queued, List.append_assoc]
        rfl
      | stopped cannot unended =>
        have another : FrameType.getChunk.code ≠ FrameType.getEnd.code := by decide
        exact .stopped (fun can => cannot (whole.mp can)) ((Unended.of_queues queues another).trans unended)
    case neg =>
      have failed := Bool.eq_false_iff.mpr sent
      simp only [failed, Bool.not_false, if_true]
      refine .stopped (fun can => sent ?_) (.of_failed failed)
      exact sendFrame_sent reqId (show FrameType.getChunk.code ≠ 0 by decide) fits can.head
  case neg =>
    have outside : ¬ world.download.offset < content.length := reading.total ▸ more
    rw [dif_neg more, dif_neg outside]
    by_cases sent : (sessionSendFrame env world.link FrameType.getEnd.code reqId endText).2 = true
    case pos =>
      have can := canSend_of_sent reqId sent
      have queues := sendFrame_queues reqId (show FrameType.getEnd.code ≠ 0 by decide) (by decide) can
      refine .completed ?_ queues.life queues.queued
      exact (canSendAll_cons can queues).mpr (.nil can queues)
    case neg =>
      have failed := Bool.eq_false_iff.mpr sent
      refine .stopped (fun can => sent ?_) (.of_failed failed)
      exact sendFrame_sent reqId (show FrameType.getEnd.code ≠ 0 by decide) (by decide) can.head
termination_by world.download.totalSize - world.download.offset
decreasing_by
  omega

/-- The reply to a download is queued as a whole, and the session stays open. -/
def Delivered (reqId : UInt32) (reply content : Bytes) (before after : Link) : Prop :=
  ∃ chunks : List Bytes, after.queued = before.queued ++
      (⟨FrameType.ack.code, reqId, reply⟩ :: (chunks.map (getChunk reqId) ++ [getEnd reqId])) ∧
    chunks.flatten = content ∧ after.life.closed = false

private theorem delivered_congr {before other : Link} (same : before.queued = other.queued) {reqId : UInt32}
    {reply content : Bytes} {after : Link} :
    Delivered reqId reply content before after ↔ Delivered reqId reply content other after := by
  unfold Delivered
  rw [same]

theorem Unended.not_delivered {before after : Link} (unended : Unended before after) (reqId : UInt32)
    (reply content : Bytes) : ¬ Delivered reqId reply content before after := by
  rintro ⟨chunks, queued, _⟩
  obtain ⟨frames, same, others⟩ := unended
  have frames := List.append_cancel_left (same.symm.trans queued)
  exact others (getEnd reqId) (by simp [frames]) rfl

/-- Memory and the write queue suffice for a reply of this text and these chunks. -/
structure FitsQueue (env : Env) (sends : Nat) (reply content : Bytes) (chunks : List Bytes) : Prop where
  path : env.alloc .transferPath = true
  buffer : env.alloc .chunk = true
  accepts : ∀ index < chunks.length + 2, Accepts env (sends + index)
  room : (frameHeaderSize + reply.length) + (content.length + frameHeaderSize * chunks.length) +
    (frameHeaderSize + endText.length) ≤ maxWriteQueueBytes

private theorem fits_iff {env : Env} {link : Link} {reply content : Bytes} {chunks : List Bytes}
    (live : link.life.closed = false) (empty : link.pendingWriteBytes = 0) (whole : chunks.flatten = content) :
    FitsQueue env link.sends reply content chunks ↔ env.alloc .transferPath = true ∧ env.alloc .chunk = true ∧
      CanSendAll env link (reply.length :: (chunks.map List.length ++ [endText.length])) := by
  have total : (chunks.map List.length).sum = content.length := by rw [← whole, List.length_flatten]
  have cost : queueCost (reply.length :: (chunks.map List.length ++ [endText.length])) =
      (frameHeaderSize + reply.length) + (content.length + frameHeaderSize * chunks.length) +
        (frameHeaderSize + endText.length) := by
    rw [queueCost_cons, queueCost_eq, List.sum_append, total]
    simp only [List.length_append, List.length_map, List.sum_singleton, List.length_singleton, Nat.mul_add]
    omega
  have count : (reply.length :: (chunks.map List.length ++ [endText.length])).length = chunks.length + 2 := by simp
  constructor
  · rintro ⟨path, buffer, accepts, room⟩
    exact ⟨path, buffer, live, count ▸ accepts, by rw [empty, cost]; omega⟩
  · rintro ⟨path, buffer, _, accepts, room⟩
    exact ⟨path, buffer, count ▸ accepts, by rw [empty, cost] at room; omega⟩

theorem downloadChunkSize_pos (requested : Nat) : 0 < downloadChunkSize requested := by
  unfold downloadChunkSize
  split
  · decide
  next inside => simp only [Bool.or_eq_true, decide_eq_true_eq, not_or] at inside; omega

theorem downloadChunkSize_le (requested : Nat) : downloadChunkSize requested ≤ maxFramePayload := by
  unfold downloadChunkSize
  split
  · decide
  next inside => simp only [Bool.or_eq_true, decide_eq_true_eq, not_or] at inside; omega

/-- The chunks in which a request has a file read. -/
def requestedChunks (env : Env) (payload content : Bytes) : List Bytes :=
  readChunks env content (requestedSize payload) 0

/-- A request for a file that can be read. -/
structure ReadableFile (env : Env) (fs : FileSystem) (reqId : UInt32) (payload : Bytes) (path : Path) (content : Bytes) :
    Prop where
  named : kvCopy 512 payload (ascii "path") = some path
  found : fs.read path = some content
  opens : 0 ≤ env.fsOpen
  stats : 0 ≤ env.fsFstat
  reads : Reads env content.length
  short : (beginReply reqId path content.length).length < 256

private theorem loop_delivers_iff {env : Env} {content reply : Bytes} {fd : Nat} {world : World} {link : Link}
    {reqId : UInt32}
    (reads : Reads env content.length) (reading : Reading content fd world) (start : world.download.offset = 0)
    (can : CanSend env link reply.length) (queues : Queues link ⟨FrameType.ack.code, reqId, reply⟩ world.link) :
    Delivered reqId reply content link (getLoop env reqId fd world).1.link ↔
      CanSendAll env link
        (reply.length :: ((readChunks env content world.download.chunkSize 0).map List.length ++ [endText.length])) := by
  have effect := getLoop_effect reads reqId reading
  rw [start] at effect
  rw [canSendAll_cons can queues]
  cases effect with
  | completed rest life queued =>
    refine iff_of_true ⟨_, ?_, readChunks_flatten reads reading.positive 0, ?_⟩ rest
    · rw [queued, queues.queued, List.append_assoc]
      rfl
    · rw [life, queues.life]
      exact can.live
  | stopped cannot unended =>
    have acked := Unended.of_queues queues (show FrameType.ack.code ≠ FrameType.getEnd.code by decide)
    exact iff_of_false ((acked.trans unended).not_delivered _ _ _) cannot

private theorem canSendAll_counted {env : Env} {link : Link} {lengths : List Nat} :
    CanSendAll env link lengths ↔ CanSendAll env (diagCountTransferStart link) lengths :=
  ⟨fun can => ⟨can.live, can.accepts, can.room⟩, fun can => ⟨can.live, can.accepts, can.room⟩⟩

theorem ReadableFile.opened {env : Env} {world : World} {reqId : UInt32} {payload content : Bytes} {path other : Path}
    {file found : Nat} {fs : FileSystem} (readable : ReadableFile env world.fs reqId payload path content)
    (named : world.fs.names path = some file) (opens : OpensFile env world payload other found fs) :
    other = path ∧ found = file := by
  obtain rfl := Option.some.inj (opens.named.symm.trans readable.named)
  exact ⟨rfl, Option.some.inj (opens.found.symm.trans named)⟩

private theorem getBegin_delivers_iff {env : Env} {world : World} {reqId : UInt32} {payload content : Bytes} {path : Path}
    (inactive : world.download.active = false) (live : world.link.life.closed = false)
    (empty : world.link.pendingWriteBytes = 0) (readable : ReadableFile env world.fs reqId payload path content) :
    Delivered reqId (beginReply reqId path content.length) content world.link
        (transferHandleGetBegin env world reqId payload).1.link ↔
      FitsQueue env world.link.sends (beginReply reqId path content.length) content (requestedChunks env payload content) := by
  have positive : 0 < requestedSize payload := downloadChunkSize_pos _
  have whole : (requestedChunks env payload content).flatten = content := readChunks_flatten readable.reads positive 0
  rw [fits_iff live empty whole]
  obtain ⟨file, named, data⟩ := Option.map_eq_some_iff.mp readable.found
  subst data
  have brief : (beginReply reqId path (world.fs.data file).length).length ≤ maxFramePayload :=
    Nat.le_trans (Nat.le_of_lt readable.short) (by decide)
  have known : FrameType.ack.code ≠ 0 := by decide
  have acked (sent : (sessionSendText env (diagCountTransferStart world.link) .ack reqId
      (beginReply reqId path (world.fs.data file).length)).2 = true) := sendFrame_queues reqId known brief (canSend_of_sent reqId sent)
  have ending := getBegin_ending env world reqId payload
  generalize transferHandleGetBegin env world reqId payload = result at ending ⊢
  cases ending with
  | busy active =>
    rw [inactive] at active
    cases active
  | missing _ missing =>
    rw [readable.named] at missing
    cases missing
  | unnamed _ _ memory =>
    refine iff_of_false ?_ fun fits => by rw [memory] at fits; cases fits.1
    exact (Unended.of_complains (sendError_complains env world.link ..)).not_delivered _ _ _
  | unopened _ again _ failed =>
    obtain rfl := Option.some.inj (again.symm.trans readable.named)
    rcases failed with refused | free
    · exact absurd readable.opens (Int.not_le.mpr refused)
    · rw [named] at free
      cases free
  | unsized _ _ failed => exact absurd readable.stats (Int.not_le.mpr failed)
  | overflowed _ opens _ long =>
    obtain ⟨rfl, rfl⟩ := readable.opened named opens
    exact absurd readable.short (Nat.not_lt.mpr long)
  | unanswered _ opens _ fits unsent =>
    obtain ⟨rfl, rfl⟩ := readable.opened named opens
    refine iff_of_false ((Unended.of_failed unsent).not_delivered _ _ _) fun fitting => ?_
    rw [(ack_sent_iff fits).mpr fitting.2.2.head] at unsent
    cases unsent
  | unbuffered _ opens _ _ sent memory =>
    obtain ⟨rfl, rfl⟩ := readable.opened named opens
    refine iff_of_false ?_ fun fits => by rw [memory] at fits; cases fits.2.1
    have queued := Unended.of_queues (acked sent) (show FrameType.ack.code ≠ FrameType.getEnd.code by decide)
    exact (queued.trans (Unended.of_complains (sendError_complains env _ ..))).not_delivered _ _ _
  | @looped _ found fs _ opens _ _ sent memory =>
    obtain ⟨rfl, rfl⟩ := readable.opened named opens
    have content : fs.content world.fs.nextFd = world.fs.data found := by
      simp [FileSystem.content, opens.described, opens.data]
    rw [opens.memory, memory, eq_self, true_and, true_and, canSendAll_counted,
      delivered_congr (show world.link.queued = (diagCountTransferStart world.link).queued from rfl)]
    exact loop_delivers_iff readable.reads ⟨content, rfl, positive, downloadChunkSize_le _⟩ rfl (canSend_of_sent reqId sent)
      (acked sent)

/-- Download completeness: a file that can be read is delivered exactly when the
whole reply, headers included, fits into the write queue at once and every send
gets its memory. -/
theorem download_delivered_iff {connectEnv env : Env} {sessionId : Nat} {counts : Tally} {fs : FileSystem}
    {engine : Engine} {start world : World} {history : List Upload.Input} {message : Message} {path : Path}
    {content : Bytes} (connected : onNewConnection connectEnv sessionId counts fs engine = some start)
    (executed : agent.run start history = some world) (live : world.link.life.closed = false)
    (empty : world.link.pendingWriteBytes = 0)
    (readable : ReadableFile env world.fs message.reqId (cstr message.payload) path content) :
    Delivered message.reqId (beginReply message.reqId path content.length) content world.link
        (transferHandleGetBegin env (world.countFrame message) message.reqId (cstr message.payload)).1.link ↔
      FitsQueue env world.link.sends (beginReply message.reqId path content.length) content
        (requestedChunks env (cstr message.payload) content) := by
  have idle := (Upload.run_tracked connected executed).download
  have inactive : (world.countFrame message).download.active = false := by
    rw [show (world.countFrame message).download = world.download from rfl, idle]
    rfl
  rw [delivered_congr (show world.link.queued = (world.countFrame message).link.queued from rfl)]
  exact @getBegin_delivers_iff env (world.countFrame message) _ _ _ _ inactive live empty readable

private theorem reads_default (size : Nat) : Reads {} size := fun _ length positive _ =>
  ⟨by exact Int.ofNat_le.mpr positive, Int.le_refl _⟩

/-- A file system with one file. -/
def fileWith (content : Bytes) : FileSystem := ((FileSystem.empty.create (ascii "a")).pwrite 0 0 content).close 0

private theorem fileWith_read (content : Bytes) : (fileWith content).read (ascii "a") = some content := by
  have described : (FileSystem.empty.create (ascii "a")).fds 0 = some 0 := by decide
  have named : (FileSystem.empty.create (ascii "a")).names (ascii "a") = some 0 := by decide
  have blank : (FileSystem.empty.create (ascii "a")).data 0 = [] := by decide
  rw [fileWith, FileSystem.read, close_names, close_data, pwrite_names, pwrite_data _ described, named, blank,
    Option.map_some, Function.update_self]
  exact congrArg some (writeAt_length [] content)

def sessionWith (content : Bytes) : World := (onNewConnection {} 1 {} (fileWith content) portfwdEngineInit).get rfl

private theorem long_file_not_delivered {content : Bytes} (long : content.length = maxWriteQueueBytes) :
    ¬ Delivered 7 (beginReply 7 (ascii "a") content.length) content (sessionWith content).link
      (transferHandleGetBegin {} (sessionWith content) 7 (ascii "path=a")).1.link := by
  have readable : ReadableFile {} (sessionWith content).fs 7 (ascii "path=a") (ascii "a") content :=
    ⟨by decide, fileWith_read content, by decide, by decide, reads_default _, by rw [long]; decide⟩
  rw [getBegin_delivers_iff rfl rfl rfl readable]
  intro fits
  have room := fits.room
  rw [long] at room
  simp only [frameHeaderSize] at room
  omega

def largeContent : Bytes := List.replicate maxWriteQueueBytes 120

/-- A file as long as the write queue cannot be downloaded. -/
theorem large_file_not_delivered :
    (sessionWith largeContent).link.life.closed = false ∧ (sessionWith largeContent).link.pendingWriteBytes = 0 ∧
      (sessionWith largeContent).fs.read (ascii "a") = some largeContent ∧
      ¬ Delivered 7 (beginReply 7 (ascii "a") largeContent.length) largeContent (sessionWith largeContent).link
        (transferHandleGetBegin {} (sessionWith largeContent) 7 (ascii "path=a")).1.link :=
  ⟨rfl, rfl, fileWith_read largeContent, long_file_not_delivered List.length_replicate⟩

theorem download_delivered_iff_old :
    Delivered 7 (beginReply 7 (ascii "a") 3) (ascii "old") Upload.sessionWithOld.link
      (transferHandleGetBegin {} (Upload.sessionWithOld.countFrame ⟨FrameType.getBegin.code, 7, ascii "path=a", by decide⟩)
        7 (cstr (ascii "path=a"))).1.link := by
  have connected : onNewConnection {} 1 {} Upload.oldFile portfwdEngineInit = some Upload.sessionWithOld :=
    (Option.some_get (by decide)).symm
  have executed : agent.run Upload.sessionWithOld [] = some Upload.sessionWithOld := rfl
  have chunks : requestedChunks {} (cstr (ascii "path=a")) (ascii "old") = [ascii "old"] := by
    rw [requestedChunks, readChunks, dif_pos (by decide), dif_neg (by decide), readChunks, dif_neg (by decide)]
    decide
  have readable : ReadableFile {} Upload.sessionWithOld.fs 7 (cstr (ascii "path=a")) (ascii "a") (ascii "old") :=
    ⟨by decide, by decide, by decide, by decide, reads_default _, by decide⟩
  refine (@download_delivered_iff _ _ _ _ _ _ _ _ _ ⟨FrameType.getBegin.code, 7, ascii "path=a", by decide⟩ _ _ connected
    executed (by decide) (by decide) readable).mpr ?_
  refine ⟨rfl, rfl, fun _ _ => ⟨rfl, rfl, rfl⟩, ?_⟩
  rw [chunks]
  decide

end Luagent.Proofs.Download
