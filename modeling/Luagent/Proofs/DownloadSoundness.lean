import Luagent.Proofs.Download
import Luagent.Proofs.Speech
import Luagent.Proofs.TransferCounts

/-! What a download request queues, whatever fails on the way: the beginning of a
reply that holds the file, and an error at most. -/

namespace Luagent.Proofs.Download
open Foundation FileSystem

section requests

def getAck (reqId : UInt32) (path : Path) (size : Nat) : Sent := ⟨FrameType.ack.code, reqId, beginReply reqId path size⟩

/-- The reply to a request for a file, in these chunks. -/
def wholeReply (reqId : UInt32) (path : Path) (content : Bytes) (chunks : List Bytes) : List Sent :=
  getAck reqId path content.length :: (chunks.map (getChunk reqId) ++ [getEnd reqId])

/-- The frames that follow the acknowledgement while this much of the file is
left: chunks of it, until the end, a failure or an error. -/
inductive Stream (reqId : UInt32) (size : Nat) : Bytes → List Sent → Prop where
  | stopped (left : Bytes) : Stream reqId size left []
  | failed (left text : Bytes) : Stream reqId size left [⟨FrameType.error.code, reqId, text⟩]
  | ended : Stream reqId size [] [getEnd reqId]
  | chunk {bytes left : Bytes} {frames : List Sent} (some : bytes ≠ []) (fits : bytes.length ≤ size)
      (rest : Stream reqId size left frames) : Stream reqId size (bytes ++ left) (getChunk reqId bytes :: frames)

/-- No frame but an error, and that at most once. -/
def AtMostError (reqId : UInt32) (frames : List Sent) : Prop :=
  frames = [] ∨ ∃ text, frames = [⟨FrameType.error.code, reqId, text⟩]

/-- The chunks into which a file was cut, or could have been. -/
structure Cut (size : Nat) (content : Bytes) (chunks : List Bytes) : Prop where
  whole : chunks.flatten = content
  some : ∀ chunk ∈ chunks, chunk ≠ []
  fit : ∀ chunk ∈ chunks, chunk.length ≤ size

private theorem cut_bytes {size : Nat} (positive : 0 < size) (content : Bytes) :
    Cut size content (content.map fun byte => [byte]) where
  whole := by
    rw [← List.flatMap_def]
    exact List.flatMap_singleton' content
  some := by simp
  fit := by
    intro chunk member
    obtain ⟨byte, _, rfl⟩ := List.mem_map.mp member
    exact positive

theorem Cut.cons {size : Nat} {bytes left : Bytes} {chunks : List Bytes} (some : bytes ≠ []) (fits : bytes.length ≤ size)
    (cut : Cut size left chunks) : Cut size (bytes ++ left) (bytes :: chunks) where
  whole := by rw [List.flatten_cons, cut.whole]
  some := List.forall_mem_cons.mpr ⟨some, cut.some⟩
  fit := List.forall_mem_cons.mpr ⟨fits, cut.fit⟩

/-- A stream begins like the rest of some reply, and ends with it if it ends well. -/
theorem Stream.shape {reqId : UInt32} {size : Nat} (positive : 0 < size) {content : Bytes} {frames : List Sent}
    (stream : Stream reqId size content frames) :
    ∃ chunks replies errors, Cut size content chunks ∧ frames = replies ++ errors ∧ AtMostError reqId errors ∧
      replies <+: chunks.map (getChunk reqId) ++ [getEnd reqId] ∧
      ((∃ frame ∈ frames, frame.type = FrameType.getEnd.code) → frames = chunks.map (getChunk reqId) ++ [getEnd reqId]) := by
  induction stream with
  | stopped left => exact ⟨_, [], [], cut_bytes positive left, rfl, .inl rfl, List.nil_prefix, by simp⟩
  | failed left text =>
    refine ⟨_, [], [_], cut_bytes positive left, rfl, .inr ⟨text, rfl⟩, List.nil_prefix, ?_⟩
    rintro ⟨frame, member, isEnd⟩
    rw [List.mem_singleton.mp member] at isEnd
    exact absurd isEnd (show FrameType.error.code ≠ FrameType.getEnd.code by decide)
  | ended => exact ⟨[], [getEnd reqId], [], ⟨rfl, by simp, by simp⟩, rfl, .inl rfl, List.prefix_refl _, fun _ => rfl⟩
  | @chunk bytes left frames some fits _ ih =>
    obtain ⟨chunks, replies, errors, cut, split, error, begins, ends⟩ := ih
    refine ⟨bytes :: chunks, getChunk reqId bytes :: replies, errors, cut.cons some fits, by rw [split]; rfl, error, ?_, ?_⟩
    · simp only [List.map_cons, List.cons_append]
      exact List.prefix_cons_inj _ |>.mpr begins
    · rintro ⟨frame, member, isEnd⟩
      rcases List.mem_cons.mp member with rfl | member
      · exact absurd isEnd (show FrameType.getChunk.code ≠ FrameType.getEnd.code by decide)
      · rw [ends ⟨frame, member, isEnd⟩]
        rfl

private theorem sendError_atMost (env : Env) (link : Link) (reqId : UInt32) (code : String) (message : Bytes) :
    ∃ frames, (sessionSendError env link reqId code message).1.queued = link.queued ++ frames ∧ AtMostError reqId frames := by
  unfold sessionSendError
  split
  · exact ⟨[], (List.append_nil _).symm, .inl rfl⟩
  next text _ =>
    refine ⟨_, sendFrame_queued env link _ reqId text, ?_⟩
    split
    · exact .inr ⟨text, rfl⟩
    · exact .inl rfl

private theorem sendError_stream (env : Env) (link : Link) (reqId : UInt32) (size : Nat) (left : Bytes) (code : String)
    (message : Bytes) :
    ∃ frames, (sessionSendError env link reqId code message).1.queued = link.queued ++ frames ∧
      Stream reqId size left frames := by
  obtain ⟨frames, queued, rfl | ⟨text, rfl⟩⟩ := sendError_atMost env link reqId code message
  · exact ⟨[], queued, .stopped left⟩
  · exact ⟨_, queued, .failed left text⟩

private theorem read_next {env : Env} {fs : FileSystem} {fd offset length : Nat} {bytes : Bytes}
    (found : uvFsRead env fs fd offset length = .ok bytes) :
    bytes.length ≤ length ∧ (fs.content fd).drop offset = bytes ++ (fs.content fd).drop (offset + bytes.length) := by
  unfold uvFsRead at found
  split at found
  · cases found
  · cases found
    constructor
    · rw [List.length_take]
      omega
    · rw [← List.drop_drop]
      exact (List.prefix_iff_eq_append.mp (List.take_prefix _ _)).symm

private theorem getLoop_stream (env : Env) (reqId : UInt32) (fd : Nat) (world : World) {content : Bytes} {link : Link}
    (start : world.link = link) (reading : Reading content fd world) :
    ∃ frames, (getLoop env reqId fd world).1.link.queued = link.queued ++ frames ∧
      Stream reqId world.download.chunkSize (content.drop world.download.offset) frames := by
  subst start
  unfold getLoop
  split
  next more =>
    simp only
    split
    · exact sendError_stream env (diagCountTransferAbort world.link) ..
    next bytes found =>
      obtain ⟨short, next⟩ := read_next found
      rw [reading.file] at next
      have fits : bytes.length ≤ world.download.chunkSize := short.trans (by split <;> omega)
      split
      · exact sendError_stream env (diagCountTransferAbort world.link) ..
      next some =>
        have queued := sendFrame_queued env world.link FrameType.getChunk.code reqId bytes
        split
        next failed =>
          have failed : (sessionSendFrame env world.link FrameType.getChunk.code reqId bytes).2 = false := by
            simpa using failed
          rw [failed, if_neg Bool.false_ne_true] at queued
          exact ⟨[], queued, .stopped _⟩
        next sent =>
          have sent : (sessionSendFrame env world.link FrameType.getChunk.code reqId bytes).2 = true := by simpa using sent
          rw [sent, if_pos rfl] at queued
          obtain ⟨frames, rest, stream⟩ := getLoop_stream env reqId fd
            { world with
              link := (sessionSendFrame env world.link FrameType.getChunk.code reqId bytes).1
              download := { world.download with
                offset := world.download.offset + bytes.length
                lastProgressMs := env.now } } rfl ⟨reading.file, reading.total, reading.positive, reading.bounded⟩
          refine ⟨getChunk reqId bytes :: frames, ?_, ?_⟩
          · rw [rest, queued, List.append_assoc]
            rfl
          · rw [next]
            exact .chunk (List.ne_nil_of_length_pos (by omega)) fits stream
  next done =>
    have empty : content.drop world.download.offset = [] := by
      rw [List.drop_eq_nil_iff, ← reading.total]
      omega
    refine ⟨_, sendFrame_queued env world.link FrameType.getEnd.code reqId endText, ?_⟩
    rw [empty]
    split
    · exact .ended
    · exact .stopped []
termination_by world.download.totalSize - world.download.offset
decreasing_by
  omega

/-- What a request queues: an error at most, or the acknowledgement and a stream. -/
inductive Answer (fs : FileSystem) (reqId : UInt32) (payload : Bytes) : List Sent → Prop where
  | refused {frames : List Sent} (error : AtMostError reqId frames) : Answer fs reqId payload frames
  | begun {path : Path} {content : Bytes} {frames : List Sent} (named : kvCopy 512 payload (ascii "path") = some path)
      (found : fs.read path = some content) (stream : Stream reqId (requestedSize payload) content frames) :
      Answer fs reqId payload (getAck reqId path content.length :: frames)

theorem getBegin_answer (env : Env) (world : World) (reqId : UInt32) (payload : Bytes) :
    ∃ frames, (transferHandleGetBegin env world reqId payload).1.link.queued = world.link.queued ++ frames ∧
      Answer world.fs reqId payload frames := by
  have refused : ∀ (link : Link) code message, link.queued = world.link.queued → ∃ frames,
      (sessionSendError env link reqId code message).1.queued = world.link.queued ++ frames ∧
        Answer world.fs reqId payload frames := by
    intro link code message same
    obtain ⟨frames, queued, error⟩ := sendError_atMost env link reqId code message
    exact ⟨frames, same ▸ queued, .refused error⟩
  have begun {path : Path} {file : Nat} {fs : FileSystem} (opens : OpensFile env world payload path file fs)
      (sent : (sessionSendText env (diagCountTransferStart world.link) .ack reqId
        (beginReply reqId path (world.fs.data file).length)).2 = true) {after : Link}
      (rest : ∃ frames, after.queued = (sessionSendText env (diagCountTransferStart world.link) .ack reqId
          (beginReply reqId path (world.fs.data file).length)).1.queued ++ frames ∧
        Stream reqId (requestedSize payload) (world.fs.data file) frames) :
      ∃ frames, after.queued = world.link.queued ++ frames ∧ Answer world.fs reqId payload frames := by
    obtain ⟨frames, rest, stream⟩ := rest
    refine ⟨_, ?_, .begun opens.named (by simp [FileSystem.read, opens.found]) stream⟩
    have queued := sendFrame_queued env (diagCountTransferStart world.link) FrameType.ack.code reqId
      (beginReply reqId path (world.fs.data file).length)
    rw [sessionSendText] at sent rest
    rw [rest, queued, if_pos sent, List.append_assoc]
    rfl
  have ending := getBegin_ending env world reqId payload
  generalize transferHandleGetBegin env world reqId payload = result at ending ⊢
  cases ending with
  | busy | missing | unnamed | unopened | unsized => exact refused world.link _ _ rfl
  | overflowed => exact refused (diagCountTransferStart world.link) _ _ rfl
  | @unanswered path file _ _ _ _ _ unsent =>
    have queued := sendFrame_queued env (diagCountTransferStart world.link) FrameType.ack.code reqId
      (beginReply reqId path (world.fs.data file).length)
    rw [sessionSendText] at unsent
    rw [unsent, if_neg Bool.false_ne_true] at queued
    exact ⟨[], queued, .refused (.inl rfl)⟩
  | unbuffered _ opens _ _ sent => exact begun opens sent (sendError_stream env ..)
  | looped _ opens _ _ sent =>
    refine begun opens sent (getLoop_stream env reqId _ _ rfl ⟨?_, rfl, downloadChunkSize_pos _, downloadChunkSize_le _⟩)
    simp [FileSystem.content, fetchingWorld, opens.described, opens.data, World.sendText]

/-- The frames of a request: the beginning of a reply that holds the file, with an
error behind it at most, and the whole of it if it has its last frame. -/
def SoundReply (fs : FileSystem) (reqId : UInt32) (payload : Bytes) (frames : List Sent) : Prop :=
  ∃ replies errors, frames = replies ++ errors ∧ AtMostError reqId errors ∧
    (replies = [] ∨ ∃ path content chunks, kvCopy 512 payload (ascii "path") = some path ∧ fs.read path = some content ∧
      Cut (requestedSize payload) content chunks ∧ replies <+: wholeReply reqId path content chunks ∧
      ((∃ frame ∈ frames, frame.type = FrameType.getEnd.code) → frames = wholeReply reqId path content chunks))

theorem Answer.sound {fs : FileSystem} {reqId : UInt32} {payload : Bytes} {frames : List Sent}
    (answer : Answer fs reqId payload frames) : SoundReply fs reqId payload frames := by
  cases answer with
  | refused error => exact ⟨[], frames, rfl, error, .inl rfl⟩
  | @begun path content frames named found stream =>
    obtain ⟨chunks, replies, errors, cut, split, error, begins, ends⟩ := stream.shape (downloadChunkSize_pos _)
    refine ⟨getAck reqId path content.length :: replies, errors, by rw [split]; rfl, error,
      .inr ⟨path, content, chunks, named, found, cut, ?_, ?_⟩⟩
    · exact (List.prefix_cons_inj _).mpr begins
    · rintro ⟨frame, member, isEnd⟩
      rcases List.mem_cons.mp member with rfl | member
      · exact absurd isEnd (show FrameType.ack.code ≠ FrameType.getEnd.code by decide)
      · rw [ends ⟨frame, member, isEnd⟩]
        rfl

/-- Every descriptor opened since was closed once, and the others were left alone. -/
structure ClosesOnce (before after : FileSystem) : Prop where
  opened : before.opened ≤ after.opened
  once : ∀ fd, before.opened ≤ fd → fd < after.opened → after.closes fd = 1 ∧ after.fds fd = none
  others : ∀ fd, fd < before.opened → after.closes fd = before.closes fd ∧ after.fds fd = before.fds fd

private theorem visits_closesOnce {before after : FileSystem} (visits : Visits before after) : ClosesOnce before after := by
  cases visits with
  | nothing => exact ⟨Nat.le_refl _, fun _ _ _ => by omega, fun _ _ => ⟨rfl, rfl⟩⟩
  | @opened path opened reading =>
    unfold openRead at reading
    split at reading
    next file found =>
      cases reading
      have inside : before.nextFd < (before.describe file (before.named found)).opened := Nat.lt_succ_self _
      unfold close
      rw [dif_pos inside]
      refine ⟨Nat.le_succ _, ?_, ?_⟩
      · intro fd since issued
        have same : fd = before.nextFd := Nat.le_antisymm (Nat.le_of_lt_succ issued) since
        subst same
        constructor
        · simp only [Function.update_self]
          exact congrArg (· + 1) (before.unclosed (Nat.le_refl _))
        · simp only [Function.update_self]
      · intro fd earlier
        have other : fd ≠ before.nextFd := Nat.ne_of_lt earlier
        constructor
        · simp only [Function.update_of_ne other]
          rfl
        · simp only [Function.update_of_ne other, describe]
          exact Function.update_of_ne other _ _
    · cases reading

/-- Download soundness. Between two callbacks the slot is as it was initialised; a
request that found it taken would be refused. -/
theorem download_sound (env : Env) {world : World} (reqId : UInt32) (payload : Bytes)
    (slot : world.download.active = true ∨ world.download = transferInit) :
    SoundReply world.fs reqId payload
        (framesSince world.link (transferHandleGetBegin env world reqId payload).1.link) ∧
      (1 ≤ requestedSize payload ∧ requestedSize payload ≤ 65536) ∧
      ClosesOnce world.fs (transferHandleGetBegin env world reqId payload).1.fs := by
  obtain ⟨frames, queued, answer⟩ := getBegin_answer env world reqId payload
  refine ⟨?_, ⟨downloadChunkSize_pos _, downloadChunkSize_le _⟩, ?_⟩
  · rw [framesSince, queued, List.drop_left]
    exact answer.sound
  · rcases slot with taken | idle
    · have refused : (transferHandleGetBegin env world reqId payload).1.fs = world.fs := by
        rw [getBegin_busy taken]
        rfl
      rw [refused]
      exact visits_closesOnce .nothing
    · exact visits_closesOnce (getBegin_fetched env world reqId payload idle).fs

end requests

/-- A request for the file of an upload, byte by byte. -/
def fetchHi : Bytes := ascii "path=a\nchunk_size=1"

def fetchedHi : World := (transferHandleGetBegin {} Upload.acknowledgedHi 9 fetchHi).1

theorem download_sound_hi :
    framesSince Upload.acknowledgedHi.link fetchedHi.link = wholeReply 9 (ascii "a") (ascii "hi") [ascii "h", ascii "i"] ∧
    SoundReply Upload.acknowledgedHi.fs 9 fetchHi (framesSince Upload.acknowledgedHi.link fetchedHi.link) ∧
    (1 ≤ requestedSize fetchHi ∧ requestedSize fetchHi ≤ 65536) ∧ ClosesOnce Upload.acknowledgedHi.fs fetchedHi.fs :=
  ⟨by decide +kernel, download_sound {} 9 fetchHi (.inr (by decide +kernel))⟩

end Luagent.Proofs.Download
