import Luagent.Proofs.Texts

/-! The handlers of `transfer.c`, ending by ending. Later proofs go through these
endings and do not look at the handlers again. -/

namespace Luagent.Proofs
open Foundation FileSystem

private theorem utilSnprintf_none {size : Nat} {text : Bytes} (overflow : utilSnprintf size text = none) :
    size ≤ text.length := by
  unfold utilSnprintf at overflow
  split at overflow
  · cases overflow
  next long => exact Nat.le_of_not_lt long

private theorem kvCopy_length {size : Nat} {payload key text : Bytes} (found : kvCopy size payload key = some text) :
    text.length < size := by
  unfold kvCopy at found
  split at found
  · cases found
  · simp only [Option.ite_none_left_eq_some, Option.some.injEq] at found
    obtain ⟨short, rfl⟩ := found
    omega

private theorem partPath_fits {payload key path : Bytes} (found : kvCopy 512 payload key = some path) :
    utilSnprintf 576 (partPath path) = some (partPath path) := by
  have short := kvCopy_length found
  have length : (partPath path).length = path.length + 5 := by simp [partPath, ascii]
  rw [utilSnprintf, if_pos (by omega)]

section uploads
variable (env : Env) (world : World) (reqId : UInt32)

/-- What a begin request asks for. -/
structure Asks (payload : Bytes) (path : Path) (size : Nat) : Prop where
  path : kvCopy 512 payload (ascii "path") = some path
  size : kvU64 payload (ascii "size") = some size

def namedUpload (upload : TransferState) (path : Path) : TransferState :=
  { upload with
    path := if env.alloc .transferPath then some path else none
    tmpPath := if env.alloc .transferTmpPath then some (partPath path) else none }

/-- An upload slot as `transfer_handle_put_begin` fills it. -/
def openedUpload (env : Env) (reqId : UInt32) (payload : Bytes) (path : Path) (size fd : Nat) : TransferState where
  active := true
  overwrite := kvBoolDefault payload (ascii "overwrite") false
  mode := .upload
  reqId := reqId
  file := some fd
  totalSize := size
  offset := 0
  lastProgressMs := env.now
  chunkSize := kvU64Default payload (ascii "chunk_size") readChunk
  path := some path
  tmpPath := some (partPath path)

/-- The session with its upload open, before the request is answered. -/
def openedWorld (payload : Bytes) (path : Path) (size : Nat) : World :=
  { world with
    link := diagCountTransferStart world.link
    fs := world.fs.create (partPath path)
    upload := openedUpload env reqId payload path size world.fs.nextFd }

def NamesFit : Prop := env.alloc .transferPath = true ∧ env.alloc .transferTmpPath = true

inductive BeginEnding (payload : Bytes) : World × Bool → Prop where
  | busy (active : world.upload.active = true) :
      BeginEnding payload (world.sendError env reqId "io_error" (ascii "transfer already active"), false)
  | missing (idle : world.upload.active = false) (missing : ∀ path size, ¬ Asks payload path size) :
      BeginEnding payload (world.sendError env reqId "bad_payload" (ascii "missing path or size"), false)
  | unnamed {path : Path} {size : Nat} (idle : world.upload.active = false) (asks : Asks payload path size)
      (memory : ¬ NamesFit env) :
      BeginEnding payload (({ world with upload := namedUpload env world.upload path }.abortUpload env).sendError env reqId
        "internal" (ascii "out of memory"), false)
  | uncreated {path : Path} {size : Nat} (idle : world.upload.active = false) (asks : Asks payload path size)
      (memory : NamesFit env) (failed : env.fsOpen < 0) :
      BeginEnding payload (({ world with
          link := diagCountTransferStart world.link
          upload := { openedUpload env reqId payload path size 0 with
            active := world.upload.active, file := world.upload.file } }.abortUpload env).sendError env reqId
        "io_error" (env.strerror env.fsOpen), false)
  | overflowed {path : Path} {size : Nat} (idle : world.upload.active = false) (asks : Asks payload path size)
      (memory : NamesFit env) (works : 0 ≤ env.fsOpen) (long : 256 ≤ (beginReply reqId path size).length) :
      BeginEnding payload (((openedWorld env world reqId payload path size).sendError env reqId "internal"
        (ascii "reply overflow")).abortUpload env, false)
  | begun {path : Path} {size : Nat} (idle : world.upload.active = false) (asks : Asks payload path size)
      (memory : NamesFit env) (works : 0 ≤ env.fsOpen) (fits : (beginReply reqId path size).length < 256) :
      BeginEnding payload ((openedWorld env world reqId payload path size).sendText env .ack reqId
        (beginReply reqId path size))

theorem putBegin_ending (payload : Bytes) :
    BeginEnding env world reqId payload (transferHandlePutBegin env world reqId payload) := by
  unfold transferHandlePutBegin
  split
  next active => exact .busy active
  next idle =>
    have idle : world.upload.active = false := by simpa using idle
    split
    next path size foundPath foundSize =>
      have asks : Asks payload path size := ⟨foundPath, foundSize⟩
      simp only [partPath_fits foundPath]
      by_cases memory : NamesFit env
      case neg =>
        rw [if_pos (by by_contra both; simp at both; exact memory both)]
        exact .unnamed idle asks memory
      case pos =>
        simp only [memory.1, memory.2, if_true, Option.isNone_some, Bool.or_self, Bool.false_eq_true, if_false, uvFsCreate]
        by_cases failed : env.fsOpen < 0
        · simp only [failed, if_true]
          exact .uncreated idle asks memory failed
        · simp only [failed, if_false]
          cases formatted : utilSnprintf 256 (beginReply reqId path size) with
          | none => exact .overflowed idle asks memory (Int.not_lt.mp failed) (utilSnprintf_none formatted)
          | some reply =>
            obtain ⟨rfl, fits⟩ := utilSnprintf_some formatted
            exact .begun idle asks memory (Int.not_lt.mp failed) fits
    next missing => exact .missing idle fun path size asks => missing path size asks.path asks.size

def chunkWrite (payload : Bytes) : FileSystem × Int :=
  uvFsWrite env world.fs (world.upload.file.getD 0) world.upload.offset payload

inductive ChunkEnding (payload : Bytes) : World × Bool → Prop where
  | refused {message : Bytes} (refusal : uploadRefusal world.upload reqId = some message) :
      ChunkEnding payload (world.sendError env reqId "bad_payload" message, false)
  | exceeding (accepted : uploadRefusal world.upload reqId = none)
      (exceeds : world.upload.totalSize < (world.upload.offset + payload.length) % 2 ^ 64) :
      ChunkEnding payload ({ world with
        link := diagCountTransferAbort (world.sendError env reqId "bad_payload" (ascii "chunk exceeds declared size")).link
      }.abortUpload env, false)
  | unwritten (accepted : uploadRefusal world.upload reqId = none)
      (within : (world.upload.offset + payload.length) % 2 ^ 64 ≤ world.upload.totalSize)
      (short : (chunkWrite env world payload).2 < 0 ∨ (chunkWrite env world payload).2.toNat ≠ payload.length) :
      ChunkEnding payload ({ world with
        fs := (chunkWrite env world payload).1
        link := diagCountTransferAbort (world.sendError env reqId "io_error" (ascii "write failed")).link
      }.abortUpload env, false)
  | stored (accepted : uploadRefusal world.upload reqId = none)
      (within : (world.upload.offset + payload.length) % 2 ^ 64 ≤ world.upload.totalSize)
      (whole : ¬ ((chunkWrite env world payload).2 < 0 ∨ (chunkWrite env world payload).2.toNat ≠ payload.length)) :
      ChunkEnding payload ({ world with
        fs := (chunkWrite env world payload).1
        upload := { world.upload with
          offset := (world.upload.offset + payload.length) % 2 ^ 64, lastProgressMs := env.now } }, true)

theorem putChunk_ending (payload : Bytes) :
    ChunkEnding env world reqId payload (transferHandlePutChunk env world reqId payload) := by
  unfold transferHandlePutChunk
  split
  next refusal => exact .refused refusal
  next accepted =>
    split
    next exceeds => exact .exceeding accepted exceeds
    next within =>
      simp only
      split
      next short => exact .unwritten accepted (Nat.le_of_not_lt within) short
      next whole => exact .stored accepted (Nat.le_of_not_lt within) whole

variable {world reqId} in
theorem putChunk_refused {message : Bytes} (refusal : uploadRefusal world.upload reqId = some message) (payload : Bytes) :
    transferHandlePutChunk env world reqId payload = (world.sendError env reqId "bad_payload" message, false) := by
  simp only [transferHandlePutChunk, refusal]

def endRename : FileSystem × Int :=
  transferFinalizeRename env (world.fs.close (world.upload.file.getD 0)) world.upload.overwrite
    (world.upload.tmpPath.getD []) (world.upload.path.getD [])

def closedWorld (fs : FileSystem) : World := { world with fs, upload := { world.upload with file := none } }

inductive EndEnding : World × Bool → Prop where
  | refused {message : Bytes} (refusal : uploadRefusal world.upload reqId = some message) :
      EndEnding (world.sendError env reqId "bad_payload" message, false)
  | incomplete (accepted : uploadRefusal world.upload reqId = none)
      (incomplete : world.upload.offset ≠ world.upload.totalSize) :
      EndEnding ((world.sendError env reqId "bad_payload" (ascii "size mismatch")).abortUpload env, false)
  | unclosed (accepted : uploadRefusal world.upload reqId = none)
      (complete : world.upload.offset = world.upload.totalSize) (failed : env.fsClose < 0) :
      EndEnding (((closedWorld world (world.fs.close (world.upload.file.getD 0))).sendError env reqId "io_error"
        (env.strerror env.fsClose)).abortUpload env, false)
  | unmoved (accepted : uploadRefusal world.upload reqId = none)
      (complete : world.upload.offset = world.upload.totalSize) (closed : 0 ≤ env.fsClose)
      (failed : (endRename env world).2 < 0) :
      EndEnding (((closedWorld world (endRename env world).1).sendError env reqId "io_error"
        (env.strerror (endRename env world).2)).abortUpload env, false)
  | overflowed (accepted : uploadRefusal world.upload reqId = none)
      (complete : world.upload.offset = world.upload.totalSize) (closed : 0 ≤ env.fsClose)
      (moved : 0 ≤ (endRename env world).2) (long : 256 ≤ (putEndReply (world.upload.path.getD []) world.upload.offset).length) :
      EndEnding (((closedWorld world (endRename env world).1).sendError env reqId "internal"
        (ascii "reply overflow")).abortUpload env, false)
  | finished (accepted : uploadRefusal world.upload reqId = none)
      (complete : world.upload.offset = world.upload.totalSize) (closed : 0 ≤ env.fsClose)
      (moved : 0 ≤ (endRename env world).2) (fits : (putEndReply (world.upload.path.getD []) world.upload.offset).length < 256) :
      EndEnding ({ world with
        fs := (endRename env world).1
        link := diagCountTransferComplete
          (sessionSendText env world.link .ack reqId (putEndReply (world.upload.path.getD []) world.upload.offset)).1
        upload := transferReset world.upload }, true)

theorem putEnd_ending : EndEnding env world reqId (transferHandlePutEnd env world reqId) := by
  unfold transferHandlePutEnd
  split
  next refusal => exact .refused refusal
  next accepted =>
    split
    next incomplete => exact .incomplete accepted incomplete
    next complete =>
      have complete : world.upload.offset = world.upload.totalSize := not_not.mp complete
      change EndEnding env world reqId (if env.fsClose < 0 then _ else if (endRename env world).2 < 0 then _ else _)
      split
      next failed => exact .unclosed accepted complete failed
      next closed =>
        split
        next failed => exact .unmoved accepted complete (Int.not_lt.mp closed) failed
        next moved =>
          split
          next overflow =>
            exact .overflowed accepted complete (Int.not_lt.mp closed) (Int.not_lt.mp moved) (utilSnprintf_none overflow)
          next reply formatted =>
            obtain ⟨rfl, fits⟩ := utilSnprintf_some formatted
            exact .finished accepted complete (Int.not_lt.mp closed) (Int.not_lt.mp moved) fits

variable {world reqId} in
theorem putEnd_refused {message : Bytes} (refusal : uploadRefusal world.upload reqId = some message) :
    transferHandlePutEnd env world reqId = (world.sendError env reqId "bad_payload" message, false) := by
  simp only [transferHandlePutEnd, refusal]

end uploads

section downloads
variable (env : Env) (world : World) (reqId : UInt32) (payload : Bytes)

/-- The chunk size that a request asks for. -/
def requestedSize (payload : Bytes) : Nat := downloadChunkSize (kvU64Default payload (ascii "chunk_size") readChunk)

def fetchSlot (path : Path) : TransferState := { world.download with path := some path, chunkSize := requestedSize payload }

/-- A request for a file that is there and can be opened, with the files while it is open. -/
structure OpensFile (path : Path) (file : Nat) (fs : FileSystem) : Prop where
  named : kvCopy 512 payload (ascii "path") = some path
  memory : env.alloc .transferPath = true
  opens : 0 ≤ env.fsOpen
  found : world.fs.names path = some file
  reading : world.fs.openRead path = some fs
  described : fs.fds world.fs.nextFd = some file
  data : fs.data = world.fs.data

/-- The session once the download is counted. -/
def fetchingWorld (path : Path) (fs : FileSystem) (size : Nat) : World :=
  { world with
    fs
    link := diagCountTransferStart world.link
    download := { fetchSlot world payload path with
      file := some world.fs.nextFd, active := true, mode := .download, reqId := reqId, totalSize := size, offset := 0
      lastProgressMs := env.now } }

inductive GetEnding : World × Bool → Prop where
  | busy (active : world.download.active = true) :
      GetEnding (world.sendError env reqId "io_error" (ascii "download already active"), false)
  | missing (idle : world.download.active = false) (missing : kvCopy 512 payload (ascii "path") = none) :
      GetEnding (world.sendError env reqId "bad_payload" (ascii "missing path"), false)
  | unnamed {path : Path} (idle : world.download.active = false) (named : kvCopy 512 payload (ascii "path") = some path)
      (memory : env.alloc .transferPath = false) :
      GetEnding ({ world with download := { world.download with path := none } }.sendError env reqId "internal"
        (ascii "out of memory"), false)
  | unopened {path : Path} {rc : Int} (idle : world.download.active = false)
      (named : kvCopy 512 payload (ascii "path") = some path) (memory : env.alloc .transferPath = true)
      (failed : env.fsOpen < 0 ∨ world.fs.names path = none) :
      GetEnding (({ world with download := fetchSlot world payload path }.abortDownload env).sendError env reqId "not_found"
        (env.strerror rc), false)
  | unsized {path : Path} {file : Nat} {fs : FileSystem} (idle : world.download.active = false)
      (opens : OpensFile env world payload path file fs) (failed : env.fsFstat < 0) :
      GetEnding (({ world with
          fs, download := { fetchSlot world payload path with file := some world.fs.nextFd } }.abortDownload env).sendError
        env reqId "io_error" (env.strerror env.fsFstat), false)
  | overflowed {path : Path} {file : Nat} {fs : FileSystem} (idle : world.download.active = false)
      (opens : OpensFile env world payload path file fs) (stats : 0 ≤ env.fsFstat)
      (long : 256 ≤ (beginReply reqId path (world.fs.data file).length).length) :
      GetEnding (((fetchingWorld env world reqId payload path fs (world.fs.data file).length).abortDownload env).sendError
        env reqId "internal" (ascii "reply overflow"), false)
  | unanswered {path : Path} {file : Nat} {fs : FileSystem} (idle : world.download.active = false)
      (opens : OpensFile env world payload path file fs) (stats : 0 ≤ env.fsFstat)
      (fits : (beginReply reqId path (world.fs.data file).length).length < 256)
      (unsent : (sessionSendText env (diagCountTransferStart world.link) .ack reqId
        (beginReply reqId path (world.fs.data file).length)).2 = false) :
      GetEnding (((fetchingWorld env world reqId payload path fs (world.fs.data file).length).sendText env .ack reqId
        (beginReply reqId path (world.fs.data file).length)).1.abortDownload env, false)
  | unbuffered {path : Path} {file : Nat} {fs : FileSystem} (idle : world.download.active = false)
      (opens : OpensFile env world payload path file fs) (stats : 0 ≤ env.fsFstat)
      (fits : (beginReply reqId path (world.fs.data file).length).length < 256)
      (sent : (sessionSendText env (diagCountTransferStart world.link) .ack reqId
        (beginReply reqId path (world.fs.data file).length)).2 = true)
      (memory : env.alloc .chunk = false) :
      GetEnding ((((fetchingWorld env world reqId payload path fs (world.fs.data file).length).sendText env .ack reqId
        (beginReply reqId path (world.fs.data file).length)).1.abortDownload env).sendError env reqId "internal"
        (ascii "out of memory"), false)
  | looped {path : Path} {file : Nat} {fs : FileSystem} (idle : world.download.active = false)
      (opens : OpensFile env world payload path file fs) (stats : 0 ≤ env.fsFstat)
      (fits : (beginReply reqId path (world.fs.data file).length).length < 256)
      (sent : (sessionSendText env (diagCountTransferStart world.link) .ack reqId
        (beginReply reqId path (world.fs.data file).length)).2 = true)
      (memory : env.alloc .chunk = true) :
      GetEnding (getLoop env reqId world.fs.nextFd
        ((fetchingWorld env world reqId payload path fs (world.fs.data file).length).sendText env .ack reqId
          (beginReply reqId path (world.fs.data file).length)).1)

variable {env world payload} in
private theorem opened_ending {path : Path} {file : Nat} {fs : FileSystem} (idle : world.download.active = false)
    (opens : OpensFile env world payload path file fs) (reqId : UInt32) :
    GetEnding env world reqId payload (transferHandleGetBegin env world reqId payload) := by
  have opened : uvFsOpen env world.fs path = (fs, .ok world.fs.nextFd) := by
    simp [uvFsOpen, opens.reading, Int.not_lt.mpr opens.opens]
  have asked : transferHandleGetBegin env world reqId payload = _ := if_neg (by simp [idle])
  simp only [asked, opens.named, opens.memory, Bool.not_true, Bool.false_eq_true, if_false, opened]
  by_cases failed : env.fsFstat < 0
  · simp only [uvFsFstat, failed, if_true]
    exact .unsized idle opens failed
  · have stats := Int.not_lt.mp failed
    simp only [uvFsFstat, failed, if_false, opens.described, opens.data]
    cases formatted : utilSnprintf 256 (beginReply reqId path (world.fs.data file).length) with
    | none => exact .overflowed idle opens stats (utilSnprintf_none formatted)
    | some reply =>
      obtain ⟨rfl, fits⟩ := utilSnprintf_some formatted
      dsimp only
      by_cases sent : (sessionSendText env (diagCountTransferStart world.link) .ack reqId
          (beginReply reqId path (world.fs.data file).length)).2 = true
      case neg =>
        rw [if_pos (by simpa [World.sendText] using sent)]
        exact .unanswered idle opens stats fits (eq_false_of_ne_true sent)
      case pos =>
        rw [if_neg (by simpa [World.sendText] using sent)]
        cases memory : env.alloc .chunk with
        | false => exact .unbuffered idle opens stats fits sent memory
        | true => exact .looped idle opens stats fits sent memory

variable {env world reqId payload} in
theorem getBegin_busy (busy : world.download.active = true) : transferHandleGetBegin env world reqId payload =
    (world.sendError env reqId "io_error" (ascii "download already active"), false) := by
  rw [transferHandleGetBegin, if_pos busy]

theorem getBegin_ending : GetEnding env world reqId payload (transferHandleGetBegin env world reqId payload) := by
  by_cases busy : world.download.active = true
  case pos =>
    rw [getBegin_busy busy]
    exact .busy busy
  case neg =>
    have idle := eq_false_of_ne_true busy
    have asked : transferHandleGetBegin env world reqId payload = _ := if_neg busy
    cases named : kvCopy 512 payload (ascii "path") with
    | none =>
      rw [asked, named]
      exact .missing idle named
    | some path =>
      cases memory : env.alloc .transferPath with
      | false =>
        simp only [asked, named, memory, Bool.not_false, if_true]
        exact .unnamed idle named memory
      | true =>
        by_cases failed : env.fsOpen < 0 ∨ world.fs.names path = none
        case pos =>
          obtain ⟨rc, refused⟩ : ∃ rc, uvFsOpen env world.fs path = (world.fs, .error rc) := by
            unfold uvFsOpen
            split
            · exact ⟨_, rfl⟩
            next works => exact ⟨_, by rw [openRead_of_free (failed.resolve_left works)]⟩
          simp only [asked, named, memory, Bool.not_true, Bool.false_eq_true, if_false, refused]
          exact .unopened idle named memory failed
        case neg =>
          obtain ⟨works, present⟩ := not_or.mp failed
          obtain ⟨file, found⟩ := Option.ne_none_iff_exists'.mp present
          obtain ⟨fs, reading, described, data⟩ := openRead_of_named found
          exact opened_ending idle ⟨named, memory, Int.not_lt.mp works, found, reading, described, data⟩ reqId

end downloads

end Luagent.Proofs
