import Luagent.Proofs.Sending
import Luagent.Proofs.TransferEndings

/-! What each callback can do to the transfers of a session and to the file
system. Only the three upload handlers change a file; a download leaves the
file system as it was. -/

namespace Luagent.Proofs
open Foundation FileSystem

private theorem spares_uvFsUnlink (env : Env) (fs : FileSystem) (part : Path) :
    Spares part fs (uvFsUnlink env fs part) := by
  unfold uvFsUnlink
  split
  · exact .refl fs
  · exact .unlink fs part

/-- An abort touches at most the temporary file. -/
theorem spares_abort (env : Env) (fs : FileSystem) (transfer : TransferState) {part : Path}
    (named : ∀ tmpPath, transfer.tmpPath = some tmpPath → tmpPath = part) :
    Spares part fs (transferAbort env fs transfer).1 := by
  unfold transferAbort
  simp only
  cases tmp : transfer.tmpPath with
  | none =>
    cases transfer.file with
    | none => exact .refl fs
    | some fd => exact .close fs part fd
  | some tmpPath =>
    cases named tmpPath tmp
    cases transfer.file with
    | none => exact spares_uvFsUnlink env fs part
    | some fd => exact (Spares.close fs part fd).trans (spares_uvFsUnlink env _ part)

/-- What an abort leaves of an upload: no descriptor and, when the unlink
succeeds, no temporary file. -/
structure Removed (env : Env) (fd : Nat) (part : Path) (fs : FileSystem) : Prop where
  closed : fs.fds fd = none
  unlinked : 0 ≤ env.fsUnlink part → fs.names part = none

private theorem uvFsUnlink_removed {env : Env} {fs : FileSystem} {fd : Nat} (closed : fs.fds fd = none) (part : Path) :
    Removed env fd part (uvFsUnlink env fs part) := by
  unfold uvFsUnlink
  split
  next failed => exact ⟨closed, fun works => by omega⟩
  next => exact ⟨closed, fun _ => by simp⟩

theorem removed_abort {env : Env} {fs : FileSystem} {transfer : TransferState} {fd : Nat} {part : Path}
    (file : transfer.file = some fd) (tmpPath : transfer.tmpPath = some part) :
    Removed env fd part (transferAbort env fs transfer).1 := by
  simp only [transferAbort, file, tmpPath, uvFsClose]
  exact uvFsUnlink_removed (close_fds_self fs fd) part

theorem removed_abortUpload_closed {env : Env} {world : World} {fd : Nat} {part : Path}
    (file : world.upload.file = none) (closed : world.fs.fds fd = none) (tmpPath : world.upload.tmpPath = some part) :
    Removed env fd part (world.abortUpload env).fs := by
  simp only [World.abortUpload, transferAbort, file, tmpPath]
  exact uvFsUnlink_removed closed part

private theorem abort_names {env : Env} {part : Path} (works : 0 ≤ env.fsUnlink part) (fs : FileSystem)
    (transfer : TransferState)
    (named : ∀ tmpPath, transfer.tmpPath = some tmpPath → tmpPath = part) :
    (transferAbort env fs transfer).1.names part = none ∨ (transferAbort env fs transfer).1.names = fs.names := by
  unfold transferAbort
  simp only
  cases tmp : transfer.tmpPath with
  | none =>
    refine .inr ?_
    cases transfer.file <;> simp [uvFsClose]
  | some tmpPath =>
    cases named tmpPath tmp
    exact .inl (by simp [uvFsUnlink, Int.not_lt.mpr works])

@[simp] theorem sendError_fs (world : World) (env : Env) (reqId : UInt32) (code : String) (message : Bytes) :
    (world.sendError env reqId code message).fs = world.fs := rfl

theorem spares_abortUpload {env : Env} {world : World} {fs : FileSystem} {part : Path} (same : world.fs = fs)
    (named : ∀ tmpPath, world.upload.tmpPath = some tmpPath → tmpPath = part) :
    Spares part fs (world.abortUpload env).fs := same ▸ spares_abort env world.fs world.upload named

theorem removed_abortUpload {env : Env} {world : World} {fd : Nat} {part : Path} (file : world.upload.file = some fd)
    (tmpPath : world.upload.tmpPath = some part) : Removed env fd part (world.abortUpload env).fs :=
  removed_abort file tmpPath

theorem abortUpload_names {env : Env} {world : World} {fs : FileSystem} {part : Path} (same : world.fs = fs)
    (works : 0 ≤ env.fsUnlink part) (named : ∀ tmpPath, world.upload.tmpPath = some tmpPath → tmpPath = part) :
    (world.abortUpload env).fs.names part = none ∨ (world.abortUpload env).fs.names = fs.names :=
  same ▸ abort_names works world.fs world.upload named

/-- The slots no upload handler, and no part of a download, writes to. -/
structure SameRest (before after : World) : Prop where
  life : Quiet before.link.life after.link.life
  proc : after.proc = before.proc := by rfl
  engine : after.engine = before.engine := by rfl
  released : after.released = before.released := by rfl
  sessionId : after.sessionId = before.sessionId := by rfl
  nextProcId : after.nextProcId = before.nextProcId := by rfl
  ran : after.ran = before.ran := by rfl

namespace SameRest
variable {before middle after : World}

theorem refl (world : World) : SameRest world world := { life := .refl _ }

theorem trans (first : SameRest before middle) (second : SameRest middle after) : SameRest before after :=
  ⟨first.life.trans second.life, second.proc.trans first.proc, second.engine.trans first.engine,
    second.released.trans first.released, second.sessionId.trans first.sessionId, second.nextProcId.trans first.nextProcId,
    second.ran.trans first.ran⟩

theorem sendError (world : World) (env : Env) (reqId : UInt32) (code : String) (message : Bytes) :
    SameRest world (world.sendError env reqId code message) :=
  { life := sendError_life env world.link reqId code message }

theorem sendText (world : World) (env : Env) (type : FrameType) (reqId : UInt32) (text : Bytes) :
    SameRest world (world.sendText env type reqId text).1 :=
  { life := sendFrame_life env world.link type.code reqId text }

theorem abortUpload (world : World) (env : Env) : SameRest world (world.abortUpload env) := { life := .refl _ }

end SameRest

/-- What a download leaves behind: a slot as before the request, and the file
system without the descriptor it used. -/
structure Downloaded (before after : World) (fs : FileSystem) : Prop where
  upload : after.upload = before.upload
  download : after.download = transferInit
  fs : after.fs = fs
  rest : SameRest before after

private theorem downloaded_abort {env : Env} {world : World} {fd : Nat} (file : world.download.file = some fd)
    (tmpPath : world.download.tmpPath = none) : Downloaded world (world.abortDownload env) (world.fs.close fd) where
  upload := rfl
  download := rfl
  fs := by simp [World.abortDownload, transferAbort, uvFsClose, file, tmpPath]
  rest := { life := .refl _ }

theorem Downloaded.sendError {before after : World} {fs : FileSystem} (done : Downloaded before after fs)
    (env : Env) (reqId : UInt32) (code : String) (message : Bytes) :
    Downloaded before (after.sendError env reqId code message) fs :=
  ⟨done.upload, done.download, done.fs, done.rest.trans (.sendError after env reqId code message)⟩

theorem Downloaded.of_sameRest {before middle after : World} {fs : FileSystem} (done : Downloaded middle after fs)
    (upload : middle.upload = before.upload) (first : SameRest before middle) : Downloaded before after fs :=
  ⟨done.upload.trans upload, done.download, done.fs, first.trans done.rest⟩

private theorem getLoop_downloaded (env : Env) (reqId : UInt32) (fd : Nat) (world : World)
    (file : world.download.file = some fd) (tmpPath : world.download.tmpPath = none) :
    Downloaded world (getLoop env reqId fd world).1 (world.fs.close fd) := by
  have aborted : ∀ link : Link, Quiet world.link.life link.life →
      Downloaded world ({ world with link }.abortDownload env) (world.fs.close fd) := fun link quiet =>
    .of_sameRest (@downloaded_abort env { world with link } fd file tmpPath) rfl { life := quiet }
  unfold getLoop
  split
  next more =>
    simp only
    split
    · exact (aborted (diagCountTransferAbort world.link) (.refl _)).sendError ..
    next bytes found =>
      split
      · exact (aborted (diagCountTransferAbort world.link) (.refl _)).sendError ..
      next some =>
        have quiet := sendFrame_life env world.link FrameType.getChunk.code reqId bytes
        split
        · exact aborted _ quiet
        · exact .of_sameRest (getLoop_downloaded env reqId fd _ file tmpPath) rfl { life := quiet }
  next =>
    exact ⟨rfl, rfl, rfl, { life := sendFrame_life env world.link FrameType.getEnd.code reqId (ascii "status=ok") }⟩
termination_by world.download.totalSize - world.download.offset
decreasing_by
  omega

structure LeavesFiles (before after : World) : Prop where
  upload : after.upload = before.upload
  download : after.download = before.download
  fs : Preserves before.fs after.fs

theorem LeavesFiles.refl (world : World) : LeavesFiles world world := ⟨rfl, rfl, .refl _⟩

theorem LeavesFiles.trans {before middle after : World} (first : LeavesFiles before middle)
    (second : LeavesFiles middle after) : LeavesFiles before after :=
  ⟨second.upload.trans first.upload, second.download.trans first.download, first.fs.trans second.fs⟩

/-- A download request leaves both slots and at most visits a file. -/
structure Fetched (before after : World) : Prop where
  upload : after.upload = before.upload
  download : after.download = before.download
  fs : Visits before.fs after.fs
  rest : SameRest before after

theorem ack_sent_iff {env : Env} {link : Link} {reqId : UInt32} {text : Bytes} (short : text.length < 256) :
    (sessionSendText env (diagCountTransferStart link) .ack reqId text).2 = true ↔ CanSend env link text.length :=
  ⟨fun sent => (canSend_of_sent reqId sent).counted link.tally,
    fun can => sendFrame_sent reqId (by decide) (short.le.trans (by decide)) (can.counted _)⟩

theorem getBegin_fetched (env : Env) (world : World) (reqId : UInt32) (payload : Bytes)
    (idle : world.download = transferInit) : Fetched world (transferHandleGetBegin env world reqId payload).1 := by
  have unnamed : world.download.tmpPath = none := by rw [idle]; rfl
  -- whatever happens to the file once it is open, its descriptor is given back
  have settle {path : Path} {file : Nat} {fs : FileSystem} {middle after : World}
      (opens : OpensFile env world payload path file fs) (done : Downloaded middle after (fs.close world.fs.nextFd))
      (upload : middle.upload = world.upload) (same : SameRest world middle) : Fetched world after :=
    ⟨done.upload.trans upload, done.download.trans idle.symm, done.fs ▸ .opened opens.reading, same.trans done.rest⟩
  have replied {path : Path} {fs : FileSystem} {size : Nat} (reply : Bytes) :
      SameRest world ((fetchingWorld env world reqId payload path fs size).sendText env .ack reqId reply).1 :=
    { life := sendFrame_life env (diagCountTransferStart world.link) FrameType.ack.code reqId reply }
  have ending := getBegin_ending env world reqId payload
  generalize transferHandleGetBegin env world reqId payload = result at ending ⊢
  cases ending with
  | busy | missing => exact ⟨rfl, rfl, .nothing, .sendError ..⟩
  | unnamed =>
    refine ⟨rfl, ?_, .nothing, { life := sendError_life .. }⟩
    simp [World.sendError, idle, transferInit]
  | unopened =>
    refine ⟨rfl, idle.symm, ?_, { life := sendError_life .. }⟩
    simp only [World.sendError, World.abortDownload, transferAbort, fetchSlot, idle, transferInit]
    exact .nothing
  | unsized _ opens | overflowed _ opens =>
    exact settle opens ((downloaded_abort (by rfl) (by exact unnamed)).sendError ..) (by rfl) { life := .refl _ }
  | unanswered _ opens =>
    exact settle opens (downloaded_abort (by rfl) (by exact unnamed)) (by rfl) (replied _)
  | unbuffered _ opens =>
    exact settle opens ((downloaded_abort (by rfl) (by exact unnamed)).sendError ..) (by rfl) (replied _)
  | looped _ opens =>
    exact settle opens (getLoop_downloaded env reqId _ _ (by rfl) (by exact unnamed)) (by rfl) (replied _)

theorem getBegin_effect (env : Env) (world : World) (reqId : UInt32) (payload : Bytes)
    (idle : world.download = transferInit) :
    LeavesFiles world (transferHandleGetBegin env world reqId payload).1 ∧
      SameRest world (transferHandleGetBegin env world reqId payload).1 := by
  have fetched := getBegin_fetched env world reqId payload idle
  exact ⟨⟨fetched.upload, fetched.download, fetched.fs.preserves⟩, fetched.rest⟩

end Luagent.Proofs
