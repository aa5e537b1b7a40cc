import Luagent.Proofs.Balance
import Luagent.Proofs.SpawnArgs

/-! What an answer to an upload request says about the files. A begin request
that is refused may have cleaned up a file that was there before it; an end
request that has replaced the destination always says so. -/

namespace Luagent.Proofs.UploadAnswers
open Foundation FileSystem SpawnArgs

private theorem read_uvFsUnlink (env : Env) (fs : FileSystem) (path name : Path) :
    (uvFsUnlink env fs path).read name = if name = path ∧ 0 ≤ env.fsUnlink path then none else fs.read name := by
  unfold uvFsUnlink
  split
  next failed => rw [if_neg fun both => absurd both.2 (by omega)]
  next works =>
    rw [read_unlink]
    exact if_congr (by simp only [iff_self_and]; exact fun _ => by omega) rfl rfl

private theorem read_abortUpload (env : Env) (world : World) (name : Path) :
    (world.abortUpload env).fs.read name =
      if world.upload.tmpPath = some name ∧ 0 ≤ env.fsUnlink name then none else world.fs.read name := by
  have unlinked {fs : FileSystem} (same : fs.read name = world.fs.read name) (part : Path) :
      (uvFsUnlink env fs part).read name = if some part = some name ∧ 0 ≤ env.fsUnlink name then none else world.fs.read name := by
    rw [read_uvFsUnlink, same]
    refine if_congr ?_ rfl rfl
    rw [Option.some.injEq, eq_comm]
    exact and_congr_right fun own => by rw [own]
  simp only [World.abortUpload, transferAbort]
  cases world.upload.file with
  | none =>
    cases world.upload.tmpPath with
    | none => simp
    | some part => exact unlinked rfl part
  | some fd =>
    have closed : (uvFsClose env world.fs fd).1.read name = world.fs.read name := read_close ..
    cases world.upload.tmpPath with
    | none => simpa using closed
    | some part => exact unlinked closed part

section begins
variable {env : Env} {world : World} {reqId : UInt32} {payload : Bytes}

/-- Which file is there under the temporary name before a begin request that is
refused after it has named the file. Before the open only a file that cannot be
removed or is not there stays as it is; after the open, one that cannot be removed
and holds nothing, or one that can be removed and is not there. -/
def Spared (env : Env) (world : World) (payload : Bytes) : Prop :=
  ∀ path size, world.upload.active = false → Asks payload path size → env.alloc .transferTmpPath = true →
    if env.alloc .transferPath = false ∨ env.fsOpen < 0 then
      0 ≤ env.fsUnlink (partPath path) → world.fs.read (partPath path) = none
    else world.fs.read (partPath path) = if 0 ≤ env.fsUnlink (partPath path) then none else some []

private theorem not_answersError_ack {before link : Link} (same : link.queued = before.queued) (text : Bytes) :
    ¬ AnswersError reqId before (sessionSendText env link .ack reqId text).1 := by
  rintro ⟨frame, member, isError, -⟩
  have queued : (sessionSendText env link .ack reqId text).1.queued =
      link.queued ++ if (sessionSendText env link .ack reqId text).2 then [⟨FrameType.ack.code, reqId, text⟩] else [] :=
    sendFrame_queued ..
  rw [framesSince, queued, same, List.drop_left] at member
  split at member
  · rw [List.mem_singleton] at member
    rw [member] at isError
    cases isError
  · cases member

private theorem unchanged_abort_iff {after : World} (part : Path) (fs : after.fs = world.fs)
    (named : after.upload.tmpPath = some part) :
    (∀ name, (after.abortUpload env).fs.read name = world.fs.read name) ↔ (0 ≤ env.fsUnlink part → world.fs.read part = none) := by
  simp only [read_abortUpload, fs, named, Option.some.injEq]
  constructor
  · intro same works
    have own := same part
    rw [if_pos ⟨rfl, works⟩] at own
    exact own.symm
  · intro spared name
    split
    next both =>
      obtain ⟨rfl, works⟩ := both
      exact (spared works).symm
    next => rfl

private theorem unchanged_created_iff {after : World} (part : Path) (fs : after.fs = world.fs.create part)
    (named : after.upload.tmpPath = some part) :
    (∀ name, (after.abortUpload env).fs.read name = world.fs.read name) ↔
      world.fs.read part = if 0 ≤ env.fsUnlink part then none else some [] := by
  simp only [read_abortUpload, fs, named, Option.some.injEq]
  constructor
  · intro same
    have own := same part
    rw [read_create] at own
    simpa using own.symm
  · intro blank name
    by_cases own : part = name
    · subst own
      rw [read_create, blank]
      simp
    · rw [if_neg fun both => own both.1]
      refine read_create_of_ne _ ?_ (Ne.symm own)
      split at blank
      · exact .inl blank
      · exact .inr blank

private theorem spared_iff {path : Path} {size : Nat} (idle : world.upload.active = false) (asks : Asks payload path size) :
    Spared env world payload ↔ (env.alloc .transferTmpPath = true →
      if env.alloc .transferPath = false ∨ env.fsOpen < 0 then
        0 ≤ env.fsUnlink (partPath path) → world.fs.read (partPath path) = none
      else world.fs.read (partPath path) = if 0 ≤ env.fsUnlink (partPath path) then none else some []) := by
  constructor
  · exact fun all => all path size idle asks
  · intro own other otherSize _ otherAsks memory
    obtain rfl : other = path := Option.some.inj (otherAsks.path.symm.trans asks.path)
    exact own memory

end begins

/-- A begin request that is answered with an error leaves every file as it was if
and only if the file under the temporary name is spared. -/
theorem refused_begin_unchanged_iff (env : Env) (world : World) (reqId : UInt32) (payload : Bytes)
    (answered : AnswersError reqId world.link (transferHandlePutBegin env world reqId payload).1.link) :
    (∀ name, (transferHandlePutBegin env world reqId payload).1.fs.read name = world.fs.read name) ↔ Spared env world payload := by
  have ending := putBegin_ending env world reqId payload
  generalize transferHandlePutBegin env world reqId payload = result at ending answered ⊢
  cases ending with
  | busy active =>
    refine iff_of_true (fun _ => rfl) fun _ _ idle => ?_
    rw [active] at idle
    cases idle
  | missing _ missing => exact iff_of_true (fun _ => rfl) fun path size _ asks => absurd asks (missing path size)
  | unnamed idle asks memory =>
    rw [spared_iff idle asks, sendError_fs]
    cases tmp : env.alloc .transferTmpPath with
    | false =>
      -- without memory for the temporary name there is nothing to remove
      simp [read_abortUpload, namedUpload, tmp]
    | true =>
      have name : env.alloc .transferPath = false := eq_false_of_ne_true fun name => memory ⟨name, tmp⟩
      simp only [name, true_or, if_true, true_implies]
      exact unchanged_abort_iff _ rfl (if_pos tmp)
  | uncreated idle asks memory failed =>
    rw [spared_iff idle asks, sendError_fs, if_pos (.inr failed)]
    simp only [memory.2, true_implies]
    exact unchanged_abort_iff _ rfl rfl
  | overflowed idle asks memory works =>
    rw [spared_iff idle asks, if_neg (by simp [memory.1, Int.not_lt.mpr works])]
    simp only [memory.2, true_implies]
    exact unchanged_created_iff _ rfl rfl
  | begun =>
    exact absurd answered (@not_answersError_ack env reqId world.link (diagCountTransferStart world.link) rfl _)

/-- A name for which the answer to a begin request gets too long. -/
def longName : Path := List.replicate 230 97

/-- A session beside a file under that name with `.part` behind it. -/
def besidePart : World := { Upload.freshSession with fs := (FileSystem.empty.create (partPath longName)).pwrite 0 0 (ascii "hi") }

def longBegin : Bytes := ascii "path=" ++ longName ++ ascii "\nsize=2"

/-- No call fails, and the file is gone. -/
theorem refused_begin_removes :
    AnswersError 7 besidePart.link (transferHandlePutBegin {} besidePart 7 longBegin).1.link ∧
      besidePart.fs.read (partPath longName) = some (ascii "hi") ∧
      (transferHandlePutBegin {} besidePart 7 longBegin).1.fs.read (partPath longName) = none := by
  refine ⟨⟨⟨FrameType.error.code, 7, errorText "internal" (ascii "reply overflow")⟩, ?_, rfl, rfl⟩, ?_, ?_⟩
  · decide +kernel
  · decide +kernel
  · decide +kernel

theorem refused_begin_unchanged_iff_missing :
    AnswersError 7 Upload.freshSession.link (transferHandlePutBegin {} Upload.freshSession 7 (ascii "size=2")).1.link ∧
      ∀ name, (transferHandlePutBegin {} Upload.freshSession 7 (ascii "size=2")).1.fs.read name =
        Upload.freshSession.fs.read name := by
  have answered : AnswersError 7 Upload.freshSession.link
      (transferHandlePutBegin {} Upload.freshSession 7 (ascii "size=2")).1.link :=
    ⟨⟨FrameType.error.code, 7, errorText "bad_payload" (ascii "missing path or size")⟩, by decide +kernel, rfl, rfl⟩
  refine ⟨answered, (refused_begin_unchanged_iff _ _ _ _ answered).mpr fun path size _ asks => ?_⟩
  have missing : kvCopy 512 (ascii "size=2") (ascii "path") = none := by decide
  rw [asks.path] at missing
  cases missing

/-- An end request for which the destination has been replaced, so that only the
answer is left to be written. -/
structure ReachesReply (env : Env) (world : World) (reqId : UInt32) : Prop where
  accepted : uploadRefusal world.upload reqId = none
  complete : world.upload.offset = world.upload.totalSize
  closed : 0 ≤ (uvFsClose env world.fs (world.upload.file.getD 0)).2
  moved : 0 ≤ (transferFinalizeRename env (uvFsClose env world.fs (world.upload.file.getD 0)).1 world.upload.overwrite
    (world.upload.tmpPath.getD []) (world.upload.path.getD [])).2

private theorem handlePutEnd_reply {env : Env} {world : World} {reqId : UInt32} (reaches : ReachesReply env world reqId)
    (fits : (putEndReply (world.upload.path.getD []) world.upload.offset).length < 256) :
    (transferHandlePutEnd env world reqId).2 = true ∧ (transferHandlePutEnd env world reqId).1.link =
      diagCountTransferComplete
        (sessionSendText env world.link .ack reqId (putEndReply (world.upload.path.getD []) world.upload.offset)).1 := by
  have ending := putEnd_ending env world reqId
  generalize transferHandlePutEnd env world reqId = result at ending ⊢
  cases ending with
  | refused refusal =>
    rw [reaches.accepted] at refusal
    cases refusal
  | incomplete _ incomplete => exact absurd reaches.complete incomplete
  | unclosed _ _ failed => exact absurd reaches.closed (Int.not_le.mpr failed)
  | unmoved _ _ _ failed => exact absurd reaches.moved (Int.not_le.mpr failed)
  | overflowed _ _ _ _ long => exact absurd fits (Nat.not_lt.mpr long)
  | finished => exact ⟨rfl, rfl⟩

/-- Whatever the agent has done before, for this session and for others, the answer
to an end request that has replaced the destination fits its buffer, and the
request is acknowledged. -/
theorem end_reply_fits {fs : FileSystem} {history : List ServerEvent} {state : ServerState}
    (executed : server.run (.start fs) history = some state) {id : Nat} {session : Session}
    (found : state.session id = some session) {env : Env} {world : World} (upload : world.upload = session.upload)
    {reqId : UInt32} (reaches : ReachesReply env world reqId) :
    (putEndReply (world.upload.path.getD []) world.upload.offset).length < 256 ∧
      (transferHandlePutEnd env world reqId).2 = true ∧ (transferHandlePutEnd env world reqId).1.link =
        diagCountTransferComplete
          (sessionSendText env world.link .ack reqId (putEndReply (world.upload.path.getD []) world.upload.offset)).1 := by
  have slot : UploadSlot world.upload := upload ▸ ((Balance.followed_of_run executed).kept.sound id session found).1.upload
  obtain ⟨path, holding⟩ := slot.accepted reaches.accepted
  have fits : (putEndReply (world.upload.path.getD []) world.upload.offset).length < 256 := by
    rw [holding.destination, reaches.complete]
    exact Nat.lt_of_le_of_lt (putEndReply_length _ path _) holding.fits
  exact ⟨fits, handlePutEnd_reply reaches fits⟩

/-- A client uploads an empty file. -/
def beginEmpty : List ServerEvent := [.connect {}, .session 1 (Upload.request .putBegin 7 (ascii "path=a\nsize=0")) {}]

def emptyBegun : ServerState := (server.run (.start .empty) beginEmpty).get (by decide)

def emptySession : Session := (emptyBegun.session 1).get (by decide)

theorem end_reply_fits_empty : (transferHandlePutEnd {} (emptyBegun.world 1 emptySession) 7).2 = true := by
  have executed : server.run (.start .empty) beginEmpty = some emptyBegun := (Option.some_get (by decide)).symm
  have found : emptyBegun.session 1 = some emptySession := (Option.some_get (by decide)).symm
  have reaches : ReachesReply {} (emptyBegun.world 1 emptySession) 7 :=
    ⟨by decide +kernel, by decide +kernel, by decide +kernel, by decide +kernel⟩
  have upload : (emptyBegun.world 1 emptySession).upload = emptySession.upload := rfl
  exact (end_reply_fits executed found upload reaches).2.1

end Luagent.Proofs.UploadAnswers
