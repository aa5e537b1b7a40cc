import Luagent.Proofs.SessionSteps

/-! What the callbacks count for the transfers of a session. A transfer that is
counted as started and ends without being counted again is lost to the counters. -/

namespace Luagent.Proofs
open Foundation FileSystem

def isTransfer : Counter → Bool
  | .transferStarts | .transferCompletes | .transferAborts => true
  | _ => false

def OnlyTransfers (counted : List Counter) : Prop := ∀ counter ∈ counted, isTransfer counter = true

def activeTransfers (session : Session) : Nat := session.upload.active.toNat + session.download.active.toNat

/-- A handler counted what it did to the transfers, unless it lost one. -/
def TransferBooks (before after : World) (lost : Prop) : Prop :=
  ∃ counted leaked, Counts before.link counted after.link ∧ OnlyTransfers counted ∧
    counted.count .transferStarts + activeTransfers before.toSession =
      counted.count .transferCompletes + counted.count .transferAborts + activeTransfers after.toSession + leaked ∧
    (leaked = 0 ↔ ¬ lost)

theorem TransferBooks.quiet {before after : World} {lost : Prop} (counts : Counts before.link [] after.link)
    (same : activeTransfers after.toSession = activeTransfers before.toSession) (kept : ¬ lost) :
    TransferBooks before after lost :=
  ⟨[], 0, counts, by simp [OnlyTransfers], by simp [same], by simp [kept]⟩

theorem putBegin_books (env : Env) (world : World) (reqId : UInt32) (payload : Bytes) :
    TransferBooks world (transferHandlePutBegin env world reqId payload).1 (BeginLost env world reqId payload) := by
  have download := (putBegin_only env world reqId payload).download
  have effect := putBegin_effect env world reqId payload
  generalize transferHandlePutBegin env world reqId payload = result at download effect
  cases effect with
  | refused _ upload _ counts kept => exact .quiet counts (by rw [activeTransfers, upload, download]; rfl) kept
  | failed _ idle _ _ upload _ _ counts =>
    have idle : activeTransfers result.1.toSession = activeTransfers world.toSession := by
      rw [activeTransfers, activeTransfers, upload, download, idle]
      rfl
    rcases counts with ⟨kept, counts⟩ | ⟨lost, counts⟩
    · exact .quiet counts idle kept
    · exact ⟨_, 1, counts, by simp [OnlyTransfers, isTransfer], by simp [idle]; omega, by simp [lost]⟩
  | opened _ _ idle _ _ upload _ counts kept =>
    refine ⟨_, 0, counts, by simp [OnlyTransfers, isTransfer], ?_, by simp [kept]⟩
    simp [activeTransfers, upload, download, idle, openedUpload]

/-- An upload in progress, as far as the session holds it. The files are left out:
another session may rename or remove them. -/
structure HoldsUpload (upload : TransferState) (path : Path) : Prop where
  active : upload.active = true
  mode : upload.mode = .upload
  destination : upload.path = some path
  temporary : upload.tmpPath = some (partPath path)
  fits : (beginReply upload.reqId path upload.totalSize).length < 256

theorem Uploading.holding {world : World} {path : Path} {fd file : Nat} (uploading : Uploading world path fd file) :
    HoldsUpload world.upload path :=
  ⟨uploading.active, uploading.mode, uploading.destination, uploading.temporary, uploading.fits⟩

def UploadSlot (upload : TransferState) : Prop := upload = transferInit ∨ ∃ path, HoldsUpload upload path

theorem UploadSlot.accepted {upload : TransferState} (slot : UploadSlot upload) {reqId : UInt32}
    (accepted : uploadRefusal upload reqId = none) : ∃ path, HoldsUpload upload path := by
  refine slot.resolve_left fun idle => ?_
  rw [uploadRefusal_idle (by rw [idle]; rfl)] at accepted
  cases accepted

theorem putChunk_books (env : Env) {world : World} (slot : UploadSlot world.upload) (reqId : UInt32) (payload : Bytes) :
    TransferBooks world (transferHandlePutChunk env world reqId payload).1 False ∧
      UploadSlot (transferHandlePutChunk env world reqId payload).1.upload := by
  have dropped {path : Path} (holding : HoldsUpload world.upload path) {after : World} (upload : after.upload = transferInit)
      (download : after.download = world.download) (counts : Counts world.link [.transferAborts] after.link) :
      TransferBooks world after False ∧ UploadSlot after.upload := by
    refine ⟨⟨_, 0, counts, by simp [OnlyTransfers, isTransfer], ?_, by simp⟩, .inl upload⟩
    simp [activeTransfers, upload, download, holding.active, transferInit]
  have ending := putChunk_ending env world reqId payload
  generalize transferHandlePutChunk env world reqId payload = result at ending ⊢
  cases ending with
  | refused => exact ⟨.quiet (sendError_counts ..) rfl id, slot⟩
  | exceeding accepted | unwritten accepted =>
    obtain ⟨path, holding⟩ := slot.accepted accepted
    exact dropped holding rfl rfl ((sendError_counts env world.link ..).quiet_first (.one _ _))
  | stored accepted =>
    obtain ⟨path, holding⟩ := slot.accepted accepted
    exact ⟨.quiet (.refl _) rfl id, .inr ⟨path, { holding with }⟩⟩

/-- An end request for the upload in progress that does not finish it. -/
def EndLost (env : Env) (world : World) (reqId : UInt32) : Prop :=
  world.upload.active = true ∧ world.upload.reqId = reqId ∧
    (world.upload.offset ≠ world.upload.totalSize ∨ env.fsClose < 0 ∨ env.fsRename < 0 ∨
      world.fs.names (world.upload.tmpPath.getD []) = none)

private theorem finalizeRename_fails (env : Env) (fs : FileSystem) (overwrite : Bool) (path : Path) :
    (transferFinalizeRename env fs overwrite (partPath path) path).2 < 0 ↔
      env.fsRename < 0 ∨ fs.names (partPath path) = none := by
  have kept : (cleared env fs overwrite path).names (partPath path) = fs.names (partPath path) :=
    cleared_names_of_ne env fs overwrite (partPath_ne path).symm
  have unfolded : transferFinalizeRename env fs overwrite (partPath path) path =
      uvFsRename env (cleared env fs overwrite path) (partPath path) path := rfl
  rw [unfolded, uvFsRename, kept]
  split
  next failed => simp [failed]
  next works =>
    cases fs.names (partPath path) with
    | none => simp [uvEnoent]
    | some file => simp [works]

theorem HoldsUpload.lost_iff {world : World} {path : Path} (holding : HoldsUpload world.upload path) {reqId : UInt32}
    (accepted : uploadRefusal world.upload reqId = none) (env : Env) : EndLost env world reqId ↔
      world.upload.offset ≠ world.upload.totalSize ∨ env.fsClose < 0 ∨ (endRename env world).2 < 0 := by
  rw [endRename, holding.temporary, holding.destination, Option.getD_some, Option.getD_some, finalizeRename_fails, close_names]
  simp only [EndLost, holding.active, (uploadRefusal_none accepted).2, holding.temporary, Option.getD_some, true_and]

theorem putEnd_books (env : Env) {world : World} (slot : UploadSlot world.upload) (reqId : UInt32) :
    TransferBooks world (transferHandlePutEnd env world reqId).1 (EndLost env world reqId) ∧
      UploadSlot (transferHandlePutEnd env world reqId).1.upload := by
  have lost (accepted : uploadRefusal world.upload reqId = none) {after : World} (upload : after.upload = transferInit)
      (download : after.download = world.download) (counts : Counts world.link [] after.link)
      (why : world.upload.offset ≠ world.upload.totalSize ∨ env.fsClose < 0 ∨ (endRename env world).2 < 0) :
      TransferBooks world after (EndLost env world reqId) ∧ UploadSlot after.upload := by
    obtain ⟨path, holding⟩ := slot.accepted accepted
    refine ⟨⟨_, 1, counts, by simp [OnlyTransfers], ?_, by simp [(holding.lost_iff accepted env).mpr why]⟩, .inl upload⟩
    simp [activeTransfers, upload, download, holding.active, transferInit]
    omega
  have ending := putEnd_ending env world reqId
  generalize transferHandlePutEnd env world reqId = result at ending ⊢
  cases ending with
  | refused refusal =>
    refine ⟨.quiet (sendError_counts ..) rfl fun lost => ?_, slot⟩
    rcases slot with idle | ⟨path, holding⟩
    · have active := lost.1
      rw [idle] at active
      cases active
    · simp [uploadRefusal, holding.active, holding.mode, lost.2.1] at refusal
  | incomplete accepted incomplete => exact lost accepted rfl rfl (sendError_counts ..) (.inl incomplete)
  | unclosed accepted _ failed => exact lost accepted rfl rfl (sendError_counts env world.link ..) (.inr (.inl failed))
  | unmoved accepted _ _ failed => exact lost accepted rfl rfl (sendError_counts env world.link ..) (.inr (.inr failed))
  | overflowed accepted complete _ _ long =>
    obtain ⟨path, holding⟩ := slot.accepted accepted
    rw [holding.destination, complete] at long
    exact absurd (Nat.lt_of_le_of_lt (putEndReply_length _ path _) holding.fits) (Nat.not_lt.mpr long)
  | finished accepted complete closed moved =>
    obtain ⟨path, holding⟩ := slot.accepted accepted
    have kept : ¬ EndLost env world reqId := by
      rw [holding.lost_iff accepted]
      omega
    have counts := (sendFrame_counts env world.link FrameType.ack.code reqId
      (putEndReply (world.upload.path.getD []) world.upload.offset)).quiet_first (.one _ .transferCompletes)
    refine ⟨⟨_, 0, counts, by simp [OnlyTransfers, isTransfer], ?_, by simp [kept]⟩, .inl rfl⟩
    simp [activeTransfers, holding.active, transferReset]

inductive CountsEnd (before after : Link) : Prop where
  | completed (counts : Counts before [.transferCompletes] after)
  | aborted (counts : Counts before [.transferAborts] after)

theorem CountsEnd.quiet_first {before middle after : Link} (first : Counts before [] middle)
    (ends : CountsEnd middle after) :
    CountsEnd before after := by
  cases ends with
  | completed counts => exact .completed (first.quiet_first counts)
  | aborted counts => exact .aborted (first.quiet_first counts)

private theorem getLoop_counts (env : Env) (reqId : UInt32) (fd : Nat) (world : World) {link : Link}
    (start : world.link = link) :
    CountsEnd link (getLoop env reqId fd world).1.link := by
  subst start
  unfold getLoop
  split
  next more =>
    have failed : ∀ code message, Counts world.link [.transferAborts]
        (sessionSendError env (diagCountTransferAbort world.link) reqId code message).1 := fun code message =>
      (Counts.one world.link .transferAborts).quiet_last (sendError_counts ..)
    simp only
    split
    · exact .aborted (failed _ _)
    next bytes found =>
      split
      · exact .aborted (failed _ _)
      next some =>
        have sent := sendFrame_counts env world.link FrameType.getChunk.code reqId bytes
        split
        · exact .aborted (sent.quiet_first (.one _ _))
        · exact .quiet_first sent (getLoop_counts env reqId fd _ rfl)
  next => exact .completed ((sendFrame_counts env world.link ..).quiet_first (.one _ _))
termination_by world.download.totalSize - world.download.offset
decreasing_by
  omega

/-- A download request that is counted as a start and then fails before its first
read: the acknowledgement does not fit its buffer or cannot be queued, or there is
no memory for the chunks. -/
structure GetLost (env : Env) (world : World) (reqId : UInt32) (payload : Bytes) : Prop where
  memory : env.alloc .transferPath = true
  opens : 0 ≤ env.fsOpen
  stats : 0 ≤ env.fsFstat
  fails : ∃ path content, kvCopy 512 payload (ascii "path") = some path ∧ world.fs.read path = some content ∧
    (256 ≤ (beginReply reqId path content.length).length ∨
      ¬ CanSend env world.link (beginReply reqId path content.length).length ∨ env.alloc .chunk = false)

inductive FetchCounts (lost : Prop) (before after : Link) : Prop where
  | unstarted (counts : Counts before [] after) (kept : ¬ lost)
  | lost (counts : Counts before [.transferStarts] after) (lost : lost)
  | ended {middle : Link} (starts : Counts before [.transferStarts] middle) (ends : CountsEnd middle after) (kept : ¬ lost)

/-- A request that opens its file is lost exactly for one of these. -/
theorem OpensFile.lost_iff {env : Env} {world : World} {payload : Bytes} {path : Path} {file : Nat} {fs : FileSystem}
    (opens : OpensFile env world payload path file fs) (stats : 0 ≤ env.fsFstat) (reqId : UInt32) :
    GetLost env world reqId payload ↔ 256 ≤ (beginReply reqId path (world.fs.data file).length).length ∨
      ¬ CanSend env world.link (beginReply reqId path (world.fs.data file).length).length ∨ env.alloc .chunk = false := by
  have read : world.fs.read path = some (world.fs.data file) := by simp [FileSystem.read, opens.found]
  constructor
  · rintro ⟨_, _, _, other, content, named, reads, why⟩
    cases opens.named.symm.trans named
    cases read.symm.trans reads
    exact why
  · exact fun why => ⟨opens.memory, opens.opens, stats, path, _, opens.named, read, why⟩

private theorem getBegin_counts (env : Env) (world : World) (reqId : UInt32) (payload : Bytes)
    (inactive : world.download.active = false) :
    FetchCounts (GetLost env world reqId payload) world.link (transferHandleGetBegin env world reqId payload).1.link := by
  have started := Counts.one world.link .transferStarts
  have acked (text : Bytes) : Counts world.link [.transferStarts]
      (sessionSendText env (diagCountTransferStart world.link) .ack reqId text).1 := started.quiet_last (sendFrame_counts ..)
  have ending := getBegin_ending env world reqId payload
  generalize transferHandleGetBegin env world reqId payload = result at ending ⊢
  cases ending with
  | busy active =>
    rw [inactive] at active
    cases active
  | missing _ missing =>
    refine .unstarted (sendError_counts ..) fun lost => ?_
    obtain ⟨_, _, named, _⟩ := lost.fails
    rw [missing] at named
    cases named
  | unnamed _ _ memory =>
    refine .unstarted (sendError_counts env world.link ..) fun lost => ?_
    rw [lost.memory] at memory
    cases memory
  | unopened _ named _ failed =>
    refine .unstarted (sendError_counts env world.link ..) fun lost => ?_
    obtain ⟨_, _, same, read, _⟩ := lost.fails
    cases named.symm.trans same
    obtain ⟨file, found, _⟩ := Option.map_eq_some_iff.mp read
    rcases failed with refused | free
    · exact absurd lost.opens (Int.not_le.mpr refused)
    · rw [found] at free
      cases free
  | unsized _ _ failed =>
    exact .unstarted (sendError_counts env world.link ..) fun lost => absurd lost.stats (Int.not_le.mpr failed)
  | overflowed _ opens stats long =>
    exact .lost (started.quiet_last (sendError_counts ..)) ((opens.lost_iff stats reqId).mpr (.inl long))
  | unanswered _ opens stats fits unsent =>
    refine .lost (acked _) ((opens.lost_iff stats reqId).mpr (.inr (.inl fun can => ?_)))
    rw [(ack_sent_iff fits).mpr can] at unsent
    cases unsent
  | unbuffered _ opens stats _ _ memory =>
    exact .lost ((acked _).quiet_last (sendError_counts ..)) ((opens.lost_iff stats reqId).mpr (.inr (.inr memory)))
  | looped _ opens stats fits sent memory =>
    refine .ended (acked _) (getLoop_counts env reqId _ _ rfl) ?_
    rw [opens.lost_iff stats, memory]
    rintro (long | cannot | missing)
    · exact absurd fits (Nat.not_lt.mpr long)
    · exact cannot ((ack_sent_iff fits).mp sent)
    · cases missing

theorem getBegin_books (env : Env) (world : World) (reqId : UInt32) (payload : Bytes)
    (idle : world.download = transferInit) :
    TransferBooks world (transferHandleGetBegin env world reqId payload).1 (GetLost env world reqId payload) := by
  have fetched := getBegin_fetched env world reqId payload idle
  have same : activeTransfers (transferHandleGetBegin env world reqId payload).1.toSession =
      activeTransfers world.toSession := by
    rw [activeTransfers, fetched.upload, fetched.download]
    rfl
  cases getBegin_counts env world reqId payload (by rw [idle]; rfl) with
  | unstarted counts kept => exact .quiet counts same kept
  | lost counts lost => exact ⟨_, 1, counts, by simp [OnlyTransfers, isTransfer], by simp [same]; omega, by simp [lost]⟩
  | ended starts ends kept =>
    cases ends with
    | completed counts =>
      exact ⟨_, 0, starts.trans counts, by simp [OnlyTransfers, isTransfer], by simp [same], by simp [kept]⟩
    | aborted counts =>
      exact ⟨_, 0, starts.trans counts, by simp [OnlyTransfers, isTransfer], by simp [same], by simp [kept]⟩

end Luagent.Proofs
