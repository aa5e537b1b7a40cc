import Luagent.Proofs.TransferEffects

/-! The three upload handlers, case by case. Everything later proofs need about
them is in these lemmas. -/

namespace Luagent.Proofs
open Foundation FileSystem

private theorem strtoull_lt {text rest : Bytes} {value : Nat} (converted : strtoull text = some (value, rest)) :
    value < 2 ^ 64 := by
  unfold strtoull at converted
  simp only [Option.ite_none_left_eq_some, Option.some.injEq, Prod.mk.injEq] at converted
  obtain ⟨_, small, rfl, _⟩ := converted
  split
  · exact Nat.mod_lt _ (by decide)
  · exact Nat.not_le.mp small

private theorem parseUnsigned_lt {text : Bytes} {value : Nat} (parsed : parseUnsigned text = some value) :
    value < 2 ^ 64 := by
  unfold parseUnsigned at parsed
  split at parsed
  next converted =>
    cases parsed
    exact strtoull_lt converted
  next => cases parsed

theorem kvU64_lt {payload key : Bytes} {value : Nat} (found : kvU64 payload key = some value) : value < 2 ^ 64 := by
  obtain ⟨text, _, parsed⟩ := Option.bind_eq_some_iff.mp found
  exact parseUnsigned_lt parsed

theorem partPath_ne (path : Path) : path ≠ partPath path := by
  intro same
  have := congrArg List.length same
  simp [partPath, ascii] at this

/-- A begin request that is counted as a start and then fails. -/
structure BeginLost (env : Env) (world : World) (reqId : UInt32) (payload : Bytes) : Prop where
  idle : world.upload.active = false
  memory : env.alloc .transferPath = true ∧ env.alloc .transferTmpPath = true
  fails : ∃ path size, Asks payload path size ∧ (env.fsOpen < 0 ∨ 256 ≤ (beginReply reqId path size).length)

inductive BeginEffect (env : Env) (before : World) (reqId : UInt32) (payload : Bytes) (after : World × Bool) : Prop where
  | refused (result : after.2 = false) (upload : after.1.upload = before.upload) (fs : after.1.fs = before.fs)
      (counts : Counts before.link [] after.1.link) (kept : ¬ BeginLost env before reqId payload)
  | failed (path : Path) (idle : before.upload.active = false) (named : kvCopy 512 payload (ascii "path") = some path)
      (result : after.2 = false) (upload : after.1.upload = transferInit)
      (fs : Spares (partPath path) before.fs after.1.fs)
      (removed : 0 ≤ env.fsUnlink (partPath path) →
        after.1.fs.names (partPath path) = none ∨ after.1.fs.names = before.fs.names)
      (counts : ¬ BeginLost env before reqId payload ∧ Counts before.link [] after.1.link ∨
        BeginLost env before reqId payload ∧ Counts before.link [.transferStarts] after.1.link)
  | opened (path : Path) (size : Nat) (idle : before.upload.active = false) (asks : Asks payload path size)
      (fits : (beginReply reqId path size).length < 256)
      (upload : after.1.upload = openedUpload env reqId payload path size before.fs.nextFd)
      (fs : after.1.fs = before.fs.create (partPath path))
      (counts : Counts before.link [.transferStarts] after.1.link) (kept : ¬ BeginLost env before reqId payload)

theorem Asks.unique {payload : Bytes} {path other : Path} {size otherSize : Nat} (asks : Asks payload path size)
    (again : Asks payload other otherSize) : other = path ∧ otherSize = size :=
  ⟨Option.some.inj (again.path.symm.trans asks.path), Option.some.inj (again.size.symm.trans asks.size)⟩

theorem putBegin_effect (env : Env) (world : World) (reqId : UInt32) (payload : Bytes) :
    BeginEffect env world reqId payload (transferHandlePutBegin env world reqId payload) := by
  have counted := Counts.one world.link .transferStarts
  have part {path other : Path} (named : some (partPath path) = some other) : other = partPath path :=
    (Option.some.inj named).symm
  have ending := putBegin_ending env world reqId payload
  generalize transferHandlePutBegin env world reqId payload = result at ending ⊢
  cases ending with
  | busy active =>
    refine .refused rfl rfl rfl (sendError_counts ..) fun lost => ?_
    rw [lost.idle] at active
    cases active
  | missing idle missing =>
    refine .refused rfl rfl rfl (sendError_counts ..) fun lost => ?_
    obtain ⟨path, size, asks, _⟩ := lost.fails
    exact missing path size asks
  | @unnamed path size idle asks memory =>
    have named : ∀ tmpPath, (namedUpload env world.upload path).tmpPath = some tmpPath → tmpPath = partPath path := by
      intro tmpPath found
      simp only [namedUpload] at found
      split at found
      · exact part found
      · cases found
    exact .failed path idle asks.path rfl rfl (spares_abortUpload rfl named) (fun works => abortUpload_names rfl works named)
      (.inl ⟨fun lost => memory lost.memory, sendError_counts env world.link ..⟩)
  | @uncreated path size idle asks memory failed =>
    refine .failed path idle asks.path rfl rfl ?_ (fun works => ?_)
      (.inr ⟨⟨idle, memory, path, size, asks, .inl failed⟩, counted.quiet_last (sendError_counts ..)⟩) <;> rw [sendError_fs]
    · exact spares_abortUpload rfl fun _ => part
    · exact abortUpload_names rfl works fun _ => part
  | @overflowed path size idle asks memory works long =>
    exact .failed path idle asks.path rfl rfl ((Spares.create world.fs _).trans (spares_abortUpload rfl fun _ => part))
      (fun unlinks => .inl ((removed_abortUpload rfl rfl).unlinked unlinks))
      (.inr ⟨⟨idle, memory, path, size, asks, .inr long⟩, counted.quiet_last (sendError_counts ..)⟩)
  | @begun path size idle asks memory works fits =>
    refine .opened path size idle asks fits rfl rfl (counted.quiet_last (sendFrame_counts ..)) fun lost => ?_
    obtain ⟨otherPath, otherSize, other, fails⟩ := lost.fails
    obtain ⟨rfl, rfl⟩ := asks.unique other
    omega

/-- An upload in progress: the slot names the destination and the descriptor,
which denotes the file under the `.part` name. -/
structure Uploading (world : World) (path : Path) (fd file : Nat) : Prop where
  active : world.upload.active = true
  mode : world.upload.mode = .upload
  destination : world.upload.path = some path
  temporary : world.upload.tmpPath = some (partPath path)
  descriptor : world.upload.file = some fd
  described : world.fs.fds fd = some file
  named : world.fs.names (partPath path) = some file
  inside : world.upload.offset ≤ world.upload.totalSize
  bounded : world.upload.totalSize < 2 ^ 64
  fits : (beginReply world.upload.reqId path world.upload.totalSize).length < 256

structure Stored (world : World) (file : Nat) (received : Bytes) : Prop where
  content : world.fs.data file = received
  offset : world.upload.offset = received.length

theorem Uploading.preserved {before after : World} {path : Path} {fd file : Nat} (uploading : Uploading before path fd file)
    (upload : after.upload = before.upload) (fs : Preserves before.fs after.fs) : Uploading after path fd file where
  active := upload ▸ uploading.active
  mode := upload ▸ uploading.mode
  destination := upload ▸ uploading.destination
  temporary := upload ▸ uploading.temporary
  descriptor := upload ▸ uploading.descriptor
  described := fs.fds fd file uploading.described
  named := fs.names ▸ uploading.named
  inside := upload ▸ uploading.inside
  bounded := upload ▸ uploading.bounded
  fits := upload ▸ uploading.fits

theorem Uploading.counted {world : World} {path : Path} {fd file : Nat} (uploading : Uploading world path fd file)
    (message : Message) : Uploading (world.countFrame message) path fd file := uploading.preserved rfl (.refl _)

def UploadShape (world : World) : Prop := world.upload = transferInit ∨ ∃ path fd file, Uploading world path fd file

theorem UploadShape.counted {world : World} (shape : UploadShape world) (message : Message) :
    UploadShape (world.countFrame message) :=
  shape.imp id fun ⟨path, fd, file, uploading⟩ => ⟨path, fd, file, uploading.counted message⟩

theorem Stored.preserved {before after : World} {file : Nat} {received : Bytes} (stored : Stored before file received)
    (upload : after.upload = before.upload) (fs : Preserves before.fs after.fs) : Stored after file received :=
  ⟨fs.data ▸ stored.content, upload ▸ stored.offset⟩

theorem uploading_of_opened {env : Env} {before after : World} {reqId : UInt32} {payload : Bytes} {path : Path}
    {size : Nat} (asks : Asks payload path size) (fits : (beginReply reqId path size).length < 256)
    (upload : after.upload = openedUpload env reqId payload path size before.fs.nextFd)
    (fs : after.fs = before.fs.create (partPath path)) :
    Uploading after path before.fs.nextFd (before.fs.target (partPath path)) ∧
      Stored after (before.fs.target (partPath path)) [] := by
  constructor
  · exact {
      active := by rw [upload]; rfl
      mode := by rw [upload]; rfl
      destination := by rw [upload]; rfl
      temporary := by rw [upload]; rfl
      descriptor := by rw [upload]; rfl
      described := by simp [fs, nextFd]
      named := by simp [fs]
      inside := by rw [upload]; exact Nat.zero_le _
      bounded := by rw [upload]; exact kvU64_lt asks.size
      fits := by rw [upload]; exact fits }
  · exact ⟨by simp [fs], by rw [upload]; rfl⟩

theorem uploadRefusal_idle {upload : TransferState} (idle : upload.active = false) (reqId : UInt32) :
    uploadRefusal upload reqId = some (ascii "no active transfer") := by
  simp [uploadRefusal, idle]

theorem uploadRefusal_none {upload : TransferState} {reqId : UInt32} (accepted : uploadRefusal upload reqId = none) :
    upload.active = true ∧ upload.reqId = reqId := by
  unfold uploadRefusal at accepted
  split at accepted
  · cases accepted
  next matching => simpa using matching

theorem Uploading.refusal {world : World} {path : Path} {fd file : Nat} (uploading : Uploading world path fd file)
    {reqId : UInt32} {message : Bytes} (refused : uploadRefusal world.upload reqId = some message) :
    world.upload.reqId ≠ reqId := by
  intro same
  simp [uploadRefusal, uploading.active, uploading.mode, same] at refused

private theorem uvFsWrite_effect (env : Env) {fs : FileSystem} {fd file : Nat} (described : fs.fds fd = some file)
    (offset : Nat) (bytes : Bytes) :
    ((uvFsWrite env fs fd offset bytes).1 = fs ∧ (uvFsWrite env fs fd offset bytes).2 < 0) ∨
      ∃ count, (uvFsWrite env fs fd offset bytes).1 = fs.pwrite fd offset (bytes.take count) ∧
        (uvFsWrite env fs fd offset bytes).2 = (bytes.take count).length := by
  unfold uvFsWrite
  split
  next failed => exact .inl ⟨rfl, failed⟩
  next =>
    rw [if_neg (by simp [described])]
    exact .inr ⟨_, rfl, rfl⟩

inductive ChunkEffect (env : Env) (before : World) (fd : Nat) (path : Path) (reqId : UInt32) (payload : Bytes)
    (after : World × Bool) : Prop where
  | refused (other : before.upload.reqId ≠ reqId) (result : after.2 = false)
      (upload : after.1.upload = before.upload) (fs : after.1.fs = before.fs)
      (counts : Counts before.link [] after.1.link)
  | dropped (result : after.2 = false) (upload : after.1.upload = transferInit)
      (fs : Spares (partPath path) before.fs after.1.fs) (removed : Removed env fd (partPath path) after.1.fs)
      (counts : Counts before.link [.transferAborts] after.1.link)
  | stored (same : before.upload.reqId = reqId) (result : after.2 = true)
      (within : (before.upload.offset + payload.length) % 2 ^ 64 ≤ before.upload.totalSize)
      (upload : after.1.upload = { before.upload with
        offset := (before.upload.offset + payload.length) % 2 ^ 64, lastProgressMs := env.now })
      (fs : after.1.fs = before.fs.pwrite fd before.upload.offset payload)
      (counts : Counts before.link [] after.1.link)

theorem Uploading.part {world : World} {path : Path} {fd file : Nat} (uploading : Uploading world path fd file)
    (tmpPath : Path) (found : world.upload.tmpPath = some tmpPath) : tmpPath = partPath path :=
  Option.some.inj (found.symm.trans uploading.temporary)

/-- The write of a chunk touches at most the temporary file, and stores all of a
chunk it does not report to be short. -/
theorem Uploading.writes {world : World} {path : Path} {fd file : Nat} (uploading : Uploading world path fd file)
    (env : Env) (payload : Bytes) : Spares (partPath path) world.fs (chunkWrite env world payload).1 ∧
      (¬ ((chunkWrite env world payload).2 < 0 ∨ (chunkWrite env world payload).2.toNat ≠ payload.length) →
        (chunkWrite env world payload).1 = world.fs.pwrite fd world.upload.offset payload) := by
  rw [show chunkWrite env world payload = uvFsWrite env world.fs fd world.upload.offset payload by
    rw [chunkWrite, uploading.descriptor, Option.getD_some]]
  rcases uvFsWrite_effect env uploading.described world.upload.offset payload with ⟨same, failed⟩ | ⟨count, stored, length⟩
  · exact ⟨by rw [same]; exact .refl _, fun whole => absurd (.inl failed) whole⟩
  · refine ⟨stored ▸ .pwrite uploading.described uploading.named _ _, fun whole => ?_⟩
    have all : (payload.take count).length = payload.length := by
      by_contra different
      exact whole (.inr (by rw [length]; exact different))
    rw [stored, List.take_of_length_le (by simp only [List.length_take] at all; omega)]

theorem putChunk_effect (env : Env) {world : World} {path : Path} {fd file : Nat}
    (uploading : Uploading world path fd file) (reqId : UInt32) (payload : Bytes) :
    ChunkEffect env world fd path reqId payload (transferHandlePutChunk env world reqId payload) := by
  have aborted (code message) : Counts world.link [.transferAborts]
      (diagCountTransferAbort (sessionSendError env world.link reqId code message).1) :=
    (sendError_counts ..).quiet_first (.one _ _)
  obtain ⟨spares, stored⟩ := uploading.writes env payload
  have ending := putChunk_ending env world reqId payload
  generalize transferHandlePutChunk env world reqId payload = result at ending ⊢
  cases ending with
  | refused refusal => exact .refused (uploading.refusal refusal) rfl rfl rfl (sendError_counts ..)
  | exceeding =>
    exact .dropped rfl rfl (spares_abortUpload rfl uploading.part)
      (removed_abortUpload uploading.descriptor uploading.temporary) (aborted _ _)
  | unwritten =>
    exact .dropped rfl rfl (spares.trans (spares_abortUpload rfl uploading.part))
      (removed_abortUpload uploading.descriptor uploading.temporary) (aborted _ _)
  | stored accepted within whole =>
    exact .stored (uploadRefusal_none accepted).2 rfl within rfl (stored whole) (.refl _)

theorem uploading_of_stored {env : Env} {before after : World} {path : Path} {fd file : Nat} {payload : Bytes}
    (uploading : Uploading before path fd file)
    (within : (before.upload.offset + payload.length) % 2 ^ 64 ≤ before.upload.totalSize)
    (upload : after.upload = { before.upload with
      offset := (before.upload.offset + payload.length) % 2 ^ 64, lastProgressMs := env.now })
    (fs : after.fs = before.fs.pwrite fd before.upload.offset payload) : Uploading after path fd file where
  active := by rw [upload]; exact uploading.active
  mode := by rw [upload]; exact uploading.mode
  destination := by rw [upload]; exact uploading.destination
  temporary := by rw [upload]; exact uploading.temporary
  descriptor := by rw [upload]; exact uploading.descriptor
  described := by rw [fs, pwrite_fds]; exact uploading.described
  named := by rw [fs, pwrite_names]; exact uploading.named
  inside := by rw [upload]; exact within
  bounded := by rw [upload]; exact uploading.bounded
  fits := by rw [upload]; exact uploading.fits

/-- A chunk is appended to what was received, as long as the offset cannot wrap. -/
theorem stored_append {env : Env} {before after : World} {path : Path} {fd file : Nat} {received payload : Bytes}
    (uploading : Uploading before path fd file) (stored : Stored before file received)
    (small : before.upload.totalSize < 2 ^ 63) (bounded : payload.length ≤ maxFramePayload)
    (upload : after.upload = { before.upload with
      offset := (before.upload.offset + payload.length) % 2 ^ 64, lastProgressMs := env.now })
    (fs : after.fs = before.fs.pwrite fd before.upload.offset payload) :
    Stored after file (received ++ payload) where
  content := by
    rw [fs, pwrite_data _ uploading.described, Function.update_self, stored.offset, stored.content, writeAt_length]
  offset := by
    have inside := uploading.inside
    have offset := stored.offset
    unfold maxFramePayload at bounded
    rw [upload, List.length_append, ← offset]
    exact Nat.mod_eq_of_lt (by omega)

def cleared (env : Env) (fs : FileSystem) (overwrite : Bool) (path : Path) : FileSystem :=
  if overwrite then uvFsUnlink env fs path else fs

theorem cleared_names_of_ne (env : Env) (fs : FileSystem) (overwrite : Bool) {path other : Path}
    (different : other ≠ path) : (cleared env fs overwrite path).names other = fs.names other := by
  unfold cleared uvFsUnlink
  split
  · split <;> simp [different]
  · rfl

theorem cleared_data (env : Env) (fs : FileSystem) (overwrite : Bool) (path : Path) :
    (cleared env fs overwrite path).data = fs.data := by
  unfold cleared uvFsUnlink
  split
  · split <;> rfl
  · rfl

theorem cleared_files (env : Env) (fs : FileSystem) (overwrite : Bool) (path : Path) :
    (cleared env fs overwrite path).files = fs.files := by
  unfold cleared uvFsUnlink
  split
  · split <;> rfl
  · rfl

theorem cleared_fds (env : Env) (fs : FileSystem) (overwrite : Bool) (path : Path) (fd : Nat) :
    (cleared env fs overwrite path).fds fd = fs.fds fd := by
  unfold cleared uvFsUnlink
  split
  · split <;> rfl
  · rfl

theorem cleared_free (env : Env) {fs : FileSystem} (overwrite : Bool) (path : Path) {name : Path}
    (free : fs.names name = none) : (cleared env fs overwrite path).names name = none := by
  by_cases same : name = path
  · subst same
    unfold cleared uvFsUnlink
    split
    · split
      · exact free
      · simp
    · exact free
  · rw [cleared_names_of_ne env fs overwrite same, free]

theorem cleared_forgets (env : Env) (fs : FileSystem) (overwrite : Bool) (path : Path) :
    Forgets fs (cleared env fs overwrite path) := by
  unfold cleared uvFsUnlink
  split
  · split <;> exact .of_fds rfl rfl
  · exact .of_fds rfl rfl

theorem cleared_apart (env : Env) {fs : FileSystem} (overwrite : Bool) {path part : Path}
    (apart : fs.Apart path part) : (cleared env fs overwrite path).Apart path part := by
  unfold cleared uvFsUnlink
  split
  · split
    · exact apart
    · exact .inl (by simp)
  · exact apart

theorem Uploading.read_renamed {world : World} {path : Path} {fd file : Nat} (uploading : Uploading world path fd file)
    (env : Env) (overwrite : Bool) :
    ((cleared env (world.fs.close fd) overwrite path).rename (partPath path) path).read path =
      some (world.fs.data file) := by
  have named : (cleared env (world.fs.close fd) overwrite path).names (partPath path) = some file := by
    rw [cleared_names_of_ne env _ _ (partPath_ne path).symm, close_names, uploading.named]
  rw [FileSystem.read, rename_names_target _ named, rename_data, cleared_data, close_data]
  rfl

theorem putEndReply_length (reqId : UInt32) (path : Path) (size : Nat) :
    (putEndReply path size).length ≤ (beginReply reqId path size).length := by
  simp only [putEndReply, beginReply, List.length_append]
  have : (ascii "status=ok\npath=").length + (ascii "\nbytes=").length ≤
      (ascii "status=ok\ntransfer_id=").length + (ascii "\npath=").length + (ascii "\nsize=").length := by decide
  omega

inductive EndEffect (env : Env) (before : World) (fd : Nat) (path : Path) (reqId : UInt32) (after : World × Bool) :
    Prop where
  | refused (other : before.upload.reqId ≠ reqId) (result : after.2 = false)
      (upload : after.1.upload = before.upload) (fs : after.1.fs = before.fs)
      (reply : Complains before.link after.1.link) (counts : Counts before.link [] after.1.link)
  | dropped (same : before.upload.reqId = reqId)
      (early : before.upload.offset ≠ before.upload.totalSize ∨ env.fsClose < 0) (result : after.2 = false)
      (upload : after.1.upload = transferInit) (fs : Spares (partPath path) before.fs after.1.fs)
      (removed : Removed env fd (partPath path) after.1.fs) (reply : Complains before.link after.1.link)
      (counts : Counts before.link [] after.1.link)
  | unmoved (same : before.upload.reqId = reqId) (complete : before.upload.offset = before.upload.totalSize)
      (closed : 0 ≤ env.fsClose) (failed : env.fsRename < 0) (result : after.2 = false)
      (upload : after.1.upload = transferInit)
      (fs : Spares (partPath path) (cleared env (before.fs.close fd) before.upload.overwrite path) after.1.fs)
      (reply : Complains before.link after.1.link) (removed : Removed env fd (partPath path) after.1.fs)
      (counts : Counts before.link [] after.1.link)
  | finished (same : before.upload.reqId = reqId) (complete : before.upload.offset = before.upload.totalSize)
      (closed : 0 ≤ env.fsClose) (moved : 0 ≤ env.fsRename) (result : after.2 = true)
      (upload : after.1.upload = transferInit)
      (fs : after.1.fs = (cleared env (before.fs.close fd) before.upload.overwrite path).rename (partPath path) path)
      (reply : after.1.link = diagCountTransferComplete
        (sessionSendText env before.link .ack reqId (putEndReply path before.upload.totalSize)).1)

theorem Uploading.renames {world : World} {path : Path} {fd file : Nat} (uploading : Uploading world path fd file)
    (env : Env) : endRename env world =
      if env.fsRename < 0 then (cleared env (world.fs.close fd) world.upload.overwrite path, env.fsRename)
      else ((cleared env (world.fs.close fd) world.upload.overwrite path).rename (partPath path) path, 0) := by
  have present : ((cleared env (world.fs.close fd) world.upload.overwrite path).names (partPath path)).isNone = false := by
    rw [cleared_names_of_ne env _ _ (partPath_ne path).symm, close_names, uploading.named]
    rfl
  have unfolded : endRename env world =
      uvFsRename env (cleared env (world.fs.close fd) world.upload.overwrite path) (partPath path) path := by
    rw [endRename, uploading.descriptor, uploading.temporary, uploading.destination]
    rfl
  rw [unfolded, uvFsRename]
  simp [present]

theorem putEnd_effect (env : Env) {world : World} {path : Path} {fd file : Nat}
    (uploading : Uploading world path fd file) (reqId : UInt32) :
    EndEffect env world fd path reqId (transferHandlePutEnd env world reqId) := by
  have fits : (putEndReply path world.upload.totalSize).length < 256 :=
    Nat.lt_of_le_of_lt (putEndReply_length _ path _) uploading.fits
  have descriptor : world.upload.file.getD 0 = fd := by rw [uploading.descriptor]; rfl
  have renamed := uploading.renames env
  have ending := putEnd_ending env world reqId
  generalize transferHandlePutEnd env world reqId = result at ending ⊢
  cases ending with
  | refused refusal =>
    exact .refused (uploading.refusal refusal) rfl rfl rfl (sendError_complains ..) (sendError_counts ..)
  | incomplete accepted incomplete =>
    exact .dropped (uploadRefusal_none accepted).2 (.inl incomplete) rfl rfl (spares_abortUpload rfl uploading.part)
      (removed_abortUpload uploading.descriptor uploading.temporary) (sendError_complains ..) (sendError_counts ..)
  | unclosed accepted _ failed =>
    rw [descriptor]
    exact .dropped (uploadRefusal_none accepted).2 (.inr failed) rfl rfl
      ((Spares.close world.fs _ fd).trans (spares_abortUpload rfl uploading.part))
      (removed_abortUpload_closed rfl (close_fds_self ..) uploading.temporary) (sendError_complains ..)
      (sendError_counts env world.link ..)
  | unmoved accepted complete closed failed =>
    have refused : env.fsRename < 0 := by
      by_contra works
      simp [renamed, works] at failed
    rw [renamed, if_pos refused]
    exact .unmoved (uploadRefusal_none accepted).2 complete closed refused rfl rfl (spares_abortUpload rfl uploading.part)
      (sendError_complains ..)
      (removed_abortUpload_closed rfl ((cleared_fds ..).trans (close_fds_self ..)) uploading.temporary)
      (sendError_counts env world.link ..)
  | overflowed _ complete _ _ long =>
    rw [uploading.destination, complete] at long
    exact absurd fits (Nat.not_lt.mpr long)
  | finished accepted complete closed moved =>
    have works : ¬ env.fsRename < 0 := by
      intro fails
      simp only [renamed, if_pos fails] at moved
      omega
    rw [uploading.destination, complete, renamed, if_neg works]
    exact .finished (uploadRefusal_none accepted).2 complete closed (Int.not_lt.mp works) rfl rfl rfl rfl

theorem putChunk_idle {world : World} (idle : world.upload.active = false) (env : Env) (reqId : UInt32) (payload : Bytes) :
    transferHandlePutChunk env world reqId payload =
      (world.sendError env reqId "bad_payload" (ascii "no active transfer"), false) :=
  putChunk_refused env (uploadRefusal_idle idle reqId) payload

theorem putEnd_idle {world : World} (idle : world.upload.active = false) (env : Env) (reqId : UInt32) :
    transferHandlePutEnd env world reqId =
      (world.sendError env reqId "bad_payload" (ascii "no active transfer"), false) :=
  putEnd_refused env (uploadRefusal_idle idle reqId)

end Luagent.Proofs
