import Luagent.Foundation.Ownership
import Luagent.Proofs.UploadSoundness

/-! The transfer slots between two callbacks, and the descriptors behind them:
one belongs to the upload in progress, all others have been closed once. -/

namespace Luagent.Proofs.Descriptors
open Foundation FileSystem

section ledger
variable (env : Env) (fs : FileSystem)

@[simp] theorem uvFsUnlink_opened (path : Path) : (uvFsUnlink env fs path).opened = fs.opened := by
  unfold uvFsUnlink
  split <;> rfl

@[simp] theorem uvFsUnlink_closes (path : Path) : (uvFsUnlink env fs path).closes = fs.closes := by
  unfold uvFsUnlink
  split <;> rfl

@[simp] theorem pwrite_opened (fd offset : Nat) (bytes : Bytes) : (fs.pwrite fd offset bytes).opened = fs.opened := by
  unfold pwrite
  split <;> rfl

@[simp] theorem pwrite_closes (fd offset : Nat) (bytes : Bytes) : (fs.pwrite fd offset bytes).closes = fs.closes := by
  unfold pwrite
  split <;> rfl

@[simp] theorem rename_opened (source target : Path) : (fs.rename source target).opened = fs.opened := by
  unfold rename
  split
  · rfl
  · split <;> rfl

@[simp] theorem rename_closes (source target : Path) : (fs.rename source target).closes = fs.closes := by
  unfold rename
  split
  · rfl
  · split <;> rfl

private theorem uvFsWrite_ledger (fd offset : Nat) (bytes : Bytes) :
    (uvFsWrite env fs fd offset bytes).1.opened = fs.opened ∧ (uvFsWrite env fs fd offset bytes).1.closes = fs.closes := by
  unfold uvFsWrite
  split
  · exact ⟨rfl, rfl⟩
  · split
    · exact ⟨rfl, rfl⟩
    · exact ⟨pwrite_opened .., pwrite_closes ..⟩

private theorem finalizeRename_ledger (overwrite : Bool) (tmpPath path : Path) :
    (transferFinalizeRename env fs overwrite tmpPath path).1.opened = fs.opened ∧
      (transferFinalizeRename env fs overwrite tmpPath path).1.closes = fs.closes := by
  unfold transferFinalizeRename uvFsRename
  simp only
  repeat' split
  all_goals simp

end ledger

def Slot (upload : TransferState) : Prop := upload.active = upload.file.isSome

structure Trades (before after : World) : Prop where
  slot : Slot after.upload
  fs : Exchanges before.fs after.fs before.upload.file after.upload.file

namespace Trades
variable {before middle after : World}

theorem trans (first : Trades before middle) (second : Trades middle after) : Trades before after :=
  ⟨second.slot, first.fs.trans second.fs⟩

theorem files (slot : Slot before.upload) (owns : before.fs.Owns before.upload.file) (same : SameFiles before after) :
    Trades before after := by
  refine ⟨same.upload ▸ slot, ?_⟩
  rw [same.fs, same.upload]
  exact .refl owns

theorem fetched (slot : Slot before.upload) (owns : before.fs.Owns before.upload.file) (fetched : Fetched before after) :
    Trades before after := by
  refine ⟨fetched.upload ▸ slot, ?_⟩
  rw [fetched.upload]
  exact (Exchanges.visits fetched.fs).keeping owns

end Trades

section handlers
variable (env : Env) {before middle after world : World}

private theorem unlink_exchanges {fs : FileSystem} {own : Option Nat} (owns : fs.Owns own) (path : Path) :
    Exchanges fs (uvFsUnlink env fs path) own own := by
  refine .same owns (by simp) ?_ (by simp)
  unfold uvFsUnlink
  split <;> rfl

private theorem write_exchanges {fs : FileSystem} {own : Option Nat} (owns : fs.Owns own) (fd offset : Nat)
    (bytes : Bytes) :
    Exchanges fs (uvFsWrite env fs fd offset bytes).1 own own := by
  obtain ⟨opened, closes⟩ := uvFsWrite_ledger env fs fd offset bytes
  refine .same owns opened ?_ closes
  unfold uvFsWrite
  repeat' split
  · rfl
  · rfl
  · exact pwrite_fds ..

private theorem finalizeRename_exchanges {fs : FileSystem} {own : Option Nat} (owns : fs.Owns own) (overwrite : Bool)
    (tmpPath path : Path) : Exchanges fs (transferFinalizeRename env fs overwrite tmpPath path).1 own own := by
  obtain ⟨opened, closes⟩ := finalizeRename_ledger env fs overwrite tmpPath path
  refine .same owns opened ?_ closes
  unfold transferFinalizeRename uvFsRename uvFsUnlink
  simp only
  repeat' split
  all_goals simp

private theorem abort_exchanges {fs : FileSystem} {transfer : TransferState} (owns : fs.Owns transfer.file) :
    Exchanges fs (transferAbort env fs transfer).1 transfer.file none := by
  unfold transferAbort
  cases file : transfer.file with
  | none =>
    cases transfer.tmpPath with
    | none => exact .refl (owns_none fs)
    | some tmpPath => exact unlink_exchanges env (owns_none fs) tmpPath
  | some fd =>
    have closed := Exchanges.close (owns fd file)
    cases transfer.tmpPath with
    | none => exact closed
    | some tmpPath => exact closed.trans (unlink_exchanges env (owns_none _) tmpPath)

theorem Trades.abort (sofar : Exchanges before.fs middle.fs before.upload.file middle.upload.file) :
    Trades before (middle.abortUpload env) := ⟨rfl, sofar.trans (abort_exchanges env sofar.owned)⟩

theorem Trades.sendError (trades : Trades before after) (reqId : UInt32) (code : String) (message : Bytes) :
    Trades before (after.sendError env reqId code message) := ⟨trades.slot, trades.fs⟩

private theorem putBegin_trades (slot : Slot world.upload) (owns : world.fs.Owns world.upload.file) (reqId : UInt32)
    (payload : Bytes) : Trades world (transferHandlePutBegin env world reqId payload).1 := by
  have created (idle : world.upload.active = false) (path : Path) :
      Exchanges world.fs (world.fs.create path) world.upload.file (some world.fs.nextFd) := by
    have free : world.upload.file = none := by rw [← Option.not_isSome_iff_eq_none, ← slot, idle, Bool.not_eq_true]
    rw [free]
    exact .create world.fs path
  have ending := putBegin_ending env world reqId payload
  generalize transferHandlePutBegin env world reqId payload = result at ending ⊢
  cases ending with
  | busy | missing => exact .files slot owns ⟨rfl, rfl, rfl⟩
  | unnamed | uncreated => exact .sendError env (.abort env (by exact .refl owns)) ..
  | overflowed idle => exact .abort env (by exact created idle _)
  | begun idle => exact ⟨rfl, created idle _⟩

private theorem putChunk_trades (slot : Slot world.upload) (owns : world.fs.Owns world.upload.file) (reqId : UInt32)
    (payload : Bytes) : Trades world (transferHandlePutChunk env world reqId payload).1 := by
  have wrote : Exchanges world.fs (chunkWrite env world payload).1 world.upload.file world.upload.file :=
    write_exchanges env owns ..
  have ending := putChunk_ending env world reqId payload
  generalize transferHandlePutChunk env world reqId payload = result at ending ⊢
  cases ending with
  | refused => exact .files slot owns ⟨rfl, rfl, rfl⟩
  | exceeding => exact .abort env (by exact .refl owns)
  | unwritten => exact .abort env (by exact wrote)
  | stored => exact ⟨slot, wrote⟩

private theorem putEnd_trades (slot : Slot world.upload) (owns : world.fs.Owns world.upload.file) (reqId : UInt32) :
    Trades world (transferHandlePutEnd env world reqId).1 := by
  have closed (accepted : uploadRefusal world.upload reqId = none) :
      Exchanges world.fs (world.fs.close (world.upload.file.getD 0)) world.upload.file none := by
    obtain ⟨fd, file⟩ : ∃ fd, world.upload.file = some fd := by
      rw [← Option.isSome_iff_exists, ← slot]
      exact (uploadRefusal_none accepted).1
    rw [file]
    exact .close (owns fd file)
  have renamed (accepted : uploadRefusal world.upload reqId = none) :
      Exchanges world.fs (endRename env world).1 world.upload.file none :=
    (closed accepted).trans (finalizeRename_exchanges env (owns_none _) ..)
  have ending := putEnd_ending env world reqId
  generalize transferHandlePutEnd env world reqId = result at ending ⊢
  cases ending with
  | refused => exact .files slot owns ⟨rfl, rfl, rfl⟩
  | incomplete => exact .abort env (by exact .refl owns)
  | unclosed accepted => exact .abort env (by exact closed accepted)
  | unmoved accepted | overflowed accepted => exact .abort env (by exact renamed accepted)
  | finished accepted => exact ⟨rfl, renamed accepted⟩

end handlers

section callbacks
variable {env : Env} {world after : World}

private theorem text_trades {type : Option FrameType} {reqId : UInt32} {payload : Bytes} (slot : Slot world.upload)
    (owns : world.fs.Owns world.upload.file) (idle : world.download = transferInit)
    (effect : TextEffect env world type reqId payload after) : Trades world after := by
  cases effect with
  | talked talks => exact .files slot owns talks.files
  | operated _ _ effect talks => exact .files slot owns (effect.files.trans talks.files)
  | began => exact putBegin_trades env slot owns ..
  | downloaded => exact .fetched slot owns (getBegin_fetched env world _ _ idle)
  | spawned => exact .files slot owns (spawnCommon_same ..)
  | killed _ _ kill talks =>
    subst kill
    have answered := talks.files
    exact .files slot owns ⟨answered.upload, answered.download, answered.fs⟩

private theorem control_trades (slot : Slot world.upload) (owns : world.fs.Owns world.upload.file)
    (idle : world.download = transferInit) (message : Message) :
    Trades world (protocolHandleControl env world message).1 := by
  have effect := control_effect env world message
  generalize protocolHandleControl env world message = result at effect
  cases effect with
  | chunk => exact putChunk_trades env slot owns ..
  | ended => exact putEnd_trades env slot owns ..
  | text _ effect => exact text_trades slot owns idle effect

private theorem tick_trades (slot : Slot world.upload) (owns : world.fs.Owns world.upload.file)
    (idle : world.download = transferInit) : Trades world (heartbeatCb env world) := by
  have ending := tick_ending env world
  generalize heartbeatCb env world = next at ending ⊢
  cases ending with
  | closed | idle => exact .files slot owns ⟨rfl, rfl, rfl⟩
  | checked =>
    have pinged := heartbeatPing_same env world
    generalize heartbeatPing env world = middle at pinged ⊢
    rw [checkDownload_idle env ((checkUpload_download ..).trans (pinged.download.trans idle))]
    have stalls : Trades world (transferCheckTimeoutUpload env middle) := by
      have stall := checkUpload_ending env middle
      generalize transferCheckTimeoutUpload env middle = dropped at stall ⊢
      cases stall with
      | going => exact .files slot owns pinged
      | stalled => exact .abort env (by exact (Trades.files slot owns pinged).fs)
    exact stalls.trans (.files stalls.slot stalls.fs.owned (checkTimeouts_same ..))

private theorem close_trades (slot : Slot world.upload) (owns : world.fs.Owns world.upload.file)
    (idle : world.download = transferInit) (name : SessionHandle) : Trades world (closeCb env world name) := by
  have ending := closeCb_ending env world name
  generalize closeCb env world name = next at ending ⊢
  cases ending with
  | plain _ shut | dropped _ shut =>
    cases shut
    exact .files slot owns ⟨rfl, rfl, rfl⟩
  | released _ shut =>
    cases shut
    refine ⟨rfl, ?_⟩
    simp only [releasedWorld, unreferenced, World.abortDownload, World.setLife, World.abortUpload, idle, transferAbort_idle]
    exact (@Trades.abort env world world (.refl owns)).fs

/-- A callback for a session trades in the descriptor of its upload and no other one. -/
theorem callback_trades (slot : Slot world.upload) (owns : world.fs.Owns world.upload.file)
    (idle : world.download = transferInit) (event : Event) : Trades world (callback env world event) := by
  cases event with
  | read action =>
    cases action with
    | dispatch message =>
      have handled := @control_trades env (world.countFrame message) slot owns idle message
      exact ⟨handled.slot, handled.fs⟩
    | received | badHeader | overflow | hangup => exact .files slot owns ⟨rfl, rfl, rfl⟩
  | tick => exact tick_trades slot owns idle
  | written | exited | output | ended => exact .files slot owns ⟨rfl, rfl, rfl⟩
  | closed name => exact close_trades slot owns idle name

end callbacks

/-- An upload slot in use. -/
structure InUse (upload : TransferState) : Prop where
  active : upload.active = true
  mode : upload.mode = .upload
  file : upload.file.isSome = true
  path : ∃ path, upload.path = some path ∧ upload.tmpPath = some (path ++ ascii ".part")
  inside : upload.offset ≤ upload.totalSize

/-- The transfers between two callbacks of a session that began when `since`
descriptors had been opened. -/
structure SoundDescriptors (since : Nat) (world : World) : Prop where
  download : world.download = transferInit
  upload : world.upload = transferInit ∨ InUse world.upload
  /-- A descriptor is that of the upload, or was closed once. -/
  descriptors : ∀ fd, since ≤ fd → fd < world.fs.opened →
    (world.upload.active = true ∧ world.upload.file = some fd ∧ world.fs.closes fd = 0) ∨
      (world.upload.file ≠ some fd ∧ world.fs.closes fd = 1)
  /-- The timeout check and the release of the session find no download to abort. -/
  unaborted : ∀ env (later : World), later.download = world.download → (later.abortDownload env).fs = later.fs
  /-- A download request that is aborted removes no name. -/
  fetching : ∀ env reqId payload, (transferHandleGetBegin env world reqId payload).1.fs.names = world.fs.names

private theorem soundDescriptors {start world : World} (exchanged : Exchanges start.fs world.fs none world.upload.file)
    (download : world.download = transferInit) (shape : UploadShape world) : SoundDescriptors start.fs.opened world where
  download := download
  upload := shape.imp id fun ⟨path, fd, file, uploading⟩ =>
    ⟨uploading.active, uploading.mode, by rw [uploading.descriptor]; rfl, ⟨path, uploading.destination, uploading.temporary⟩,
      uploading.inside⟩
  descriptors fd later opened := by
    by_cases held : world.upload.file = some fd
    · rcases shape with idle | ⟨path, other, file, uploading⟩
      · rw [idle] at held
        cases held
      · exact .inl ⟨uploading.active, held, (exchanged.owned fd held).2⟩
    · exact .inr ⟨held, (exchanged.gone fd opened held (.inr later)).2⟩
  unaborted env later same := by
    simp only [World.abortDownload, same, download, transferAbort_idle]
  fetching env reqId payload := (getBegin_fetched env world reqId payload download).fs.preserves.names

/-- In every state a session can reach. -/
theorem transfers_sound {env : Env} {sessionId : Nat} {counts : Tally} {fs : FileSystem} {engine : Engine}
    {start world : World} {history : List Upload.Input} (connected : onNewConnection env sessionId counts fs engine = some start)
    (executed : agent.run start history = some world) : SoundDescriptors start.fs.opened world := by
  have traded : Slot world.upload ∧ Exchanges start.fs world.fs none world.upload.file := by
    refine agent.run_induction (fun _ state => Slot state.upload ∧ Exchanges start.fs state.fs none state.upload.file)
      ?_ ?_ executed
    · rw [(connected_fresh connected).upload]
      exact ⟨rfl, .refl (owns_none _)⟩
    · rintro past state input next reached ⟨slot, exchanged⟩ stepped
      obtain ⟨_, rfl⟩ := agent_step stepped
      have trades := @callback_trades input.2 state slot exchanged.owned (Upload.run_tracked connected reached).download input.1
      exact ⟨trades.slot, exchanged.trans trades.fs⟩
  have tracked := Upload.run_tracked connected executed
  exact soundDescriptors traded.2 tracked.download tracked.shape

theorem transfers_sound_hi : SoundDescriptors 0 Upload.uploadedHi ∧ Upload.uploadedHi.upload.file = some 0 :=
  ⟨@transfers_sound {} 1 {} .empty portfwdEngineInit Upload.freshSession _ Upload.uploadHi
    (Option.some_get (by decide)).symm (Option.some_get (by decide +kernel)).symm, by decide +kernel⟩

end Luagent.Proofs.Descriptors
