import Luagent.Proofs.Dispatch
import Luagent.Proofs.UploadEffects

/-! One callback of the agent, seen from the upload slot. Processes, relays,
scripted operations and downloads leave it and every file alone. -/

namespace Luagent.Proofs
open Foundation FileSystem

structure SameFiles (before after : World) : Prop where
  upload : after.upload = before.upload := by rfl
  download : after.download = before.download := by rfl
  fs : after.fs = before.fs := by rfl

theorem SameFiles.leaves {before after : World} (same : SameFiles before after) : LeavesFiles before after :=
  ⟨same.upload, same.download, same.fs ▸ .refl _⟩

theorem SameFiles.trans {before middle after : World} (first : SameFiles before middle)
    (second : SameFiles middle after) : SameFiles before after :=
  ⟨second.upload.trans first.upload, second.download.trans first.download, second.fs.trans first.fs⟩

theorem Talks.files {before after : World} (talks : Talks before after) : SameFiles before after := by
  rw [talks.same]
  exact ⟨rfl, rfl, rfl⟩

theorem spawnCommon_same (env : Env) (world : World) (reqId : UInt32) (path : Bytes) (args : List Bytes)
    (timeoutMs idleTimeoutMs : Nat) (sendAck : Bool) :
    SameFiles world (procSpawnCommon env world reqId path args timeoutMs idleTimeoutMs sendAck).1 := by
  have ending := spawn_ending env world reqId path args timeoutMs idleTimeoutMs sendAck
  generalize procSpawnCommon env world reqId path args timeoutMs idleTimeoutMs sendAck = after at ending
  cases ending <;> exact ⟨rfl, rfl, rfl⟩

theorem OpEffect.files {env : Env} {op : Op} {before after : World} (effect : OpEffect env op before after) :
    SameFiles before (after.recordOp op) := by
  cases effect with
  | nothing => exact ⟨rfl, rfl, rfl⟩
  | opened => exact ⟨rfl, rfl, rfl⟩
  | closed relayId =>
    have ending := portClose_ending before relayId
    generalize portfwdClose before relayId = result at ending ⊢
    cases ending <;> exact ⟨rfl, rfl, rfl⟩
  | spawned => exact .trans (spawnCommon_same ..) {}

theorem checkTimeouts_same (env : Env) (world : World) : SameFiles world (procCheckTimeouts env world) := by
  have ending := checkTimeouts_ending env world
  generalize procCheckTimeouts env world = next at ending ⊢
  cases ending <;> exact ⟨rfl, rfl, rfl⟩

def Elsewhere (event : Event) : Prop :=
  ∀ message, event = .read (.dispatch message) →
    message.type ≠ FrameType.putChunk.code ∧ message.type ≠ FrameType.putEnd.code

/-- How a callback reaches the upload slot, if it does. -/
inductive Seen (env : Env) (world : World) (event : Event) (next : World) : Prop where
  | kept (elsewhere : Elsewhere event) (leaves : LeavesFiles world next)
  | began (message : Message) (isFrame : event = .read (.dispatch message))
      (isBegin : message.type = FrameType.putBegin.code) (download : next.download = world.download)
      (upload : next.upload =
        (transferHandlePutBegin env (world.countFrame message) message.reqId (cstr message.payload)).1.upload)
      (fs : next.fs = (transferHandlePutBegin env (world.countFrame message) message.reqId (cstr message.payload)).1.fs)
  | chunk (message : Message) (isFrame : event = .read (.dispatch message))
      (isChunk : message.type = FrameType.putChunk.code)
      (handled : next = (transferHandlePutChunk env (world.countFrame message) message.reqId message.payload).1)
  | ended (message : Message) (isFrame : event = .read (.dispatch message))
      (isEnd : message.type = FrameType.putEnd.code)
      (handled : next = (transferHandlePutEnd env (world.countFrame message) message.reqId).1)
  | aborted (notFrame : ∀ action, event ≠ .read action) (download : next.download = world.download)
      (upload : next.upload = transferInit) (fs : next.fs = (transferAbort env world.fs world.upload).1)

def UploadOnly (before after : World) : Prop := ∃ link fs upload, after = { before with link, fs, upload }

theorem UploadOnly.download {before after : World} (only : UploadOnly before after) : after.download = before.download := by
  obtain ⟨_, _, _, same⟩ := only
  rw [same]

section uploads
variable (env : Env) (world : World) (reqId : UInt32)

theorem putBegin_only (payload : Bytes) : UploadOnly world (transferHandlePutBegin env world reqId payload).1 := by
  have ending := putBegin_ending env world reqId payload
  generalize transferHandlePutBegin env world reqId payload = result at ending ⊢
  cases ending <;> exact ⟨_, _, _, rfl⟩

theorem putChunk_only (payload : Bytes) : UploadOnly world (transferHandlePutChunk env world reqId payload).1 := by
  have ending := putChunk_ending env world reqId payload
  generalize transferHandlePutChunk env world reqId payload = result at ending ⊢
  cases ending <;> exact ⟨_, _, _, rfl⟩

theorem putEnd_only : UploadOnly world (transferHandlePutEnd env world reqId).1 := by
  have ending := putEnd_ending env world reqId
  generalize transferHandlePutEnd env world reqId = result at ending ⊢
  cases ending <;> exact ⟨_, _, _, rfl⟩

end uploads

private theorem text_seen {env : Env} {world after : World} {message : Message} (idle : world.download = transferInit)
    (other : message.type ≠ FrameType.putChunk.code ∧ message.type ≠ FrameType.putEnd.code)
    (effect : TextEffect env (world.countFrame message) (FrameType.ofCode message.type) message.reqId
      (cstr message.payload) after) : Seen env world (.read (.dispatch message)) after := by
  have counted : LeavesFiles world (world.countFrame message) := ⟨rfl, rfl, .refl _⟩
  have elsewhere : Elsewhere (.read (.dispatch message)) := by
    rintro _ ⟨rfl⟩
    exact other
  cases effect with
  | talked talks => exact .kept elsewhere (counted.trans talks.files.leaves)
  | operated _ _ effect talks => exact .kept elsewhere (counted.trans (effect.files.trans talks.files).leaves)
  | began isBegin => exact .began message rfl (ofCode_some isBegin).symm (putBegin_only ..).download rfl rfl
  | downloaded => exact .kept elsewhere (counted.trans (getBegin_effect env (world.countFrame message) message.reqId _ idle).1)
  | spawned => exact .kept elsewhere (counted.trans (spawnCommon_same ..).leaves)
  | killed _ _ kill talks =>
    subst kill
    have answered := talks.files
    exact .kept elsewhere (SameFiles.leaves ⟨answered.upload, answered.download, answered.fs⟩)

private theorem perform_seen (env : Env) (world : World) (action : Action) (idle : world.download = transferInit) :
    Seen env world (.read action) (perform env world action) := by
  cases action with
  | received => exact .kept (fun _ frame => by cases frame) ⟨rfl, rfl, .refl _⟩
  | badHeader => exact .kept (fun _ frame => by cases frame) ⟨rfl, rfl, .refl _⟩
  | overflow => exact .kept (fun _ frame => by cases frame) ⟨rfl, rfl, .refl _⟩
  | hangup => exact .kept (fun _ frame => by cases frame) ⟨rfl, rfl, .refl _⟩
  | dispatch message =>
    have effect := control_effect env (world.countFrame message) message
    simp only [perform]
    generalize protocolHandleControl env (world.countFrame message) message = result at effect
    cases effect with
    | chunk isChunk => exact .chunk message rfl isChunk rfl
    | ended isEnd => exact .ended message rfl isEnd rfl
    | text other effect => exact text_seen idle other effect

private theorem exit_same (env : Env) (world : World) (exitStatus : Int) :
    SameFiles world (procExitCb env world exitStatus) := by
  unfold procExitCb
  exact ⟨rfl, rfl, rfl⟩

theorem heartbeatPing_same (env : Env) (world : World) : SameFiles world (heartbeatPing env world) := by
  have ending := heartbeatPing_ending env world
  generalize heartbeatPing env world = next at ending ⊢
  cases ending <;> exact ⟨rfl, rfl, rfl⟩

theorem checkUpload_download (env : Env) (world : World) :
    (transferCheckTimeoutUpload env world).download = world.download := by
  have ending := checkUpload_ending env world
  generalize transferCheckTimeoutUpload env world = next at ending ⊢
  cases ending <;> rfl

/-- A tick that does not find the upload stalled. -/
theorem tick_leaves {env : Env} {world : World} (idle : world.download = transferInit)
    (going : transferStalled world.upload env.now = false) : LeavesFiles world (heartbeatCb env world) := by
  have ending := tick_ending env world
  generalize heartbeatCb env world = next at ending ⊢
  cases ending with
  | closed => exact .refl world
  | idle => exact ⟨rfl, rfl, .refl _⟩
  | checked =>
    have pinged := heartbeatPing_same env world
    generalize heartbeatPing env world = middle at pinged ⊢
    rw [checkUpload_going env (by rw [pinged.upload, going]), checkDownload_idle env (pinged.download.trans idle)]
    exact pinged.leaves.trans (checkTimeouts_same env middle).leaves

private theorem tick_seen (env : Env) (world : World) (idle : world.download = transferInit) :
    Seen env world .tick (heartbeatCb env world) := by
  have elsewhere : Elsewhere .tick := fun _ frame => by cases frame
  by_cases going : transferStalled world.upload env.now = false
  case pos => exact .kept elsewhere (tick_leaves idle going)
  case neg =>
    have ending := tick_ending env world
    generalize heartbeatCb env world = next at ending ⊢
    cases ending with
    | closed => exact .kept elsewhere (.refl world)
    | idle => exact .kept elsewhere ⟨rfl, rfl, .refl _⟩
    | checked =>
      have pinged := heartbeatPing_same env world
      generalize heartbeatPing env world = middle at pinged ⊢
      have stall := checkUpload_ending env middle
      generalize transferCheckTimeoutUpload env middle = dropped at stall ⊢
      cases stall with
      | going still => exact absurd (pinged.upload ▸ still) going
      | stalled =>
        rw [checkDownload_idle env (by exact pinged.download.trans idle)]
        refine .aborted (fun _ read => by cases read) ((checkTimeouts_same ..).download.trans pinged.download)
          (checkTimeouts_same ..).upload ?_
        rw [(checkTimeouts_same ..).fs, ← pinged.fs, ← pinged.upload]
        rfl

theorem transferAbort_idle (env : Env) (fs : FileSystem) : (transferAbort env fs transferInit).1 = fs := rfl

private theorem closeCb_seen (env : Env) (world : World) (name : SessionHandle) (idle : world.download = transferInit) :
    Seen env world (.closed name) (closeCb env world name) := by
  have elsewhere : Elsewhere (.closed name) := fun _ frame => by cases frame
  have ending := closeCb_ending env world name
  generalize closeCb env world name = next at ending ⊢
  cases ending with
  | plain _ shut | dropped _ shut =>
    cases shut
    exact .kept elsewhere ⟨rfl, rfl, .refl _⟩
  | released _ shut =>
    cases shut
    refine .aborted (fun _ read => by cases read) idle.symm rfl ?_
    simp only [releasedWorld, unreferenced, World.abortDownload, World.abortUpload, World.setLife, idle, transferAbort_idle]

/-- Every callback is one of the cases. -/
theorem callback_seen (env : Env) (world : World) (event : Event) (idle : world.download = transferInit) :
    Seen env world event (callback env world event) := by
  cases event with
  | read action => exact perform_seen env world action idle
  | tick => exact tick_seen env world idle
  | written write => exact .kept (fun _ frame => by cases frame) ⟨rfl, rfl, .refl _⟩
  | exited status => exact .kept (fun _ frame => by cases frame) (exit_same env world status).leaves
  | output pipe bytes => exact .kept (fun _ frame => by cases frame) ⟨rfl, rfl, .refl _⟩
  | ended pipe => exact .kept (fun _ frame => by cases frame) ⟨rfl, rfl, .refl _⟩
  | closed name => exact closeCb_seen env world name idle

theorem agent_step {world next : World} {input : Event × Env} (stepped : agent.step world input = some next) :
    enabled world input.1 = true ∧ next = { callback input.2 world input.1 with reading := input.1.reads } := by
  simp only [agent] at stepped
  split at stepped
  next allowed => exact ⟨allowed, (Option.some.inj stepped).symm⟩
  next => cases stepped

/-- The chunk a step accepts, if it is a chunk and the handler returns 0. -/
def acceptedChunk (world : World) (input : Event × Env) : Option Message :=
  match input.1 with
  | .read (.dispatch message) =>
    if message.type = FrameType.putChunk.code ∧
        (protocolHandleControl input.2 (world.countFrame message) message).2 = true then some message
    else none
  | _ => none

/-- The step is an end request that reaches its ok reply: the handler returns 0. -/
def finishes (world : World) (input : Event × Env) : Bool :=
  match input.1 with
  | .read (.dispatch message) =>
    message.type == FrameType.putEnd.code && (protocolHandleControl input.2 (world.countFrame message) message).2
  | _ => false

theorem acceptedChunk_elsewhere {world : World} {input : Event × Env} (elsewhere : Elsewhere input.1) :
    acceptedChunk world input = none := by
  unfold acceptedChunk
  split
  next message frame => exact if_neg fun accepted => (elsewhere message frame).1 accepted.1
  next => rfl

section accepted
variable {world : World} {input : Event × Env} {message : Message}

theorem acceptedChunk_chunk (isFrame : input.1 = .read (.dispatch message))
    (isChunk : message.type = FrameType.putChunk.code) :
    acceptedChunk world input =
      if (transferHandlePutChunk input.2 (world.countFrame message) message.reqId message.payload).2 = true then some message
      else none := by
  unfold acceptedChunk
  rw [isFrame]
  simp only [isChunk, control_chunk isChunk, true_and]

theorem acceptedChunk_other (isFrame : input.1 = .read (.dispatch message))
    (other : message.type ≠ FrameType.putChunk.code) :
    acceptedChunk world input = none := by
  unfold acceptedChunk
  rw [isFrame]
  exact if_neg fun both => other both.1

private theorem finishes_end (isFrame : input.1 = .read (.dispatch message))
    (isEnd : message.type = FrameType.putEnd.code) :
    finishes world input = (transferHandlePutEnd input.2 (world.countFrame message) message.reqId).2 := by
  unfold finishes
  rw [isFrame]
  simp only [control_end isEnd]
  rw [isEnd, BEq.rfl, Bool.true_and]

end accepted

/-- A step of a session without an upload. -/
inductive IdleStep (world : World) (input : Event × Env) (next : World) : Prop where
  | idle (upload : next.upload = transferInit) (fs : Preserves world.fs next.fs)
  | failed (message : Message) (path : Path) (isFrame : input.1 = .read (.dispatch message))
      (isBegin : message.type = FrameType.putBegin.code)
      (named : kvCopy 512 (cstr message.payload) (ascii "path") = some path)
      (upload : next.upload = transferInit) (fs : Spares (partPath path) world.fs next.fs)
      (removed : 0 ≤ input.2.fsUnlink (partPath path) →
        next.fs.names (partPath path) = none ∨ next.fs.names = world.fs.names)
  | opened (message : Message) (path : Path) (size : Nat) (isFrame : input.1 = .read (.dispatch message))
      (isBegin : message.type = FrameType.putBegin.code) (asks : Asks (cstr message.payload) path size)
      (fits : (beginReply message.reqId path size).length < 256)
      (upload : next.upload =
        openedUpload input.2 message.reqId (cstr message.payload) path size world.fs.nextFd)
      (fs : next.fs = world.fs.create (partPath path))

theorem idle_step {world next : World} {input : Event × Env} (download : world.download = transferInit)
    (upload : world.upload = transferInit) (stepped : agent.step world input = some next) :
    next.download = transferInit ∧ IdleStep world input next := by
  obtain ⟨_, rfl⟩ := agent_step stepped
  have inactive : world.upload.active = false := by rw [upload]; rfl
  have seen := callback_seen input.2 world input.1 download
  generalize callback input.2 world input.1 = after at seen
  cases seen with
  | kept _ leaves => exact ⟨leaves.download.trans download, .idle (leaves.upload.trans upload) leaves.fs⟩
  | began message isFrame isBegin sameDownload newUpload newFs =>
    refine ⟨sameDownload.trans download, ?_⟩
    cases putBegin_effect input.2 (world.countFrame message) message.reqId (cstr message.payload) with
    | refused _ kept fs =>
      exact .idle (newUpload.trans (kept.trans upload)) (by rw [newFs, fs]; exact .refl _)
    | failed path _ named _ dropped fs removed =>
      exact .failed message path isFrame isBegin named (newUpload.trans dropped) (newFs ▸ fs) (newFs ▸ removed)
    | opened path size _ asks fits filled fs =>
      exact .opened message path size isFrame isBegin asks fits (newUpload.trans filled) (newFs.trans fs)
  | chunk message isFrame _ handled =>
    rw [@putChunk_idle (world.countFrame message) inactive] at handled
    subst handled
    exact ⟨download, .idle upload (.refl _)⟩
  | ended message isFrame _ handled =>
    rw [@putEnd_idle (world.countFrame message) inactive] at handled
    subst handled
    exact ⟨download, .idle upload (.refl _)⟩
  | aborted _ sameDownload newUpload fs =>
    rw [upload, transferAbort_idle] at fs
    exact ⟨sameDownload.trans download, .idle newUpload (fs ▸ .refl _)⟩

/-- A step of a session with an upload in progress. -/
inductive UploadStep (world : World) (input : Event × Env) (path : Path) (fd : Nat) (next : World) : Prop where
  | kept (unaccepted : acceptedChunk world input = none) (upload : next.upload = world.upload)
      (fs : Preserves world.fs next.fs)
  | stored (message : Message) (accepted : acceptedChunk world input = some message)
      (same : world.upload.reqId = message.reqId)
      (within : (world.upload.offset + message.payload.length) % 2 ^ 64 ≤ world.upload.totalSize)
      (upload : next.upload = { world.upload with
        offset := (world.upload.offset + message.payload.length) % 2 ^ 64, lastProgressMs := input.2.now })
      (fs : next.fs = world.fs.pwrite fd world.upload.offset message.payload)
  | dropped (upload : next.upload = transferInit) (fs : Spares (partPath path) world.fs next.fs)
      (removed : Removed input.2 fd (partPath path) next.fs)
  | unmoved (message : Message) (isFrame : input.1 = .read (.dispatch message))
      (isEnd : message.type = FrameType.putEnd.code) (same : world.upload.reqId = message.reqId)
      (complete : world.upload.offset = world.upload.totalSize)
      (closed : 0 ≤ input.2.fsClose) (failed : input.2.fsRename < 0) (upload : next.upload = transferInit)
      (fs : Spares (partPath path) (cleared input.2 (world.fs.close fd) world.upload.overwrite path) next.fs)
      (removed : Removed input.2 fd (partPath path) next.fs)
  | finished (message : Message) (isFrame : input.1 = .read (.dispatch message))
      (isEnd : message.type = FrameType.putEnd.code) (same : world.upload.reqId = message.reqId)
      (complete : world.upload.offset = world.upload.totalSize) (finish : finishes world input = true)
      (upload : next.upload = transferInit)
      (fs : next.fs = (cleared input.2 (world.fs.close fd) world.upload.overwrite path).rename (partPath path) path)
      (reply : next.link = diagCountTransferComplete (sessionSendText input.2 (world.countFrame message).link .ack
        message.reqId (putEndReply path world.upload.totalSize)).1)
      (closed : 0 ≤ input.2.fsClose) (moved : 0 ≤ input.2.fsRename)

section uploading
variable {world : World} {input : Event × Env} {path : Path} {fd file : Nat} {message : Message}

theorem UploadStep.reads {next : World} (step : UploadStep world input path fd next) (reading : Bool) :
    UploadStep world input path fd { next with reading } := by
  cases step with
  | kept unaccepted upload fs => exact .kept unaccepted upload fs
  | stored message accepted same within upload fs => exact .stored message accepted same within upload fs
  | dropped upload fs removed => exact .dropped upload fs removed
  | unmoved message isFrame isEnd same complete closed failed upload fs removed =>
    exact .unmoved message isFrame isEnd same complete closed failed upload fs removed
  | finished message isFrame isEnd same complete finish upload fs reply closed moved =>
    exact .finished message isFrame isEnd same complete finish upload fs reply closed moved

private theorem begin_uploadStep (uploading : Uploading world path fd file) (isFrame : input.1 = .read (.dispatch message))
    (isBegin : message.type = FrameType.putBegin.code) {next : World}
    (upload : next.upload =
      (transferHandlePutBegin input.2 (world.countFrame message) message.reqId (cstr message.payload)).1.upload)
    (fs : next.fs = (transferHandlePutBegin input.2 (world.countFrame message) message.reqId (cstr message.payload)).1.fs) :
    UploadStep world input path fd next := by
  have active : (world.countFrame message).upload.active = true := uploading.active
  cases putBegin_effect input.2 (world.countFrame message) message.reqId (cstr message.payload) with
  | refused _ kept same =>
    have unaccepted : acceptedChunk world input = none := acceptedChunk_other isFrame (by rw [isBegin]; decide)
    exact .kept unaccepted (upload.trans kept) (by rw [fs, same]; exact .refl _)
  | failed _ idle | opened _ _ idle =>
    rw [active] at idle
    cases idle

private theorem chunk_uploadStep (uploading : Uploading world path fd file) (isFrame : input.1 = .read (.dispatch message))
    (isChunk : message.type = FrameType.putChunk.code) : UploadStep world input path fd
      (transferHandlePutChunk input.2 (world.countFrame message) message.reqId message.payload).1 := by
  have accepted := @acceptedChunk_chunk world input message isFrame isChunk
  cases putChunk_effect input.2 (uploading.counted message) message.reqId message.payload with
  | refused other result upload fs => exact .kept (by rw [accepted, result]; rfl) upload (by rw [fs]; exact .refl _)
  | dropped result upload fs removed => exact .dropped upload fs removed
  | stored same result within upload fs => exact .stored message (by rw [accepted, result]; rfl) same within upload fs

private theorem end_uploadStep (uploading : Uploading world path fd file) (isFrame : input.1 = .read (.dispatch message))
    (isEnd : message.type = FrameType.putEnd.code) :
    UploadStep world input path fd (transferHandlePutEnd input.2 (world.countFrame message) message.reqId).1 := by
  cases putEnd_effect input.2 (uploading.counted message) message.reqId with
  | refused other result upload fs reply =>
    exact .kept (acceptedChunk_other isFrame (by rw [isEnd]; decide)) upload (by rw [fs]; exact .refl _)
  | dropped same early result upload fs removed reply => exact .dropped upload fs removed
  | unmoved same complete closed failed result upload fs reply removed =>
    exact .unmoved message isFrame isEnd same complete closed failed upload fs removed
  | finished same complete closed moved result upload fs reply =>
    exact .finished message isFrame isEnd same complete ((finishes_end isFrame isEnd).trans result) upload fs reply closed moved

theorem upload_step {next : World} (download : world.download = transferInit) (uploading : Uploading world path fd file)
    (stepped : agent.step world input = some next) : next.download = transferInit ∧ UploadStep world input path fd next := by
  obtain ⟨_, rfl⟩ := agent_step stepped
  have seen := callback_seen input.2 world input.1 download
  generalize callback input.2 world input.1 = after at seen
  cases seen with
  | kept elsewhere leaves =>
    exact ⟨leaves.download.trans download, .kept (acceptedChunk_elsewhere elsewhere) leaves.upload leaves.fs⟩
  | began message isFrame isBegin same upload fs =>
    exact ⟨same.trans download, begin_uploadStep uploading isFrame isBegin upload fs⟩
  | chunk message isFrame isChunk handled =>
    have same := (putChunk_only input.2 (world.countFrame message) message.reqId message.payload).download
    have step := chunk_uploadStep uploading isFrame isChunk
    subst handled
    exact ⟨same.trans download, step.reads _⟩
  | ended message isFrame isEnd handled =>
    have same := (putEnd_only input.2 (world.countFrame message) message.reqId).download
    have step := end_uploadStep uploading isFrame isEnd
    subst handled
    exact ⟨same.trans download, step.reads _⟩
  | aborted _ same upload fs =>
    refine ⟨same.trans download, .dropped upload ?_ (fs ▸ removed_abort uploading.descriptor uploading.temporary)⟩
    rw [fs]
    exact spares_abort _ _ _ fun tmpPath found => (Option.some.inj (uploading.temporary.symm.trans found)).symm

end uploading

end Luagent.Proofs
