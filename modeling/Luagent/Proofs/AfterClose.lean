import Luagent.Proofs.ChildSteps
import Luagent.Proofs.Descriptors
import Luagent.Proofs.Framing
import Luagent.Proofs.PutFile

/-! The frames that stand in the buffer behind one that closed the session. They are
handled as any others, and only their answers are not sent. -/

namespace Luagent.Proofs.AfterClose
open Foundation FileSystem
open PutFile (emptyBuffer)

/-- No file, child or relay was touched, and no operation was run. -/
structure Untouched (before after : World) : Prop where
  fs : after.fs = before.fs
  engine : after.engine = before.engine
  spawned : after.proc.spawned = before.proc.spawned
  kills : after.proc.kills = before.proc.kills
  ran : after.ran = before.ran

/-- Handling the frame has no effect. -/
def Inert (env : Env) (world : World) (message : Message) : Prop :=
  Untouched world (perform env world (.dispatch message))

section conditions
variable (env : Env) (world : World)

/-- The chunk belongs to the upload and ends it, or stores something new. -/
def chunkActs (reqId : UInt32) (payload : Bytes) : Bool :=
  let content := world.fs.content (world.upload.file.getD 0)
  (uploadRefusal world.upload reqId).isNone &&
    (decide (world.upload.totalSize < (world.upload.offset + payload.length) % 2 ^ 64) ||
      decide (env.fsWrite payload.length < payload.length) || writeAt content world.upload.offset payload != content)

/-- A file of this name can be removed. -/
def removes (path : Path) : Bool := decide (0 ≤ env.fsUnlink path) && (world.fs.names path).isSome

/-- The temporary file is created, or an earlier one is removed in cleaning up. -/
def beginActs (payload : Bytes) : Bool :=
  !world.upload.active && match kvCopy 512 payload (ascii "path"), kvU64 payload (ascii "size") with
    | some path, some _ => env.alloc .transferTmpPath &&
        (env.alloc .transferPath && decide (0 ≤ env.fsOpen) || removes env world (partPath path))
    | _, _ => false

/-- The file is there and can be opened. -/
def getActs (payload : Bytes) : Bool :=
  (kvCopy 512 payload (ascii "path")).any fun path =>
    env.alloc .transferPath && decide (0 ≤ env.fsOpen) && (world.fs.names path).isSome

def spawnActs (payload : Bytes) : Bool :=
  (kvCopy 512 payload (ascii "path")).any fun path => (procBuildArgs env payload path).isSome && canSpawn env world.proc

/-- The request names the child. -/
def killActs (payload : Bytes) : Bool :=
  world.proc.active && kvU32 payload (ascii "proc_id") == some world.proc.procId

def acts (message : Message) : Bool :=
  match FrameType.ofCode message.type with
  | some .putChunk => chunkActs env world message.reqId message.payload
  | some .putEnd => (uploadRefusal world.upload message.reqId).isNone
  | some .op => env.alloc .payloadCopy && (requestedOp (cstr message.payload)).isSome
  | some .putBegin => env.alloc .payloadCopy && beginActs env world (cstr message.payload)
  | some .getBegin => env.alloc .payloadCopy && getActs env world (cstr message.payload)
  | some .procSpawn => env.alloc .payloadCopy && spawnActs env world (cstr message.payload)
  | some .kill => env.alloc .payloadCopy && killActs world (cstr message.payload)
  | _ => false

end conditions

theorem Untouched.of_talks {before after : World} (talks : Talks before after) : Untouched before after := by
  rw [talks.same]
  exact ⟨rfl, rfl, rfl, rfl, rfl⟩

private theorem untouched_iff {before after : World} (rest : SameRest before after) :
    Untouched before after ↔ after.fs = before.fs :=
  ⟨Untouched.fs, fun fs => ⟨fs, rest.engine, by rw [rest.proc], by rw [rest.proc], rest.ran⟩⟩

section uploads
variable {env : Env} {world : World}

private theorem shape_accepts (shape : UploadShape world) {reqId : UInt32}
    (accepted : uploadRefusal world.upload reqId = none) :
    ∃ path fd file, Uploading world path fd file := by
  refine shape.resolve_left fun idle => ?_
  rw [idle] at accepted
  cases accepted

private theorem closed_ne {path : Path} {fd file : Nat} (uploading : Uploading world path fd file) {after : FileSystem}
    (closed : after.fds fd = none) : after ≠ world.fs := by
  rintro rfl
  rw [uploading.described] at closed
  cases closed

private theorem chunkWrite_short {path : Path} {fd file : Nat} (uploading : Uploading world path fd file)
    (payload : Bytes) :
    ((chunkWrite env world payload).2 < 0 ∨ (chunkWrite env world payload).2.toNat ≠ payload.length) ↔
      env.fsWrite payload.length < payload.length := by
  rw [chunkWrite, uploading.descriptor, Option.getD_some, uvFsWrite]
  split
  next failed => simp only [failed, true_or, true_iff]; omega
  next works =>
    rw [if_neg (by simp [uploading.described])]
    simp only [List.length_take]
    omega

private theorem pwrite_same {fs : FileSystem} {fd file : Nat} (described : fs.fds fd = some file) (offset : Nat)
    (bytes : Bytes) :
    fs.pwrite fd offset bytes = fs ↔ writeAt (fs.content fd) offset bytes = fs.content fd := by
  have content : fs.content fd = fs.data file := by simp [FileSystem.content, described]
  rw [content]
  constructor
  · intro same
    have data := pwrite_data fs described offset bytes
    rw [same] at data
    have at_file := congrFun data file
    rw [Function.update_self] at at_file
    exact at_file.symm
  · intro same
    unfold FileSystem.pwrite
    simp only [described, same, Function.update_eq_self]

private theorem chunk_fs_iff (shape : UploadShape world) (reqId : UInt32) (payload : Bytes) :
    (transferHandlePutChunk env world reqId payload).1.fs = world.fs ↔ chunkActs env world reqId payload = false := by
  have ending := putChunk_ending env world reqId payload
  generalize transferHandlePutChunk env world reqId payload = result at ending ⊢
  cases ending with
  | refused refusal => exact iff_of_true rfl (by simp [chunkActs, refusal])
  | exceeding accepted exceeds =>
    obtain ⟨path, fd, file, uploading⟩ := shape_accepts shape accepted
    refine iff_of_false (closed_ne uploading ?_) (by simp only [chunkActs, accepted, exceeds]; simp)
    exact (removed_abortUpload uploading.descriptor uploading.temporary).closed
  | unwritten accepted _ short =>
    obtain ⟨path, fd, file, uploading⟩ := shape_accepts shape accepted
    refine iff_of_false (closed_ne uploading ?_) (by simp [chunkActs, accepted, (chunkWrite_short uploading payload).mp short])
    exact (removed_abortUpload (by exact uploading.descriptor) (by exact uploading.temporary)).closed
  | stored accepted within whole =>
    obtain ⟨path, fd, file, uploading⟩ := shape_accepts shape accepted
    have same := pwrite_same uploading.described world.upload.offset payload
    have enough : ¬ env.fsWrite payload.length < payload.length := (chunkWrite_short uploading payload).not.mp whole
    simp only [(uploading.writes env payload).2 whole, same, chunkActs, accepted, uploading.descriptor, Option.getD_some,
      Option.isNone_none, Bool.true_and, Nat.not_lt.mpr within, enough, decide_false, Bool.false_or, bne_eq_false_iff_eq]

private theorem end_fs_iff (shape : UploadShape world) (reqId : UInt32) :
    (transferHandlePutEnd env world reqId).1.fs = world.fs ↔ (uploadRefusal world.upload reqId).isNone = false := by
  cases accepted : uploadRefusal world.upload reqId with
  | some message =>
    have ending := putEnd_ending env world reqId
    generalize transferHandlePutEnd env world reqId = result at ending ⊢
    cases ending with
    | refused => exact iff_of_true rfl rfl
    | incomplete taken | unclosed taken | unmoved taken | overflowed taken | finished taken =>
      rw [accepted] at taken
      cases taken
  | none =>
    obtain ⟨path, fd, file, uploading⟩ := shape_accepts shape accepted
    refine iff_of_false (closed_ne uploading ?_) (by simp)
    have effect := putEnd_effect env uploading reqId
    generalize transferHandlePutEnd env world reqId = result at effect
    cases effect with
    | refused other => exact absurd (uploadRefusal_none accepted).2 other
    | dropped _ _ _ _ _ removed => exact removed.closed
    | unmoved _ _ _ _ _ _ _ _ removed => exact removed.closed
    | finished _ _ _ _ _ _ fs => rw [fs, rename_fds, cleared_fds, close_fds_self]

private theorem unlink_same (path : Path) : uvFsUnlink env world.fs path = world.fs ↔ removes env world path = false := by
  unfold uvFsUnlink removes
  split
  next failed => simp [Int.not_le.mpr failed]
  next works =>
    simp only [Int.not_lt.mp works, decide_true, Bool.true_and, Option.isSome_eq_false_iff, Option.isNone_iff_eq_none]
    constructor
    · intro same
      have names := congrFun (congrArg FileSystem.names same) path
      simpa using names.symm
    · intro absent
      unfold FileSystem.unlink
      simp only [← absent, Function.update_eq_self]

private theorem abort_opened (fs : FileSystem) (transfer : TransferState) :
    (transferAbort env fs transfer).1.opened = fs.opened := by
  unfold transferAbort
  cases transfer.file <;> cases transfer.tmpPath <;> simp [uvFsClose]

private theorem opened_more {fs after : FileSystem} (more : after.opened = fs.opened + 1) : after ≠ fs := by
  rintro rfl
  omega

private theorem begin_fs_iff (shape : UploadShape world) (reqId : UInt32) (payload : Bytes) :
    (transferHandlePutBegin env world reqId payload).1.fs = world.fs ↔ beginActs env world payload = false := by
  have empty (idle : world.upload.active = false) : world.upload = transferInit := by
    refine shape.resolve_right ?_
    rintro ⟨_, _, _, uploading⟩
    rw [uploading.active] at idle
    cases idle
  have asked {path : Path} {size : Nat} (idle : world.upload.active = false) (asks : Asks payload path size) :
      beginActs env world payload = (env.alloc .transferTmpPath &&
        (env.alloc .transferPath && decide (0 ≤ env.fsOpen) || removes env world (partPath path))) := by
    simp only [beginActs, idle, asks.path, asks.size, Bool.not_false, Bool.true_and]
  have ending := putBegin_ending env world reqId payload
  generalize transferHandlePutBegin env world reqId payload = result at ending ⊢
  cases ending with
  | busy active => exact iff_of_true rfl (by simp [beginActs, active])
  | missing idle missing =>
    refine iff_of_true rfl ?_
    simp only [beginActs, idle, Bool.not_false, Bool.true_and]
    split
    next foundPath foundSize => exact absurd ⟨foundPath, foundSize⟩ (missing _ _)
    next => rfl
  | unnamed idle asks memory =>
    rw [asked idle asks, sendError_fs]
    simp only [World.abortUpload, namedUpload, transferAbort, empty idle, transferInit]
    cases tmp : env.alloc .transferTmpPath with
    | false => simp
    | true =>
      -- only the temporary name is there, and the clean-up unlinks it
      have name : env.alloc .transferPath = false := eq_false_of_ne_true fun name => memory ⟨name, tmp⟩
      simp only [name, if_true, Bool.true_and, Bool.false_and, Bool.false_or]
      exact unlink_same _
  | uncreated idle asks memory failed =>
    rw [asked idle asks, sendError_fs]
    simp only [World.abortUpload, transferAbort, openedUpload, empty idle, transferInit, memory.1, memory.2,
      Int.not_le.mpr failed, decide_false, Bool.and_false, Bool.false_or, Bool.true_and]
    exact unlink_same _
  | overflowed idle asks memory works =>
    refine iff_of_false (opened_more ?_) (by simp [asked idle asks, memory.1, memory.2, works])
    simp [World.abortUpload, abort_opened, sendError_fs, openedWorld]
  | begun idle asks memory works =>
    exact iff_of_false (opened_more (create_opened ..)) (by simp [asked idle asks, memory.1, memory.2, works])

end uploads

section requests
variable {env : Env} {world : World}

private theorem getLoop_opened (reqId : UInt32) (fd : Nat) (world : World) :
    (getLoop env reqId fd world).1.fs.opened = world.fs.opened := by
  unfold getLoop
  split
  next more =>
    simp only
    split
    · exact abort_opened ..
    next bytes _ =>
      split
      · exact abort_opened ..
      next some =>
        split
        · exact abort_opened ..
        · exact getLoop_opened reqId fd _
  next => exact close_opened ..
termination_by world.download.totalSize - world.download.offset
decreasing_by
  omega

private theorem get_fs_iff (idle : world.download = transferInit) (reqId : UInt32) (payload : Bytes) :
    (transferHandleGetBegin env world reqId payload).1.fs = world.fs ↔ getActs env world payload = false := by
  have visited {path : Path} {file : Nat} {fs after : FileSystem} (opens : OpensFile env world payload path file fs)
      (same : after.opened = fs.opened) : after = world.fs ↔ getActs env world payload = false := by
    refine iff_of_false (opened_more (same.trans (openRead_opened opens.reading))) ?_
    simp [getActs, opens.named, opens.memory, opens.opens, opens.found]
  have ending := getBegin_ending env world reqId payload
  generalize transferHandleGetBegin env world reqId payload = result at ending ⊢
  cases ending with
  | busy active =>
    rw [idle] at active
    cases active
  | missing _ missing => exact iff_of_true rfl (by simp [getActs, missing])
  | unnamed _ named memory => exact iff_of_true rfl (by simp [getActs, named, memory])
  | unopened _ named memory failed =>
    refine iff_of_true ?_ ?_
    · simp [sendError_fs, World.abortDownload, transferAbort, fetchSlot, idle, transferInit]
    · rcases failed with refused | free
      · simp [getActs, named, Int.not_le.mpr refused]
      · simp [getActs, named, free]
  | unsized _ opens | overflowed _ opens | unanswered _ opens | unbuffered _ opens => exact visited opens (abort_opened ..)
  | looped _ opens => exact visited opens (getLoop_opened ..)

private theorem spawn_untouched_iff (reqId : UInt32) (payload : Bytes) :
    Untouched world (procHandleSpawn env world reqId payload).1 ↔ spawnActs env world payload = false := by
  have touched {after : World} (more : after.proc.spawned = world.proc.spawned + 1) : ¬ Untouched world after := by
    intro untouched
    have same := untouched.spawned
    omega
  have ending := handleSpawn_ending env world reqId payload
  generalize procHandleSpawn env world reqId payload = result at ending ⊢
  cases ending with
  | missing missing => exact iff_of_true (.of_talks (.sendError ..)) (by simp [spawnActs, missing])
  | unbuilt named unbuilt => exact iff_of_true (.of_talks (.sendError ..)) (by simp [spawnActs, named, unbuilt])
  | @spawns path args named built =>
    have asked : spawnActs env world payload = canSpawn env world.proc := by simp [spawnActs, named, built]
    rw [asked]
    generalize kvU64Default payload (ascii "timeout_ms") 60000 = timeoutMs
    generalize kvU64Default payload (ascii "idle_timeout_ms") 10000 = idleTimeoutMs
    have ending := spawn_ending env world reqId path args timeoutMs idleTimeoutMs true
    generalize procSpawnCommon env world reqId path args timeoutMs idleTimeoutMs true = after at ending
    cases ending with
    | busy active => exact iff_of_true ⟨rfl, rfl, rfl, rfl, rfl⟩ (by simp [canSpawn, active])
    | unnamed _ memory => exact iff_of_true ⟨rfl, rfl, rfl, rfl, rfl⟩ (by simp [canSpawn, memory])
    | failed _ _ _ _ _ cannot _ spawned kills => exact iff_of_true ⟨rfl, rfl, spawned, kills, rfl⟩ cannot
    | started can | overflowed can | acknowledged can => exact iff_of_false (touched rfl) (by simp [can])

private theorem kill_untouched_iff (reqId : UInt32) (payload : Bytes) :
    Untouched world (procHandleKill env world reqId payload).1 ↔ killActs world payload = false := by
  have asked : killActs world payload = true ↔ NamesChild world payload := by
    simp only [killActs, NamesChild, Bool.and_eq_true, beq_iff_eq]
  have killed {after : World} (matching : NamesChild world payload)
      (proc : after.proc = processKill env world.proc .requested) :
      Untouched world after ↔ killActs world payload = false := by
    refine iff_of_false (fun untouched => ?_) (by simp [asked.mpr matching])
    have kills := congrArg List.length untouched.kills
    simp [proc, processKill] at kills
  have ending := handleKill_ending env world reqId payload
  generalize procHandleKill env world reqId payload = result at ending ⊢
  cases ending with
  | missing missing => exact iff_of_true (.of_talks (.sendError ..)) (by simp [killActs, missing])
  | unknown _ other => exact iff_of_true (.of_talks (.sendError ..)) (eq_false_of_ne_true (asked.not.mpr other))
  | failed matching | killed matching => exact killed matching rfl

end requests

theorem Untouched.uncounted {world after : World} (message : Message) :
    Untouched (world.countFrame message) after ↔ Untouched world after :=
  ⟨fun same => ⟨same.fs, same.engine, same.spawned, same.kills, same.ran⟩,
    fun same => ⟨same.fs, same.engine, same.spawned, same.kills, same.ran⟩⟩

private theorem op_ran (env : Env) (world : World) (req : Table) (op : Op) : (op.run env world req).1.ran = world.ran := by
  have effect := op_effect env world req op
  generalize (op.run env world req).1 = after at effect
  cases effect with
  | nothing | opened => rfl
  | closed relayId =>
    have ending := portClose_ending world relayId
    generalize portfwdClose world relayId = result at ending ⊢
    cases ending <;> rfl
  | spawned _ path args timeoutMs idleTimeoutMs =>
    have ending := spawn_ending env world 0 path args timeoutMs idleTimeoutMs false
    generalize procSpawnCommon env world 0 path args timeoutMs idleTimeoutMs false = after at ending
    cases ending <;> rfl

private theorem op_untouched_iff (env : Env) (world : World) (reqId : UInt32) (payload : Bytes) :
    Untouched world (handleOp env world reqId payload).1 ↔ (requestedOp payload).isSome = false := by
  cases named : requestedOp payload with
  | none => exact iff_of_true (.of_talks (handleOp_talks (dispatchRequest_unknown env world reqId named))) rfl
  | some op =>
    refine iff_of_false (fun untouched => ?_) (by simp)
    have answered := handleOp_talks (dispatchRequest_runs env world reqId named)
    have ran := untouched.ran
    rw [answered.same, World.recordOp] at ran
    simp only [op_ran, List.append_right_eq_self, List.cons_ne_nil] at ran

private theorem handleText_inert_iff {env : Env} {world : World} (shape : UploadShape world)
    (idle : world.download = transferInit)
    {message : Message} {type : Option FrameType} (found : FrameType.ofCode message.type = type)
    (memory : env.alloc .payloadCopy = true) (notChunk : type ≠ some .putChunk) (notEnd : type ≠ some .putEnd) :
    Untouched world (handleText env world type message.reqId (cstr message.payload)).1 ↔ acts env world message = false := by
  unfold acts
  rw [found]
  cases type with
  | none =>
    simp only [handleText, iff_true]
    exact .of_talks (.countError ..)
  | some type =>
    cases type with
    | putChunk => exact absurd rfl notChunk
    | putEnd => exact absurd rfl notEnd
    | hello | ping =>
      simp only [handleText, iff_true]
      exact .of_talks (.sendText ..)
    | op =>
      simp only [handleText, memory, Bool.true_and]
      exact op_untouched_iff ..
    | putBegin =>
      simp only [handleText, memory, Bool.true_and]
      rw [untouched_iff (putBegin_sameRest ..)]
      exact begin_fs_iff shape ..
    | getBegin =>
      simp only [handleText, memory, Bool.true_and]
      rw [untouched_iff (getBegin_effect env world _ _ idle).2]
      exact get_fs_iff idle ..
    | procSpawn =>
      simp only [handleText, memory, Bool.true_and]
      exact spawn_untouched_iff ..
    | kill =>
      simp only [handleText, memory, Bool.true_and]
      exact kill_untouched_iff ..
    | _ =>
      simp only [handleText, iff_true]
      exact .of_talks (.countError ..)

private theorem inert_iff {env : Env} {world : World} (shape : UploadShape world) (idle : world.download = transferInit)
    (message : Message) : Inert env world message ↔ acts env world message = false := by
  refine (Untouched.uncounted message).symm.trans ?_
  have shape := shape.counted message
  have idle : (world.countFrame message).download = transferInit := idle
  change Untouched _ (protocolHandleControl env (world.countFrame message) message).1 ↔
    acts env (world.countFrame message) message = false
  generalize world.countFrame message = world at shape idle ⊢
  have ending := control_ending env world message
  generalize protocolHandleControl env world message = result at ending ⊢
  cases ending with
  | chunk found =>
    rw [untouched_iff (putChunk_sameRest ..), chunk_fs_iff shape]
    simp only [acts, found]
  | ended found =>
    rw [untouched_iff (putEnd_sameRest ..), end_fs_iff shape]
    simp only [acts, found]
  | uncopied notChunk notEnd memory =>
    refine iff_of_true (.of_talks (.sendError ..)) ?_
    unfold acts
    split <;> simp_all
  | text notChunk notEnd memory => exact handleText_inert_iff shape idle rfl memory notChunk notEnd

/-- A frame that is handled after the session was closed has no effect. -/
def InertAfterClose (world : World) (input : Upload.Input) : Prop :=
  world.link.life.closed = true → ∀ message, input.1 = .read (.dispatch message) → Inert input.2 world message

def HarmlessAfterClose (world : World) (input : Upload.Input) : Prop :=
  world.link.life.closed = true → ∀ message, input.1 = .read (.dispatch message) → acts input.2 world message = false

/-- What one call of `read_cb` does, and what the calls it makes return. -/
def readFrames (rx : Receive) (bytes : Bytes) (envs : List Env) : List Upload.Input :=
  ((readCb rx (.data bytes)).2.map Event.read).zip envs

/-- The frames behind one that closed the session have no effect exactly when none
of them acts. -/
theorem inert_after_close_iff {connectEnv : Env} {sessionId : Nat} {counts : Tally} {fs : FileSystem} {engine : Engine}
    {start world : World} {history : List Upload.Input}
    (connected : onNewConnection connectEnv sessionId counts fs engine = some start)
    (executed : agent.run start history = some world) (rx : Receive) (bytes : Bytes) (envs : List Env) :
    agent.Conforms InertAfterClose world (readFrames rx bytes envs) ↔
      agent.Conforms HarmlessAfterClose world (readFrames rx bytes envs) := by
  apply agent.conforms_congr
  intro past state input reached
  have whole : agent.run start (history ++ past) = some state := by
    rw [agent.run_append, executed]
    exact reached
  have tracked := Upload.run_tracked connected whole
  have each := fun message => @inert_iff input.2 state tracked.shape tracked.download message
  exact forall_congr' fun _ => forall_congr' fun message => forall_congr' fun _ => each message

/-- A session with a child, this much to be written and nothing else going on. -/
structure Filling (world : World) (pending : Nat) : Prop where
  tcp : world.link.life.tcp.phase = .open
  live : world.link.life.closed = false
  reads : world.proc.reads .stdout = true
  pending : world.link.pendingWriteBytes = pending
  upload : world.upload = transferInit
  fs : world.fs = .empty

/-- The child writes, and nothing leaves the queue. -/
theorem Filling.output {world : World} {pending : Nat} (filling : Filling world pending) (count : Nat) (some : 0 < count)
    (bounded : count ≤ maxFramePayload) (room : pending + frameHeaderSize + count ≤ maxWriteQueueBytes) :
    ∃ next, agent.step world (.output .stdout (List.replicate count 0), {}) = .some next ∧
      Filling next (pending + frameHeaderSize + count) := by
  have can : CanSend {} world.link (List.replicate count (0 : UInt8)).length :=
    ⟨filling.live, by rw [filling.pending, List.length_replicate]; exact room, rfl, rfl, rfl⟩
  have queues := @sendFrame_queues {} world.link Pipe.stdout.frameType.code world.proc.procId _ (by decide)
    (by rw [List.length_replicate]; exact bounded) can
  have enabled : enabled world (.output .stdout (List.replicate count 0)) = true := by
    have filled : (List.replicate count (0 : UInt8)).isEmpty = false := by
      simp only [List.isEmpty_replicate, decide_eq_false_iff_not]
      omega
    simp [Luagent.enabled, filling.reads, filled]
  refine ⟨_, if_pos enabled, ?_, ?_, filling.reads, ?_, filling.upload, filling.fs⟩
  · exact (congrArg (·.tcp.phase) queues.life).trans filling.tcp
  · exact (congrArg (·.closed) queues.life).trans filling.live
  · exact queues.pending.trans (by rw [filling.pending, List.length_replicate])

def spawnedOnce : World := (agent.step Upload.freshSession (Upload.spawnX, {})).get (by decide)

private theorem queue_filled : ∃ history world, agent.run Upload.freshSession history = some world ∧
    Filling world maxWriteQueueBytes := by
  have born : Filling spawnedOnce 40 := ⟨by decide +kernel, by decide +kernel, by decide, by decide +kernel, by decide, rfl⟩
  obtain ⟨first, one, filling⟩ := born.output 65522 (by decide) (by decide) (by decide)
  obtain ⟨second, two, filling⟩ := filling.output 65522 (by decide) (by decide) (by decide)
  obtain ⟨third, three, filling⟩ := filling.output 65522 (by decide) (by decide) (by decide)
  obtain ⟨fourth, four, filling⟩ := filling.output 65482 (by decide) (by decide) (by decide)
  refine ⟨[(Upload.spawnX, {}), (.output .stdout (List.replicate 65522 0), {}),
    (.output .stdout (List.replicate 65522 0), {}), (.output .stdout (List.replicate 65522 0), {}),
    (.output .stdout (List.replicate 65482 0), {})], fourth, ?_, filling⟩
  have born : agent.step Upload.freshSession (Upload.spawnX, {}) = some spawnedOnce :=
    (Option.some_get (by decide)).symm
  simp only [Machine.run, born, one, two, three, four, Option.bind_some]

def pingFrame : Frame := ⟨⟨⟨FrameType.ping.code, 0, 8, 0⟩, by decide⟩, [], rfl⟩

def beginFrame : Frame := ⟨⟨⟨FrameType.putBegin.code, 0, 9, 13⟩, by decide⟩, ascii "path=a\nsize=2", by decide⟩

private theorem readFrames_whole (frames : List Frame) (some : frameCodec.encodeAll frames ≠ [])
    (fits : (frameCodec.encodeAll frames).length ≤ readChunk * 4) (envs : List Env) :
    readFrames emptyBuffer (frameCodec.encodeAll frames) envs =
      (.read .received :: frames.map fun frame => .read (.dispatch frame.message)).zip envs := by
  have room : emptyBuffer.used + (frameCodec.encodeAll frames).length ≤ emptyBuffer.cap := by
    rw [show emptyBuffer.used = 0 from rfl, Nat.zero_add]
    exact fits
  have parsed := (Framing.readCb_parse emptyBuffer _ some room).1
  rw [show emptyBuffer.content = [] from rfl, List.nil_append, frameCodec.parse_encodeAll] at parsed
  rw [readFrames, parsed]
  simp [Framing.actionsOf, Function.comp_def]

/-- The session as the full queue leaves it, in the middle of a callback. -/
structure ShutSession (world : World) : Prop where
  closed : world.link.life.closed = true
  upload : world.upload = transferInit
  fs : world.fs = .empty
  reading : world.reading = true

private theorem ping_closes {world : World} (filling : Filling world maxWriteQueueBytes) :
    ∃ closed, agent.run world [(.read .received, {}), (.read (.dispatch pingFrame.message), {})] = some closed ∧
      ShutSession closed := by
  let heard : World := { world with lastRxMs := 0, reading := true }
  have received : agent.step world (.read .received, {}) = some heard := if_pos (by simp [enabled, filling.tcp])
  have full : ∀ link : Link, link.life.closed = false → link.pendingWriteBytes = maxWriteQueueBytes →
      (sessionSendFrame {} link FrameType.pong.code 8 (ascii "status=ok")).1 = sessionClose link := by
    intro link live pending
    unfold sessionSendFrame
    rw [if_neg (by simp [live]), if_pos (by rw [pending]; decide)]
  have closes := full (heard.countFrame pingFrame.message).link filling.live filling.pending
  have answered : agent.step heard (.read (.dispatch pingFrame.message), {}) =
      some { callback {} heard (.read (.dispatch pingFrame.message)) with reading := true } :=
    if_pos (by simp [enabled, heard])
  refine ⟨{ callback {} heard (.read (.dispatch pingFrame.message)) with reading := true }, ?_, ?_, filling.upload,
    filling.fs, rfl⟩
  · simp only [Machine.run, received, answered, Option.bind_some]
  · refine (congrArg (·.life.closed) closes).trans ?_
    rw [sessionClose_life, life_close_closed]

private theorem begin_creates {world : World} (shut : ShutSession world) :
    (callback {} world (.read (.dispatch beginFrame.message))).fs.names (ascii "a.part") = some 0 := by
  obtain ⟨⟨_, _, upload, _⟩, fs, _⟩ := world
  obtain ⟨_, rfl, rfl, _⟩ := shut
  rfl

/-- A PUT_BEGIN behind the PING that closed the session creates its file. -/
theorem begins_after_close : ∃ history world, agent.run Upload.freshSession history = some world ∧
    ∃ closed after : World, let bytes := frameCodec.encodeAll [pingFrame, beginFrame]
      agent.run world ((readFrames emptyBuffer bytes [{}, {}, {}]).take 2) = some closed ∧ closed.link.life.closed = true ∧
      closed.fs.names (ascii "a.part") = none ∧
      agent.run world (readFrames emptyBuffer bytes [{}, {}, {}]) = some after ∧
      after.fs.names (ascii "a.part") = some 0 ∧
      ¬ agent.Conforms InertAfterClose world (readFrames emptyBuffer bytes [{}, {}, {}]) := by
  obtain ⟨history, world, executed, filling⟩ := queue_filled
  obtain ⟨closed, ran, shut⟩ := ping_closes filling
  have frames := readFrames_whole [pingFrame, beginFrame] (by decide) (by decide) [{}, {}, {}]
  have begun : agent.step closed (.read (.dispatch beginFrame.message), {}) =
      some { callback {} closed (.read (.dispatch beginFrame.message)) with reading := true } :=
    if_pos (by simp [enabled, shut.reading])
  have created := begin_creates shut
  refine ⟨history, world, executed, closed,
    { callback {} closed (.read (.dispatch beginFrame.message)) with reading := true }, ?_, shut.closed,
    by rw [shut.fs]; rfl, ?_, created, ?_⟩
  · rw [frames]
    exact ran
  · rw [frames]
    have whole := agent.run_append world [(.read .received, {}), (.read (.dispatch pingFrame.message), {})]
      [(.read (.dispatch beginFrame.message), {})]
    rw [ran, Option.bind_some, agent.run_singleton, begun] at whole
    exact whole
  · rw [frames]
    intro conforms
    have last := @Machine.conforms_append _ _ agent InertAfterClose world
      [(.read .received, {}), (.read (.dispatch pingFrame.message), {})] (.read (.dispatch beginFrame.message), {})
    have inert := (last.mp conforms).2 closed ran shut.closed _ rfl
    have same := inert.fs
    rw [shut.fs] at same
    have name := congrArg (·.names (ascii "a.part")) same
    exact absurd (created.symm.trans name) (by decide)

/-- A second PING behind it has no effect. -/
theorem inert_after_close_pings : ∃ history world, agent.run Upload.freshSession history = some world ∧
    ∃ closed : World, let bytes := frameCodec.encodeAll [pingFrame, pingFrame]
      agent.run world ((readFrames emptyBuffer bytes [{}, {}, {}]).take 2) = some closed ∧ closed.link.life.closed = true ∧
      agent.Conforms InertAfterClose world (readFrames emptyBuffer bytes [{}, {}, {}]) := by
  obtain ⟨history, world, executed, filling⟩ := queue_filled
  obtain ⟨closed, ran, shut⟩ := ping_closes filling
  have frames := readFrames_whole [pingFrame, pingFrame] (by decide) (by decide) [{}, {}, {}]
  have connected : onNewConnection {} 1 {} .empty portfwdEngineInit = some Upload.freshSession :=
    (Option.some_get (by decide)).symm
  refine ⟨history, world, executed, closed, by rw [frames]; exact ran, shut.closed, ?_⟩
  rw [inert_after_close_iff connected executed, frames]
  apply agent.conforms_of_forall
  rintro ⟨event, env⟩ member state _ message isFrame
  have ping : message = pingFrame.message := by
    simp only [List.map_cons, List.map_nil, List.zip_cons_cons, List.zip_nil_right, List.mem_cons, Prod.mk.injEq,
      List.not_mem_nil, or_false] at member
    rcases member with ⟨rfl, _⟩ | ⟨rfl, _⟩ | ⟨rfl, _⟩
    · cases isFrame
    · cases isFrame
      rfl
    · cases isFrame
      rfl
  rw [ping]
  rfl

end Luagent.Proofs.AfterClose
