import Luagent.Proofs.Speech
import Luagent.Proofs.TransferCounts
import Luagent.Proofs.UploadSoundness

/-! One callback of the agent, seen from the child in the process slot: what is
recorded of it, the kills sent to it and what is counted. -/

namespace Luagent.Proofs
open Foundation

structure ProcessCounts (before after : Link) (spawns exits timeouts : Nat) : Prop where
  spawns : after.tally.session .processSpawns = before.tally.session .processSpawns + spawns
  exits : after.tally.session .processExits = before.tally.session .processExits + exits
  timeouts : after.tally.session .processTimeouts = before.tally.session .processTimeouts + timeouts

namespace ProcessCounts
variable {before middle after : Link}

theorem of_counts {counted : List Counter} (counts : Counts before counted after) :
    ProcessCounts before after (counted.count .processSpawns) (counted.count .processExits)
      (counted.count .processTimeouts) :=
  ⟨counts.session _ rfl, counts.session _ rfl, counts.session _ rfl⟩

theorem of_quiet (counts : Counts before [] after) : ProcessCounts before after 0 0 0 := of_counts counts

theorem of_transfers {counted : List Counter} (counts : Counts before counted after) (only : OnlyTransfers counted) :
    ProcessCounts before after 0 0 0 := by
  have absent : ∀ {counter : Counter}, isTransfer counter = false → counter ∉ counted := by
    intro counter other member
    rw [only counter member] at other
    cases other
  exact ⟨counts.absent rfl (absent rfl), counts.absent rfl (absent rfl), counts.absent rfl (absent rfl)⟩

theorem quiet_first {spawns exits timeouts : Nat} (first : ProcessCounts before middle 0 0 0)
    (second : ProcessCounts middle after spawns exits timeouts) : ProcessCounts before after spawns exits timeouts :=
  ⟨by rw [second.spawns, first.spawns]; rfl, by rw [second.exits, first.exits]; rfl,
    by rw [second.timeouts, first.timeouts]; rfl⟩

theorem quiet_last {spawns exits timeouts : Nat} (first : ProcessCounts before middle spawns exits timeouts)
    (second : ProcessCounts middle after 0 0 0) : ProcessCounts before after spawns exits timeouts :=
  ⟨by rw [second.spawns, first.spawns]; rfl, by rw [second.exits, first.exits]; rfl,
    by rw [second.timeouts, first.timeouts]; rfl⟩

end ProcessCounts

theorem TransferBooks.processes {before after : World} {lost : Prop} (books : TransferBooks before after lost) :
    ProcessCounts before.link after.link 0 0 0 := by
  obtain ⟨counted, _, counts, only, _⟩ := books
  exact .of_transfers counts only

/-- What is recorded of the child in the slot. -/
structure SameRecord (before after : ProcState) : Prop where
  procId : after.procId = before.procId := by rfl
  startedMs : after.startedMs = before.startedMs := by rfl
  timeoutMs : after.timeoutMs = before.timeoutMs := by rfl
  idleTimeoutMs : after.idleTimeoutMs = before.idleTimeoutMs := by rfl

theorem SameRecord.trans {before middle after : ProcState} (first : SameRecord before middle)
    (second : SameRecord middle after) : SameRecord before after :=
  ⟨second.procId.trans first.procId, second.startedMs.trans first.startedMs, second.timeoutMs.trans first.timeoutMs,
    second.idleTimeoutMs.trans first.idleTimeoutMs⟩

/-- No child was started or killed, and nothing was counted for one. -/
structure ChildUndisturbed (world next : World) : Prop where
  active : next.proc.active = world.proc.active := by rfl
  spawned : next.proc.spawned = world.proc.spawned := by rfl
  kills : next.proc.kills = world.proc.kills := by rfl
  record : world.proc.active = true → SameRecord world.proc next.proc ∧ next.proc.killReason = world.proc.killReason
  nextProcId : next.nextProcId = world.nextProcId := by rfl
  counts : ProcessCounts world.link next.link 0 0 0

namespace ChildUndisturbed
variable {world next : World}

/-- Nothing but the connection and the transfers changed. -/
theorem of_rest (proc : next.proc = world.proc) (nextProcId : next.nextProcId = world.nextProcId)
    (counts : ProcessCounts world.link next.link 0 0 0) : ChildUndisturbed world next where
  active := by rw [proc]
  spawned := by rw [proc]
  kills := by rw [proc]
  record _ := by
    rw [proc]
    exact ⟨{}, rfl⟩
  nextProcId := nextProcId
  counts := counts

theorem of_talks (talks : Talks world next) : ChildUndisturbed world next := by
  refine of_rest ?_ ?_ (.of_quiet talks.counts)
  · rw [talks.same]
  · rw [talks.same]

theorem of_inactive (inactive : world.proc.active = false) (still : next.proc.active = false)
    (spawned : next.proc.spawned = world.proc.spawned) (kills : next.proc.kills = world.proc.kills)
    (nextProcId : next.nextProcId = world.nextProcId) (counts : ProcessCounts world.link next.link 0 0 0) :
    ChildUndisturbed world next where
  active := by rw [inactive, still]
  spawned := spawned
  kills := kills
  record active := by
    rw [inactive] at active
    cases active
  nextProcId := nextProcId
  counts := counts

end ChildUndisturbed

/-- How a callback that does not notify an exit leaves the slot. -/
inductive ChildChange (env : Env) (world next : World) : Prop where
  | kept (same : ChildUndisturbed world next)
  | killed (reason : KillReason) (named : reason ≠ .none) (active : world.proc.active = true)
      (still : next.proc.active = true) (spawned : next.proc.spawned = world.proc.spawned)
      (kills : next.proc.kills = world.proc.kills ++ [⟨world.proc.spawned, reason, env.kill⟩])
      (record : SameRecord world.proc next.proc) (killReason : next.proc.killReason = reason)
      (nextProcId : next.nextProcId = world.nextProcId)
      (counts : ProcessCounts world.link next.link 0 0 (if reason = .requested then 0 else 1))
  | failed (inactive : world.proc.active = false) (still : next.proc.active = false)
      (spawned : next.proc.spawned = world.proc.spawned) (kills : next.proc.kills = world.proc.kills)
      (nextProcId : next.nextProcId = world.nextProcId + 1) (counts : ProcessCounts world.link next.link 1 0 0)
  | started (inactive : world.proc.active = false) (active : next.proc.active = true)
      (spawned : next.proc.spawned = world.proc.spawned + 1) (kills : next.proc.kills = world.proc.kills)
      (procId : next.proc.procId = world.nextProcId) (killReason : next.proc.killReason = .none)
      (nextProcId : next.nextProcId = world.nextProcId + 1) (counts : ProcessCounts world.link next.link 1 0 0)

namespace ChildChange
variable {env : Env} {world middle next : World}

theorem after (same : ChildUndisturbed world middle) (change : ChildChange env middle next) :
    ChildChange env world next := by
  cases change with
  | kept later =>
    refine .kept ⟨later.active.trans same.active, later.spawned.trans same.spawned, later.kills.trans same.kills, ?_,
      later.nextProcId.trans same.nextProcId, same.counts.quiet_first later.counts⟩
    intro active
    obtain ⟨first, reason⟩ := same.record active
    obtain ⟨second, further⟩ := later.record (same.active.trans active)
    exact ⟨first.trans second, further.trans reason⟩
  | killed reason named active still spawned kills record killReason nextProcId counts =>
    have active := same.active.symm.trans active
    rw [same.kills, same.spawned] at kills
    exact .killed reason named active still (spawned.trans same.spawned) kills ((same.record active).1.trans record)
      killReason (nextProcId.trans same.nextProcId) (same.counts.quiet_first counts)
  | failed inactive still spawned kills nextProcId counts =>
    rw [same.nextProcId] at nextProcId
    exact .failed (same.active.symm.trans inactive) still (spawned.trans same.spawned) (kills.trans same.kills) nextProcId
      (same.counts.quiet_first counts)
  | started inactive active spawned kills procId killReason nextProcId counts =>
    rw [same.spawned] at spawned
    rw [same.nextProcId] at procId nextProcId
    exact .started (same.active.symm.trans inactive) active spawned (kills.trans same.kills) procId killReason nextProcId
      (same.counts.quiet_first counts)

theorem followed (change : ChildChange env world middle) (same : ChildUndisturbed middle next) :
    ChildChange env world next := by
  cases change with
  | kept first => exact after first (.kept same)
  | killed reason named active still spawned kills record killReason nextProcId counts =>
    obtain ⟨kept, unnamed⟩ := same.record still
    exact .killed reason named active (same.active.trans still) (same.spawned.trans spawned) (same.kills.trans kills)
      (record.trans kept) (unnamed.trans killReason) (same.nextProcId.trans nextProcId) (counts.quiet_last same.counts)
  | failed inactive still spawned kills nextProcId counts =>
    exact .failed inactive (same.active.trans still) (same.spawned.trans spawned) (same.kills.trans kills)
      (same.nextProcId.trans nextProcId) (counts.quiet_last same.counts)
  | started inactive active spawned kills procId killReason nextProcId counts =>
    obtain ⟨kept, unnamed⟩ := same.record active
    exact .started inactive (same.active.trans active) (same.spawned.trans spawned) (same.kills.trans kills)
      (kept.procId.trans procId) (unnamed.trans killReason) (same.nextProcId.trans nextProcId)
      (counts.quiet_last same.counts)

theorem of_kill (reason : KillReason) (named : reason ≠ .none) (active : world.proc.active = true)
    (proc : next.proc = processKill env world.proc reason) (nextProcId : next.nextProcId = world.nextProcId)
    (counts : ProcessCounts world.link next.link 0 0 (if reason = .requested then 0 else 1)) :
    ChildChange env world next := by
  refine .killed reason named active ?_ ?_ ?_ ?_ ?_ nextProcId counts
  · rw [proc]
    exact active
  · rw [proc]
    rfl
  · rw [proc]
    rfl
  · rw [proc]
    exact {}
  · rw [proc]
    rfl

/-- The session is released. -/
theorem of_abort (proc : next.proc = procAbort env world.proc) (nextProcId : next.nextProcId = world.nextProcId)
    (counts : ProcessCounts world.link next.link 0 0 0) : ChildChange env world next := by
  unfold procAbort at proc
  split at proc
  next active => exact .of_kill .requested nofun active proc nextProcId counts
  next inactive =>
    have inactive : world.proc.active = false := by simpa using inactive
    refine .kept (.of_inactive inactive ?_ ?_ ?_ nextProcId counts)
    · rw [proc]
      rfl
    · rw [proc]
      rfl
    · rw [proc]
      rfl

end ChildChange

private theorem spawn_change (env : Env) (world : World) (reqId : UInt32) (path : Bytes) (args : List Bytes)
    (timeoutMs idleTimeoutMs : Nat) (sendAck : Bool) :
    ChildChange env world (procSpawnCommon env world reqId path args timeoutMs idleTimeoutMs sendAck).1 := by
  have counted : ProcessCounts world.link (diagCountProcessSpawn world.link) 1 0 0 := .of_counts (.one world.link _)
  have complained : ∀ code message, ProcessCounts world.link
      (sessionSendError env (diagCountProcessSpawn world.link) reqId code message).1 1 0 0 := fun code message =>
    counted.quiet_last (.of_quiet (sendError_counts ..))
  have referenced : ProcessCounts world.link (spawnedChild env world path args timeoutMs idleTimeoutMs).link 1 0 0 :=
    counted.quiet_last (.of_quiet (.of_tally rfl))
  have ending := spawn_ending env world reqId path args timeoutMs idleTimeoutMs sendAck
  generalize procSpawnCommon env world reqId path args timeoutMs idleTimeoutMs sendAck = after at ending
  cases ending with
  | busy => exact .kept (.of_talks (.sendError ..))
  | unnamed free => exact .kept (.of_inactive free rfl rfl rfl rfl (.of_quiet (sendError_counts env world.link ..)))
  | failed _ _ _ free _ _ inactive spawned kills => exact .failed free inactive spawned kills rfl (complained _ _)
  | started can => exact .started (free_of_canSpawn can) rfl rfl rfl rfl rfl rfl referenced
  | overflowed can =>
    exact .started (free_of_canSpawn can) rfl rfl rfl rfl rfl rfl (referenced.quiet_last (.of_quiet (sendError_counts ..)))
  | acknowledged can =>
    exact .started (free_of_canSpawn can) rfl rfl rfl rfl rfl rfl (referenced.quiet_last (.of_quiet (sendFrame_counts ..)))

theorem OpEffect.change {env : Env} {op : Op} {world next : World} (effect : OpEffect env op world next) :
    ChildChange env world (next.recordOp op) := by
  have still : ProcessCounts world.link world.link 0 0 0 := .of_quiet (.refl _)
  cases effect with
  | nothing => exact .kept (.of_rest rfl rfl still)
  | opened =>
    refine .kept (.of_rest rfl rfl ?_)
    unfold portfwdOpen
    simp only
    split
    · exact .of_counts (.one world.link .relayOpens)
    · exact still
  | closed relayId =>
    have ending := portClose_ending world relayId
    generalize portfwdClose world relayId = result at ending ⊢
    cases ending with
    | unknown => exact .kept (.of_rest rfl rfl still)
    | destroyed =>
      refine .kept (.of_rest rfl rfl ?_)
      simp only [World.recordOp]
      split <;> exact ⟨rfl, rfl, rfl⟩
  | spawned => exact (spawn_change ..).followed (.of_rest rfl rfl (.of_quiet (.refl _)))

private theorem text_change {env : Env} {world after : World} {type : Option FrameType} {reqId : UInt32} {payload : Bytes}
    (idle : world.download = transferInit) (effect : TextEffect env world type reqId payload after) :
    ChildChange env world after := by
  cases effect with
  | talked talks => exact .kept (.of_talks talks)
  | operated _ _ effect talks => exact effect.change.followed (.of_talks talks)
  | began =>
    have same := putBegin_sameRest env world reqId payload
    exact .kept (.of_rest same.proc same.nextProcId (putBegin_books ..).processes)
  | downloaded =>
    have same := (getBegin_effect env world reqId payload idle).2
    exact .kept (.of_rest same.proc same.nextProcId (getBegin_books env world reqId payload idle).processes)
  | spawned => exact spawn_change ..
  | killed _ active kill talks =>
    subst kill
    have killed : ChildChange env world { world with proc := processKill env world.proc .requested } :=
      .of_kill .requested nofun active rfl rfl (.of_quiet (.refl _))
    exact killed.followed (.of_talks talks)

theorem UploadShape.slot {world : World} (shape : UploadShape world) : UploadSlot world.upload :=
  shape.imp id fun ⟨path, _, _, uploading⟩ => ⟨path, uploading.holding⟩

private theorem control_change (env : Env) {world : World} (message : Message) (idle : world.download = transferInit)
    (shape : UploadShape world) : ChildChange env world (protocolHandleControl env world message).1 := by
  have effect := control_effect env world message
  generalize protocolHandleControl env world message = result at effect
  cases effect with
  | chunk =>
    have same := putChunk_sameRest env world message.reqId message.payload
    exact .kept (.of_rest same.proc same.nextProcId (putChunk_books env shape.slot ..).1.processes)
  | ended =>
    have same := putEnd_sameRest env world message.reqId
    exact .kept (.of_rest same.proc same.nextProcId (putEnd_books env shape.slot ..).1.processes)
  | text _ effect => exact text_change idle effect

theorem heartbeatPing_counts (env : Env) (world : World) : Counts world.link [] (heartbeatPing env world).link := by
  have ending := heartbeatPing_ending env world
  generalize heartbeatPing env world = next at ending ⊢
  cases ending with
  | early => exact .refl _
  | pinged => exact (Counts.other world.link rfl 1).quiet_first (sendFrame_counts env (diagCountHeartbeat world.link) ..)

/-- A stalled upload is counted when it is given up. -/
theorem checkUpload_counts (env : Env) (world : World) : Counts world.link
    (if transferStalled world.upload env.now then [.transferAborts] else []) (transferCheckTimeoutUpload env world).link := by
  have ending := checkUpload_ending env world
  generalize transferCheckTimeoutUpload env world = next at ending ⊢
  cases ending with
  | going going =>
    rw [going]
    exact .refl _
  | stalled stalled =>
    rw [stalled]
    exact (Counts.one world.link _).quiet_last (sendError_counts ..)

private theorem checkTimeouts_change (env : Env) (world : World) : ChildChange env world (procCheckTimeouts env world) := by
  have ending := checkTimeouts_ending env world
  generalize procCheckTimeouts env world = next at ending ⊢
  cases ending with
  | still => exact .kept (.of_rest rfl rfl (.of_quiet (.refl _)))
  | @killed reason _ active named =>
    have counted : ProcessCounts world.link (diagCountProcessTimeout world.link) 0 0 1 := .of_counts (.one world.link _)
    rcases named with rfl | rfl
    · exact .of_kill .timeout nofun active rfl rfl counted
    · exact .of_kill .idle nofun active rfl rfl counted

private theorem tick_change (env : Env) {world : World} (idle : world.download = transferInit) :
    ChildChange env world (heartbeatCb env world) := by
  cases tick_step env idle with
  | closed _ same =>
    rw [same]
    exact .kept (.of_rest rfl rfl (.of_quiet (.refl _)))
  | idle _ _ shut =>
    rw [shut]
    exact .kept (.of_rest rfl rfl (.of_quiet (sessionClose_counts _)))
  | checked _ _ middle reached rest timed =>
    have counts : ProcessCounts world.link middle.link 0 0 0 := by
      rw [reached]
      refine .of_transfers ((heartbeatPing_counts env world).quiet_first (checkUpload_counts env _)) ?_
      split <;> simp [OnlyTransfers, isTransfer]
    rw [timed]
    exact .after (.of_rest rest.proc rest.nextProcId counts) (checkTimeouts_change env middle)

/-- An end of output changes the record of the child only when it has exited. -/
theorem readEnd_undisturbed (world : World) (pipe : Pipe) : ChildUndisturbed world (procReadEnd world pipe) := by
  have still : ProcessCounts world.link world.link 0 0 0 := .of_quiet (.refl _)
  have finalized : ∀ proc : ProcState, proc.active = world.proc.active → proc.spawned = world.proc.spawned →
      proc.kills = world.proc.kills → SameRecord world.proc proc → proc.killReason = world.proc.killReason →
      ChildUndisturbed world { world with proc := procMaybeFinalize proc } := by
    intro proc active spawned kills record killReason
    unfold procMaybeFinalize
    split
    next isOver =>
      have inactive : proc.active = false := by
        simp only [Bool.and_eq_true, Bool.not_eq_true'] at isOver
        exact isOver.1.1
      exact .of_inactive (active.symm.trans inactive) rfl spawned kills rfl still
    · exact ⟨active, spawned, kills, fun _ => ⟨record, killReason⟩, rfl, still⟩
  cases pipe <;> exact finalized _ rfl rfl rfl {} rfl

private theorem close_change (env : Env) (world : World) (name : SessionHandle) :
    ChildChange env world (closeCb env world name) := by
  have kept {middle : World} (shut : Rephased world middle) : ChildUndisturbed world middle := by
    cases shut
    exact { record := fun _ => ⟨{}, rfl⟩, counts := .of_quiet (.of_tally rfl) }
  have ending := closeCb_ending env world name
  generalize closeCb env world name = next at ending ⊢
  cases ending with
  | plain _ shut => exact .kept (kept shut)
  | dropped _ shut => exact .after (kept shut) (.kept (.of_rest rfl rfl (.of_quiet (.of_tally rfl))))
  | released _ shut => exact .after (kept shut) (.of_abort rfl rfl (.of_quiet (.of_tally rfl)))

private theorem callback_change (env : Env) {world : World} {event : Event} (unexited : ∀ status, event ≠ .exited status)
    (idle : world.download = transferInit) (shape : UploadShape world) :
    ChildChange env world (callback env world event) := by
  cases event with
  | read action =>
    cases action with
    | dispatch message =>
      have counted : ChildUndisturbed world (world.countFrame message) :=
        .of_rest rfl rfl (.of_quiet (frameRx_counts world.link _))
      exact .after counted (control_change env message idle (shape.counted message))
    | received => exact .kept (.of_rest rfl rfl (.of_quiet (.refl _)))
    | badHeader =>
      exact .kept (.of_rest rfl rfl (.of_quiet ((parseFailure_counts world.link).quiet_first (sessionClose_counts _))))
    | overflow => exact .kept (.of_rest rfl rfl (.of_quiet (sessionClose_counts _)))
    | hangup => exact .kept (.of_rest rfl rfl (.of_quiet (sessionClose_counts _)))
  | tick => exact tick_change env idle
  | written => exact .kept (.of_rest rfl rfl (.of_quiet (.of_tally rfl)))
  | exited status => exact absurd rfl (unexited status)
  | output pipe bytes =>
    exact .kept { record := fun _ => ⟨{}, rfl⟩, counts := .of_quiet (sendFrame_counts env world.link ..) }
  | ended pipe => exact .kept (readEnd_undisturbed world pipe)
  | closed name => exact close_change env world name

/-- How a step of the agent leaves the process slot. -/
inductive AgentChange (env : Env) (world : World) (event : Event) (next : World) : Prop where
  | other (unexited : ∀ status, event ≠ .exited status) (change : ChildChange env world next)
  | exited (status : Int) (exits : event = .exited status) (active : world.proc.active = true)
      (isOver : next.proc.active = false) (spawned : next.proc.spawned = world.proc.spawned)
      (kills : next.proc.kills = world.proc.kills) (nextProcId : next.nextProcId = world.nextProcId)
      (counts : ProcessCounts world.link next.link 0 1 0)

theorem exitCb_link (env : Env) (world : World) (status : Int) : (procExitCb env world status).link =
    match utilSnprintf 256 (exitReply world.proc.procId status world.proc.killReason) with
    | none => diagCountProcessExit world.link
    | some payload => (sessionSendText env (diagCountProcessExit world.link) .exit world.proc.procId payload).1 := rfl

theorem exitCb_counts (env : Env) (world : World) (status : Int) :
    Counts world.link [.processExits] (procExitCb env world status).link := by
  have counted : Counts world.link [.processExits] (diagCountProcessExit world.link) := .one world.link .processExits
  rw [exitCb_link]
  split
  · exact counted
  · exact counted.quiet_last (sendFrame_counts ..)

theorem maybeFinalize_over {proc : ProcState} (isOver : proc.active = false) :
    (procMaybeFinalize proc).active = false ∧ (procMaybeFinalize proc).spawned = proc.spawned ∧
      (procMaybeFinalize proc).kills = proc.kills := by
  unfold procMaybeFinalize
  split
  · exact ⟨rfl, rfl, rfl⟩
  · exact ⟨isOver, rfl, rfl⟩

theorem agent_change {world next : World} {input : Upload.Input} (idle : world.download = transferInit)
    (shape : UploadShape world) (stepped : agent.step world input = some next) :
    AgentChange input.2 world input.1 next := by
  obtain ⟨event, env⟩ := input
  obtain ⟨allowed, rfl⟩ := agent_step stepped
  by_cases exits : ∃ status, event = .exited status
  · obtain ⟨status, rfl⟩ := exits
    simp only [enabled, Bool.and_eq_true] at allowed
    obtain ⟨isOver, spawned, kills⟩ := maybeFinalize_over
      (show ({ world.proc with active := false, process := world.proc.process.close true } : ProcState).active = false from rfl)
    exact .exited status rfl allowed.1 isOver spawned kills rfl (.of_counts (exitCb_counts env world status))
  · have unexited := not_exists.mp exits
    exact .other unexited ((callback_change env unexited idle shape).followed (.of_rest rfl rfl (.of_quiet (.refl _))))

theorem run_change {env : Env} {sessionId : Nat} {counts : Tally} {fs : FileSystem} {engine : Engine}
    {start world next : World} {history : List Upload.Input} {input : Upload.Input}
    (connected : onNewConnection env sessionId counts fs engine = some start)
    (executed : agent.run start history = some world) (stepped : agent.step world input = some next) :
    AgentChange input.2 world input.1 next := by
  have tracked := Upload.run_tracked connected executed
  exact agent_change tracked.download tracked.shape stepped

end Luagent.Proofs
