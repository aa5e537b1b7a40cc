import Luagent.Proofs.Texts
import Luagent.Server

/-! The other handlers and the callbacks of a session, ending by ending. Later proofs go
through these endings and do not look at the functions again. -/

namespace Luagent.Proofs
open Foundation

section relays
variable (world : World) (relayId : UInt32)

inductive PortCloseEnding : World × Int → Prop where
  | unknown (unknown : world.engine.findRelay relayId = none) : PortCloseEnding (world, uvEnoent)
  | destroyed {ref : Nat} {relay : Relay} (found : world.engine.findRelay relayId = some (ref, relay)) :
      PortCloseEnding ({ world with
        link := { world.link with
          tally := if relay.owner = world.sessionId then world.link.tally.add .relayCloses 1
            else world.link.tally.addFor relay.owner .relayCloses 1 }
        engine := relayDestroy world.engine ref }, 0)

theorem portClose_ending : PortCloseEnding world relayId (portfwdClose world relayId) := by
  unfold portfwdClose
  split
  next unknown => exact .unknown unknown
  next found => exact .destroyed found

end relays

section processes
variable (env : Env) (world : World) (reqId : UInt32) (payload : Bytes)

inductive SpawnRequestEnding : World × Bool → Prop where
  | missing (missing : kvCopy 512 payload (ascii "path") = none) :
      SpawnRequestEnding (world.sendError env reqId "bad_payload" (ascii "missing path"), false)
  | unbuilt {path : Bytes} (named : kvCopy 512 payload (ascii "path") = some path)
      (unbuilt : procBuildArgs env payload path = none) :
      SpawnRequestEnding (world.sendError env reqId "internal" (ascii "out of memory"), false)
  | spawns {path : Bytes} {args : List Bytes} (named : kvCopy 512 payload (ascii "path") = some path)
      (built : procBuildArgs env payload path = some args) :
      SpawnRequestEnding (procSpawnCommon env world reqId path args (kvU64Default payload (ascii "timeout_ms") 60000)
        (kvU64Default payload (ascii "idle_timeout_ms") 10000) true)

theorem handleSpawn_ending : SpawnRequestEnding env world reqId payload (procHandleSpawn env world reqId payload) := by
  unfold procHandleSpawn
  split
  next missing => exact .missing missing
  next named =>
    split
    next unbuilt => exact .unbuilt named unbuilt
    next built => exact .spawns named built

variable {env payload} in
theorem handleSpawn_spawns {path : Bytes} {args : List Bytes} (named : kvCopy 512 payload (ascii "path") = some path)
    (built : procBuildArgs env payload path = some args) : procHandleSpawn env world reqId payload =
      procSpawnCommon env world reqId path args (kvU64Default payload (ascii "timeout_ms") 60000)
        (kvU64Default payload (ascii "idle_timeout_ms") 10000) true := by
  simp only [procHandleSpawn, named, built]

variable {env payload} in
theorem handleSpawn_refuses (unread : ∀ path, kvCopy 512 payload (ascii "path") = some path →
    procBuildArgs env payload path = none) :
    ∃ code message, procHandleSpawn env world reqId payload = (world.sendError env reqId code message, false) := by
  have ending := handleSpawn_ending env world reqId payload
  generalize procHandleSpawn env world reqId payload = result at ending ⊢
  cases ending with
  | missing | unbuilt => exact ⟨_, _, rfl⟩
  | spawns named built => exact absurd ((unread _ named).symm.trans built) (Option.some_ne_none _).symm

theorem killReply_fits (procId : UInt32) : utilSnprintf 128 (killReply procId) = some (killReply procId) := by
  have digits : (decimal procId.toNat).length ≤ 10 :=
    decimal_length_le (by decide) (Nat.lt_trans procId.toNat_lt (by decide))
  have text : (ascii "status=ok\nproc_id=").length = 18 := by decide
  rw [utilSnprintf, if_pos]
  rw [killReply, List.length_append]
  omega

def NamesChild : Prop := world.proc.active = true ∧ kvU32 payload (ascii "proc_id") = some world.proc.procId

inductive KillEnding : World × Bool → Prop where
  | missing (missing : kvU32 payload (ascii "proc_id") = none) :
      KillEnding (world.sendError env reqId "bad_payload" (ascii "missing proc_id"), false)
  | unknown {procId : UInt32} (named : kvU32 payload (ascii "proc_id") = some procId) (other : ¬ NamesChild world payload) :
      KillEnding (world.sendError env reqId "not_found" (ascii "process not active"), false)
  | failed (matching : NamesChild world payload) (fails : env.kill ≠ 0) :
      KillEnding ({ world with proc := processKill env world.proc .requested }.sendError env reqId "io_error"
        (ascii "kill failed"), false)
  | killed (matching : NamesChild world payload) (works : env.kill = 0) :
      KillEnding ({ world with proc := processKill env world.proc .requested }.sendText env .ack reqId
        (killReply world.proc.procId))

theorem handleKill_ending : KillEnding env world reqId payload (procHandleKill env world reqId payload) := by
  unfold procHandleKill
  split
  next missing => exact .missing missing
  next procId named =>
    split
    next other =>
      refine .unknown named fun matching => ?_
      have same := Option.some.inj (named.symm.trans matching.2)
      simp [matching.1, same] at other
    next known =>
      simp only [ne_eq, Bool.not_eq_true', Bool.or_eq_true, decide_eq_true_eq, not_or, not_not, Bool.not_eq_false] at known
      obtain ⟨active, rfl⟩ := known
      simp only
      split
      next fails => exact .failed ⟨active, named⟩ fails
      next works =>
        rw [killReply_fits]
        exact .killed ⟨active, named⟩ (not_not.mp works)

/-- Why a heartbeat kills the child, if it does. -/
def timedOut (now : Nat) (proc : ProcState) : Option KillReason :=
  if proc.active = false then none
  else if 0 < proc.timeoutMs ∧ proc.timeoutMs ≤ elapsedMs now proc.startedMs then some .timeout
  else if 0 < proc.idleTimeoutMs ∧ proc.idleTimeoutMs ≤ elapsedMs now proc.lastIoMs then some .idle
  else none

inductive TimeoutEnding : World → Prop where
  | still (inTime : timedOut env.now world.proc = none) : TimeoutEnding world
  | killed {reason : KillReason} (timed : timedOut env.now world.proc = some reason) (active : world.proc.active = true)
      (named : reason = .timeout ∨ reason = .idle) :
      TimeoutEnding { world with
        link := diagCountProcessTimeout world.link, proc := processKill env world.proc reason }

theorem checkTimeouts_ending : TimeoutEnding env world (procCheckTimeouts env world) := by
  unfold procCheckTimeouts
  simp only [Bool.not_eq_true', Bool.and_eq_true, decide_eq_true_eq]
  split
  next inactive => exact .still (by simp [timedOut, inactive])
  next active =>
    have active : world.proc.active = true := by simpa using active
    split
    next timeout => exact .killed (by simp [timedOut, active, timeout]) active (.inl rfl)
    next lasting =>
      split
      next idle => exact .killed (by simp [timedOut, active, idle, lasting]) active (.inr rfl)
      next busy => exact .still (by simp [timedOut, active, busy, lasting])

variable {world} in
theorem checkTimeouts_inactive (inactive : world.proc.active = false) : procCheckTimeouts env world = world := by
  have ending := checkTimeouts_ending env world
  generalize procCheckTimeouts env world = next at ending ⊢
  cases ending with
  | still => rfl
  | killed _ active => exact absurd (inactive.symm.trans active) Bool.false_ne_true

end processes

section ticks
variable (env : Env) (world : World)

inductive PingEnding : World → Prop where
  | early (early : ¬ heartbeatIdleMs ≤ elapsedMs env.now world.link.lastTxMs) : PingEnding world
  | pinged (due : heartbeatIdleMs ≤ elapsedMs env.now world.link.lastTxMs) :
      PingEnding ({ world with
        link := diagCountHeartbeat world.link, nextReqId := world.nextReqId + 1 }.sendText env .ping world.nextReqId
          (ascii "status=ping")).1

theorem heartbeatPing_ending : PingEnding env world (heartbeatPing env world) := by
  unfold heartbeatPing
  split
  next due => exact .pinged due
  next early => exact .early early

variable {env world} in
theorem heartbeatPing_early (early : ¬ heartbeatIdleMs ≤ elapsedMs env.now world.link.lastTxMs) :
    heartbeatPing env world = world := if_neg early

inductive StallEnding : World → Prop where
  | going (going : transferStalled world.upload env.now = false) : StallEnding world
  | stalled (stalled : transferStalled world.upload env.now = true) :
      StallEnding (({ world with link := diagCountTransferAbort world.link }.sendError env world.upload.reqId "timeout"
        (ascii "transfer stalled")).abortUpload env)

theorem checkUpload_ending : StallEnding env world (transferCheckTimeoutUpload env world) := by
  unfold transferCheckTimeoutUpload
  split
  next stalled => exact .stalled stalled
  next going => exact .going (by simpa using going)

variable {world} in
theorem checkUpload_going (going : transferStalled world.upload env.now = false) :
    transferCheckTimeoutUpload env world = world := by
  simp [transferCheckTimeoutUpload, going]

inductive FetchStallEnding : World → Prop where
  | going (going : transferStalled world.download env.now = false) : FetchStallEnding world
  | stalled (stalled : transferStalled world.download env.now = true) :
      FetchStallEnding (({ world with link := diagCountTransferAbort world.link }.sendError env world.download.reqId
        "timeout" (ascii "transfer stalled")).abortDownload env)

theorem checkDownload_ending : FetchStallEnding env world (transferCheckTimeoutDownload env world) := by
  unfold transferCheckTimeoutDownload
  split
  next stalled => exact .stalled stalled
  next going => exact .going (by simpa using going)

variable {world} in
theorem checkDownload_idle (idle : world.download = transferInit) :
    transferCheckTimeoutDownload env world = world := by
  simp [transferCheckTimeoutDownload, transferStalled, idle, transferInit]

inductive TickEnding : World → Prop where
  | closed (closed : world.link.life.closed = true) : TickEnding world
  | idle (live : world.link.life.closed = false) (late : world.idlesOut env.now) : TickEnding world.close
  | checked (live : world.link.life.closed = false) (early : ¬ world.idlesOut env.now) :
      TickEnding (procCheckTimeouts env
        (transferCheckTimeoutDownload env (transferCheckTimeoutUpload env (heartbeatPing env world))))

theorem tick_ending : TickEnding env world (heartbeatCb env world) := by
  unfold heartbeatCb
  split
  next closed => exact .closed closed
  next unclosed =>
    have live : world.link.life.closed = false := by simpa using unclosed
    split
    next late => exact .idle live late
    next early => exact .checked live early

variable {env world} in
theorem tick_checked (live : world.link.life.closed = false) (early : ¬ world.idlesOut env.now) : heartbeatCb env world =
    procCheckTimeouts env (transferCheckTimeoutDownload env (transferCheckTimeoutUpload env (heartbeatPing env world))) := by
  rw [heartbeatCb, if_neg (by simp [live]), if_neg early]

end ticks

section closing

/-- At most handles of the session are in another phase. -/
inductive Rephased (world : World) : World → Prop where
  | of_handles (tcp heartbeatTimer process stdoutPipe stderrPipe : Handle) :
      Rephased world { world with
        link := { world.link with life := { world.link.life with tcp, heartbeatTimer } }
        proc := { world.proc with process, stdoutPipe, stderrPipe } }

private theorem setHandle_rephased (world : World) (name : SessionHandle) (handle : Handle) :
    Rephased world (world.setHandle name handle) := by
  cases name
  · exact .of_handles handle world.link.life.heartbeatTimer world.proc.process world.proc.stdoutPipe world.proc.stderrPipe
  · exact .of_handles world.link.life.tcp handle world.proc.process world.proc.stdoutPipe world.proc.stderrPipe
  · exact .of_handles world.link.life.tcp world.link.life.heartbeatTimer handle world.proc.stdoutPipe world.proc.stderrPipe
  · exact .of_handles world.link.life.tcp world.link.life.heartbeatTimer world.proc.process handle world.proc.stderrPipe
  · exact .of_handles world.link.life.tcp world.link.life.heartbeatTimer world.proc.process world.proc.stdoutPipe handle

def unreferenced (world : World) : World :=
  world.setLife { world.link.life with closeRefs := world.link.life.closeRefs - 1 }

/-- The session without its last reference. -/
def releasedWorld (env : Env) (world : World) : World :=
  { ((unreferenced world).abortUpload env).abortDownload env with
    proc := procAbort env world.proc
    engine := portfwdCloseSession world.engine world.sessionId
    released := world.released + 1 }

variable (env : Env) (world : World) (name : SessionHandle)

inductive CloseEnding : World → Prop where
  | plain {middle : World} (finished : middle = world.setHandle name (world.handle name).finish)
      (shut : Rephased world middle) (other : (world.handle name).phase ≠ .closing true) : CloseEnding middle
  | dropped {middle : World} (finished : middle = world.setHandle name (world.handle name).finish)
      (shut : Rephased world middle) (closing : (world.handle name).phase = .closing true)
      (more : 1 < world.link.life.closeRefs) : CloseEnding (unreferenced middle)
  | released {middle : World} (finished : middle = world.setHandle name (world.handle name).finish)
      (shut : Rephased world middle) (closing : (world.handle name).phase = .closing true)
      (last : world.link.life.closeRefs ≤ 1) : CloseEnding (releasedWorld env middle)

theorem closeCb_ending : CloseEnding env world name (closeCb env world name) := by
  have shut := setHandle_rephased world name (world.handle name).finish
  have refs : (world.setHandle name (world.handle name).finish).link.life.closeRefs = world.link.life.closeRefs := by
    cases name <;> rfl
  unfold closeCb maybeFreeSession
  simp only
  split
  next closing =>
    split
    next more => exact .dropped rfl shut closing (by omega)
    next last => exact .released rfl shut closing (by omega)
  next other => exact .plain rfl shut other

end closing

section control
variable (env : Env) (world : World) (message : Message)

inductive ControlEnding : World × Bool → Prop where
  | chunk (found : FrameType.ofCode message.type = some .putChunk) :
      ControlEnding (transferHandlePutChunk env world message.reqId message.payload)
  | ended (found : FrameType.ofCode message.type = some .putEnd) :
      ControlEnding (transferHandlePutEnd env world message.reqId)
  | uncopied (notChunk : FrameType.ofCode message.type ≠ some .putChunk)
      (notEnd : FrameType.ofCode message.type ≠ some .putEnd) (memory : env.alloc .payloadCopy = false) :
      ControlEnding (world.sendError env message.reqId "internal" (ascii "out of memory"), false)
  | text (notChunk : FrameType.ofCode message.type ≠ some .putChunk)
      (notEnd : FrameType.ofCode message.type ≠ some .putEnd) (memory : env.alloc .payloadCopy = true) :
      ControlEnding (handleText env world (FrameType.ofCode message.type) message.reqId (cstr message.payload))

theorem control_ending : ControlEnding env world message (protocolHandleControl env world message) := by
  unfold protocolHandleControl
  split
  next found => exact .chunk found
  next found => exact .ended found
  next type notChunk notEnd =>
    split
    next failed => exact .uncopied notChunk notEnd (by simpa using failed)
    next copied => exact .text notChunk notEnd (by simpa using copied)

variable {env world message}

theorem control_chunk (isChunk : message.type = FrameType.putChunk.code) :
    protocolHandleControl env world message = transferHandlePutChunk env world message.reqId message.payload := by
  simp [protocolHandleControl, isChunk, FrameType.ofCode_code]

theorem control_end (isEnd : message.type = FrameType.putEnd.code) :
    protocolHandleControl env world message = transferHandlePutEnd env world message.reqId := by
  simp [protocolHandleControl, isEnd, FrameType.ofCode_code]

/-- A request other than for a chunk or the end of an upload is handled as a text. -/
theorem control_text {type : FrameType} (isType : message.type = type.code) (notChunk : type ≠ .putChunk)
    (notEnd : type ≠ .putEnd) : protocolHandleControl env world message =
      if env.alloc .payloadCopy then handleText env world (some type) message.reqId (cstr message.payload)
      else (world.sendError env message.reqId "internal" (ascii "out of memory"), false) := by
  have found : FrameType.ofCode message.type = some type := by rw [isType, FrameType.ofCode_code]
  have ending := control_ending env world message
  generalize protocolHandleControl env world message = result at ending ⊢
  cases ending with
  | chunk isChunk => exact absurd (Option.some.inj (found.symm.trans isChunk)) notChunk
  | ended isEnd => exact absurd (Option.some.inj (found.symm.trans isEnd)) notEnd
  | uncopied _ _ memory => rw [memory]; rfl
  | text _ _ memory => rw [memory, found]; rfl

end control

end Luagent.Proofs
