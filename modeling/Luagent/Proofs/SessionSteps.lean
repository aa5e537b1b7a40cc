import Luagent.Proofs.UploadSteps

/-! One callback of the agent, seen from the handles of the session: its
connection, its timer and the three handles of the process slot. -/

namespace Luagent.Proofs
open Foundation

section uploads
variable (env : Env) (world : World) (reqId : UInt32)

theorem putBegin_sameRest (payload : Bytes) : SameRest world (transferHandlePutBegin env world reqId payload).1 := by
  have ending := putBegin_ending env world reqId payload
  generalize transferHandlePutBegin env world reqId payload = result at ending ⊢
  cases ending with
  | busy | missing => exact .sendError ..
  | unnamed | uncreated => exact .trans (by exact { life := .refl _ }) (.sendError ..)
  | overflowed => exact .trans (.trans (by exact { life := .refl _ }) (.sendError ..)) (.abortUpload ..)
  | begun => exact .trans (by exact { life := .refl _ }) (.sendText ..)

theorem putChunk_sameRest (payload : Bytes) : SameRest world (transferHandlePutChunk env world reqId payload).1 := by
  have ending := putChunk_ending env world reqId payload
  generalize transferHandlePutChunk env world reqId payload = result at ending ⊢
  cases ending with
  | refused => exact .sendError ..
  | exceeding | unwritten => exact .trans (.sendError ..) (by exact { life := .refl _ })
  | stored => exact { life := .refl _ }

theorem putEnd_sameRest : SameRest world (transferHandlePutEnd env world reqId).1 := by
  have ending := putEnd_ending env world reqId
  generalize transferHandlePutEnd env world reqId = result at ending ⊢
  cases ending with
  | refused => exact .sendError ..
  | incomplete => exact .trans (.sendError ..) (.abortUpload ..)
  | unclosed | unmoved | overflowed =>
    exact .trans (.trans (by exact { life := .refl _ }) (.sendError ..)) (.abortUpload ..)
  | finished => exact .trans (.sendText ..) (by exact { life := .refl _ })

end uploads

/-- All of the process slot that decides about its handles is the same; kills
may have been sent. -/
structure Alike (before after : ProcState) : Prop where
  active : after.active = before.active := by rfl
  stdoutClosed : after.stdoutClosed = before.stdoutClosed := by rfl
  stderrClosed : after.stderrClosed = before.stderrClosed := by rfl
  process : after.process = before.process := by rfl
  stdoutPipe : after.stdoutPipe = before.stdoutPipe := by rfl
  stderrPipe : after.stderrPipe = before.stderrPipe := by rfl
  spawned : after.spawned = before.spawned := by rfl
  kills : before.kills <+: after.kills := by exact List.prefix_refl _

theorem Alike.of_eq {before after : ProcState} (same : after = before) : Alike before after := by
  subst same
  exact {}

private theorem processKill_alike (env : Env) (proc : ProcState) (reason : KillReason) :
    Alike proc (processKill env proc reason) := { kills := List.prefix_append .. }

/-- A child was started: all three handles were initialised. -/
structure Started (before after : ProcState) : Prop where
  active : after.active = true := by rfl
  stdoutClosed : after.stdoutClosed = false := by rfl
  stderrClosed : after.stderrClosed = false := by rfl
  process : after.process = before.process.init := by rfl
  stdoutPipe : after.stdoutPipe = before.stdoutPipe.init := by rfl
  stderrPipe : after.stderrPipe = before.stderrPipe.init := by rfl
  spawned : after.spawned = before.spawned + 1 := by rfl
  kills : after.kills = before.kills := by rfl

/-- What `proc_spawn_common` does to the session's lifetime and the slot. -/
inductive SpawnEffect (env : Env) (life : Life) (proc : ProcState) (newLife : Life) (newProc : ProcState) : Prop where
  | refused (active : proc.active = true) (quiet : Quiet life newLife) (same : newProc = proc)
  | failed (inactive : proc.active = false) (quiet : Quiet life newLife) (emptied : Emptied proc newProc)
  | broken (inactive : proc.active = false) (fails : ¬ SpawnWorks env) (quiet : Quiet life newLife)
      (active : newProc.active = false) (spawned : newProc.spawned = proc.spawned) (kills : newProc.kills = proc.kills)
  | started (inactive : proc.active = false) (quiet : Quiet life.addRef.addRef.addRef newLife)
      (started : Started proc newProc)

theorem SpawnEffect.talks {env : Env} {life middle newLife : Life} {proc newProc : ProcState}
    (effect : SpawnEffect env life proc middle newProc) (quiet : Quiet middle newLife) :
    SpawnEffect env life proc newLife newProc := by
  cases effect with
  | refused active first same => exact .refused active (first.trans quiet) same
  | failed inactive first emptied => exact .failed inactive (first.trans quiet) emptied
  | broken inactive fails first active spawned kills =>
    exact .broken inactive fails (first.trans quiet) active spawned kills
  | started inactive first started => exact .started inactive (first.trans quiet) started

theorem spawn_effect (env : Env) (world : World) (reqId : UInt32) (path : Bytes) (args : List Bytes)
    (timeoutMs idleTimeoutMs : Nat) (sendAck : Bool) :
    SpawnEffect env world.link.life world.proc
      (procSpawnCommon env world reqId path args timeoutMs idleTimeoutMs sendAck).1.link.life
      (procSpawnCommon env world reqId path args timeoutMs idleTimeoutMs sendAck).1.proc := by
  have ending := spawn_ending env world reqId path args timeoutMs idleTimeoutMs sendAck
  generalize procSpawnCommon env world reqId path args timeoutMs idleTimeoutMs sendAck = after at ending
  cases ending with
  | busy active => exact .refused active (sendError_life ..) rfl
  | unnamed free => exact .failed free (sendError_life ..) {}
  | failed proc code message free _ _ inactive spawned kills handles =>
    rcases handles with emptied | fails
    · exact .failed free (sendError_life ..) emptied
    · exact .broken free fails (sendError_life ..) inactive spawned kills
  | started can => exact .started (free_of_canSpawn can) (.refl _) {}
  | overflowed can => exact .started (free_of_canSpawn can) (sendError_life ..) {}
  | acknowledged can => exact .started (free_of_canSpawn can) (sendFrame_life ..) {}

theorem spawn_rest (env : Env) (world : World) (reqId : UInt32) (path : Bytes) (args : List Bytes)
    (timeoutMs idleTimeoutMs : Nat) (sendAck : Bool) :
    (procSpawnCommon env world reqId path args timeoutMs idleTimeoutMs sendAck).1.released = world.released ∧
      (procSpawnCommon env world reqId path args timeoutMs idleTimeoutMs sendAck).1.engine = world.engine ∧
      (procSpawnCommon env world reqId path args timeoutMs idleTimeoutMs sendAck).1.sessionId = world.sessionId := by
  have ending := spawn_ending env world reqId path args timeoutMs idleTimeoutMs sendAck
  generalize procSpawnCommon env world reqId path args timeoutMs idleTimeoutMs sendAck = after at ending
  cases ending <;> exact ⟨rfl, rfl, rfl⟩

/-- A frame that asks for a child: a spawn request, or the operation for it. -/
def asksSpawn (message : Message) : Bool :=
  message.type == FrameType.procSpawn.code ||
    (message.type == FrameType.op.code && requestedOp (cstr message.payload) == some .toolRun)

def endedPipe (proc : ProcState) : Pipe → ProcState
  | .stdout => { proc with stdoutReading := false, stdoutClosed := true }
  | .stderr => { proc with stderrReading := false, stderrClosed := true }

def exitedProc (proc : ProcState) : ProcState := { proc with active := false, process := proc.process.close true }

/-- How a callback reaches the handles of the session. -/
inductive SlotStep (env : Env) (world : World) (event : Event) (next : World) : Prop where
  | talked (quiet : Quiet world.link.life next.link.life) (alike : Alike world.proc next.proc)
      (released : next.released = world.released)
  | spawned (message : Message) (isFrame : event = .read (.dispatch message)) (asks : asksSpawn message = true)
      (effect : SpawnEffect env world.link.life world.proc next.link.life next.proc)
      (released : next.released = world.released)
  | exited (status : Int) (isExit : event = .exited status) (quiet : Quiet world.link.life next.link.life)
      (proc : next.proc = procMaybeFinalize (exitedProc world.proc)) (released : next.released = world.released)
  | ended (pipe : Pipe) (isEnd : event = .ended pipe) (life : next.link.life = world.link.life)
      (proc : next.proc = procMaybeFinalize (endedPipe world.proc pipe)) (released : next.released = world.released)
  | closed (name : SessionHandle) (isClosed : event = .closed name) (handled : next = closeCb env world name)

theorem SlotStep.of_sameRest {env : Env} {world next : World} {event : Event} (same : SameRest world next) :
    SlotStep env world event next := .talked same.life (.of_eq same.proc) same.released

theorem Talks.sameRest {before after : World} (talks : Talks before after) : SameRest before after := by
  rw [talks.same]
  exact { life := talks.life }

private theorem portfwdOpen_life (env : Env) (world : World) (listenHost : Bytes) (listenPort : UInt16) (targetHost : Bytes)
    (targetPort : UInt16) :
    (portfwdOpen env world listenHost listenPort targetHost targetPort).1.link.life = world.link.life := by
  unfold portfwdOpen
  simp only
  split <;> rfl

private theorem text_slot {env : Env} {world after : World} {message : Message} (idle : world.download = transferInit)
    (effect : TextEffect env (world.countFrame message) (FrameType.ofCode message.type) message.reqId
      (cstr message.payload) after) : SlotStep env world (.read (.dispatch message)) after := by
  have counted : SameRest world (world.countFrame message) := { life := .refl _ }
  cases effect with
  | talked talks => exact .of_sameRest (counted.trans talks.sameRest)
  | operated isOp named effect talks =>
    have answered := talks.sameRest
    cases effect with
    | nothing => exact .talked (counted.life.trans answered.life) (.of_eq answered.proc) answered.released
    | opened listenHost listenPort targetHost targetPort =>
      have life := portfwdOpen_life env (world.countFrame message) listenHost listenPort targetHost targetPort
      exact .talked (life ▸ answered.life) (.of_eq answered.proc) answered.released
    | closed relayId =>
      have closed : (portfwdClose (world.countFrame message) relayId).1.link.life = world.link.life ∧
          (portfwdClose (world.countFrame message) relayId).1.proc = world.proc ∧
          (portfwdClose (world.countFrame message) relayId).1.released = world.released := by
        have ending := portClose_ending (world.countFrame message) relayId
        generalize portfwdClose (world.countFrame message) relayId = result at ending ⊢
        cases ending <;> exact ⟨rfl, rfl, rfl⟩
      obtain ⟨life, proc, released⟩ := closed
      exact .talked (life ▸ answered.life) (.of_eq (answered.proc.trans proc)) (answered.released.trans released)
    | spawned isRun path args timeoutMs idleTimeoutMs =>
      have spawned := spawn_effect env (world.countFrame message) 0 path args timeoutMs idleTimeoutMs false
      have rest := spawn_rest env (world.countFrame message) 0 path args timeoutMs idleTimeoutMs false
      refine .spawned message rfl ?_ ?_ (answered.released.trans rest.1)
      · simp [asksSpawn, named, isRun, ← ofCode_some isOp]
      · rw [answered.proc]
        exact spawned.talks answered.life
  | began => exact .of_sameRest (counted.trans (putBegin_sameRest ..))
  | downloaded => exact .of_sameRest (counted.trans (getBegin_effect env (world.countFrame message) message.reqId _ idle).2)
  | spawned isSpawn path args timeoutMs idleTimeoutMs =>
    have spawned := spawn_effect env (world.countFrame message) message.reqId path args timeoutMs idleTimeoutMs true
    have rest := spawn_rest env (world.countFrame message) message.reqId path args timeoutMs idleTimeoutMs true
    exact .spawned message rfl (by simp [asksSpawn, ← ofCode_some isSpawn]) spawned rest.1
  | killed _ _ kill talks =>
    subst kill
    have answered := talks.sameRest
    refine .talked answered.life ?_ answered.released
    rw [answered.proc]
    exact processKill_alike ..

private theorem perform_slot (env : Env) (world : World) (action : Action) (idle : world.download = transferInit) :
    SlotStep env world (.read action) (perform env world action) := by
  cases action with
  | received => exact .of_sameRest { life := .refl _ }
  | badHeader => exact .of_sameRest { life := .inr (sessionClose_life (diagCountParseFailure world.link)) }
  | overflow => exact .of_sameRest { life := .inr (sessionClose_life world.link) }
  | hangup => exact .of_sameRest { life := .inr (sessionClose_life world.link) }
  | dispatch message =>
    have counted : SameRest world (world.countFrame message) := { life := .refl _ }
    have effect := control_effect env (world.countFrame message) message
    simp only [perform]
    generalize protocolHandleControl env (world.countFrame message) message = result at effect
    cases effect with
    | chunk => exact .of_sameRest (counted.trans (putChunk_sameRest ..))
    | ended => exact .of_sameRest (counted.trans (putEnd_sameRest ..))
    | text _ effect => exact text_slot idle effect

theorem heartbeatPing_sameRest (env : Env) (world : World) : SameRest world (heartbeatPing env world) := by
  have ending := heartbeatPing_ending env world
  generalize heartbeatPing env world = next at ending ⊢
  cases ending with
  | early => exact .refl world
  | pinged => exact .trans (by exact { life := .refl _ }) (.sendText ..)

theorem checkUpload_sameRest (env : Env) (world : World) : SameRest world (transferCheckTimeoutUpload env world) := by
  have ending := checkUpload_ending env world
  generalize transferCheckTimeoutUpload env world = next at ending ⊢
  cases ending with
  | going => exact .refl world
  | stalled => exact .trans (.trans (by exact { life := .refl _ }) (.sendError ..)) (.abortUpload ..)

theorem checkTimeouts_alike (env : Env) (world : World) :
    (procCheckTimeouts env world).link.life = world.link.life ∧ Alike world.proc (procCheckTimeouts env world).proc ∧
      (procCheckTimeouts env world).released = world.released := by
  have ending := checkTimeouts_ending env world
  generalize procCheckTimeouts env world = next at ending ⊢
  cases ending with
  | still => exact ⟨rfl, {}, rfl⟩
  | killed => exact ⟨rfl, processKill_alike .., rfl⟩

/-- How a tick goes in a session without a download. -/
inductive TickStep (env : Env) (world next : World) : Prop where
  | closed (closed : world.link.life.closed = true) (same : next = world)
  | idle (live : world.link.life.closed = false) (late : world.idlesOut env.now)
      (shut : next = world.close)
  | checked (live : world.link.life.closed = false) (early : ¬ world.idlesOut env.now)
      (middle : World) (reached : middle = transferCheckTimeoutUpload env (heartbeatPing env world))
      (rest : SameRest world middle) (timed : next = procCheckTimeouts env middle)

theorem tick_step (env : Env) {world : World} (idle : world.download = transferInit) :
    TickStep env world (heartbeatCb env world) := by
  have ending := tick_ending env world
  generalize heartbeatCb env world = next at ending ⊢
  cases ending with
  | closed closed => exact .closed closed rfl
  | idle live late => exact .idle live late rfl
  | checked live early =>
    have rest := (heartbeatPing_sameRest env world).trans (checkUpload_sameRest env (heartbeatPing env world))
    rw [checkDownload_idle env (by rw [checkUpload_download, (heartbeatPing_same env world).download, idle])]
    exact .checked live early _ rfl rest rfl

private theorem tick_slot (env : Env) (world : World) (idle : world.download = transferInit) :
    SlotStep env world .tick (heartbeatCb env world) := by
  cases tick_step env idle with
  | closed _ same =>
    rw [same]
    exact .of_sameRest (.refl world)
  | idle _ _ shut =>
    rw [shut]
    exact .of_sameRest { life := .inr (sessionClose_life world.link) }
  | checked _ _ middle _ rest timed =>
    rw [timed]
    obtain ⟨life, alike, released⟩ := checkTimeouts_alike env middle
    exact .talked (by rw [life]; exact rest.life) (rest.proc ▸ alike) (released.trans rest.released)

/-- Every callback is one of the cases. -/
theorem callback_slot (env : Env) (world : World) (event : Event) (idle : world.download = transferInit) :
    SlotStep env world event (callback env world event) := by
  cases event with
  | read action => exact perform_slot env world action idle
  | tick => exact tick_slot env world idle
  | written write => exact .of_sameRest { life := .refl _ }
  | exited status =>
    refine .exited status rfl ?_ rfl rfl
    simp only [callback, procExitCb]
    split
    · exact .refl _
    · exact sendFrame_life env (diagCountProcessExit world.link) ..
  | output pipe bytes => exact .talked (sendFrame_life env world.link ..) {} rfl
  | ended pipe => cases pipe <;> exact .ended _ rfl rfl rfl rfl
  | closed name => exact .closed name rfl rfl

end Luagent.Proofs
