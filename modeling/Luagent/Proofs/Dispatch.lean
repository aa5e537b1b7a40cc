import Luagent.Proofs.CallbackEndings
import Luagent.Proofs.Sending
import Luagent.Proofs.Spawning

/-! Which part of the agent a received frame reaches. The scripted operations
come down to four effects, with an answer sent afterwards. -/

namespace Luagent.Proofs
open Foundation

/-- The operation a request names, if there is such a one. -/
def requestedOp (payload : Bytes) : Option Op := ((parseKv payload).get (ascii "name")).bind Op.find

/-- What running an operation can do to the world before it is answered. -/
inductive OpEffect (env : Env) (op : Op) (world : World) : World → Prop where
  | nothing : OpEffect env op world world
  | opened (listenHost : Bytes) (listenPort : UInt16) (targetHost : Bytes) (targetPort : UInt16) :
      OpEffect env op world (portfwdOpen env world listenHost listenPort targetHost targetPort).1
  | closed (relayId : UInt32) : OpEffect env op world (portfwdClose world relayId).1
  | spawned (isRun : op = .toolRun) (path : Bytes) (args : List Bytes) (timeoutMs idleTimeoutMs : Nat) :
      OpEffect env op world (procSpawnCommon env world 0 path args timeoutMs idleTimeoutMs false).1

private theorem spawnBinding_effect (env : Env) (world : World) (path : Bytes) (argv : List Bytes)
    (timeoutMs idleTimeoutMs : Nat) :
    OpEffect env .toolRun world (procSpawnBinding env world path argv timeoutMs idleTimeoutMs).1 := by
  have direct : OpEffect env .toolRun world (procSpawnDirect env world path argv timeoutMs idleTimeoutMs).1 := by
    unfold procSpawnDirect
    split
    · exact .nothing
    next args _ => exact .spawned rfl path args timeoutMs idleTimeoutMs
  unfold procSpawnBinding
  split
  · exact .nothing
  · split <;> next found => rw [found] at direct; exact direct

theorem op_effect (env : Env) (world : World) (req : Table) (op : Op) :
    OpEffect env op world (op.run env world req).1 := by
  cases op with
  | list =>
    simp only [Op.run, opList]
    split <;> exact .nothing
  | portOpen =>
    simp only [Op.run, opPortOpen]
    split
    · exact .nothing
    · split
      · exact .nothing
      · exact .nothing
      next listen target _ _ =>
        have opened : OpEffect env .portOpen world _ := .opened ((req.get (ascii "listen_host")).getD (ascii "0.0.0.0"))
          (toUInt16 listen) ((req.get (ascii "target_host")).getD (ascii "127.0.0.1")) (toUInt16 target)
        split <;> next found => rw [found] at opened; exact opened
  | portClose =>
    simp only [Op.run, opPortClose]
    split
    · exact .nothing
    · split
      · exact .nothing
      next value _ =>
        have closed : OpEffect env .portClose world _ := .closed (value % 2 ^ 32).toNat.toUInt32
        split <;> exact closed
  | toolRun =>
    simp only [Op.run, opToolRun]
    split
    · exact .nothing
    next path _ =>
      split
      · exact .nothing
      · exact .nothing
      next timeoutMs idleMs _ _ =>
        have spawned := spawnBinding_effect env world path (collectArgv req path) (toUInt64 timeoutMs) (toUInt64 idleMs)
        split <;> next found => rw [found] at spawned; exact spawned
  | debugSessions | debugTransfers | debugProcs | debugStats | portList => exact .nothing

/-- The operation runs and is recorded, and its result is sent. -/
theorem dispatchRequest_runs (env : Env) (world : World) (reqId : UInt32) {payload : Bytes} {op : Op}
    (named : requestedOp payload = some op) :
    Talks ((op.run env world (parseKv payload)).1.recordOp op) (dispatchRequest env world reqId payload).1 := by
  have found : ((parseKv payload).get (ascii "name")).bind Op.find = some op := named
  simp only [dispatchRequest, found]
  split
  next answered =>
    rw [answered]
    exact .sendError ..
  next answered =>
    rw [answered]
    exact .sendText ..

theorem dispatchRequest_unknown (env : Env) (world : World) (reqId : UInt32) {payload : Bytes}
    (unknown : requestedOp payload = none) : Talks world (dispatchRequest env world reqId payload).1 := by
  have missing : ((parseKv payload).get (ascii "name")).bind Op.find = none := unknown
  simp only [dispatchRequest, missing]
  exact .sendError ..

/-- What follows the operation is counting and answering. -/
theorem handleOp_talks {env : Env} {world middle : World} {reqId : UInt32} {payload : Bytes}
    (talks : Talks middle (dispatchRequest env world reqId payload).1) : Talks middle (handleOp env world reqId payload).1 := by
  have engine : Talks middle (luaEngineDispatch env world reqId payload).1 := by
    unfold luaEngineDispatch
    simp only
    split
    · exact talks
    · exact talks.trans { life := .refl _, counts := .other _ rfl 1 }
  unfold handleOp
  simp only
  split
  · exact engine
  · exact engine.trans (.countError ..)

/-- What a frame that is neither a chunk nor an end of an upload can do. -/
inductive TextEffect (env : Env) (world : World) (type : Option FrameType) (reqId : UInt32) (payload : Bytes) :
    World → Prop where
  | talked {after : World} (talks : Talks world after) : TextEffect env world type reqId payload after
  | operated {middle after : World} {op : Op} (isOp : type = some .op) (named : requestedOp payload = some op)
      (effect : OpEffect env op world middle) (talks : Talks (middle.recordOp op) after) :
      TextEffect env world type reqId payload after
  | began (isBegin : type = some .putBegin) :
      TextEffect env world type reqId payload (transferHandlePutBegin env world reqId payload).1
  | downloaded (isGet : type = some .getBegin) :
      TextEffect env world type reqId payload (transferHandleGetBegin env world reqId payload).1
  | spawned (isSpawn : type = some .procSpawn) (path : Bytes) (args : List Bytes) (timeoutMs idleTimeoutMs : Nat) :
      TextEffect env world type reqId payload (procSpawnCommon env world reqId path args timeoutMs idleTimeoutMs true).1
  | killed {middle after : World} (isKill : type = some .kill) (active : world.proc.active = true)
      (kill : middle = { world with proc := processKill env world.proc .requested }) (talks : Talks middle after) :
      TextEffect env world type reqId payload after

private theorem handleOp_effect (env : Env) (world : World) (reqId : UInt32) (payload : Bytes) :
    TextEffect env world (some .op) reqId payload (handleOp env world reqId payload).1 := by
  cases named : requestedOp payload with
  | none => exact .talked (handleOp_talks (dispatchRequest_unknown env world reqId named))
  | some op =>
    exact .operated rfl named (op_effect env world (parseKv payload) op)
      (handleOp_talks (dispatchRequest_runs env world reqId named))

private theorem handleSpawn_effect (env : Env) (world : World) (reqId : UInt32) (payload : Bytes) :
    TextEffect env world (some .procSpawn) reqId payload (procHandleSpawn env world reqId payload).1 := by
  have ending := handleSpawn_ending env world reqId payload
  generalize procHandleSpawn env world reqId payload = result at ending ⊢
  cases ending with
  | missing | unbuilt => exact .talked (.sendError ..)
  | spawns => exact .spawned rfl ..

theorem handleKill_effect (env : Env) (world : World) (reqId : UInt32) (payload : Bytes) :
    TextEffect env world (some .kill) reqId payload (procHandleKill env world reqId payload).1 := by
  have ending := handleKill_ending env world reqId payload
  generalize procHandleKill env world reqId payload = result at ending ⊢
  cases ending with
  | missing | unknown => exact .talked (.sendError ..)
  | failed names => exact .killed rfl names.1 rfl (.sendError ..)
  | killed names => exact .killed rfl names.1 rfl (.sendText ..)

private theorem handleText_effect (env : Env) (world : World) (type : Option FrameType) (reqId : UInt32) (payload : Bytes) :
    TextEffect env world type reqId payload (handleText env world type reqId payload).1 := by
  unfold handleText
  split
  · exact .talked (.sendText ..)
  · exact .talked (.sendText ..)
  · exact handleOp_effect ..
  · exact .began rfl
  · exact .downloaded rfl
  · exact handleSpawn_effect ..
  · exact handleKill_effect ..
  · exact .talked (.countError ..)

theorem ofCode_some {code : UInt8} {type : FrameType} (found : FrameType.ofCode code = some type) : type.code = code := by
  simpa using List.find?_some found

/-- Where `protocol_handle_control` sends a frame. -/
inductive ControlEffect (env : Env) (world : World) (message : Message) : World × Bool → Prop where
  | chunk (isChunk : message.type = FrameType.putChunk.code) :
      ControlEffect env world message (transferHandlePutChunk env world message.reqId message.payload)
  | ended (isEnd : message.type = FrameType.putEnd.code) :
      ControlEffect env world message (transferHandlePutEnd env world message.reqId)
  | text {after : World × Bool} (other : message.type ≠ FrameType.putChunk.code ∧ message.type ≠ FrameType.putEnd.code)
      (effect : TextEffect env world (FrameType.ofCode message.type) message.reqId (cstr message.payload) after.1) :
      ControlEffect env world message after

theorem control_effect (env : Env) (world : World) (message : Message) :
    ControlEffect env world message (protocolHandleControl env world message) := by
  have other {type : FrameType} (different : FrameType.ofCode message.type ≠ some type) : message.type ≠ type.code :=
    fun same => different (by rw [same, FrameType.ofCode_code])
  have ending := control_ending env world message
  generalize protocolHandleControl env world message = result at ending ⊢
  cases ending with
  | chunk found => exact .chunk (ofCode_some found).symm
  | ended found => exact .ended (ofCode_some found).symm
  | uncopied notChunk notEnd => exact .text ⟨other notChunk, other notEnd⟩ (.talked (.sendError ..))
  | text notChunk notEnd => exact .text ⟨other notChunk, other notEnd⟩ (handleText_effect ..)

end Luagent.Proofs
