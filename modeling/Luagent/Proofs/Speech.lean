import Luagent.Proofs.UploadSteps

/-! What a callback says to the client: the frames it adds to the write queue, in
order, and the requests they answer. -/

namespace Luagent.Proofs
open Foundation

/-- At most the counters and the lifetime changed, and a closed session stayed so. -/
structure Silent (before after : Link) : Prop where
  pending : after.pendingWriteBytes = before.pendingWriteBytes := by rfl
  lastTx : after.lastTxMs = before.lastTxMs := by rfl
  sends : after.sends = before.sends := by rfl
  writes : after.writes = before.writes := by rfl
  queued : after.queued = before.queued := by rfl
  closed : before.life.closed = true → after.life.closed = true := by exact id

theorem Silent.refl (link : Link) : Silent link link := {}

theorem Silent.counted (link : Link) (tally : Tally) : Silent link { link with tally } := {}

/-- The sends of a callback and the frames of those that were accepted. -/
inductive Speaks (env : Env) : Link → List Sent → Link → Prop where
  | silent {before after : Link} (silent : Silent before after) : Speaks env before [] after
  | send (link : Link) (type : FrameType) (reqId : UInt32) (payload : Bytes) :
      Speaks env link
        (if (sessionSendFrame env link type.code reqId payload).2 then [⟨type.code, reqId, payload⟩] else [])
        (sessionSendFrame env link type.code reqId payload).1
  | trans {before middle after : Link} {first later : List Sent} (earlier : Speaks env before first middle)
      (second : Speaks env middle later after) : Speaks env before (first ++ later) after

/-- The request is answered with an error. -/
def AnswersError (reqId : UInt32) (before after : Link) : Prop :=
  ∃ frame ∈ framesSince before after, frame.type = FrameType.error.code ∧ frame.reqId = reqId

namespace Speaks
variable {env : Env} {before middle after : Link} {frames : List Sent}

theorem queued (speaks : Speaks env before frames after) : after.queued = before.queued ++ frames := by
  induction speaks with
  | silent silent => simp [silent.queued]
  | send link type reqId payload => exact sendFrame_queued env link type.code reqId payload
  | trans _ _ first later => rw [later, first, List.append_assoc]

theorem since (speaks : Speaks env before frames after) : framesSince before after = frames := by
  unfold framesSince
  rw [speaks.queued, List.drop_left]

theorem closed (speaks : Speaks env before frames after) (closed : before.life.closed = true) :
    after.life.closed = true := by
  induction speaks with
  | silent silent => exact silent.closed closed
  | send link type reqId payload =>
    rcases sendFrame_life env link type.code reqId payload with same | same
    · rw [same]
      exact closed
    · rw [same]
      exact life_close_closed link.life
  | trans _ _ first later => exact later (first closed)

theorem live (speaks : Speaks env before frames after) (live : after.life.closed = false) : before.life.closed = false := by
  cases closed : before.life.closed with
  | false => rfl
  | true => rw [speaks.closed closed] at live; cases live

theorem silent_first (silent : Silent before middle) (speaks : Speaks env middle frames after) :
    Speaks env before frames after := .trans (.silent silent) speaks

theorem silent_last (speaks : Speaks env before frames middle) (silent : Silent middle after) :
    Speaks env before frames after := by
  have both := speaks.trans (.silent silent : Speaks env middle [] after)
  rwa [List.append_nil] at both

end Speaks

/-- The frames that answer a request. -/
def isAnswer (frame : Sent) : Bool :=
  [FrameType.ack, .pong, .opResult, .error].any fun type => frame.type == type.code

/-- No send fails for lack of memory or because libuv refuses the write, and the
error texts of libuv are as short as they are. -/
structure Serves (env : Env) : Prop where
  request : ∀ send, env.alloc (.writeReq send) = true
  buffer : ∀ send, env.alloc (.writeBuf send) = true
  write : ∀ send, env.uvWrite send = 0
  brief : ∀ code, (env.strerror code).length < 256

theorem serves_default : Serves {} where
  request _ := rfl
  buffer _ := rfl
  write _ := rfl
  brief _ := (by decide : (ascii "error").length < 256)

/-- The write queue has no room for a frame with a payload of this length. -/
def full (link : Link) (length : Nat) : Bool := maxWriteQueueBytes < link.pendingWriteBytes + frameHeaderSize + length

/-- A send closes the session when the write queue is full, and in no other case. -/
theorem sendFrame_closed_iff {env : Env} {link : Link} {type : UInt8} {reqId : UInt32} {payload : Bytes} :
    (sessionSendFrame env link type reqId payload).1.life.closed = true ↔
      link.life.closed = true ∨ full link payload.length = true := by
  unfold sessionSendFrame full
  by_cases closed : link.life.closed = true
  · simp [closed]
  · rw [if_neg closed, decide_eq_true_eq]
    split
    next full => simp [full, sessionClose_life, life_close_closed]
    next room =>
      simp only [closed, room, Bool.false_eq_true, or_self, iff_false]
      split
      · exact closed
      · split
        · exact closed
        · split
          · exact closed
          · split <;> exact closed

theorem sendFrame_room {env : Env} {link : Link} {type : UInt8} {reqId : UInt32} {payload : Bytes}
    (live : (sessionSendFrame env link type reqId payload).1.life.closed = false) :
    link.life.closed = false ∧ link.pendingWriteBytes + frameHeaderSize + payload.length ≤ maxWriteQueueBytes := by
  have neither := (not_congr sendFrame_closed_iff).mp (ne_true_of_eq_false live)
  simpa [full] using neither

theorem code_ne_zero (type : FrameType) : type.code ≠ 0 := by cases type <;> decide

theorem Serves.accepts {env : Env} (serves : Serves env) {link : Link} (type : FrameType) {reqId : UInt32} {payload : Bytes}
    (bounded : payload.length ≤ maxFramePayload)
    (live : (sessionSendFrame env link type.code reqId payload).1.life.closed = false) :
    (sessionSendFrame env link type.code reqId payload).2 = true := by
  obtain ⟨before, room⟩ := sendFrame_room live
  exact sendFrame_sent reqId (code_ne_zero type) bounded
    ⟨before, room, serves.request _, serves.buffer _, serves.write _⟩

/-- All that was said are answers to one request, and there is one answer as long
as sends go through and the session stays open. -/
def Replies (env : Env) (reqId : UInt32) (before after : Link) : Prop :=
  ∃ frames, Speaks env before frames after ∧ (∀ frame ∈ frames, isAnswer frame = true ∧ frame.reqId = reqId) ∧
    (Serves env → after.life.closed = false → frames.length = 1)

namespace Replies
variable {env : Env} {reqId : UInt32} {before middle after : Link}

theorem silent_first (silent : Silent before middle) (replies : Replies env reqId middle after) :
    Replies env reqId before after := by
  obtain ⟨frames, speaks, answers, one⟩ := replies
  exact ⟨frames, speaks.silent_first silent, answers, one⟩

theorem silent_last (replies : Replies env reqId before middle) (silent : Silent middle after) :
    Replies env reqId before after := by
  obtain ⟨frames, speaks, answers, one⟩ := replies
  refine ⟨frames, speaks.silent_last silent, answers, fun serves live => one serves ?_⟩
  exact Speaks.live (.silent silent : Speaks env middle [] after) live

theorem sendFrame (link : Link) (type : FrameType) (payload : Bytes)
    (answer : isAnswer ⟨type.code, reqId, payload⟩ = true) (bounded : payload.length ≤ maxFramePayload) :
    Replies env reqId link (sessionSendFrame env link type.code reqId payload).1 := by
  refine ⟨_, .send link type reqId payload, ?_, ?_⟩
  · intro frame member
    split at member
    · rw [List.mem_singleton.mp member]
      exact ⟨answer, rfl⟩
    · cases member
  · intro serves live
    rw [if_pos (serves.accepts type bounded live)]
    rfl

theorem sendError (link : Link) (code : String) (message : Bytes)
    (brief : Serves env → (errorText code message).length < 512) :
    Replies env reqId link (sessionSendError env link reqId code message).1 := by
  by_cases fits : (errorText code message).length < 512
  · have sent : sessionSendError env link reqId code message =
        sessionSendFrame env link FrameType.error.code reqId (errorText code message) := by
      simp only [sessionSendError, utilSnprintf, if_pos fits, sessionSendText]
    rw [sent]
    exact sendFrame link .error _ (by rfl) (by unfold maxFramePayload; omega)
  · have unsent : sessionSendError env link reqId code message = (link, false) := by
      simp only [sessionSendError, utilSnprintf, if_neg fits]
    rw [unsent]
    exact ⟨[], .silent (.refl _), by simp, fun serves _ => absurd (brief serves) fits⟩

theorem errorText_length_le (code : String) (message : Bytes) :
    (errorText code message).length ≤ 20 + code.utf8ByteSize + message.length := by
  have head := ascii_length_le "code="
  have named := ascii_length_le code
  have separator := ascii_length_le "\nmessage="
  have sizes : "code=".utf8ByteSize = 5 ∧ "\nmessage=".utf8ByteSize = 9 := by decide
  simp only [errorText, List.length_append]
  omega

theorem sendConstant (link : Link) (code message : String)
    (short : code.utf8ByteSize + message.utf8ByteSize ≤ 400 := by decide) :
    Replies env reqId link (sessionSendError env link reqId code (ascii message)).1 := by
  refine sendError link code _ fun _ => ?_
  have text := errorText_length_le code (ascii message)
  have bound := ascii_length_le message
  omega

theorem sendStrerror (link : Link) (code : String) (failure : Int) (short : code.utf8ByteSize ≤ 200 := by decide) :
    Replies env reqId link (sessionSendError env link reqId code (env.strerror failure)).1 := by
  refine sendError link code _ fun serves => ?_
  have text := errorText_length_le code (env.strerror failure)
  have brief := serves.brief failure
  omega

end Replies

private theorem refusal_brief {upload : TransferState} {reqId : UInt32} {message : Bytes}
    (refused : uploadRefusal upload reqId = some message) : ∃ text, message = ascii text ∧ text.utf8ByteSize ≤ 100 := by
  unfold uploadRefusal at refused
  split at refused
  · exact ⟨"no active transfer", (Option.some.inj refused).symm, by decide⟩
  · split at refused
    · exact ⟨"wrong transfer mode", (Option.some.inj refused).symm, by decide⟩
    · cases refused

/-- Whether the operation `tool.run` gets as far as `proc_spawn_common`. -/
def reachesSpawn (env : Env) (req : Table) : Bool :=
  match req.get (ascii "path") with
  | none => false
  | some path =>
    let timeout := (tonumber env ((req.get (ascii "timeout_ms")).getD (ascii "60000"))).getD (.ofInt 60000)
    let idle := (tonumber env ((req.get (ascii "idle_timeout_ms")).getD (ascii "10000"))).getD (.ofInt 10000)
    timeout.integer.isSome && idle.integer.isSome && env.alloc .argv && (procDupArgs env (collectArgv req path)).isSome

/-- Whether the operation fails in `proc_spawn_common`. -/
def runFails (env : Env) (proc : ProcState) (req : Table) (op : Option Op) : Bool :=
  op == some .toolRun && reachesSpawn env req && !canSpawn env proc

section handlers
variable (env : Env) (world : World) (reqId : UInt32)

theorem putBegin_replies (payload : Bytes) :
    Replies env reqId world.link (transferHandlePutBegin env world reqId payload).1.link := by
  have ending := putBegin_ending env world reqId payload
  generalize transferHandlePutBegin env world reqId payload = result at ending ⊢
  cases ending with
  | busy | missing | unnamed => exact .sendConstant world.link _ _
  | uncreated => exact .silent_first (.counted ..) (.sendStrerror (diagCountTransferStart world.link) _ _)
  | overflowed => exact .silent_first (.counted ..) (.sendConstant (diagCountTransferStart world.link) _ _)
  | begun _ _ _ _ fits =>
    exact .silent_first (.counted ..)
      (.sendFrame (diagCountTransferStart world.link) .ack _ (by rfl) (fits.le.trans (by decide)))

theorem putEnd_replies : Replies env reqId world.link (transferHandlePutEnd env world reqId).1.link := by
  have ending := putEnd_ending env world reqId
  generalize transferHandlePutEnd env world reqId = result at ending ⊢
  cases ending with
  | refused refusal =>
    obtain ⟨text, rfl, short⟩ := refusal_brief refusal
    exact .sendConstant world.link _ _ ((Nat.add_le_add_left short _).trans (by decide))
  | incomplete | overflowed => exact .sendConstant world.link _ _
  | unclosed | unmoved => exact .sendStrerror world.link _ _
  | finished _ _ _ _ fits =>
    exact .silent_last (.sendFrame world.link .ack _ (by rfl) (fits.le.trans (by decide))) (.counted ..)

theorem handleKill_replies (payload : Bytes) :
    Replies env reqId world.link (procHandleKill env world reqId payload).1.link := by
  have ending := handleKill_ending env world reqId payload
  generalize procHandleKill env world reqId payload = result at ending ⊢
  cases ending with
  | missing | unknown | failed => exact .sendConstant world.link _ _
  | killed =>
    have short := utilSnprintf_length (killReply_fits world.proc.procId)
    exact .sendFrame world.link .ack _ (by rfl) (short.le.trans (by decide))

/-- `uv_spawn` was called, with this file and these arguments. -/
structure StartsChild (before after : ProcState) (path : Bytes) (argv : List Bytes) : Prop where
  spawned : after.spawned = before.spawned + 1
  file : after.file = some path
  args : after.args = some argv

/-- How a spawn ends: with an error, or with a child and, if the caller wants
one, an acknowledgement. -/
inductive SpawnOutcome (path : Bytes) (args : List Bytes) (sendAck : Bool) (after : World) : Prop where
  | refused (why : canSpawn env world.proc = false ∨ sendAck = true ∧ 256 ≤ (spawnReply world.nextProcId path).length)
      (replies : Replies env reqId world.link after.link) (complains : Complains world.link after.link)
  | started (can : canSpawn env world.proc = true)
      (fits : sendAck = true → (spawnReply world.nextProcId path).length < 256)
      (starts : StartsChild world.proc after.proc path args)
      (acknowledged : sendAck = true → (∃ frames, Speaks env world.link frames after.link ∧
        ∀ frame ∈ frames, frame.type = FrameType.ack.code) ∧ Replies env reqId world.link after.link)
      (silent : sendAck = false → Silent world.link after.link)

theorem spawn_outcome (path : Bytes) (args : List Bytes) (timeoutMs idleTimeoutMs : Nat) (sendAck : Bool) :
    SpawnOutcome env world reqId path args sendAck
      (procSpawnCommon env world reqId path args timeoutMs idleTimeoutMs sendAck).1 := by
  have counted : Silent world.link (numberedSpawn world).link := .counted ..
  have born : Silent world.link (spawnedChild env world path args timeoutMs idleTimeoutMs).link := {}
  have ending := spawn_ending env world reqId path args timeoutMs idleTimeoutMs sendAck
  generalize procSpawnCommon env world reqId path args timeoutMs idleTimeoutMs sendAck = after at ending
  cases ending with
  | busy active => exact .refused (.inl (by simp [canSpawn, active])) (.sendConstant world.link _ _) (sendError_complains ..)
  | unnamed _ memory =>
    exact .refused (.inl (by simp [canSpawn, memory])) (.sendConstant world.link _ _) (sendError_complains ..)
  | failed proc code message _ _ cannot _ _ _ _ text =>
    refine .refused (.inl cannot) (.silent_first counted ?_) (sendError_complains ..)
    rcases text with ⟨rfl, rfl⟩ | ⟨rfl, failure, rfl⟩
    · exact .sendConstant _ _ _
    · exact .sendStrerror _ _ _
  | started can unasked => exact .started can (by simp [unasked]) ⟨rfl, rfl, rfl⟩ (by simp [unasked]) fun _ => born
  | overflowed can asked long =>
    exact .refused (.inr ⟨asked, long⟩) (.silent_first born (.sendConstant _ _ _)) (sendError_complains ..)
  | acknowledged can asked fits =>
    have bounded := fits.le.trans (by decide : 256 ≤ maxFramePayload)
    refine .started can (fun _ => fits) ⟨rfl, rfl, rfl⟩ (fun _ => ⟨?_, ?_⟩) (by simp [asked])
    · refine ⟨_, .silent_first born (.send _ .ack reqId _), fun frame member => ?_⟩
      split at member
      · rw [List.mem_singleton.mp member]
      · cases member
    · exact .silent_first born (.sendFrame _ .ack _ (by rfl) bounded)

inductive SpawnSpeech (sendAck : Bool) (after : Link) : Prop where
  | answered (replies : Replies env reqId world.link after) (cannot : sendAck = false → canSpawn env world.proc = false)
  | started (unasked : sendAck = false) (can : canSpawn env world.proc = true) (silent : Silent world.link after)

private theorem spawn_speech (path : Bytes) (args : List Bytes) (timeoutMs idleTimeoutMs : Nat) (sendAck : Bool) :
    SpawnSpeech env world reqId sendAck
      (procSpawnCommon env world reqId path args timeoutMs idleTimeoutMs sendAck).1.link := by
  cases spawn_outcome env world reqId path args timeoutMs idleTimeoutMs sendAck with
  | refused why replies => exact .answered replies fun unasked => why.resolve_right fun asked => by simp [unasked] at asked
  | started can _ _ acknowledged silent =>
    by_cases asked : sendAck = true
    · exact .answered (acknowledged asked).2 fun unasked => by simp [unasked] at asked
    · have unasked : sendAck = false := by simpa using asked
      exact .started unasked can (silent unasked)

theorem handleSpawn_replies (payload : Bytes) :
    Replies env reqId world.link (procHandleSpawn env world reqId payload).1.link := by
  have ending := handleSpawn_ending env world reqId payload
  generalize procHandleSpawn env world reqId payload = result at ending ⊢
  cases ending with
  | missing | unbuilt => exact .sendConstant world.link _ _
  | @spawns path args =>
    cases spawn_speech env world reqId path args (kvU64Default payload (ascii "timeout_ms") 60000)
      (kvU64Default payload (ascii "idle_timeout_ms") 10000) true with
    | answered replies => exact replies
    | started unasked => cases unasked

/-- What was said before an operation is answered: nothing, unless it could not
start the child it was asked for. -/
inductive OpSpeech (env : Env) (fails : Bool) (before after : Link) : Prop where
  | nothing (works : fails = false) (silent : Silent before after)
  | failed (failed : fails = true) (replies : Replies env 0 before after)

private theorem spawnBinding_speech (path : Bytes) (argv : List Bytes) (timeoutMs idleTimeoutMs : Nat) :
    OpSpeech env (env.alloc .argv && (procDupArgs env argv).isSome && !canSpawn env world.proc) world.link
      (procSpawnBinding env world path argv timeoutMs idleTimeoutMs).1.link := by
  have direct : OpSpeech env ((procDupArgs env argv).isSome && !canSpawn env world.proc) world.link
      (procSpawnDirect env world path argv timeoutMs idleTimeoutMs).1.link := by
    unfold procSpawnDirect
    split
    next missing => exact .nothing (by simp [missing]) (.refl _)
    next args found =>
      cases spawn_speech env world 0 path args timeoutMs idleTimeoutMs false with
      | answered replies cannot => exact .failed (by simp [found, cannot rfl]) replies
      | started _ can silent => exact .nothing (by simp [can]) silent
  unfold procSpawnBinding
  split
  next failed =>
    have missing : env.alloc .argv = false := by simpa using failed
    exact .nothing (by simp [missing]) (.refl _)
  next allocated =>
    have present : env.alloc .argv = true := by simpa using allocated
    rw [present, Bool.true_and]
    split <;> next found => rw [found] at direct; exact direct

private theorem op_speech (req : Table) (op : Op) :
    OpSpeech env (runFails env world.proc req (some op)) world.link (op.run env world req).1.link := by
  cases op with
  | list =>
    simp only [Op.run, opList]
    split <;> exact .nothing rfl (.refl _)
  | portOpen =>
    have opened (listenHost : Bytes) (listenPort : UInt16) (targetHost : Bytes) (targetPort : UInt16) :
        Silent world.link (portfwdOpen env world listenHost listenPort targetHost targetPort).1.link := by
      unfold portfwdOpen
      simp only
      split <;> exact .counted ..
    simp only [Op.run, opPortOpen]
    split
    · exact .nothing rfl (.refl _)
    · split
      · exact .nothing rfl (.refl _)
      · exact .nothing rfl (.refl _)
      next listen target _ _ =>
        have silent := opened ((req.get (ascii "listen_host")).getD (ascii "0.0.0.0"))
          (toUInt16 listen) ((req.get (ascii "target_host")).getD (ascii "127.0.0.1")) (toUInt16 target)
        split <;> next found => rw [found] at silent; exact .nothing rfl silent
  | portClose =>
    have closed (relayId : UInt32) : Silent world.link (portfwdClose world relayId).1.link := by
      have ending := portClose_ending world relayId
      generalize portfwdClose world relayId = result at ending ⊢
      cases ending <;> exact .counted ..
    simp only [Op.run, opPortClose]
    split
    · exact .nothing rfl (.refl _)
    · split
      · exact .nothing rfl (.refl _)
      next value _ =>
        have silent := closed (value % 2 ^ 32).toNat.toUInt32
        split <;> exact .nothing rfl silent
  | toolRun =>
    simp only [Op.run, opToolRun, runFails, reachesSpawn, beq_self_eq_true, Bool.true_and]
    cases req.get (ascii "path") with
    | none => exact .nothing rfl (.refl _)
    | some path =>
      simp only
      split
      next missing => exact .nothing (by simp [missing]) (.refl _)
      next missing => exact .nothing (by simp [missing]) (.refl _)
      next timeoutMs idleMs timeout idle =>
        have said := spawnBinding_speech env world path (collectArgv req path) (toUInt64 timeoutMs) (toUInt64 idleMs)
        simp only [timeout, idle, Option.isSome_some, Bool.true_and]
        split <;> next found => rw [found] at said; exact said
  | debugSessions | debugTransfers | debugProcs | debugStats | portList => exact .nothing rfl (.refl _)

def Tries (env : Env) (reqId : UInt32) (before : Link) (accepted : Bool) (after : Link) : Prop :=
  ∃ frame, isAnswer frame = true ∧ frame.reqId = reqId ∧ Speaks env before (if accepted then [frame] else []) after

private theorem sendError_tries (link : Link) (code : String) (message : Bytes) :
    Tries env reqId link (sessionSendError env link reqId code message).2
      (sessionSendError env link reqId code message).1 := by
  refine ⟨⟨FrameType.error.code, reqId, errorText code message⟩, by rfl, rfl, ?_⟩
  unfold sessionSendError utilSnprintf
  split
  · exact .silent (.refl _)
  next payload formatted =>
    obtain ⟨rfl, _⟩ := utilSnprintf_some formatted
    exact .send link .error reqId _

private theorem dispatchRequest_speech (payload : Bytes) : ∃ middle,
    OpSpeech env (runFails env world.proc (parseKv payload) (requestedOp payload)) world.link middle ∧
    Tries env reqId middle (dispatchRequest env world reqId payload).2 (dispatchRequest env world reqId payload).1.link := by
  unfold dispatchRequest
  simp only
  split
  next unknown =>
    have works : runFails env world.proc (parseKv payload) (requestedOp payload) = false := by
      simp [runFails, requestedOp, unknown]
    exact ⟨world.link, .nothing works (.refl _), sendError_tries env reqId world.link _ _⟩
  next op named =>
    have said := op_speech env world (parseKv payload) op
    rw [← show requestedOp payload = some op from named] at said
    split
    next found =>
      rw [found] at said
      exact ⟨_, said, sendError_tries env reqId _ _ _⟩
    next table found =>
      rw [found] at said
      exact ⟨_, said, _, by rfl, rfl, .send _ .opResult reqId (encodeResult table)⟩

/-- However the operation ended, its request is answered after it: when the first
answer cannot be sent, a second one is tried. -/
theorem handleOp_speech (payload : Bytes) : ∃ middle,
    OpSpeech env (runFails env world.proc (parseKv payload) (requestedOp payload)) world.link middle ∧
    Replies env reqId middle (handleOp env world reqId payload).1.link := by
  obtain ⟨middle, said, frame, answer, same, speaks⟩ := dispatchRequest_speech env world reqId payload
  refine ⟨middle, said, ?_⟩
  unfold handleOp luaEngineDispatch
  simp only
  cases sent : (dispatchRequest env world reqId payload).2 with
  | true =>
    simp only [sent, if_true] at speaks ⊢
    exact ⟨[frame], speaks, by simpa using ⟨answer, same⟩, fun _ _ => rfl⟩
  | false =>
    simp only [sent, Bool.false_eq_true, if_false] at speaks ⊢
    obtain ⟨frames, second, answers, one⟩ := @Replies.sendConstant env reqId
      (diagCountProtocolError (diagCountLuaError (dispatchRequest env world reqId payload).1.link)) "internal"
      "lua dispatch failed" (by decide)
    exact ⟨frames, .trans (speaks.silent_last (.counted ..)) second, answers, one⟩

end handlers

def BelongsTo (reqId : UInt32) (frame : Sent) : Prop :=
  frame.reqId = reqId ∧
    (isAnswer frame = true ∨ frame.type = FrameType.getChunk.code ∨ frame.type = FrameType.getEnd.code)

def Serving (env : Env) (reqId : UInt32) (before after : Link) : Prop :=
  ∃ frames, Speaks env before frames after ∧ ∀ frame ∈ frames, BelongsTo reqId frame

namespace Serving
variable {env : Env} {reqId : UInt32} {before middle after : Link}

theorem of_silent (silent : Silent before after) : Serving env reqId before after := ⟨[], .silent silent, by simp⟩

theorem trans (first : Serving env reqId before middle) (later : Serving env reqId middle after) :
    Serving env reqId before after := by
  obtain ⟨earlier, speaks, belong⟩ := first
  obtain ⟨frames, second, belongs⟩ := later
  refine ⟨earlier ++ frames, speaks.trans second, ?_⟩
  intro frame member
  rcases List.mem_append.mp member with member | member
  · exact belong frame member
  · exact belongs frame member

theorem of_replies (replies : Replies env reqId before after) : Serving env reqId before after := by
  obtain ⟨frames, speaks, answers, _⟩ := replies
  exact ⟨frames, speaks, fun frame member => ⟨(answers frame member).2, .inl (answers frame member).1⟩⟩

theorem sendError (link : Link) (code : String) (message : Bytes) :
    Serving env reqId link (sessionSendError env link reqId code message).1 := by
  obtain ⟨frame, answer, same, speaks⟩ := sendError_tries env reqId link code message
  refine ⟨_, speaks, ?_⟩
  intro sent member
  split at member
  · rw [List.mem_singleton.mp member]
    exact ⟨same, .inl answer⟩
  · cases member

theorem sendFrame (link : Link) (type : FrameType) (payload : Bytes)
    (belongs : BelongsTo reqId ⟨type.code, reqId, payload⟩) :
    Serving env reqId link (sessionSendFrame env link type.code reqId payload).1 := by
  refine ⟨_, .send link type reqId payload, ?_⟩
  intro sent member
  split at member
  · rw [List.mem_singleton.mp member]
    exact belongs
  · cases member

end Serving

section transfers
variable (env : Env) (reqId : UInt32)

theorem putChunk_serving (world : World) (payload : Bytes) :
    Serving env reqId world.link (transferHandlePutChunk env world reqId payload).1.link := by
  have ending := putChunk_ending env world reqId payload
  generalize transferHandlePutChunk env world reqId payload = result at ending ⊢
  cases ending with
  | refused => exact .sendError world.link _ _
  | exceeding | unwritten => exact .trans (.sendError world.link _ _) (.of_silent (.counted ..))
  | stored => exact .of_silent (.refl _)

private theorem getLoop_serving (fd : Nat) (world : World) {link : Link} (start : world.link = link) :
    Serving env reqId link (getLoop env reqId fd world).1.link := by
  subst start
  have complained (code : String) (message : Bytes) : Serving env reqId world.link
      (sessionSendError env (diagCountTransferAbort world.link) reqId code message).1 :=
    .trans (.of_silent (.counted ..)) (.sendError _ _ _)
  unfold getLoop
  split
  next more =>
    simp only
    split
    · exact complained _ _
    next bytes found =>
      split
      · exact complained _ _
      next some =>
        have chunk : Serving env reqId world.link _ := .sendFrame world.link .getChunk bytes ⟨rfl, .inr (.inl rfl)⟩
        split
        · exact chunk.trans (.of_silent (.counted ..))
        · exact chunk.trans (getLoop_serving fd _ rfl)
  next =>
    exact .trans (.sendFrame world.link .getEnd (ascii "status=ok") ⟨rfl, .inr (.inr rfl)⟩) (.of_silent (.counted ..))
termination_by world.download.totalSize - world.download.offset
decreasing_by
  omega

theorem getBegin_serving (world : World) (payload : Bytes) :
    Serving env reqId world.link (transferHandleGetBegin env world reqId payload).1.link := by
  have started : Serving env reqId world.link (diagCountTransferStart world.link) := .of_silent (.counted ..)
  have acked (reply : Bytes) := started.trans
    (@Serving.sendFrame env reqId (diagCountTransferStart world.link) .ack reply ⟨rfl, .inl rfl⟩)
  have ending := getBegin_ending env world reqId payload
  generalize transferHandleGetBegin env world reqId payload = result at ending ⊢
  cases ending with
  | busy | missing | unnamed | unopened | unsized => exact .sendError world.link _ _
  | overflowed => exact started.trans (.sendError _ _ _)
  | unanswered => exact acked _
  | unbuffered => exact (acked _).trans (.sendError _ _ _)
  | looped => exact (acked _).trans (getLoop_serving env reqId _ _ rfl)

end transfers

/-- The frames a callback may queue, by the event it handles. -/
inductive Spoken (env : Env) (world : World) : Event → Sent → Prop where
  | served {message : Message} {frame : Sent} (belongs : BelongsTo message.reqId frame) :
      Spoken env world (.read (.dispatch message)) frame
  | unlabelled {message : Message} {frame : Sent} (isOp : message.type = FrameType.op.code)
      (isRun : requestedOp (cstr message.payload) = some .toolRun) (answer : isAnswer frame = true)
      (reqId : frame.reqId = 0) : Spoken env world (.read (.dispatch message)) frame
  | ping : Spoken env world .tick ⟨FrameType.ping.code, world.nextReqId, ascii "status=ping"⟩
  | stalled {transfer : TransferState} (slot : transfer = world.upload ∨ transfer = world.download)
      (stalled : transferStalled transfer env.now = true) (payload : Bytes) :
      Spoken env world .tick ⟨FrameType.error.code, transfer.reqId, payload⟩
  | exit (status : Int) (payload : Bytes) :
      Spoken env world (.exited status) ⟨FrameType.exit.code, world.proc.procId, payload⟩
  | output (pipe : Pipe) (bytes : Bytes) :
      Spoken env world (.output pipe bytes) ⟨pipe.frameType.code, world.proc.procId, bytes⟩

/-- The types of the frames an event may queue. -/
def Event.frameTypes : Event → List FrameType
  | .read (.dispatch _) => [.ack, .pong, .opResult, .error, .getChunk, .getEnd]
  | .tick => [.ping, .error]
  | .exited _ => [.exit]
  | .output pipe _ => [pipe.frameType]
  | _ => []

theorem isAnswer_type {frame : Sent} (answer : isAnswer frame = true) :
    ∃ type ∈ [FrameType.ack, .pong, .opResult, .error], frame.type = type.code := by
  simpa only [isAnswer, List.any_eq_true, beq_iff_eq] using answer

theorem Spoken.type_mem {env : Env} {world : World} {event : Event} {frame : Sent} (spoken : Spoken env world event frame) :
    ∃ type ∈ Event.frameTypes event, frame.type = type.code := by
  have answered {message : Message} (answer : isAnswer frame = true) :
      ∃ type ∈ Event.frameTypes (.read (.dispatch message)), frame.type = type.code := by
    obtain ⟨type, member, same⟩ := isAnswer_type answer
    exact ⟨type, List.mem_append_left [FrameType.getChunk, .getEnd] member, same⟩
  cases spoken with
  | served belongs =>
    rcases belongs.2 with answer | chunk | last
    · exact answered answer
    · exact ⟨.getChunk, by simp [Event.frameTypes], chunk⟩
    · exact ⟨.getEnd, by simp [Event.frameTypes], last⟩
  | unlabelled _ _ answer => exact answered answer
  | ping => exact ⟨.ping, by simp [Event.frameTypes], rfl⟩
  | stalled => exact ⟨.error, by simp [Event.frameTypes], rfl⟩
  | exit => exact ⟨.exit, by simp [Event.frameTypes], rfl⟩
  | output pipe => exact ⟨pipe.frameType, by simp [Event.frameTypes], rfl⟩

theorem code_injective {left right : FrameType} (same : left.code = right.code) : left = right := by
  have decoded := congrArg FrameType.ofCode same
  rw [FrameType.ofCode_code, FrameType.ofCode_code] at decoded
  exact Option.some.inj decoded

theorem Spoken.of_type {env : Env} {world : World} {event : Event} {frame : Sent} (spoken : Spoken env world event frame)
    {type : FrameType} (same : frame.type = type.code) : type ∈ Event.frameTypes event := by
  obtain ⟨found, member, typed⟩ := spoken.type_mem
  rwa [code_injective (same.symm.trans typed)]

def Speech (env : Env) (world : World) (event : Event) (before after : Link) : Prop :=
  ∃ frames, Speaks env before frames after ∧ ∀ frame ∈ frames, Spoken env world event frame

namespace Speech
variable {env : Env} {world : World} {event : Event} {before middle after : Link}

theorem of_silent (silent : Silent before after) : Speech env world event before after := ⟨[], .silent silent, by simp⟩

theorem trans (first : Speech env world event before middle) (later : Speech env world event middle after) :
    Speech env world event before after := by
  obtain ⟨earlier, speaks, spoken⟩ := first
  obtain ⟨frames, second, further⟩ := later
  refine ⟨earlier ++ frames, speaks.trans second, ?_⟩
  intro frame member
  rcases List.mem_append.mp member with member | member
  · exact spoken frame member
  · exact further frame member

theorem send (link : Link) (type : FrameType) (reqId : UInt32) (payload : Bytes)
    (spoken : Spoken env world event ⟨type.code, reqId, payload⟩) :
    Speech env world event link (sessionSendFrame env link type.code reqId payload).1 := by
  refine ⟨_, .send link type reqId payload, ?_⟩
  intro sent member
  split at member
  · rw [List.mem_singleton.mp member]
    exact spoken
  · cases member

theorem sendError (link : Link) (reqId : UInt32) (code : String) (message : Bytes)
    (spoken : Spoken env world event ⟨FrameType.error.code, reqId, errorText code message⟩) :
    Speech env world event link (sessionSendError env link reqId code message).1 := by
  unfold sessionSendError
  split
  · exact .of_silent (.refl _)
  next payload formatted =>
    obtain ⟨rfl, _⟩ := utilSnprintf_some formatted
    exact send link .error reqId _ spoken

theorem of_serving {message : Message} (serving : Serving env message.reqId before after) :
    Speech env world (.read (.dispatch message)) before after := by
  obtain ⟨frames, speaks, belongs⟩ := serving
  exact ⟨frames, speaks, fun frame member => .served (belongs frame member)⟩

end Speech

section callbacks
variable (env : Env) (world : World)

private theorem handleOp_spoken (seen : World) {message : Message} (isOp : message.type = FrameType.op.code) :
    Speech env seen (.read (.dispatch message)) world.link
      (handleOp env world message.reqId (cstr message.payload)).1.link := by
  obtain ⟨middle, said, replies⟩ := handleOp_speech env world message.reqId (cstr message.payload)
  refine .trans ?_ (.of_serving (.of_replies replies))
  cases said with
  | nothing _ silent => exact .of_silent silent
  | failed failed replies =>
    obtain ⟨frames, speaks, answers, _⟩ := replies
    have isRun : requestedOp (cstr message.payload) = some .toolRun := by
      simp only [runFails, Bool.and_eq_true, beq_iff_eq] at failed
      exact failed.1.1
    exact ⟨frames, speaks, fun frame member => .unlabelled isOp isRun (answers frame member).1 (answers frame member).2⟩

private theorem control_speech (seen : World) (message : Message) :
    Speech env seen (.read (.dispatch message)) world.link (protocolHandleControl env world message).1.link := by
  have ending := control_ending env world message
  generalize protocolHandleControl env world message = result at ending ⊢
  cases ending with
  | chunk => exact .of_serving (putChunk_serving ..)
  | ended => exact .of_serving (.of_replies (putEnd_replies ..))
  | uncopied => exact .of_serving (.sendError ..)
  | text =>
    generalize found : FrameType.ofCode message.type = type
    unfold handleText
    split
    · exact .of_serving (.sendFrame world.link .ack _ ⟨rfl, .inl rfl⟩)
    · exact .of_serving (.sendFrame world.link .pong _ ⟨rfl, .inl rfl⟩)
    · exact handleOp_spoken env world seen (ofCode_some found).symm
    · exact .of_serving (.of_replies (putBegin_replies ..))
    · exact .of_serving (getBegin_serving ..)
    · exact .of_serving (.of_replies (handleSpawn_replies ..))
    · exact .of_serving (.of_replies (handleKill_replies ..))
    · exact .trans (.of_silent (.counted ..)) (.of_serving (.sendError ..))

theorem sessionClose_silent (link : Link) : Silent link (sessionClose link) := by
  unfold sessionClose
  split
  · exact .refl link
  · exact { closed := fun _ => life_close_closed link.life }

private theorem perform_speech (action : Action) :
    Speech env world (.read action) world.link (perform env world action).link := by
  cases action with
  | received => exact .of_silent (.refl _)
  | dispatch message => exact .trans (.of_silent (.counted ..)) (control_speech env (world.countFrame message) world message)
  | badHeader => exact .trans (.of_silent (.counted ..)) (.of_silent (sessionClose_silent (diagCountParseFailure world.link)))
  | overflow => exact .of_silent (sessionClose_silent world.link)
  | hangup => exact .of_silent (sessionClose_silent world.link)

private theorem heartbeatPing_speech : Speech env world .tick world.link (heartbeatPing env world).link := by
  have ending := heartbeatPing_ending env world
  generalize heartbeatPing env world = next at ending ⊢
  cases ending with
  | early => exact .of_silent (.refl _)
  | pinged => exact .trans (.of_silent (.counted ..)) (.send (diagCountHeartbeat world.link) .ping world.nextReqId _ .ping)

theorem checkUpload_speech (seen : World) (same : world.upload = seen.upload) :
    Speech env seen .tick world.link (transferCheckTimeoutUpload env world).link := by
  have ending := checkUpload_ending env world
  generalize transferCheckTimeoutUpload env world = next at ending ⊢
  cases ending with
  | going => exact .of_silent (.refl _)
  | stalled stalled =>
    refine .trans (.of_silent (.counted ..)) (.sendError (diagCountTransferAbort world.link) world.upload.reqId _ _ ?_)
    exact .stalled (.inl same) stalled _

private theorem checkDownload_speech (seen : World) (same : world.download = seen.download) :
    Speech env seen .tick world.link (transferCheckTimeoutDownload env world).link := by
  have ending := checkDownload_ending env world
  generalize transferCheckTimeoutDownload env world = next at ending ⊢
  cases ending with
  | going => exact .of_silent (.refl _)
  | stalled stalled =>
    refine .trans (.of_silent (.counted ..)) (.sendError (diagCountTransferAbort world.link) world.download.reqId _ _ ?_)
    exact .stalled (.inr same) stalled _

theorem checkTimeouts_silent : Silent world.link (procCheckTimeouts env world).link := by
  have ending := checkTimeouts_ending env world
  generalize procCheckTimeouts env world = next at ending ⊢
  cases ending <;> exact .counted ..

private theorem tick_speech : Speech env world .tick world.link (heartbeatCb env world).link := by
  have ending := tick_ending env world
  generalize heartbeatCb env world = next at ending ⊢
  cases ending with
  | closed => exact .of_silent (.refl _)
  | idle => exact .of_silent (sessionClose_silent world.link)
  | checked =>
    have pinged := heartbeatPing_same env world
    have download := (checkUpload_download env (heartbeatPing env world)).trans pinged.download
    exact .trans (.trans (.trans (heartbeatPing_speech env world) (checkUpload_speech env _ world pinged.upload))
      (checkDownload_speech env _ world download)) (.of_silent (checkTimeouts_silent env _))

private theorem exit_speech (status : Int) :
    Speech env world (.exited status) world.link (procExitCb env world status).link := by
  unfold procExitCb
  simp only
  split
  · exact .of_silent (.counted ..)
  · exact .trans (.of_silent (.counted ..)) (.send (diagCountProcessExit world.link) .exit world.proc.procId _ (.exit status _))

theorem close_silent (name : SessionHandle) : Silent world.link (closeCb env world name).link := by
  have ending := closeCb_ending env world name
  generalize closeCb env world name = next at ending ⊢
  cases ending with
  | plain _ shut | dropped _ shut | released _ shut =>
    cases shut
    exact {}

/-- Every callback but the completion of a write. -/
theorem callback_speech {event : Event} (unwritten : ∀ write, event ≠ .written write) :
    Speech env world event world.link (callback env world event).link := by
  cases event with
  | read action => exact perform_speech env world action
  | tick => exact tick_speech env world
  | written write => exact absurd rfl (unwritten write)
  | exited status => exact exit_speech env world status
  | output pipe bytes => exact .send world.link pipe.frameType world.proc.procId bytes (.output pipe bytes)
  | ended pipe => exact .of_silent (by cases pipe <;> exact .refl _)
  | closed name => exact .of_silent (close_silent env world name)

end callbacks
end Luagent.Proofs
