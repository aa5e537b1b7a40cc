import Luagent.Proofs.ChildSteps

/-! A PROC_SPAWN that is answered with an error, and the child it may have
started all the same. -/

namespace Luagent.Proofs.SpawnRefusal
open Foundation

/-- No child was started since, or it has been sent a kill. -/
def LeavesNoChild (before after : ProcState) : Prop :=
  (after.active = false ∧ after.spawned = before.spawned) ∨
    ∃ kill ∈ after.kills.drop before.kills.length, kill.child = after.spawned

/-- The text of the error about a reply that does not fit. -/
def overflowText : Bytes := errorText "internal" (ascii "reply overflow")

private theorem spawnReply_length (procId : UInt32) (path : Bytes) :
    (spawnReply procId path).length = 24 + (decimal procId.toNat).length + path.length := by
  have texts : (ascii "status=ok\nproc_id=").length = 18 ∧ (ascii "\npath=").length = 6 := by decide
  simp only [spawnReply, List.length_append]
  omega

private theorem unable_leaves {env : Env} {world : World} (idle : world.proc.active = false)
    (cannot : canSpawn env world.proc = false)
    (reqId : UInt32) (path : Bytes) (args : List Bytes) (timeoutMs idleTimeoutMs : Nat) (sendAck : Bool) :
    LeavesNoChild world.proc (procSpawnCommon env world reqId path args timeoutMs idleTimeoutMs sendAck).1.proc := by
  have ending := spawn_ending env world reqId path args timeoutMs idleTimeoutMs sendAck
  generalize procSpawnCommon env world reqId path args timeoutMs idleTimeoutMs sendAck = after at ending
  cases ending with
  | busy active => exact absurd active (by simp [idle])
  | unnamed => exact .inl ⟨rfl, rfl⟩
  | failed _ _ _ _ _ _ inactive spawned => exact .inl ⟨inactive, spawned⟩
  | started can | overflowed can | acknowledged can => exact absurd can (by simp [cannot])

/-- The session right after `uv_spawn` has started a child. -/
structure Born (world born : World) : Prop where
  active : born.proc.active = true := by rfl
  kills : born.proc.kills = world.proc.kills := by rfl
  queued : born.link.queued = world.link.queued := by rfl
  pending : born.link.pendingWriteBytes = world.link.pendingWriteBytes := by rfl
  sends : born.link.sends = world.link.sends := by rfl
  closed : born.link.life.closed = world.link.life.closed := by rfl

theorem Born.canSend {world born : World} (same : Born world born) {env : Env} {length : Nat} :
    CanSend env born.link length ↔ CanSend env world.link length := by
  have fields : ∀ link other : Link, link.pendingWriteBytes = other.pendingWriteBytes → link.sends = other.sends →
      link.life.closed = other.life.closed → CanSend env other length → CanSend env link length := by
    rintro link other pending sends closed ⟨live, room, request, buffer, accepted⟩
    rw [← pending] at room
    rw [← sends] at request buffer accepted
    exact ⟨closed.trans live, room, request, buffer, accepted⟩
  exact ⟨fields _ _ same.pending.symm same.sends.symm same.closed.symm, fields _ _ same.pending same.sends same.closed⟩

private theorem able_born {env : Env} {world : World} (can : canSpawn env world.proc = true) (reqId : UInt32) (path : Bytes)
    (args : List Bytes) (timeoutMs idleTimeoutMs : Nat) : ∃ born, Born world born ∧
      procSpawnCommon env world reqId path args timeoutMs idleTimeoutMs true =
        match utilSnprintf 256 (spawnReply world.nextProcId path) with
        | none => (born.sendError env reqId "internal" (ascii "reply overflow"), false)
        | some reply => born.sendText env .ack reqId reply :=
  ⟨_, by exact {}, spawn_able reqId path args timeoutMs idleTimeoutMs can true⟩

private theorem overflow_error {env : Env} {world born : World} (same : Born world born) (reqId : UInt32) :
    AnswersError reqId world.link (born.sendError env reqId "internal" (ascii "reply overflow")).link ↔
      CanSend env world.link overflowText.length := by
  have short : overflowText.length < 512 := by decide
  have sent : (born.sendError env reqId "internal" (ascii "reply overflow")).link =
      (sessionSendFrame env born.link FrameType.error.code reqId overflowText).1 := by
    have formatted : utilSnprintf 512 (errorText "internal" (ascii "reply overflow")) = some overflowText := if_pos short
    simp only [World.sendError, sessionSendError, formatted, sessionSendText]
  rw [sent, AnswersError, framesSince, sendFrame_queued, same.queued, List.drop_left, ← same.canSend]
  constructor
  · rintro ⟨frame, member, _⟩
    split at member
    next accepted => exact canSend_of_sent reqId accepted
    next => cases member
  · intro can
    rw [if_pos (sendFrame_sent reqId (code_ne_zero .error) (by unfold maxFramePayload; omega) can)]
    exact ⟨_, List.mem_singleton_self _, rfl, rfl⟩

private theorem ack_not_error {env : Env} {world born : World} (same : Born world born) (reqId : UInt32) (reply : Bytes) :
    ¬ AnswersError reqId world.link (born.sendText env .ack reqId reply).1.link := by
  rintro ⟨frame, member, isError, _⟩
  have queued := sendFrame_queued env born.link FrameType.ack.code reqId reply
  rw [framesSince, World.sendText, sessionSendText, queued, same.queued, List.drop_left] at member
  split at member
  · rw [List.mem_singleton.mp member] at isError
    exact absurd isError (show FrameType.ack.code ≠ FrameType.error.code by decide)
  · cases member

private theorem born_leaves {world born : World} (same : Born world born) : ¬ LeavesNoChild world.proc born.proc := by
  rintro (⟨inactive, _⟩ | ⟨kill, member, _⟩)
  · rw [same.active] at inactive
    cases inactive
  · rw [same.kills, List.drop_length] at member
    cases member

/-- A spawn that is answered with an error leaves no child, exactly unless a child
was started whose acknowledgement does not fit in 256 bytes and the error that is
sent in its place is accepted. -/
theorem refused_spawn_iff (env : Env) {world : World} (reqId : UInt32) {payload path : Bytes}
    (idle : world.proc.active = false) (named : kvCopy 512 payload (ascii "path") = some path) :
    (AnswersError reqId world.link (procHandleSpawn env world reqId payload).1.link →
      LeavesNoChild world.proc (procHandleSpawn env world reqId payload).1.proc) ↔
    ¬ ((procBuildArgs env payload path).isSome = true ∧ canSpawn env world.proc = true ∧
      256 ≤ 24 + (decimal world.nextProcId.toNat).length + path.length ∧ CanSend env world.link overflowText.length) := by
  cases built : procBuildArgs env payload path with
  | none =>
    obtain ⟨code, message, refused⟩ := @handleSpawn_refuses env world reqId payload fun found isPath => by
      cases named.symm.trans isPath
      exact built
    simp only [refused, Option.isSome_none, Bool.false_eq_true, false_and, not_false_eq_true, iff_true]
    exact fun _ => .inl ⟨idle, rfl⟩
  | some args =>
    simp only [handleSpawn_spawns world reqId named built, Option.isSome_some, true_and]
    by_cases can : canSpawn env world.proc = true
    case neg =>
      simp only [can, Bool.false_eq_true, false_and, not_false_eq_true, iff_true]
      exact fun _ => unable_leaves idle (by simpa using can) ..
    case pos =>
      obtain ⟨born, same, result⟩ := able_born can reqId path args (kvU64Default payload (ascii "timeout_ms") 60000)
        (kvU64Default payload (ascii "idle_timeout_ms") 10000)
      simp only [result, can, true_and, ← spawnReply_length]
      unfold utilSnprintf
      by_cases fits : (spawnReply world.nextProcId path).length < 256
      · simp only [fits, if_true, Nat.not_le.mpr fits, false_and, not_false_eq_true, iff_true]
        exact fun error => absurd error (ack_not_error same reqId _)
      · simp only [fits, if_false, Nat.le_of_not_lt fits, true_and]
        rw [overflow_error same reqId]
        constructor
        · exact fun leaves can => born_leaves same (leaves can)
        · exact fun cannot can => absurd can cannot

/-- A path that `kv_copy` accepts and whose acknowledgement does not fit. -/
def longPath : Bytes := List.replicate 240 120

def longSpawn : World × Bool := procHandleSpawn {} Upload.freshSession 7 (ascii "path=" ++ longPath)

theorem long_path_keeps_running :
    kvCopy 512 (ascii "path=" ++ longPath) (ascii "path") = some longPath ∧ Upload.freshSession.proc.active = false ∧
    framesSince Upload.freshSession.link longSpawn.1.link = [⟨FrameType.error.code, 7, overflowText⟩] ∧
    longSpawn.1.proc.active = true ∧ longSpawn.1.proc.spawned = Upload.freshSession.proc.spawned + 1 ∧
    longSpawn.1.proc.kills = [] := by
  -- too long for the elaborator to evaluate
  exact ⟨by decide +kernel, by decide, by decide +kernel, by decide +kernel, by decide +kernel, by decide +kernel⟩

/-- `uv_spawn` fails. -/
def failedSpawn : World × Bool := procHandleSpawn { spawn := -2 } Upload.freshSession 7 (ascii "path=x")

theorem refused_spawn_failed :
    AnswersError 7 Upload.freshSession.link failedSpawn.1.link ∧ LeavesNoChild Upload.freshSession.proc failedSpawn.1.proc := by
  have error : AnswersError 7 Upload.freshSession.link failedSpawn.1.link := by
    unfold AnswersError
    decide +kernel
  refine ⟨error, (@refused_spawn_iff { spawn := -2 } _ 7 (ascii "path=x") (ascii "x") (by decide) (by decide)).mpr ?_ error⟩
  rintro ⟨_, can, _⟩
  exact absurd can (by decide)

end Luagent.Proofs.SpawnRefusal
