import Luagent.Proc

/-! `proc_spawn_common`, ending by ending. Everything later proofs need about it
is in these lemmas. -/

namespace Luagent.Proofs
open Foundation

/-- What a spawn needs up to and including `uv_spawn`. -/
def canSpawn (env : Env) (proc : ProcState) : Bool :=
  !proc.active && env.alloc .procFile && env.stdoutInit == 0 && env.stderrInit == 0 && env.alloc .stdoutCtx &&
    env.alloc .stderrCtx && env.spawn == 0

theorem free_of_canSpawn {env : Env} {proc : ProcState} (can : canSpawn env proc = true) : proc.active = false := by
  simp only [canSpawn, Bool.and_eq_true, Bool.not_eq_true'] at can
  exact can.1.1.1.1.1.1

/-- The calls of a spawn that follow the first pipe's initialisation succeed. -/
def SpawnWorks (env : Env) : Prop :=
  env.stderrInit = 0 ∧ env.alloc .stdoutCtx = true ∧ env.alloc .stderrCtx = true ∧ env.spawn = 0

/-- The slot is free and its handles are as before. -/
structure Emptied (before after : ProcState) : Prop where
  active : after.active = false := by rfl
  stdoutClosed : after.stdoutClosed = false := by rfl
  stderrClosed : after.stderrClosed = false := by rfl
  process : after.process = before.process := by rfl
  stdoutPipe : after.stdoutPipe = before.stdoutPipe := by rfl
  stderrPipe : after.stderrPipe = before.stderrPipe := by rfl
  spawned : after.spawned = before.spawned := by rfl
  kills : after.kills = before.kills := by rfl

section spawning
variable (env : Env) (world : World) (reqId : UInt32) (path : Bytes) (args : List Bytes) (timeoutMs idleTimeoutMs : Nat)

def numberedSpawn : World :=
  { world with nextProcId := world.nextProcId + 1, link := diagCountProcessSpawn world.link }

/-- The session once the child runs. -/
def spawnedChild : World :=
  let proc := procPrepare env world.proc world.nextProcId path args timeoutMs idleTimeoutMs
  { numberedSpawn world with
    proc := { proc with
      process := proc.process.init
      stdoutPipe := proc.stdoutPipe.init
      stderrPipe := proc.stderrPipe.init
      active := true
      stdoutReading := env.stdoutStart = 0
      stderrReading := env.stderrStart = 0
      spawned := proc.spawned + 1 }
    link := { diagCountProcessSpawn world.link with life := world.link.life.addRef.addRef.addRef } }

inductive SpawnEnding (sendAck : Bool) : World × Bool → Prop where
  | busy (active : world.proc.active = true) :
      SpawnEnding sendAck (world.sendError env reqId "spawn_failed" (ascii "process already active"), false)
  | unnamed (free : world.proc.active = false) (memory : env.alloc .procFile = false) :
      SpawnEnding sendAck
        ({ world with proc := procReset world.proc }.sendError env reqId "internal" (ascii "out of memory"), false)
  | failed (proc : ProcState) (code : String) (message : Bytes) (free : world.proc.active = false)
      (memory : env.alloc .procFile = true) (cannot : canSpawn env world.proc = false)
      (inactive : proc.active = false) (spawned : proc.spawned = world.proc.spawned)
      (kills : proc.kills = world.proc.kills) (handles : Emptied world.proc proc ∨ ¬ SpawnWorks env)
      (text : code = "internal" ∧ message = ascii "out of memory" ∨
        code = "spawn_failed" ∧ ∃ failure, message = env.strerror failure) :
      SpawnEnding sendAck ({ numberedSpawn world with proc }.sendError env reqId code message, false)
  | started (can : canSpawn env world.proc = true) (unasked : sendAck = false) :
      SpawnEnding sendAck (spawnedChild env world path args timeoutMs idleTimeoutMs, true)
  | overflowed (can : canSpawn env world.proc = true) (asked : sendAck = true)
      (long : 256 ≤ (spawnReply world.nextProcId path).length) :
      SpawnEnding sendAck ((spawnedChild env world path args timeoutMs idleTimeoutMs).sendError env reqId "internal"
        (ascii "reply overflow"), false)
  | acknowledged (can : canSpawn env world.proc = true) (asked : sendAck = true)
      (fits : (spawnReply world.nextProcId path).length < 256) :
      SpawnEnding sendAck ((spawnedChild env world path args timeoutMs idleTimeoutMs).sendText env .ack reqId
        (spawnReply world.nextProcId path))

variable {env world}

theorem spawn_able (can : canSpawn env world.proc = true) (sendAck : Bool) :
    procSpawnCommon env world reqId path args timeoutMs idleTimeoutMs sendAck =
      if !sendAck then (spawnedChild env world path args timeoutMs idleTimeoutMs, true)
      else match utilSnprintf 256 (spawnReply world.nextProcId path) with
        | none => ((spawnedChild env world path args timeoutMs idleTimeoutMs).sendError env reqId "internal"
            (ascii "reply overflow"), false)
        | some reply => (spawnedChild env world path args timeoutMs idleTimeoutMs).sendText env .ack reqId reply := by
  simp only [canSpawn, Bool.and_eq_true, Bool.not_eq_true', beq_iff_eq] at can
  obtain ⟨⟨⟨⟨⟨⟨inactive, file⟩, stdoutInit⟩, stderrInit⟩, stdoutCtx⟩, stderrCtx⟩, spawn⟩ := can
  unfold procSpawnCommon
  simp only [inactive, file, stdoutInit, stderrInit, stdoutCtx, stderrCtx, spawn, Bool.false_eq_true, if_false, Bool.not_true,
    ne_eq, not_true_eq_false, Bool.or_self]
  rfl

private theorem spawn_unable (cannot : canSpawn env world.proc = false) (sendAck : Bool) :
    SpawnEnding env world reqId path args timeoutMs idleTimeoutMs sendAck
      (procSpawnCommon env world reqId path args timeoutMs idleTimeoutMs sendAck) := by
  unfold procSpawnCommon
  split
  next active => exact .busy active
  next inactive =>
    have free : world.proc.active = false := by simpa using inactive
    split
    next missing => exact .unnamed free (by simpa using missing)
    next present =>
      have memory : env.alloc .procFile = true := by simpa using present
      simp only
      split
      · exact .failed _ _ _ free memory cannot rfl rfl rfl (.inl {}) (.inr ⟨rfl, _, rfl⟩)
      next stdoutInit =>
        split
        next fails =>
          exact .failed _ _ _ free memory cannot rfl rfl rfl (.inr fun works => fails works.1) (.inr ⟨rfl, _, rfl⟩)
        next stderrInit =>
          split
          next fails =>
            refine .failed _ _ _ free memory cannot rfl rfl rfl (.inr fun works => ?_) (.inl ⟨rfl, rfl⟩)
            simp [works.2.1, works.2.2.1] at fails
          next contexts =>
            split
            next fails =>
              exact .failed _ _ _ free memory cannot rfl rfl rfl (.inr fun works => fails works.2.2.2) (.inr ⟨rfl, _, rfl⟩)
            next spawned =>
              simp at stdoutInit stderrInit contexts spawned
              simp [canSpawn, free, memory, stdoutInit, stderrInit, contexts, spawned] at cannot

variable (env world)

theorem spawn_ending (sendAck : Bool) :
    SpawnEnding env world reqId path args timeoutMs idleTimeoutMs sendAck
      (procSpawnCommon env world reqId path args timeoutMs idleTimeoutMs sendAck) := by
  cases can : canSpawn env world.proc with
  | false => exact spawn_unable reqId path args timeoutMs idleTimeoutMs can sendAck
  | true =>
    rw [spawn_able reqId path args timeoutMs idleTimeoutMs can]
    cases sendAck with
    | false => exact .started can rfl
    | true =>
      simp only [Bool.not_true, Bool.false_eq_true, if_false, utilSnprintf]
      by_cases fits : (spawnReply world.nextProcId path).length < 256
      · rw [if_pos fits]
        exact .acknowledged can rfl fits
      · rw [if_neg fits]
        exact .overflowed can rfl (Nat.le_of_not_lt fits)

end spawning

end Luagent.Proofs
