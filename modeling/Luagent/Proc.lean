import Luagent.Session

/-! Child processes (`proc.c`). Every session has one process slot. -/

namespace Luagent
open Foundation

inductive Pipe where
  | stdout | stderr
deriving DecidableEq, Repr

def Pipe.frameType : Pipe → FrameType
  | .stdout => .stdout
  | .stderr => .stderr

def killReasonName : KillReason → String
  | .requested => "killed"
  | .timeout => "timeout"
  | .idle => "idle_timeout"
  | .none => "exit"

def procReset (proc : ProcState) : ProcState :=
  { proc with
    active := false, stdoutClosed := false, stderrClosed := false, procId := 0, startedMs := 0, lastIoMs := 0
    timeoutMs := 0, idleTimeoutMs := 0, killReason := .none, file := none, args := none }

def procMaybeFinalize (proc : ProcState) : ProcState :=
  if !proc.active && proc.stdoutClosed && proc.stderrClosed then
    procReset { proc with stdoutPipe := proc.stdoutPipe.close true, stderrPipe := proc.stderrPipe.close true }
  else proc

/-- `read_cb` with some output of the child. -/
def procReadOutput (env : Env) (world : World) (pipe : Pipe) (bytes : Bytes) : World :=
  let proc := { world.proc with lastIoMs := env.now }
  { world with proc, link := (sessionSendFrame env world.link pipe.frameType.code proc.procId bytes).1 }

/-- `read_cb` at the end of a pipe. -/
def procReadEnd (world : World) (pipe : Pipe) : World :=
  let proc := match pipe with
    | .stdout => { world.proc with stdoutReading := false, stdoutClosed := true }
    | .stderr => { world.proc with stderrReading := false, stderrClosed := true }
  { world with proc := procMaybeFinalize proc }

def exitReply (procId : UInt32) (exitStatus : Int) (reason : KillReason) : Bytes :=
  ascii "status=ok\nproc_id=" ++ decimal procId.toNat ++ ascii "\nexit_code=" ++ signedDecimal exitStatus ++
    ascii "\nreason=" ++ ascii (killReasonName reason)

def procExitCb (env : Env) (world : World) (exitStatus : Int) : World :=
  let proc := { world.proc with active := false }
  let link := diagCountProcessExit world.link
  let link := match utilSnprintf 256 (exitReply proc.procId exitStatus proc.killReason) with
    | none => link
    | some payload => (sessionSendText env link .exit proc.procId payload).1
  { world with link, proc := procMaybeFinalize { proc with process := proc.process.close true } }

/-- `uv_process_kill` on the child in the slot, for this reason. -/
def processKill (env : Env) (proc : ProcState) (reason : KillReason) : ProcState :=
  { proc with killReason := reason, kills := proc.kills ++ [⟨proc.spawned, reason, env.kill⟩] }

def procAbort (env : Env) (proc : ProcState) : ProcState :=
  if proc.active then processKill env proc .requested else procReset proc

def argKey (index : Nat) : Option Bytes := utilSnprintf 32 (ascii "argv" ++ decimal index)

/-- The counting loop of `proc_build_args`, for at most `fuel` turns. -/
def countArgs (payload : Bytes) : Nat → Nat → Option Nat
  | 0, _ => none
  | fuel + 1, count =>
    match argKey count with
    | none => none
    | some key => match kvCopy 512 payload key with
      | none => some count
      | some _ => countArgs payload fuel (count + 1)

/-- A payload has fewer records than bytes, so the loop ends within the turns
given to it. With one argument the path takes its place. -/
def procBuildArgs (env : Env) (payload path : Bytes) : Option (List Bytes) :=
  match countArgs payload (payload.length + 2) 0 with
  | none => none
  | some found =>
    let count := if found = 0 then 1 else found
    if !env.alloc .procArgs then none
    else if count = 1 then some (if env.alloc (.procArg 0) then [path] else [])
    else (List.range count).mapM fun index => do
      let key ← argKey index
      let value ← kvCopy 512 payload key
      if env.alloc (.procArg index) then some value else none

/-- The memory behind a `char **`: pointers to strings, or NULL. -/
abbrev ArgArray := List (Option Bytes)

/-- The second pass of `proc_build_args`, with `left` entries to go. It frees the
array where a value is missing or cannot be copied. -/
def fillArgs (env : Env) (payload : Bytes) : Nat → Nat → ArgArray → Option ArgArray
  | 0, _, args => some args
  | left + 1, index, args =>
    match argKey index with
    | none => none
    | some key => match kvCopy 512 payload key with
      | none => none
      | some value =>
        if env.alloc (.procArg index) then fillArgs env payload left (index + 1) (args.set index (some value)) else none

/-- `proc_build_args` with the array it returns, all NULL at first. In
`procBuildArgs` are the strings in front of the first NULL. -/
def procBuildArgArray (env : Env) (payload path : Bytes) : Option ArgArray :=
  match countArgs payload (payload.length + 2) 0 with
  | none => none
  | some found =>
    let count := if found = 0 then 1 else found
    if !env.alloc .procArgs then none
    else
      let args : ArgArray := List.replicate (count + 1) none
      if count = 1 then some (args.set 0 (if env.alloc (.procArg 0) then some path else none))
      else fillArgs env payload count 0 args

/-- The strings in front of the first NULL. -/
def ArgArray.strings (args : ArgArray) : List Bytes := (args.takeWhile Option.isSome).reduceOption

def procDupArgs (env : Env) (argv : List Bytes) : Option (List Bytes) :=
  if argv.length = 0 then none
  else if !env.alloc .procArgs then none
  else if (List.range argv.length).all fun index => env.alloc (.procArg index) then some argv
  else none

def spawnReply (procId : UInt32) (path : Bytes) : Bytes :=
  ascii "status=ok\nproc_id=" ++ decimal procId.toNat ++ ascii "\npath=" ++ path

/-- The slot as a spawn fills it in before the first libuv call. -/
def procPrepare (env : Env) (proc : ProcState) (procId : UInt32) (path : Bytes) (args : List Bytes)
    (timeoutMs idleTimeoutMs : Nat) : ProcState :=
  { procReset proc with
    file := some path, args := some args, procId := procId, startedMs := env.now, lastIoMs := env.now
    timeoutMs := timeoutMs, idleTimeoutMs := idleTimeoutMs, killReason := .none }

/-- `args` is not NULL: both callers have checked it. -/
def procSpawnCommon (env : Env) (world : World) (reqId : UInt32) (path : Bytes) (args : List Bytes)
    (timeoutMs idleTimeoutMs : Nat) (sendAck : Bool) : World × Bool :=
  if world.proc.active then (world.sendError env reqId "spawn_failed" (ascii "process already active"), false)
  else if !env.alloc .procFile then
    ({ world with proc := procReset world.proc }.sendError env reqId "internal" (ascii "out of memory"), false)
  else
    let proc := procPrepare env world.proc world.nextProcId path args timeoutMs idleTimeoutMs
    let world := { world with
      nextProcId := world.nextProcId + 1
      link := diagCountProcessSpawn world.link }
    if env.stdoutInit ≠ 0 then
      ({ world with proc := procReset proc }.sendError env reqId "spawn_failed" (env.strerror env.stdoutInit), false)
    else
      let proc := { proc with stdoutPipe := proc.stdoutPipe.init, stdoutReading := false }
      if env.stderrInit ≠ 0 then
        let proc := { proc with stdoutPipe := proc.stdoutPipe.close false }
        ({ world with proc := procReset proc }.sendError env reqId "spawn_failed" (env.strerror env.stderrInit), false)
      else
        let proc := { proc with stderrPipe := proc.stderrPipe.init, stderrReading := false }
        let dropped := { proc with
          stdoutPipe := proc.stdoutPipe.close false, stderrPipe := proc.stderrPipe.close false }
        if !env.alloc .stdoutCtx || !env.alloc .stderrCtx then
          ({ world with proc := procReset dropped }.sendError env reqId "internal" (ascii "out of memory"), false)
        else if env.spawn ≠ 0 then
          -- `uv_spawn` initialises the process handle before anything in it can fail
          let dropped := { dropped with process := dropped.process.init }
          ({ world with proc := procReset dropped }.sendError env reqId "spawn_failed" (env.strerror env.spawn), false)
        else
          let proc := { proc with
            process := proc.process.init
            active := true
            stdoutReading := env.stdoutStart = 0
            stderrReading := env.stderrStart = 0
            spawned := proc.spawned + 1 }
          let life := world.link.life.addRef.addRef.addRef
          let world := { world with proc, link := { world.link with life } }
          if !sendAck then (world, true)
          else match utilSnprintf 256 (spawnReply proc.procId path) with
            | none => (world.sendError env reqId "internal" (ascii "reply overflow"), false)
            | some reply => world.sendText env .ack reqId reply

/-- The new process id, unless the spawn failed. -/
def procSpawnDirect (env : Env) (world : World) (path : Bytes) (argv : List Bytes) (timeoutMs idleTimeoutMs : Nat) :
    World × Option UInt32 :=
  match procDupArgs env argv with
  | none => (world, none)
  | some args =>
    let spawned := procSpawnCommon env world 0 path args timeoutMs idleTimeoutMs false
    (spawned.1, if spawned.2 then some spawned.1.proc.procId else none)

def procHandleSpawn (env : Env) (world : World) (reqId : UInt32) (payload : Bytes) : World × Bool :=
  match kvCopy 512 payload (ascii "path") with
  | none => (world.sendError env reqId "bad_payload" (ascii "missing path"), false)
  | some path => match procBuildArgs env payload path with
    | none => (world.sendError env reqId "internal" (ascii "out of memory"), false)
    | some args =>
      procSpawnCommon env world reqId path args (kvU64Default payload (ascii "timeout_ms") 60000)
        (kvU64Default payload (ascii "idle_timeout_ms") 10000) true

def killReply (procId : UInt32) : Bytes := ascii "status=ok\nproc_id=" ++ decimal procId.toNat

def procHandleKill (env : Env) (world : World) (reqId : UInt32) (payload : Bytes) : World × Bool :=
  match kvU32 payload (ascii "proc_id") with
  | none => (world.sendError env reqId "bad_payload" (ascii "missing proc_id"), false)
  | some procId =>
    if !world.proc.active || world.proc.procId ≠ procId then
      (world.sendError env reqId "not_found" (ascii "process not active"), false)
    else
      let world := { world with proc := processKill env world.proc .requested }
      if env.kill ≠ 0 then (world.sendError env reqId "io_error" (ascii "kill failed"), false)
      else match utilSnprintf 128 (killReply procId) with
        | none => (world.sendError env reqId "internal" (ascii "reply overflow"), false)
        | some reply => world.sendText env .ack reqId reply

def procCheckTimeouts (env : Env) (world : World) : World :=
  let proc := world.proc
  if !proc.active then world
  else if 0 < proc.timeoutMs && proc.timeoutMs ≤ elapsedMs env.now proc.startedMs then
    { world with link := diagCountProcessTimeout world.link, proc := processKill env proc .timeout }
  else if 0 < proc.idleTimeoutMs && proc.idleTimeoutMs ≤ elapsedMs env.now proc.lastIoMs then
    { world with link := diagCountProcessTimeout world.link, proc := processKill env proc .idle }
  else world

end Luagent
