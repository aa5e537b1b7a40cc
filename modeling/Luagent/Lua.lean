import Luagent.Portfwd
import Luagent.Proc
import Mathlib.Data.List.Sort

/-! The scripted operations: `lua/bootstrap.lua`, the files of `lua/ops` and the
bindings they call. Of the Lua library's `tonumber`, what `strtod` makes of a text
that is no integer belongs to the environment. -/

namespace Luagent
open Foundation

/-- A Lua table with string keys. A later assignment stands before an earlier one. -/
abbrev Table := List (Bytes × Bytes)

def Table.get (table : Table) (key : Bytes) : Option Bytes := table.lookup key

/-- The text between line ends, empty pieces included. -/
def luaLines : Bytes → List Bytes
  | [] => [[]]
  | byte :: rest =>
    if byte = carriageReturn || byte = newline then [] :: luaLines rest
    else match luaLines rest with
      | [] => [[byte]]
      | line :: lines => (byte :: line) :: lines

/-- The match of `^([^=]+)=(.*)$`. -/
def luaRecord (line : Bytes) : Option (Bytes × Bytes) :=
  let key := line.takeWhile (· ≠ equalsSign)
  match line.drop key.length with
  | [] => none
  | _ :: value => if key.isEmpty then none else some (key, value)

def parseKv (payload : Bytes) : Table :=
  ((luaLines payload).filter fun line => !line.isEmpty).foldl
    (fun out line => match luaRecord line with
      | some binding => binding :: out
      | none => out) []

/-- The order of strings in the C locale. -/
def bytesLe : Bytes → Bytes → Bool
  | [], _ => true
  | _ :: _, [] => false
  | left :: lefts, right :: rights => left < right || (left == right && bytesLe lefts rights)

/-- `table.concat` with a newline between two lines. -/
def concatLines : List Bytes → Bytes
  | [] => []
  | [line] => line
  | line :: lines => line ++ [newline] ++ concatLines lines

def encodeResult (table : Table) : Bytes :=
  let lines := table.map fun (key, value) => key ++ [equalsSign] ++ value
  concatLines (lines.insertionSort fun left right => bytesLe left right)

def isHexDigit (byte : UInt8) : Bool := isDigit byte || (65 ≤ byte && byte ≤ 70) || (97 ≤ byte && byte ≤ 102)

def hexValue (digits : Bytes) : Nat :=
  digits.foldl (fun value digit => value * 16 + if isDigit digit then digit.toNat - 48 else digit.toNat % 32 + 9) 0

/-- The digits at the front, if there are any and nothing but white space follows. -/
def leadingDigits (accepted : UInt8 → Bool) (text : Bytes) : Option Bytes :=
  let digits := text.takeWhile accepted
  if digits.isEmpty || !(text.drop digits.length).all isSpace then none else some digits

/-- `l_str2int`: a decimal numeral that a `lua_Integer` can hold, or a hexadecimal
one, which wraps around. -/
def luaStr2int (text : Bytes) : Option Int :=
  let body := text.dropWhile isSpace
  let negative := body.head? == some 45
  let unsigned := if negative || body.head? == some 43 then body.drop 1 else body
  let signed (value : Nat) : Int := if negative then -value else value
  if unsigned.take 2 == ascii "0x" || unsigned.take 2 == ascii "0X" then
    (leadingDigits isHexDigit (unsigned.drop 2)).map fun digits => (signed (hexValue digits)).bmod (2 ^ 64)
  else
    (leadingDigits isDigit unsigned).bind fun digits =>
      let value := digitsValue digits
      if value < 2 ^ 63 || negative && value == 2 ^ 63 then some (signed value) else none

/-- `l_str2d`. It refuses a text with an `n` in it, and `strtod` needs a digit. -/
def luaStr2d (env : Env) (text : Bytes) : Option Number :=
  if text.any (fun byte => byte == 110 || byte == 78) || !text.any isDigit then none else env.strtod text

/-- `tonumber` of a string, which has to be a number as a whole. -/
def tonumber (env : Env) (text : Bytes) : Option Number :=
  if text.contains 0 then none
  else match luaStr2int text with
    | some value => some (.ofInt value)
    | none => luaStr2d env text

example : luaStr2int (ascii " -0x10 ") = some (-16) := by decide
example : luaStr2int (ascii "9223372036854775808") = none := by decide

/-- An operation's outcome: the table it returns or the error it raises. -/
abbrev OpResult := World × Except Bytes Table

/-- A raised error carries the position of the operation's line. -/
def raised (world : World) (file : String) (line : Nat) (message : Bytes) : OpResult :=
  (world, .error (ascii "lua/ops/" ++ ascii file ++ ascii ":" ++ decimal line ++ ascii ": " ++ message))

/-- The error of `luaL_checkinteger` for a number that is no integer. -/
def badArgument (index : Nat) (function : String) : Bytes :=
  ascii "bad argument #" ++ decimal index ++ ascii " to '" ++ ascii function ++
    ascii "' (number has no integer representation)"

def opList (env : Env) (world : World) (req : Table) : OpResult :=
  let path := (req.get (ascii "path")).getD (ascii ".")
  if env.fsScandir < 0 then
    raised world "list.lua" 3 (ascii "fs_list failed for '" ++ path ++ ascii "': " ++ env.strerror env.fsScandir)
  else (world, .ok [(ascii "status", ascii "ok"), (ascii "path", path), (ascii "count", signedDecimal env.fsScandir)])

def toUInt16 (value : Int) : UInt16 := (value % 2 ^ 16).toNat.toUInt16

def opPortOpen (env : Env) (world : World) (req : Table) : OpResult :=
  let listenHost := (req.get (ascii "listen_host")).getD (ascii "0.0.0.0")
  let listenPort := (tonumber env ((req.get (ascii "listen_port")).getD (ascii "0"))).getD (.ofInt 0)
  let targetHost := (req.get (ascii "target_host")).getD (ascii "127.0.0.1")
  match tonumber env ((req.get (ascii "target_port")).getD []) with
  | none => raised world "port_open.lua" 7 (ascii "target_port is required")
  | some targetPort => match listenPort.integer, targetPort.integer with
    | none, _ => raised world "port_open.lua" 10 (badArgument 2 "port_open")
    | some _, none => raised world "port_open.lua" 10 (badArgument 4 "port_open")
    | some listen, some target =>
      match portfwdOpen env world listenHost (toUInt16 listen) targetHost (toUInt16 target) with
      | (world, .error rc) => raised world "port_open.lua" 10 (ascii "port_open failed: " ++ env.strerror rc)
      | (world, .ok (relayId, port)) =>
        (world, .ok [(ascii "status", ascii "ok"), (ascii "relay_id", decimal relayId.toNat),
          (ascii "listen_port", decimal port.toNat), (ascii "target_host", targetHost),
          (ascii "target_port", targetPort.text)])

def opPortClose (env : Env) (world : World) (req : Table) : OpResult :=
  match tonumber env ((req.get (ascii "relay_id")).getD []) with
  | none => raised world "port_close.lua" 4 (ascii "relay_id is required")
  | some relayId => match relayId.integer with
    | none => raised world "port_close.lua" 7 (badArgument 1 "port_close")
    | some value =>
      match portfwdClose world (value % 2 ^ 32).toNat.toUInt32 with
      | (world, rc) =>
        if rc ≠ 0 then raised world "port_close.lua" 7 (ascii "port_close failed: " ++ env.strerror rc)
        else (world, .ok [(ascii "status", ascii "ok"), (ascii "relay_id", relayId.text)])

def opPortList (world : World) : OpResult :=
  (world, .ok [(ascii "status", ascii "ok"), (ascii "count", decimal (portfwdListed world.engine world.sessionId))])

/-- `collect_argv`. The table has fewer keys than turns given to the loop. -/
def collectArgvFrom (req : Table) : Nat → Nat → List Bytes
  | 0, _ => []
  | fuel + 1, index => match req.get (ascii "argv" ++ decimal index) with
    | none => []
    | some value => value :: collectArgvFrom req fuel (index + 1)

def collectArgv (req : Table) (path : Bytes) : List Bytes :=
  match collectArgvFrom req (req.length + 1) 0 with
  | [] => [path]
  | argv => argv

def toUInt64 (value : Int) : Nat := (value % 2 ^ 64).toNat

/-- `l_proc_spawn`. The argument table is never empty. -/
def procSpawnBinding (env : Env) (world : World) (path : Bytes) (argv : List Bytes) (timeoutMs idleTimeoutMs : Nat) :
    World × Except Bytes UInt32 :=
  if !env.alloc .argv then (world, .error (ascii "out of memory"))
  else match procSpawnDirect env world path argv timeoutMs idleTimeoutMs with
    | (world, none) => (world, .error (ascii "proc_spawn failed"))
    | (world, some procId) => (world, .ok procId)

def opToolRun (env : Env) (world : World) (req : Table) : OpResult :=
  match req.get (ascii "path") with
  | none => raised world "tool_run.lua" 22 (ascii "path is required")
  | some path =>
    let timeout := (tonumber env ((req.get (ascii "timeout_ms")).getD (ascii "60000"))).getD (.ofInt 60000)
    let idle := (tonumber env ((req.get (ascii "idle_timeout_ms")).getD (ascii "10000"))).getD (.ofInt 10000)
    match timeout.integer, idle.integer with
    | none, _ => raised world "tool_run.lua" 27 (badArgument 3 "proc_spawn")
    | some _, none => raised world "tool_run.lua" 27 (badArgument 4 "proc_spawn")
    | some timeoutMs, some idleMs =>
      match procSpawnBinding env world path (collectArgv req path) (toUInt64 timeoutMs) (toUInt64 idleMs) with
      | (world, .error message) => raised world "tool_run.lua" 27 message
      | (world, .ok procId) =>
        (world, .ok [(ascii "status", ascii "ok"), (ascii "proc_id", decimal procId.toNat), (ascii "path", path)])

/-- `table_set_u64`: the value goes through `lua_Integer`. -/
def tableU64 (key : String) (value : Nat) : Bytes × Bytes :=
  let wrapped : Int := value % 2 ^ 64
  (ascii key, signedDecimal (if wrapped < 2 ^ 63 then wrapped else wrapped - 2 ^ 64))

def diagPushSessions (session : Session) : Table :=
  [tableU64 "count" 1, tableU64 "session.1.id" session.sessionId,
    tableU64 "session.1.last_rx_ms" session.lastRxMs, tableU64 "session.1.last_tx_ms" session.link.lastTxMs,
    tableU64 "session.1.pending_writes" session.link.pendingWriteBytes,
    tableU64 "session.1.frames_rx" (session.link.tally.session .framesRx),
    tableU64 "session.1.frames_tx" (session.link.tally.session .framesTx),
    tableU64 "session.1.closed" (if session.link.life.closed then 1 else 0)]

def transferRows (slot : String) (kind : String) (transfer : TransferState) : Table :=
  [tableU64 (slot ++ ".req_id") transfer.reqId.toNat, (ascii (slot ++ ".kind"), ascii kind),
    (ascii (slot ++ ".path"), transfer.path.getD []), tableU64 (slot ++ ".offset") transfer.offset,
    tableU64 (slot ++ ".total") transfer.totalSize, tableU64 (slot ++ ".last_progress_ms") transfer.lastProgressMs]

def diagPushTransfers (session : Session) : Table :=
  let uploads := if session.upload.active then 1 else 0
  let downloads := if session.download.active then 1 else 0
  (if session.upload.active then transferRows "xfer.1" "upload" session.upload else []) ++
    (if session.download.active then
      transferRows (if uploads = 0 then "xfer.1" else "xfer.2") "download" session.download else []) ++
    [tableU64 "count" (uploads + downloads)]

def diagPushProcs (session : Session) : Table :=
  let proc := session.proc
  if !proc.active then [tableU64 "count" 0]
  else
    [tableU64 "count" 1, tableU64 "proc.1.id" proc.procId.toNat, (ascii "proc.1.path", proc.file.getD []),
      tableU64 "proc.1.started_ms" proc.startedMs, tableU64 "proc.1.last_io_ms" proc.lastIoMs,
      tableU64 "proc.1.timeout_ms" proc.timeoutMs, tableU64 "proc.1.idle_timeout_ms" proc.idleTimeoutMs]

/-- The counters in the order `diag_push_stats` names them. -/
def statNames : List (String × Counter) :=
  [("frames_rx", .framesRx), ("frames_tx", .framesTx), ("bytes_rx", .bytesRx), ("bytes_tx", .bytesTx),
    ("protocol_errors", .protocolErrors), ("lua_op_failures", .luaOpFailures),
    ("transfer_starts", .transferStarts), ("transfer_completes", .transferCompletes),
    ("transfer_aborts", .transferAborts), ("process_spawns", .processSpawns), ("process_exits", .processExits),
    ("process_timeouts", .processTimeouts), ("session_disconnects", .sessionDisconnects),
    ("heartbeat_events", .heartbeatEvents), ("relay_opens", .relayOpens), ("relay_closes", .relayCloses)]

def diagPushStats (session : Session) : Table :=
  let tally := session.link.tally
  (statNames.map fun (name, counter) => tableU64 ("global." ++ name) (tally.global counter)) ++
    [tableU64 "global.parse_failures" tally.parseFailures, tableU64 "session.id" session.sessionId] ++
    (statNames.map fun (name, counter) => tableU64 ("session." ++ name) (tally.session counter))

/-- The debug operations answer their table with a status added to it. -/
def opDebug (world : World) (table : Table) : OpResult := (world, .ok ((ascii "status", ascii "ok") :: table))

def Op.name : Op → String
  | .list => "list"
  | .debugSessions => "debug.sessions"
  | .debugTransfers => "debug.transfers"
  | .debugProcs => "debug.procs"
  | .debugStats => "debug.stats"
  | .portOpen => "port_open"
  | .portClose => "port_close"
  | .portList => "port_list"
  | .toolRun => "tool.run"

def Op.all : List Op :=
  [.list, .debugSessions, .debugTransfers, .debugProcs, .debugStats, .portOpen, .portClose, .portList, .toolRun]

/-- `ops[name]`. -/
def Op.find (name : Bytes) : Option Op := Op.all.find? fun op => ascii op.name == name

def Op.run (env : Env) (world : World) (req : Table) : Op → OpResult
  | .list => opList env world req
  | .debugSessions => opDebug world (diagPushSessions world.toSession)
  | .debugTransfers => opDebug world (diagPushTransfers world.toSession)
  | .debugProcs => opDebug world (diagPushProcs world.toSession)
  | .debugStats => opDebug world (diagPushStats world.toSession)
  | .portOpen => opPortOpen env world req
  | .portClose => opPortClose env world req
  | .portList => opPortList world
  | .toolRun => opToolRun env world req

/-- `agent.error`, which raises when the frame cannot be sent. -/
def agentError (env : Env) (world : World) (reqId : UInt32) (code : String) (message : Bytes) : World × Bool :=
  let sent := sessionSendError env world.link reqId code message
  ({ world with link := sent.1 }, sent.2)

def World.recordOp (world : World) (op : Op) : World := { world with ran := world.ran ++ [op] }

/-- `dispatch_request`, and whether it returned without raising. -/
def dispatchRequest (env : Env) (world : World) (reqId : UInt32) (payload : Bytes) : World × Bool :=
  let req := parseKv payload
  match (req.get (ascii "name")).bind Op.find with
  | none => agentError env world reqId "unknown_op" (ascii "no handler registered")
  | some op => match op.run env world req with
    | (world, .error message) => agentError env (world.recordOp op) reqId "internal" message
    | (world, .ok table) => (world.recordOp op).sendText env .opResult reqId (encodeResult table)

def luaEngineDispatch (env : Env) (world : World) (reqId : UInt32) (payload : Bytes) : World × Bool :=
  let dispatched := dispatchRequest env world reqId payload
  if dispatched.2 then (dispatched.1, true)
  else ({ dispatched.1 with link := diagCountLuaError dispatched.1.link }, false)

end Luagent
