import Mathlib.Data.Int.DivMod
import Luagent.Foundation.FileSystem
import Luagent.Text

/-! Logging (`diag.c`): lines go to `stderr` and to a file that is rotated by
size. The counters of `diag.c` are part of the link. -/

namespace Luagent
open Foundation

def diagLogRotateBytes : Nat := 1024 * 1024
def diagLogRotateKeep : Nat := 3

inductive DiagLevel where
  | error | warn | info | debug | trace
deriving DecidableEq, Repr

def DiagLevel.code : DiagLevel → Nat
  | .error => 0 | .warn => 1 | .info => 2 | .debug => 3 | .trace => 4

inductive WireMode where
  | off | summary | hex
deriving DecidableEq, Repr

def levelName : DiagLevel → String
  | .error => "ERROR" | .warn => "WARN" | .info => "INFO" | .debug => "DEBUG" | .trace => "TRACE"

def parseLevel : Option Bytes → DiagLevel
  | none => .info
  | some value =>
    if value = ascii "ERROR" then .error
    else if value = ascii "WARN" then .warn
    else if value = ascii "DEBUG" then .debug
    else if value = ascii "TRACE" then .trace
    else .info

def parseWireMode : Option Bytes → WireMode
  | none => .off
  | some value =>
    if value = ascii "off" then .off
    else if value = ascii "hex" then .hex
    else .summary

/-- What `vsnprintf` leaves in a buffer of this size, whether the text fits or not. -/
def snprintfCut (size : Nat) (text : Bytes) : Bytes := text.take (size - 1)

/-- `g_diag`. The path is empty when there is no log file. -/
structure DiagState where
  initialized : Bool
  level : DiagLevel
  wireMode : WireMode
  /-- the descriptor behind the open log file -/
  file : Option Nat
  path : Path
  buffer : path.length < 512

/-- After `memset`. -/
def DiagState.zero : DiagState := ⟨false, .error, .off, none, [], by decide⟩

/-- `g_diag` and what it writes to. -/
structure Logger where
  diag : DiagState
  fs : FileSystem
  stderr : Bytes

/-- What the calls of the C library say while one line is written. -/
structure LogCalls where
  stat : Bool := true
  /-- whether the file can be renamed to the one with this number -/
  rename : Nat → Bool := fun _ => true
  fopen : Bool := true
  /-- how much of a line of this length reaches the file -/
  fputs : Nat → Nat := fun length => length

/-- The log file and the ones it was rotated into. -/
def logName (path : Path) : Nat → Path
  | 0 => snprintfCut 640 path
  | index + 1 => snprintfCut 640 (path ++ ascii "." ++ decimal (index + 1))

/-- The test of `rotate_logs_if_needed`. -/
def needsRotation (calls : LogCalls) (log : Logger) (incomingLen : Nat) : Bool :=
  if log.diag.path.isEmpty then false
  else if !calls.stat then false
  else match log.fs.read log.diag.path with
    | none => false
    | some content => !decide (content.length + incomingLen < diagLogRotateBytes)

/-- The loop of `rotate_logs_if_needed`, from this number downwards. -/
def rotateFiles (calls : LogCalls) (path : Path) : Nat → FileSystem → FileSystem
  | 0, fs => fs
  | index + 1, fs =>
    rotateFiles calls path index
      (if calls.rename (index + 1) then fs.rename (logName path index) (logName path (index + 1)) else fs)

def closeLogFile (log : Logger) : Logger :=
  match log.diag.file with
  | none => log
  | some fd => { log with fs := log.fs.close fd, diag := { log.diag with file := none } }

def rotateLogsIfNeeded (calls : LogCalls) (log : Logger) (incomingLen : Nat) : Logger :=
  if needsRotation calls log incomingLen then
    let log := closeLogFile log
    { log with fs := rotateFiles calls log.diag.path diagLogRotateKeep log.fs }
  else log

def ensureLogFile (calls : LogCalls) (log : Logger) : Logger :=
  if log.diag.path.isEmpty || log.diag.file.isSome then log
  else if calls.fopen then
    { log with fs := log.fs.openAppend log.diag.path, diag := { log.diag with file := some log.fs.nextFd } }
  else log

/-- `diag_init`, given the environment variables. -/
def diagInit (calls : LogCalls) (fs : FileSystem) (levelEnv wireEnv fileEnv : Option Bytes) : Logger :=
  let path := snprintfCut 512 (fileEnv.getD [])
  let log := ensureLogFile calls
    { diag := { DiagState.zero with
        level := parseLevel levelEnv, wireMode := parseWireMode wireEnv, path := path
        buffer := Nat.lt_of_le_of_lt (List.length_take_le _ _) (by decide) }
      fs := fs, stderr := [] }
  { log with diag := { log.diag with initialized := true } }

/-- `fputs` and `fflush`, if the file could be opened. -/
def appendLogFile (calls : LogCalls) (log : Logger) (line : Bytes) : Logger :=
  match log.diag.file with
  | none => log
  | some fd => { log with fs := log.fs.append fd (line.take (calls.fputs line.length)) }

/-- The line goes to `stderr` and, after a rotation if one is due, to the file. -/
def diagWriteLine (calls : LogCalls) (log : Logger) (line : Bytes) : Logger :=
  let log := { log with stderr := log.stderr ++ line }
  let log := rotateLogsIfNeeded calls log line.length
  appendLogFile calls (ensureLogFile calls log) line

/-- The arguments of `diag_log` with the message they format, and what it asks
the system for. -/
structure LogEntry where
  level : DiagLevel
  subsystem : Option Bytes
  /-- of the session, if there is one -/
  sessionId : Option UInt64
  reqId : UInt32
  message : Bytes
  now : Nat
  pid : Int

/-- `%-5s` -/
def padRight (width : Nat) (text : Bytes) : Bytes := text ++ List.replicate (width - text.length) 32

/-- A session id cut to an `int`. -/
def sessionNumber (sessionId : Option UInt64) : Int := ((sessionId.map UInt64.toNat).getD 0 : Int).bmod (2 ^ 32)

def logLine (entry : LogEntry) : Bytes :=
  snprintfCut 1400 (decimal entry.now ++ ascii " " ++ padRight 5 (ascii (levelName entry.level)) ++
    ascii " pid=" ++ signedDecimal entry.pid ++ ascii " session=" ++ signedDecimal (sessionNumber entry.sessionId) ++
    ascii " req=" ++ decimal entry.reqId.toNat ++ ascii " " ++ padRight 6 (entry.subsystem.getD (ascii "misc")) ++
    ascii " " ++ snprintfCut 1024 entry.message ++ ascii "\n")

def diagLog (calls : LogCalls) (log : Logger) (entry : LogEntry) : Logger :=
  if !log.diag.initialized || decide (log.diag.level.code < entry.level.code) then log
  else diagWriteLine calls log (logLine entry)

end Luagent
