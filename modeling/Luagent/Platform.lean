import Luagent.Foundation.FileSystem
import Luagent.Text

/-! The platform below the agent: what libuv, the C library and the Lua library
answer while one callback runs. A default environment lets every call succeed. -/

namespace Luagent
open Foundation

/-- The places that ask for memory. Those of a send carry its number. -/
inductive Alloc where
  | payloadCopy | writeReq (send : Nat) | writeBuf (send : Nat)
  | transferPath | transferTmpPath | chunk
  | procFile | procArgs | procArg (index : Nat) | stdoutCtx | stderrCtx | argv
  | relay | listenHost | targetHost
  | session | rxBuf
deriving DecidableEq

/-- A Lua number: its value as an integer, if it has one, and its text. -/
structure Number where
  integer : Option Int
  text : Bytes
deriving DecidableEq

def Number.ofInt (value : Int) : Number := ⟨some value, signedDecimal value⟩

/-- What the calls made by one callback return. A negative code is an error, as
in libuv. Calls a callback makes more than once are told apart by an argument. -/
structure Env where
  now : Nat := 0
  /-- the clock as the send with this number reads it -/
  sentAt : Nat → Nat := fun _ => 0
  alloc : Alloc → Bool := fun _ => true
  strerror : Int → Bytes := fun _ => ascii "error"
  uvWrite : Nat → Int := fun _ => 0
  fsOpen : Int := 0
  fsFstat : Int := 0
  fsClose : Int := 0
  fsUnlink : Path → Int := fun _ => 0
  fsRename : Int := 0
  /-- the result for a write of this many bytes -/
  fsWrite : Nat → Int := fun length => length
  /-- the result for a read of this many bytes at this offset -/
  fsRead : Nat → Nat → Int := fun _ length => length
  fsScandir : Int := 0
  tcpInit : Int := 0
  accept : Int := 0
  timerInit : Int := 0
  timerStart : Int := 0
  readStart : Int := 0
  stdoutInit : Int := 0
  stderrInit : Int := 0
  spawn : Int := 0
  stdoutStart : Int := 0
  stderrStart : Int := 0
  kill : Int := 0
  ip4Addr : Int := 0
  tcpBind : Int := 0
  listen : Int := 0
  /-- the port of the bound socket, if the call for it succeeds -/
  sockname : Option UInt16 := none
  /-- the float that a text is to the C library -/
  strtod : Bytes → Option Number := fun _ => none

def uvEnoent : Int := -2
def uvEio : Int := -5
def uvEbadf : Int := -9
def uvEnomem : Int := -12
def uvEinval : Int := -22
def uvEaddrinuse : Int := -98

/-- `open` with `O_CREAT | O_TRUNC | O_WRONLY`: the new descriptor or an error. -/
def uvFsCreate (env : Env) (fs : FileSystem) (path : Path) : FileSystem × Except Int Nat :=
  if env.fsOpen < 0 then (fs, .error env.fsOpen) else (fs.create path, .ok fs.nextFd)

/-- `open` with `O_RDONLY`. -/
def uvFsOpen (env : Env) (fs : FileSystem) (path : Path) : FileSystem × Except Int Nat :=
  if env.fsOpen < 0 then (fs, .error env.fsOpen)
  else match fs.openRead path with
    | none => (fs, .error uvEnoent)
    | some opened => (opened, .ok fs.nextFd)

/-- The size of the open file. -/
def uvFsFstat (env : Env) (fs : FileSystem) (fd : Nat) : Except Int Nat :=
  if env.fsFstat < 0 then .error env.fsFstat
  else match fs.fds fd with
    | none => .error uvEbadf
    | some file => .ok (fs.data file).length

/-- The descriptor is gone whatever the call reports. -/
def uvFsClose (env : Env) (fs : FileSystem) (fd : Nat) : FileSystem × Int := (fs.close fd, env.fsClose)

def uvFsUnlink (env : Env) (fs : FileSystem) (path : Path) : FileSystem :=
  if env.fsUnlink path < 0 then fs else fs.unlink path

def uvFsRename (env : Env) (fs : FileSystem) (source target : Path) : FileSystem × Int :=
  if env.fsRename < 0 then (fs, env.fsRename)
  else if (fs.names source).isNone then (fs, uvEnoent)
  else (fs.rename source target, 0)

/-- A short write stores the bytes it reports. -/
def uvFsWrite (env : Env) (fs : FileSystem) (fd offset : Nat) (bytes : Bytes) : FileSystem × Int :=
  if env.fsWrite bytes.length < 0 then (fs, env.fsWrite bytes.length)
  else if (fs.fds fd).isNone then (fs, uvEbadf)
  else
    let stored := bytes.take (env.fsWrite bytes.length).toNat
    (fs.pwrite fd offset stored, stored.length)

/-- The bytes read: no more than asked for, none at the end of the file. -/
def uvFsRead (env : Env) (fs : FileSystem) (fd offset length : Nat) : Except Int Bytes :=
  if env.fsRead offset length < 0 then .error (env.fsRead offset length)
  else .ok (((fs.content fd).drop offset).take (min length (env.fsRead offset length).toNat))

end Luagent
