import Luagent.Foundation.Bytes

/-! The wire format: a fourteen-byte header followed by the payload. -/

namespace Luagent
open Foundation

inductive FrameType where
  | hello | ack | error
  | op | opResult
  | putBegin | putChunk | putEnd
  | getBegin | getChunk | getEnd
  | procSpawn | stdin | stdout | stderr | exit | kill
  | ping | pong
deriving DecidableEq, Repr

def FrameType.code : FrameType → UInt8
  | .hello => 1 | .ack => 2 | .error => 3
  | .op => 10 | .opResult => 11
  | .putBegin => 20 | .putChunk => 21 | .putEnd => 22
  | .getBegin => 30 | .getChunk => 31 | .getEnd => 32
  | .procSpawn => 40 | .stdin => 41 | .stdout => 42 | .stderr => 43 | .exit => 44 | .kill => 45
  | .ping => 50 | .pong => 51

def FrameType.all : List FrameType :=
  [.hello, .ack, .error, .op, .opResult, .putBegin, .putChunk, .putEnd, .getBegin, .getChunk, .getEnd,
    .procSpawn, .stdin, .stdout, .stderr, .exit, .kill, .ping, .pong]

/-- The message type a wire byte stands for, if it stands for one. -/
def FrameType.ofCode (code : UInt8) : Option FrameType := FrameType.all.find? fun type => type.code == code

theorem FrameType.ofCode_code (type : FrameType) : FrameType.ofCode type.code = some type := by
  cases type <;> decide

def maxFramePayload : Nat := 65536

def magic : Bytes := ascii "RXSH"

structure FrameHeader where
  type : UInt8
  flags : UInt8
  reqId : UInt32
  length : UInt32
deriving DecidableEq, Repr

def readU32le (src : Bytes) : UInt32 :=
  (src.getD 0 0).toUInt32 ||| ((src.getD 1 0).toUInt32 <<< 8) |||
    ((src.getD 2 0).toUInt32 <<< 16) ||| ((src.getD 3 0).toUInt32 <<< 24)

def writeU32le (value : UInt32) : Bytes :=
  [(value &&& 0xff).toUInt8, ((value >>> 8) &&& 0xff).toUInt8,
    ((value >>> 16) &&& 0xff).toUInt8, ((value >>> 24) &&& 0xff).toUInt8]

def frameHeaderSize : Nat := 14

def frameValidateHeader (header : FrameHeader) : Bool :=
  if maxFramePayload < header.length.toNat then false
  else if header.type == 0 then false
  else true

/-- A header the validation accepts. -/
abbrev ValidHeader := { header : FrameHeader // frameValidateHeader header = true }

/-- The bytes `frame_encode_header` puts into its destination. -/
def headerBytes (header : FrameHeader) : Bytes :=
  magic ++ [header.type, header.flags] ++ writeU32le header.reqId ++ writeU32le header.length

def frameEncodeHeader (dstSize : Nat) (header : FrameHeader) : Option Bytes :=
  if dstSize < frameHeaderSize then none
  else if frameValidateHeader header then some (headerBytes header)
  else none

inductive FrameStatus where
  | needMore
  | error
  | ok (header : ValidHeader)
deriving DecidableEq

/-- The header fields at the front of `src`, before they are validated. -/
def headerAt (src : Bytes) : FrameHeader :=
  ⟨src.getD 4 0, src.getD 5 0, readU32le (src.drop 6), readU32le (src.drop 10)⟩

def frameDecodeHeader (src : Bytes) : FrameStatus :=
  if src.length < frameHeaderSize then .needMore
  else if src.take 4 ≠ magic then .error
  else if valid : frameValidateHeader (headerAt src) = true then .ok ⟨headerAt src, valid⟩
  else .error

/-- A frame as a sender builds it: an acceptable header and a payload of the
announced length. -/
structure Frame where
  header : ValidHeader
  payload : Bytes
  announced : payload.length = header.val.length.toNat

def Frame.encode (frame : Frame) : Bytes := headerBytes frame.header ++ frame.payload

/-- What the receiver hands to `protocol_handle_control`. -/
structure Message where
  type : UInt8
  reqId : UInt32
  payload : Bytes
  bounded : payload.length ≤ maxFramePayload
deriving DecidableEq

theorem ValidHeader.length_le (header : ValidHeader) : header.val.length.toNat ≤ maxFramePayload := by
  have valid := header.property
  unfold frameValidateHeader at valid
  split at valid
  · cases valid
  · omega

def Frame.message (frame : Frame) : Message :=
  ⟨frame.header.val.type, frame.header.val.reqId, frame.payload, frame.announced ▸ frame.header.length_le⟩

end Luagent
