import Luagent.Link

/-! The client daemon (`tools/client_daemon.py`): how it reads frames off its
socket and how it writes them. -/

namespace Luagent.Client
open Foundation

/-- What is still to come from the socket, in the pieces in which it arrives. An
empty piece is the end of the connection. -/
abbrev Socket := List Bytes

inductive Failure where
  /-- `recv` blocks -/
  | waits
  /-- the connection was closed -/
  | closed
  | badMagic
deriving DecidableEq, Repr

/-- `sock.recv`: what is there, but no more than asked for. -/
def recv (sock : Socket) (count : Nat) : Option (Bytes × Socket) :=
  match sock with
  | [] => none
  | piece :: rest => some (piece.take count, if piece.length ≤ count then rest else piece.drop count :: rest)

/-- The loop of `recv_exact`, with the bytes it already has. -/
def recvLoop (sock : Socket) (count : Nat) (out : Bytes) : Except Failure (Bytes × Socket) :=
  if _more : out.length < count then
    match recv sock (count - out.length) with
    | none => .error .waits
    | some (chunk, rest) =>
      if _empty : chunk.length = 0 then .error .closed else recvLoop rest count (out ++ chunk)
  else .ok (out, sock)
termination_by count - out.length
decreasing_by
  rw [List.length_append]
  omega

def recvExact (sock : Socket) (count : Nat) : Except Failure (Bytes × Socket) := recvLoop sock count []

/-- `encode_frame`; the length of the payload has to fit its field. -/
def encodeFrame (frame : Sent) : Bytes :=
  magic ++ [frame.type, 0] ++ writeU32le frame.reqId ++ writeU32le frame.payload.length.toUInt32 ++ frame.payload

def encodeKv (items : List (Bytes × Bytes)) : Bytes :=
  [newline].intercalate (items.map fun item => item.1 ++ equalsSign :: item.2)

/-- The payload `spawn` puts together. -/
def spawnItems (path : Bytes) (argv : List Bytes) (timeoutMs idleTimeoutMs : Int) : List (Bytes × Bytes) :=
  [(ascii "path", path), (ascii "timeout_ms", signedDecimal timeoutMs),
    (ascii "idle_timeout_ms", signedDecimal idleTimeoutMs)] ++
    argv.zipIdx.map fun (arg, index) => (ascii "argv" ++ decimal index, arg)

def spawnPayload (path : Bytes) (argv : List Bytes) (timeoutMs idleTimeoutMs : Int) : Bytes :=
  encodeKv (spawnItems path argv timeoutMs idleTimeoutMs)

/-- The slices `data[off:off + 4096]` of `put_file`, for `off` in `range(0, len(data), 4096)`. -/
def putSlices (data : Bytes) : List Bytes :=
  (List.range ((data.length + 4095) / 4096)).map fun index => (data.drop (index * 4096)).take 4096

def putBeginItems (remotePath data : Bytes) : List (Bytes × Bytes) :=
  [(ascii "path", remotePath), (ascii "size", decimal data.length), (ascii "overwrite", ascii "1")]

def putChunkFrame (reqId : UInt32) (slice : Bytes) : Sent := ⟨FrameType.putChunk.code, reqId, slice⟩

def putEndFrame (reqId : UInt32) : Sent := ⟨FrameType.putEnd.code, reqId, []⟩

/-- The frames `put_file` sends, the later ones once the first is acknowledged. -/
def putFrames (reqId : UInt32) (remotePath data : Bytes) : List Sent :=
  ⟨FrameType.putBegin.code, reqId, encodeKv (putBeginItems remotePath data)⟩ ::
    ((putSlices data).map (putChunkFrame reqId) ++ [putEndFrame reqId])

def decodeFrame (sock : Socket) : Except Failure (Sent × Socket) := do
  let (header, sock) ← recvExact sock 14
  if header.take 4 ≠ magic then .error .badMagic
  else
    let (payload, sock) ← recvExact sock (readU32le (header.drop 10)).toNat
    .ok (⟨header.getD 4 0, readU32le (header.drop 6), payload⟩, sock)

theorem recv_flatten {sock rest : Socket} {count : Nat} {chunk : Bytes} (received : recv sock count = some (chunk, rest)) :
    sock.flatten = chunk ++ rest.flatten ∧ chunk.length ≤ count := by
  cases sock with
  | nil => cases received
  | cons piece others =>
    obtain ⟨rfl, rfl⟩ := Prod.mk.inj (Option.some.inj received)
    refine ⟨?_, List.length_take_le ..⟩
    split
    next short => rw [List.take_of_length_le short, List.flatten_cons]
    next => simp [← List.append_assoc]

theorem recvLoop_flatten {sock rest : Socket} {count : Nat} {out bytes : Bytes} (small : out.length ≤ count)
    (received : recvLoop sock count out = .ok (bytes, rest)) :
    out ++ sock.flatten = bytes ++ rest.flatten ∧ bytes.length = count := by
  unfold recvLoop at received
  split at received
  next more =>
    split at received
    · cases received
    next chunk after found =>
      obtain ⟨arrived, bounded⟩ := recv_flatten found
      split at received
      · cases received
      next some =>
        have longer : (out ++ chunk).length ≤ count := by rw [List.length_append]; omega
        obtain ⟨same, exact⟩ := recvLoop_flatten longer received
        exact ⟨by rw [arrived, ← List.append_assoc, same], exact⟩
  next full =>
    cases received
    exact ⟨rfl, by omega⟩
termination_by count - out.length
decreasing_by
  rw [List.length_append]
  omega

theorem recvExact_flatten {sock rest : Socket} {count : Nat} {bytes : Bytes}
    (received : recvExact sock count = .ok (bytes, rest)) : sock.flatten = bytes ++ rest.flatten ∧ bytes.length = count :=
  recvLoop_flatten (Nat.zero_le _) received

theorem decodeFrame_shorter {sock rest : Socket} {frame : Sent} (decoded : decodeFrame sock = .ok (frame, rest)) :
    rest.flatten.length < sock.flatten.length := by
  unfold decodeFrame at decoded
  cases first : recvExact sock 14 with
  | error failure => rw [first] at decoded; cases decoded
  | ok found =>
    obtain ⟨header, middle⟩ := found
    obtain ⟨arrived, exact⟩ := recvExact_flatten first
    simp only [first, bind, Except.bind] at decoded
    split at decoded
    · cases decoded
    · split at decoded
      · cases decoded
      next second =>
        obtain ⟨payload, after⟩ := ‹Bytes × Socket›
        cases decoded
        rw [arrived, (recvExact_flatten second).1]
        simp only [List.length_append]
        omega

/-- The frames the reader thread decodes before it fails or blocks. -/
def decodeAll (sock : Socket) : List Sent × Failure :=
  match _found : decodeFrame sock with
  | .error failure => ([], failure)
  | .ok (frame, rest) => (frame :: (decodeAll rest).1, (decodeAll rest).2)
termination_by sock.flatten.length
decreasing_by
  all_goals exact decodeFrame_shorter _found

end Luagent.Client
