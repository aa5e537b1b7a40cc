import Luagent.Frame

/-! The receiving half of `read_cb`: the session's receive buffer, the frame loop
and the calls the callback makes on the session. Handlers never touch the
receive buffer and the loop never looks at the session, so the callback is
described by the new buffer and the calls it makes, in order. -/

namespace Luagent
open Foundation

def readChunk : Nat := 4096

/-- `rx_buf`, `rx_used` and `rx_cap`. -/
structure Receive where
  buf : Bytes
  used : Nat
  cap : Nat
  allocated : buf.length = cap
  within : used ≤ cap

/-- The received bytes not yet handed on. -/
def Receive.content (rx : Receive) : Bytes := rx.buf.take rx.used

@[simp] theorem Receive.length_content (rx : Receive) : rx.content.length = rx.used := by
  have allocated := rx.allocated
  have within := rx.within
  simp only [content, List.length_take]
  omega

/-- The buffer `on_new_connection` allocates. `malloc` leaves its bytes open. -/
def Receive.fresh (memory : Bytes) (allocated : memory.length = readChunk * 4) : Receive :=
  ⟨memory, 0, readChunk * 4, allocated, Nat.zero_le _⟩

/-- What `read_cb` does to the rest of the session. -/
inductive Action where
  /-- `last_rx_ms` is set -/
  | received
  /-- the frame is counted and handed to `protocol_handle_control` -/
  | dispatch (message : Message)
  /-- a parse failure is counted and the session closed -/
  | badHeader
  /-- the read does not fit the buffer and the session is closed -/
  | overflow
  /-- the read failed or the peer is gone, and the session is closed -/
  | hangup
deriving DecidableEq

def Action.closes : Action → Bool
  | .received | .dispatch _ => false
  | .badHeader | .overflow | .hangup => true

def Action.message? : Action → Option Message
  | .dispatch message => some message
  | _ => none

/-- The `while` loop from `offset` on: the calls it makes, and the offset it
breaks at. There is none when a bad header makes the callback return early. -/
def frameLoop (buf : Bytes) (used offset : Nat) : List Action × Option Nat :=
  if frameHeaderSize ≤ used - offset then
    match frameDecodeHeader ((buf.drop offset).take (used - offset)) with
    | .needMore => ([], some offset)
    | .error => ([.badHeader], none)
    | .ok header =>
      let frameSize := frameHeaderSize + header.val.length.toNat
      if used - offset < frameSize then ([], some offset)
      else
        let payload := (buf.drop (offset + frameHeaderSize)).take header.val.length.toNat
        let bounded := Nat.le_trans (List.length_take_le _ _) header.length_le
        let (actions, stop) := frameLoop buf used (offset + frameSize)
        (.dispatch ⟨header.val.type, header.val.reqId, payload, bounded⟩ :: actions, stop)
  else ([], some offset)
termination_by used - offset
decreasing_by
  unfold frameHeaderSize at *
  omega

/-- A completed read: an error or end of stream, or some bytes. -/
inductive Read where
  | failed
  | data (bytes : Bytes)

def readCb (rx : Receive) : Read → Receive × List Action
  | .failed => (rx, [.hangup])
  | .data bytes =>
    if bytes.length = 0 then (rx, [])
    else if full : rx.cap < rx.used + bytes.length then (rx, [.received, .overflow])
    else
      let buf := overwrite rx.buf rx.used bytes
      let used := rx.used + bytes.length
      have fits : rx.used + bytes.length ≤ rx.buf.length := by have := rx.allocated; omega
      have allocated : buf.length = rx.cap := (length_overwrite fits).trans rx.allocated
      match frameLoop buf used 0 with
      | (actions, none) => (⟨buf, used, rx.cap, allocated, by omega⟩, .received :: actions)
      | (actions, some 0) => (⟨buf, used, rx.cap, allocated, by omega⟩, .received :: actions)
      | (actions, some offset) =>
        let moved := (buf.drop offset).take (used - offset)
        have shorter : 0 + moved.length ≤ buf.length := by
          simp only [moved, List.length_take, List.length_drop]
          omega
        (⟨overwrite buf 0 moved, used - offset, rx.cap, (length_overwrite shorter).trans allocated, by omega⟩,
          .received :: actions)

/-- Deliver reads until one of them closes the session: libuv delivers nothing
on a handle that is being closed. -/
def deliver (rx : Receive) : List Read → Receive × List Action
  | [] => (rx, [])
  | read :: reads =>
    let (rx, actions) := readCb rx read
    if actions.any Action.closes then (rx, actions)
    else
      let (rx, later) := deliver rx reads
      (rx, actions ++ later)

/-- The frames handed to `protocol_handle_control`, in order. -/
def dispatched (actions : List Action) : List Message := actions.filterMap Action.message?

end Luagent
