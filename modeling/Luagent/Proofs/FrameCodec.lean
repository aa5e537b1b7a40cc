import Luagent.Frame
import Luagent.Foundation.Stream
import Mathlib.Tactic.NormNum

/-! The header codec, and the frame format it induces on byte streams. -/

namespace Luagent.Proofs
open Foundation Stream

private theorem or_shifted (low high width : Nat) (small : low < 2 ^ width) :
    low ||| high * 2 ^ width = low + high * 2 ^ width := by
  rw [Nat.or_comm, ← Nat.shiftLeft_eq, ← Nat.shiftLeft_add_eq_or_of_lt small, Nat.add_comm]

private theorem toNat_shifted (byte : UInt8) (width : UInt32) (small : width.toNat ≤ 24) :
    (byte.toUInt32 <<< width).toNat = byte.toNat * 2 ^ width.toNat := by
  have byteBound := byte.toNat_lt
  have powerBound : 2 ^ width.toNat ≤ 2 ^ 24 := Nat.pow_le_pow_right (by omega) small
  rw [UInt32.toNat_shiftLeft, UInt8.toNat_toUInt32, Nat.mod_eq_of_lt (by omega : width.toNat < 32),
    Nat.shiftLeft_eq]
  apply Nat.mod_eq_of_lt
  calc byte.toNat * 2 ^ width.toNat ≤ 255 * 2 ^ 24 := Nat.mul_le_mul (by omega) powerBound
    _ < 2 ^ 32 := by decide

/-- The four bytes are the digits of the word in base 256, lowest first. -/
theorem toNat_readU32le (a b c d : UInt8) (more : Bytes) :
    (readU32le (a :: b :: c :: d :: more)).toNat =
      a.toNat + b.toNat * 2 ^ 8 + c.toNat * 2 ^ 16 + d.toNat * 2 ^ 24 := by
  have aBound := a.toNat_lt
  have bBound := b.toNat_lt
  have cBound := c.toNat_lt
  simp only [readU32le, List.getD_cons_zero, List.getD_cons_succ, UInt32.toNat_or, UInt8.toNat_toUInt32]
  rw [toNat_shifted _ _ (by decide), toNat_shifted _ _ (by decide), toNat_shifted _ _ (by decide)]
  change ((a.toNat ||| b.toNat * 2 ^ 8) ||| c.toNat * 2 ^ 16) ||| d.toNat * 2 ^ 24 = _
  rw [or_shifted _ _ 8 (by omega), or_shifted _ _ 16 (by omega), or_shifted _ _ 24 (by omega)]

theorem toNat_lowByte (value : UInt32) : (value &&& 0xff).toUInt8.toNat = value.toNat % 256 := by
  rw [UInt32.toNat_toUInt8, UInt32.toNat_and, show (0xff : UInt32).toNat = 2 ^ 8 - 1 from rfl,
    Nat.and_two_pow_sub_one_eq_mod]
  omega

private theorem readU32le_writeU32le (value : UInt32) (more : Bytes) :
    readU32le (writeU32le value ++ more) = value := by
  apply UInt32.toNat_inj.mp
  have bound := value.toNat_lt
  simp only [writeU32le, List.cons_append, List.nil_append, toNat_readU32le, toNat_lowByte,
    UInt32.toNat_shiftRight, Nat.shiftRight_eq_div_pow]
  change value.toNat % 256 + value.toNat / 2 ^ 8 % 256 * 2 ^ 8 + value.toNat / 2 ^ 16 % 256 * 2 ^ 16 +
    value.toNat / 2 ^ 24 % 256 * 2 ^ 24 = _
  omega

@[simp] theorem length_headerBytes (header : FrameHeader) : (headerBytes header).length = frameHeaderSize := rfl

theorem headerAt_headerBytes (header : FrameHeader) (more : Bytes) :
    headerAt (headerBytes header ++ more) = header := by
  have reqId : (headerBytes header ++ more).drop 6 =
      writeU32le header.reqId ++ (writeU32le header.length ++ more) := rfl
  have length : (headerBytes header ++ more).drop 10 = writeU32le header.length ++ more := rfl
  simp only [headerAt, reqId, length, readU32le_writeU32le]
  rfl

theorem frameDecodeHeader_headerBytes (header : ValidHeader) (more : Bytes) :
    frameDecodeHeader (headerBytes header ++ more) = .ok header := by
  have long : ¬ (headerBytes header.val ++ more).length < frameHeaderSize := by simp
  have marked : (headerBytes header.val ++ more).take 4 = magic := rfl
  simp only [frameDecodeHeader, long, marked, headerAt_headerBytes, header.property, ne_eq,
    not_true_eq_false, ↓reduceIte, ↓reduceDIte]

theorem frameDecodeHeader_needMore {src : Bytes} (short : src.length < frameHeaderSize) :
    frameDecodeHeader src = .needMore := by
  simp [frameDecodeHeader, short]

/-- Only the first fourteen bytes matter. -/
theorem frameDecodeHeader_append {src : Bytes} (long : frameHeaderSize ≤ src.length) (more : Bytes) :
    frameDecodeHeader (src ++ more) = frameDecodeHeader src := by
  have fixed (index : Nat) (inside : index < frameHeaderSize) : (src ++ more).getD index 0 = src.getD index 0 := by
    simp [List.getElem?_append_left (show index < src.length by omega)]
  have word (start : Nat) (inside : start + 3 < frameHeaderSize) :
      readU32le ((src ++ more).drop start) = readU32le (src.drop start) := by
    have byte (index : Nat) (near : index ≤ 3) :
        ((src ++ more).drop start).getD index 0 = (src.drop start).getD index 0 := by
      have := fixed (start + index) (by omega)
      simpa using this
    simp only [readU32le, byte 0 (by omega), byte 1 (by omega), byte 2 (by omega), byte 3 (by omega)]
  have same : headerAt (src ++ more) = headerAt src := by
    unfold headerAt
    rw [fixed 4 (by decide), fixed 5 (by decide), word 6 (by decide), word 10 (by decide)]
  have front : (src ++ more).take 4 = src.take 4 :=
    List.take_append_of_le_length (by unfold frameHeaderSize at long; omega)
  have longer : ¬ (src ++ more).length < frameHeaderSize := by simp; omega
  have notShort : ¬ src.length < frameHeaderSize := by omega
  simp only [frameDecodeHeader, longer, notShort, front, same]

/-- What the front of a stream holds: no whole frame yet, a header that is
refused, or a frame. -/
def frameFront (src : Bytes) : Front Frame :=
  match frameDecodeHeader src with
  | .needMore => .incomplete
  | .error => .rejected
  | .ok header =>
    if enough : frameHeaderSize + header.val.length.toNat ≤ src.length then
      .item ⟨header, (src.drop frameHeaderSize).take header.val.length.toNat, by simp; omega⟩
        (frameHeaderSize + header.val.length.toNat)
    else .incomplete

/-- A frame at the front of a stream is its encoding. -/
theorem frameFront_item {src : Bytes} {frame : Frame} {size : Nat} (seen : frameFront src = .item frame size) :
    frameDecodeHeader src = .ok frame.header ∧ size = frameHeaderSize + frame.payload.length ∧
      size ≤ src.length ∧ frame.payload = (src.drop frameHeaderSize).take frame.header.val.length.toNat := by
  unfold frameFront at seen
  split at seen
  next => cases seen
  next => cases seen
  next header decoded =>
    split at seen
    next enough =>
      cases seen
      refine ⟨decoded, ?_, enough, rfl⟩
      simp only [List.length_take, List.length_drop]
      omega
    next => cases seen

private theorem frameFront_rejected {src : Bytes} (seen : frameFront src = .rejected) :
    frameDecodeHeader src = .error := by
  unfold frameFront at seen
  split at seen
  next => cases seen
  next decoded => exact decoded
  next => split at seen <;> cases seen

theorem decoded_long {src : Bytes} (decided : frameDecodeHeader src ≠ .needMore) :
    frameHeaderSize ≤ src.length := by
  apply Nat.le_of_not_lt
  exact fun short => decided (frameDecodeHeader_needMore short)

private theorem frameFront_item_append {src : Bytes} {frame : Frame} {size : Nat} (more : Bytes)
    (seen : frameFront src = .item frame size) : frameFront (src ++ more) = .item frame size := by
  obtain ⟨decoded, sized, inside, payload⟩ := frameFront_item seen
  have long : frameHeaderSize ≤ src.length := decoded_long (by simp [decoded])
  have announced := frame.announced
  have enough : frameHeaderSize + frame.header.val.length.toNat ≤ src.length := by omega
  have same : ((src ++ more).drop frameHeaderSize).take frame.header.val.length.toNat = frame.payload := by
    rw [payload, List.drop_append_of_le_length long, List.take_append_of_le_length]
    simp only [List.length_drop]
    omega
  have still : frameHeaderSize + frame.header.val.length.toNat ≤ (src ++ more).length := by simp; omega
  unfold frameFront
  rw [frameDecodeHeader_append long, decoded]
  simp only [still, ↓reduceDIte, same, sized, announced]

private theorem frameFront_rejected_append {src : Bytes} (more : Bytes) (seen : frameFront src = .rejected) :
    frameFront (src ++ more) = .rejected := by
  have decoded := frameFront_rejected seen
  unfold frameFront
  rw [frameDecodeHeader_append (decoded_long (by simp [decoded])), decoded]

private theorem frameFront_encode (frame : Frame) (more : Bytes) :
    frameFront (frame.encode ++ more) = .item frame frame.encode.length := by
  have announced := frame.announced
  have layout : frame.encode ++ more = headerBytes frame.header.val ++ (frame.payload ++ more) := by
    simp [Frame.encode]
  have enough : frameHeaderSize + frame.header.val.length.toNat ≤
      (headerBytes frame.header.val ++ (frame.payload ++ more)).length := by simp; omega
  have behind : (headerBytes frame.header.val ++ (frame.payload ++ more)).drop frameHeaderSize = frame.payload ++ more := by
    rw [← length_headerBytes frame.header.val, List.drop_left]
  have payload : (frame.payload ++ more).take frame.header.val.length.toNat = frame.payload := by
    rw [← announced, List.take_left]
  unfold frameFront
  rw [layout, frameDecodeHeader_headerBytes]
  simp only [enough, ↓reduceDIte, behind, payload]
  simp [Frame.encode, announced]

private theorem frameFront_partial (frame : Frame) (count : Nat) (short : count < frame.encode.length) :
    frameFront (frame.encode.take count) = .incomplete := by
  have announced := frame.announced
  have size : frame.encode.length = frameHeaderSize + frame.payload.length := by simp [Frame.encode]
  unfold frameFront
  by_cases header : count < frameHeaderSize
  · rw [frameDecodeHeader_needMore (by simp; omega)]
  · have layout : frame.encode.take count =
        headerBytes frame.header.val ++ frame.payload.take (count - frameHeaderSize) := by
      rw [Frame.encode, List.take_append, List.take_of_length_le (by simp; omega), length_headerBytes]
    have missing : ¬ frameHeaderSize + frame.header.val.length.toNat ≤
        (headerBytes frame.header.val ++ frame.payload.take (count - frameHeaderSize)).length := by
      simp
      omega
    rw [layout, frameDecodeHeader_headerBytes]
    simp only [missing, ↓reduceDIte]

/-- The reference reading of a byte stream: take a header and its payload, again
and again, up to an incomplete frame or the first rejected header. -/
def frameCodec : Codec UInt8 Frame where
  front := frameFront
  positive seen := by
    have := (frameFront_item seen).2.1
    unfold frameHeaderSize at this
    omega
  inside seen := (frameFront_item seen).2.2.1
  item_stable more seen := frameFront_item_append more seen
  rejected_stable more seen := frameFront_rejected_append more seen
  empty := rfl
  encode := Frame.encode
  recognised := frameFront_encode
  partial_incomplete := frameFront_partial

end Luagent.Proofs
