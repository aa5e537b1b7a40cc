import Mathlib.Data.List.GetD
import Luagent.Client
import Luagent.Daemon
import Luagent.Proofs.FrameCodec

/-! The header codec in both directions. The shifts and masks of the agent and the
daemon's `struct.pack` both write the digits of a number in base 256, so the two
programs write one header, and what the agent accepts is what it writes. -/

namespace Luagent.Proofs.HeaderCodec
open Foundation

section words

private theorem writeU32le_eq (value : UInt32) : writeU32le value = littleEndian 4 value.toNat := by
  have digit (shifted : UInt32) : (shifted &&& 0xff).toUInt8 = UInt8.ofNat shifted.toNat := by
    apply UInt8.toNat_inj.mp
    rw [toNat_lowByte, UInt8.toNat_ofNat']
  simp only [writeU32le, littleEndian, digit, UInt32.toNat_shiftRight, Nat.shiftRight_eq_div_pow, Nat.div_div_eq_div_mul]
  rfl

private theorem toNat_readU32le_eq {src : Bytes} (long : 4 ≤ src.length) :
    (readU32le src).toNat = ofLittleEndian (src.take 4) := by
  match src, long with
  | a :: b :: c :: d :: more, _ =>
    rw [toNat_readU32le]
    simp only [List.take_succ_cons, List.take_zero, ofLittleEndian]
    omega

private theorem writeU32le_readU32le {src : Bytes} (long : 4 ≤ src.length) : writeU32le (readU32le src) = src.take 4 := by
  have four : (src.take 4).length = 4 := List.length_take_of_le long
  have digits := littleEndian_ofLittleEndian (src.take 4)
  rw [four] at digits
  rw [writeU32le_eq, toNat_readU32le_eq long, digits]

end words

/-- The headers that may be sent. -/
structure Allowed (header : FrameHeader) : Prop where
  typed : header.type ≠ 0
  short : header.length.toNat ≤ 65536

private theorem allowed_iff {header : FrameHeader} : Allowed header ↔ frameValidateHeader header = true := by
  unfold frameValidateHeader maxFramePayload
  split
  next long => exact ⟨fun allowed => absurd allowed.short (Nat.not_le.mpr long), fun valid => nomatch valid⟩
  next short =>
    split
    next zero => exact ⟨fun allowed => absurd (beq_iff_eq.mp zero) allowed.typed, fun valid => nomatch valid⟩
    next typed => exact ⟨fun _ => rfl, fun _ => ⟨fun zero => typed (beq_iff_eq.mpr zero), Nat.le_of_not_lt short⟩⟩

section codec
variable {dstSize : Nat} {header : FrameHeader} {src : Bytes}

private theorem encode_allowed (room : frameHeaderSize ≤ dstSize) (allowed : Allowed header) :
    frameEncodeHeader dstSize header = some (headerBytes header) := by
  rw [frameEncodeHeader, if_neg (Nat.not_lt.mpr room), if_pos (allowed_iff.mp allowed)]

private theorem encode_refused (other : ¬ Allowed header) : frameEncodeHeader dstSize header = none := by
  rw [frameEncodeHeader]
  split
  · rfl
  · rw [if_neg (fun valid => other (allowed_iff.mpr valid))]

private theorem headerBytes_headerAt (long : frameHeaderSize ≤ src.length) (marked : src.take 4 = magic) :
    headerBytes (headerAt src) = src.take frameHeaderSize := by
  unfold frameHeaderSize at long ⊢
  have flags : (src.drop 4).take 2 = [src.getD 4 0, src.getD 5 0] := by
    rw [List.getD_eq_getElem _ _ (by omega), List.getD_eq_getElem _ _ (by omega), List.drop_eq_getElem_cons (by omega),
      List.drop_eq_getElem_cons (by omega)]
    rfl
  have reqId := @writeU32le_readU32le (src.drop 6) (by rw [List.length_drop]; omega)
  have length := @writeU32le_readU32le (src.drop 10) (by rw [List.length_drop]; omega)
  calc headerBytes (headerAt src)
      = src.take 4 ++ (src.drop 4).take 2 ++ (src.drop 6).take 4 ++ (src.drop 10).take 4 := by
        rw [marked, flags, ← reqId, ← length]
        rfl
    _ = src.take 14 := by rw [← List.take_add, ← List.take_add, ← List.take_add]

private theorem decode_ok_iff {header : ValidHeader} (long : frameHeaderSize ≤ src.length) :
    frameDecodeHeader src = .ok header ↔ src.take frameHeaderSize = headerBytes header := by
  constructor
  · intro decoded
    unfold frameDecodeHeader at decoded
    split at decoded
    · cases decoded
    · split at decoded
      · cases decoded
      next marked =>
        split at decoded
        · cases decoded
          exact (headerBytes_headerAt long (not_not.mp marked)).symm
        · cases decoded
  · intro front
    rw [← List.take_append_drop frameHeaderSize src, front]
    exact frameDecodeHeader_headerBytes header _

end codec

section python
variable (type : UInt8) (reqId : UInt32) {payload : Bytes}

private theorem encodeFrame_eq (fits : payload.length < 2 ^ 32) :
    Daemon.encodeFrame type.toNat reqId.toNat payload = some (Client.encodeFrame ⟨type, reqId, payload⟩) := by
  have typeBound := type.toNat_lt
  have idBound := reqId.toNat_lt
  have byte : Daemon.byteOf type.toNat = some type := by
    rw [Daemon.byteOf, if_pos ⟨by omega, by omega⟩, Int.toNat_natCast, UInt8.ofNat_toNat]
  have word {value : Nat} (small : value < 2 ^ 32) : Daemon.packI value = some (littleEndian 4 value) := by
    rw [Daemon.packI, if_pos ⟨by omega, by omega⟩, Int.toNat_natCast]
  have length : payload.length.toUInt32.toNat = payload.length := Nat.mod_eq_of_lt fits
  rw [Daemon.encodeFrame, byte, word idBound, word fits]
  simp only [Option.bind_eq_bind, Option.bind_some, Client.encodeFrame, writeU32le_eq, length, List.append_assoc]

private theorem encodeFrame_front {length : UInt32} (sized : payload.length = length.toNat) :
    (Client.encodeFrame ⟨type, reqId, payload⟩).take frameHeaderSize = headerBytes ⟨type, 0, reqId, length⟩ := by
  have same : payload.length.toUInt32 = length := by rw [sized]; exact UInt32.ofNat_toNat
  have layout : Client.encodeFrame ⟨type, reqId, payload⟩ = headerBytes ⟨type, 0, reqId, length⟩ ++ payload := by
    simp only [Client.encodeFrame, headerBytes, same]
  rw [layout, ← length_headerBytes ⟨type, 0, reqId, length⟩, List.take_left]

end python

/-- The encoder takes the allowed headers and no others, the decoder accepts
exactly what the encoder writes, each undoes the other, and the daemon writes the
same bytes. -/
theorem header_codec_bijective (dstSize : Nat) (room : frameHeaderSize ≤ dstSize) :
    (∀ src, frameHeaderSize ≤ src.length →
      ((∃ header, frameDecodeHeader src = .ok header) ↔
        ∃ header, Allowed header ∧ frameEncodeHeader dstSize header = some (src.take frameHeaderSize))) ∧
    (∀ header, Allowed header → ∃ bytes, frameEncodeHeader dstSize header = some bytes ∧ bytes.length = frameHeaderSize ∧
      ∀ more, ∃ decoded, frameDecodeHeader (bytes ++ more) = .ok decoded ∧ decoded.val = header) ∧
    (∀ src header, frameDecodeHeader src = .ok header →
      Allowed header.val ∧ frameEncodeHeader dstSize header.val = some (src.take frameHeaderSize)) ∧
    (∀ header, ¬ Allowed header → frameEncodeHeader dstSize header = none) ∧
    (∀ header payload, Allowed header → header.flags = 0 → payload.length = header.length.toNat →
      ∃ frame, Daemon.encodeFrame header.type.toNat header.reqId.toNat payload = some frame ∧
        frameEncodeHeader dstSize header = some (frame.take frameHeaderSize)) := by
  have accepted : ∀ src header, frameDecodeHeader src = .ok header →
      Allowed header.val ∧ frameEncodeHeader dstSize header.val = some (src.take frameHeaderSize) := by
    intro src header decoded
    have long : frameHeaderSize ≤ src.length := decoded_long (by simp [decoded])
    have allowed := allowed_iff.mpr header.property
    exact ⟨allowed, by rw [encode_allowed room allowed, (decode_ok_iff long).mp decoded]⟩
  refine ⟨fun src long => ⟨?_, ?_⟩, ?_, accepted, fun header => encode_refused, ?_⟩
  · rintro ⟨header, decoded⟩
    exact ⟨header.val, accepted src header decoded⟩
  · rintro ⟨header, allowed, encoded⟩
    rw [encode_allowed room allowed, Option.some.injEq] at encoded
    exact ⟨⟨header, allowed_iff.mp allowed⟩, (decode_ok_iff long).mpr encoded.symm⟩
  · intro header allowed
    refine ⟨headerBytes header, encode_allowed room allowed, length_headerBytes header, fun more => ?_⟩
    exact ⟨⟨header, allowed_iff.mp allowed⟩, frameDecodeHeader_headerBytes ⟨header, allowed_iff.mp allowed⟩ more, rfl⟩
  · rintro ⟨type, flags, reqId, length⟩ payload allowed rfl sized
    refine ⟨_, encodeFrame_eq type reqId (sized ▸ length.toNat_lt), ?_⟩
    rw [encode_allowed room allowed, encodeFrame_front type reqId sized]

/-- A ping with a payload of two bytes. -/
theorem header_codec_bijective_ping :
    ∃ frame, Daemon.encodeFrame 50 7 [1, 2] = some frame ∧ frameEncodeHeader 14 ⟨50, 0, 7, 2⟩ = some (frame.take 14) ∧
      ∃ decoded, frameDecodeHeader (frame.take 14) = .ok decoded ∧ decoded.val = ⟨50, 0, 7, 2⟩ := by
  obtain ⟨-, decodes, -, -, agrees⟩ := header_codec_bijective 14 (by decide)
  have allowed : Allowed ⟨50, 0, 7, 2⟩ := ⟨by decide, by decide⟩
  obtain ⟨frame, built, encoded⟩ := agrees ⟨50, 0, 7, 2⟩ [1, 2] allowed rfl rfl
  obtain ⟨bytes, written, -, back⟩ := decodes _ allowed
  cases encoded.symm.trans written
  have decoded := back []
  rw [List.append_nil] at decoded
  exact ⟨frame, built, encoded, decoded⟩

end Luagent.Proofs.HeaderCodec
