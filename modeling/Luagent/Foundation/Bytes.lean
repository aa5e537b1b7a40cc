import Mathlib.Data.List.Basic

/-! Byte strings as C programs use them: fixed buffers written in the middle,
files written at an offset, and little-endian words. -/

namespace Foundation

abbrev Bytes := List UInt8

/-- The bytes of a text constant. -/
def ascii (text : String) : Bytes := text.toList.map Char.toUInt8

theorem ascii_length_le (text : String) : (ascii text).length ≤ text.utf8ByteSize := by
  have sized : ∀ chars : List Char, chars.length ≤ (String.ofList chars).utf8ByteSize := by
    intro chars
    induction chars with
    | nil => exact Nat.zero_le _
    | cons char chars ih =>
      have positive := char.utf8Size_pos
      rw [String.ofList_cons, String.utf8ByteSize_append, String.utf8ByteSize_singleton, List.length_cons]
      omega
  have bound := sized text.toList
  rwa [String.ofList_toList, ← List.length_map Char.toUInt8] at bound

/-- `memcpy` into the middle of a buffer. -/
def overwrite (buffer : Bytes) (start : Nat) (data : Bytes) : Bytes :=
  buffer.take start ++ data ++ buffer.drop (start + data.length)

theorem length_overwrite {buffer data : Bytes} {start : Nat} (inside : start + data.length ≤ buffer.length) :
    (overwrite buffer start data).length = buffer.length := by
  simp only [overwrite, List.length_append, List.length_take, List.length_drop]
  omega

theorem take_overwrite {buffer data : Bytes} {start : Nat} (inside : start + data.length ≤ buffer.length) :
    (overwrite buffer start data).take (start + data.length) = buffer.take start ++ data := by
  have length : (buffer.take start ++ data).length = start + data.length := by
    simp only [List.length_append, List.length_take]
    omega
  rw [overwrite, ← length, List.take_left]

/-- A positioned write to a file. A gap before the offset reads as zeros. -/
def writeAt (content : Bytes) (offset : Nat) (data : Bytes) : Bytes :=
  content.take offset ++ List.replicate (offset - content.length) 0 ++ data ++ content.drop (offset + data.length)

/-- Writing at the end of the file appends. -/
theorem writeAt_length (content data : Bytes) : writeAt content content.length data = content ++ data := by
  simp [writeAt]

/-- The lowest `width` digits of a number in base 256, lowest first. -/
def littleEndian : Nat → Nat → Bytes
  | 0, _ => []
  | width + 1, value => UInt8.ofNat value :: littleEndian width (value / 256)

def ofLittleEndian : Bytes → Nat
  | [] => 0
  | byte :: rest => byte.toNat + 256 * ofLittleEndian rest

theorem littleEndian_ofLittleEndian (bytes : Bytes) : littleEndian bytes.length (ofLittleEndian bytes) = bytes := by
  induction bytes with
  | nil => rfl
  | cons byte rest ih =>
    have bound := byte.toNat_lt
    have low : UInt8.ofNat (byte.toNat + 256 * ofLittleEndian rest) = byte := by
      apply UInt8.toNat_inj.mp
      rw [UInt8.toNat_ofNat']
      omega
    have high : (byte.toNat + 256 * ofLittleEndian rest) / 256 = ofLittleEndian rest := by omega
    rw [List.length_cons, ofLittleEndian, littleEndian, low, high, ih]

end Foundation
