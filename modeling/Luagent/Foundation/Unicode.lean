import Luagent.Foundation.Bytes

/-! UTF-8, written with the library's encoder and read with a decoder that puts
a replacement character where the bytes are no text. -/

namespace Foundation

/-- The bytes of a text. -/
def utf8 (text : List Char) : Bytes := text.flatMap String.utf8EncodeChar

/-- How many bytes follow a first byte, if it is one. -/
def followers (first : UInt8) : Nat :=
  if 0xC2 ≤ first && first ≤ 0xDF then 1
  else if 0xE0 ≤ first && first ≤ 0xEF then 2
  else if 0xF0 ≤ first && first ≤ 0xF4 then 3
  else 0

def isFollower (byte : UInt8) : Bool := 0x80 ≤ byte && byte ≤ 0xBF

/-- Whether a second byte may follow the first: what would be an overlong form, a
surrogate or past the last code point is excluded here. -/
def mayFollow (first second : UInt8) : Bool :=
  isFollower second &&
    (if first = 0xE0 then 0xA0 ≤ second
    else if first = 0xED then second ≤ 0x9F
    else if first = 0xF0 then 0x90 ≤ second
    else if first = 0xF4 then second ≤ 0x8F
    else true)

/-- The number of bytes that one replacement character stands for: the longest
start of a character, or one byte. -/
def illFormed : Bytes → Nat
  | first :: second :: rest =>
    if 2 ≤ followers first && mayFollow first second then
      match rest with
      | third :: _ => if 3 ≤ followers first && isFollower third then 3 else 2
      | [] => 2
    else 1
  | _ => 1

def replacement : Char := Char.ofNat 0xFFFD

/-- Every turn takes a byte or more, so the text has no more characters than bytes. -/
def decodeLoop : Nat → Bytes → List Char
  | 0, _ => []
  | _ + 1, [] => []
  | fuel + 1, byte :: rest => match (byte :: rest).toByteArray.utf8DecodeChar? 0 with
    | some char => char :: decodeLoop fuel ((byte :: rest).drop char.utf8Size)
    | none => replacement :: decodeLoop fuel ((byte :: rest).drop (illFormed (byte :: rest)))

def decodeReplacing (bytes : Bytes) : List Char := decodeLoop bytes.length bytes

theorem utf8_cons (char : Char) (text : List Char) : utf8 (char :: text) = String.utf8EncodeChar char ++ utf8 text :=
  List.flatMap_cons

theorem utf8_append (left right : List Char) : utf8 (left ++ right) = utf8 left ++ utf8 right := List.flatMap_append

theorem decodeLoop_utf8 {text : List Char} {fuel : Nat} (enough : (utf8 text).length ≤ fuel) :
    decodeLoop fuel (utf8 text) = text := by
  induction text generalizing fuel with
  | nil => cases fuel <;> rfl
  | cons char text ih =>
    have size := String.length_utf8EncodeChar char
    have positive := char.utf8Size_pos
    rw [utf8_cons] at enough ⊢
    rw [List.length_append, size] at enough
    obtain ⟨byte, rest, shape⟩ := List.exists_cons_of_length_pos (show 0 < (String.utf8EncodeChar char).length by omega)
    obtain ⟨fuel, rfl⟩ := Nat.exists_eq_succ_of_ne_zero (show fuel ≠ 0 by omega)
    have first : (String.utf8EncodeChar char ++ utf8 text).toByteArray.utf8DecodeChar? 0 = some char := by
      rw [List.toByteArray_append]
      exact ByteArray.utf8DecodeChar?_utf8EncodeChar_append
    have dropped : (String.utf8EncodeChar char ++ utf8 text).drop char.utf8Size = utf8 text := by
      rw [← size, List.drop_left]
    rw [shape, List.cons_append] at first dropped ⊢
    simp only [decodeLoop, first, dropped]
    rw [ih (by omega)]

/-- What was written as text is read back. -/
theorem decodeReplacing_utf8 (text : List Char) : decodeReplacing (utf8 text) = text := decodeLoop_utf8 (Nat.le_refl _)

example : decodeReplacing [0x61, 0xE2, 0x80, 0xFF, 0xE2, 0x80, 0xA8] = ['a', replacement, replacement, Char.ofNat 0x2028] := by decide

end Foundation
