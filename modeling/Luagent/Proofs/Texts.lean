import Mathlib.Data.List.TakeWhile
import Mathlib.Data.Nat.Digits.Defs
import Luagent.Transfer

/-! Decimal numbers in replies, and what can be read back from a reply. -/

namespace Luagent.Proofs
open Foundation

theorem utilSnprintf_some {size : Nat} {text result : Bytes} (fits : utilSnprintf size text = some result) :
    result = text ∧ text.length < size := by
  unfold utilSnprintf at fits
  split at fits
  next short => exact ⟨(Option.some.inj fits).symm, short⟩
  next => cases fits

theorem utilSnprintf_length {size : Nat} {text result : Bytes} (fits : utilSnprintf size text = some result) :
    result.length < size := by
  obtain ⟨rfl, short⟩ := utilSnprintf_some fits
  exact short

private theorem toNat_toUInt8_of_isDigit {char : Char} (digit : char.isDigit = true) : char.toUInt8.toNat = char.toNat := by
  have small : char.toNat ≤ 57 := by
    simp only [Char.isDigit, Bool.and_eq_true, decide_eq_true_eq] at digit
    exact digit.2
  simp only [Char.toUInt8, Char.toNat, UInt32.toNat_toUInt8] at *
  omega

theorem decimal_digits {value : Nat} {byte : UInt8} (member : byte ∈ decimal value) : isDigit byte = true := by
  obtain ⟨char, inside, rfl⟩ := List.mem_map.mp member
  have digit := Nat.isDigit_of_mem_toDigits (by decide) (by decide) inside
  have same := toNat_toUInt8_of_isDigit digit
  simp only [Char.isDigit, Bool.and_eq_true, decide_eq_true_eq] at digit
  simp only [isDigit, Bool.and_eq_true, decide_eq_true_eq, UInt8.le_iff_toNat_le, same]
  exact digit

theorem digitsValue_decimal (value : Nat) : digitsValue (decimal value) = value := by
  have fold : ∀ (chars : List Char) (start : Nat), (∀ char ∈ chars, char.isDigit = true) →
      (chars.map Char.toUInt8).foldl (fun value digit => value * 10 + (digit.toNat - 48)) start =
        Nat.ofDigitChars 10 chars start := by
    intro chars
    induction chars with
    | nil => intro start _; rfl
    | cons char chars ih =>
      intro start digits
      rw [List.map_cons, List.foldl_cons, ih _ fun other inside => digits other (List.mem_cons_of_mem _ inside),
        Nat.ofDigitChars_cons, toNat_toUInt8_of_isDigit (digits char List.mem_cons_self), Nat.mul_comm]
      rfl
  unfold digitsValue decimal
  rw [fold _ 0 fun char inside => Nat.isDigit_of_mem_toDigits (by decide) (by decide) inside,
    Nat.ofDigitChars_ten_toDigits]

theorem decimal_injective {left right : Nat} (same : decimal left = decimal right) : left = right := by
  rw [← digitsValue_decimal left, same, digitsValue_decimal]

theorem decimal_length_le {value digits : Nat} (some : 0 < digits) (small : value < 10 ^ digits) :
    (decimal value).length ≤ digits := by
  rw [decimal, List.length_map]
  exact Nat.toDigits_length 10 value digits some small

theorem decimal_ne_nil (value : Nat) : decimal value ≠ [] := by
  simp [decimal, Nat.toDigits_ne_nil]

theorem digit_plain {byte : UInt8} (digit : isDigit byte = true) : isSpace byte = false ∧ byte ≠ 45 ∧ byte ≠ 43 := by
  revert digit
  simp only [isDigit, isSpace, Bool.and_eq_true, decide_eq_true_eq, UInt8.le_iff_toNat_le, Bool.or_eq_false_iff,
    Bool.and_eq_false_iff, beq_eq_false_iff_ne, ne_eq, decide_eq_false_iff_not, ← UInt8.toNat_inj]
  intro digit
  have := digit.1
  simp only [UInt8.reduceToNat] at *
  omega

/-- What was printed is read back. -/
theorem parseUnsigned_decimal {value : Nat} (small : value < 2 ^ 64) : parseUnsigned (decimal value) = some value := by
  obtain ⟨first, rest, shape⟩ := List.exists_cons_of_ne_nil (decimal_ne_nil value)
  have digit : isDigit first = true := decimal_digits (by rw [shape]; exact List.mem_cons_self)
  have space := digit_plain digit
  have body : (decimal value).dropWhile isSpace = decimal value := by
    rw [shape, List.dropWhile_cons_of_neg (by simp [space.1])]
  have sign : (decimal value).head? ≠ some 45 ∧ (decimal value).head? ≠ some 43 := by
    rw [shape]
    simp [space.2.1, space.2.2]
  have digits : (decimal value).takeWhile isDigit = decimal value :=
    List.takeWhile_eq_self_iff.mpr fun _ member => decimal_digits member
  have converted : strtoull (decimal value) = some (value, []) := by
    simpa [strtoull, body, sign.1, sign.2, digits, digitsValue_decimal, decimal_ne_nil] using small
  simp [parseUnsigned, converted]

theorem newline_notMem_decimal (value : Nat) : newline ∉ decimal value := by
  intro member
  have := decimal_digits member
  revert this
  decide

private theorem lastLine_unique {left right lineL lineR : Bytes} (cleanL : newline ∉ lineL) (cleanR : newline ∉ lineR)
    (same : left ++ newline :: lineL = right ++ newline :: lineR) : left = right ∧ lineL = lineR := by
  have last : ∀ (text : Bytes) {line : Bytes}, newline ∉ line →
      ((text ++ newline :: line).reverse.takeWhile (· ≠ newline)).reverse = line := by
    intro text line clean
    rw [List.reverse_append, List.reverse_cons, List.append_assoc, List.takeWhile_append_of_pos]
    · simp
    · intro byte inside
      have : byte ≠ newline := by
        rintro rfl
        exact clean (List.mem_reverse.mp inside)
      simpa using this
  have lines : lineL = lineR := by rw [← last left cleanL, same, last right cleanR]
  subst lines
  exact ⟨List.append_cancel_right same, rfl⟩

theorem putEndReply_injective {pathL pathR : Path} {bytesL bytesR : Nat}
    (same : putEndReply pathL bytesL = putEndReply pathR bytesR) : pathL = pathR ∧ bytesL = bytesR := by
  have split : ∀ path bytes, putEndReply path bytes =
      ascii "status=ok\npath=" ++ (path ++ newline :: (ascii "bytes=" ++ decimal bytes)) := by
    intro path bytes
    simp only [putEndReply, List.append_assoc]
    rfl
  have clean : ∀ bytes, newline ∉ ascii "bytes=" ++ decimal bytes := by
    intro bytes member
    rcases List.mem_append.mp member with text | number
    · revert text; decide
    · exact newline_notMem_decimal bytes number
  rw [split, split] at same
  obtain ⟨paths, lines⟩ := lastLine_unique (clean _) (clean _) (List.append_cancel_left same)
  exact ⟨paths, decimal_injective (List.append_cancel_left lines)⟩

end Luagent.Proofs
