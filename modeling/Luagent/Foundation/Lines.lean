import Mathlib.Data.List.Basic

/-! Texts cut into pieces at the items that end a piece, and pieces joined again. -/

namespace Foundation
variable {α : Type} {isEnd : α → Bool} {text piece : List α} {pieces : List (List α)}

/-- A piece is made of items of the text that do not end it. -/
theorem items_of_mem_splitOnP (member : piece ∈ text.splitOnP isEnd) :
    ∀ item ∈ piece, item ∈ text ∧ isEnd item = false := by
  induction text generalizing piece with
  | nil =>
    rw [List.splitOnP_nil, List.mem_singleton] at member
    simp [member]
  | cons first text ih =>
    obtain ⟨head, tail, shape⟩ := List.exists_cons_of_ne_nil (List.splitOnP_ne_nil isEnd text)
    have later {piece : List α} (among : piece ∈ head :: tail) : ∀ item ∈ piece, item ∈ first :: text ∧ isEnd item = false :=
      fun item inside => ⟨List.mem_cons_of_mem _ (ih (shape ▸ among) item inside).1, (ih (shape ▸ among) item inside).2⟩
    rw [List.splitOnP_cons_eq_if_modifyHead, shape] at member
    cases ends : isEnd first with
    | true =>
      rw [if_pos ends, List.mem_cons] at member
      rcases member with rfl | among
      · simp
      · exact later among
    | false =>
      rw [if_neg (by simp [ends]), List.modifyHead_cons, List.mem_cons] at member
      rcases member with rfl | among
      · exact List.forall_mem_cons.mpr ⟨⟨List.mem_cons_self, ends⟩, later List.mem_cons_self⟩
      · exact later (List.mem_cons_of_mem _ among)

theorem items_of_mem_splitOn [BEq α] [LawfulBEq α] {item : α} (member : piece ∈ text.splitOn item) :
    item ∉ piece ∧ piece ⊆ text := by
  rw [List.splitOn_eq_splitOnP] at member
  have items := items_of_mem_splitOnP member
  exact ⟨fun inside => by simpa using (items item inside).2, fun other inside => (items other inside).1⟩

/-- Pieces that were joined are found again, also where other items end a piece. -/
theorem splitOnP_intercalate {item : α} (ends : isEnd item = true)
    (clean : ∀ piece ∈ pieces, ∀ item ∈ piece, isEnd item = false)
    (filled : pieces ≠ []) : ([item].intercalate pieces).splitOnP isEnd = pieces := by
  induction pieces with
  | nil => exact absurd rfl filled
  | cons piece pieces ih =>
    obtain ⟨own, others⟩ := List.forall_mem_cons.mp clean
    cases pieces with
    | nil => rw [List.intercalate_singleton, List.splitOnP_eq_singleton own]
    | cons next pieces =>
      rw [List.intercalate_cons_cons, List.append_assoc, List.singleton_append,
        List.splitOnP_append_cons_of_forall_mem own item ends, ih others (List.cons_ne_nil _ _)]

theorem length_splitOnP_le (isEnd : α → Bool) (text : List α) : (text.splitOnP isEnd).length ≤ text.length + 1 := by
  induction text with
  | nil => simp
  | cons first text ih =>
    rw [List.splitOnP_cons_eq_if_modifyHead, List.length_cons]
    split
    · exact Nat.succ_le_succ ih
    · rw [List.length_modifyHead]
      omega

end Foundation
