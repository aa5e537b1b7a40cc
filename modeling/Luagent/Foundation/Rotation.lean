import Mathlib.Algebra.GroupWithZero.Nat
import Mathlib.Data.List.Induction

/-! A log in a current file and a number of older ones. Lines are appended to the
current file. One that would make it reach the limit starts a new file, and of the
older files only the newest are kept. -/

namespace Foundation

structure Rotation (α : Type) where
  current : List α
  /-- newest first -/
  older : List (List α)
  rotations : Nat

namespace Rotation
variable {α : Type} (size : α → Nat) (limit keep : Nat)

def volume (file : List α) : Nat := (file.map size).sum

def start : Rotation α := ⟨[], [], 0⟩

def write (log : Rotation α) (line : α) : Rotation α :=
  if volume size log.current + size line < limit then { log with current := log.current ++ [line] }
  else ⟨[line], (log.current :: log.older).take keep, log.rotations + 1⟩

/-- The lines that are still there, oldest first. -/
def kept (log : Rotation α) : List α := log.older.reverse.flatten ++ log.current

/-- The files are below the limit and hold the newest of the lines, all of them
until more files than are kept have been filled. -/
structure Keeps (lines : List α) (log : Rotation α) : Prop where
  bounded : ∀ file ∈ log.current :: log.older, volume size file < limit
  newest : log.kept <:+ lines
  whole : log.rotations ≤ keep → log.kept = lines
  files : log.older.length = min log.rotations keep

variable {size limit keep}

theorem keeps_start (positive : 0 < limit) : Keeps size limit keep [] (start : Rotation α) where
  bounded file member := by
    rw [List.mem_singleton.mp member]
    exact positive
  newest := List.suffix_rfl
  whole _ := rfl
  files := (Nat.zero_min keep).symm

/-- The files that are kept at a rotation hold the newest lines. -/
theorem flatten_take_suffix (files : List (List α)) (keep : Nat) :
    (files.take keep).reverse.flatten <:+ files.reverse.flatten := by
  obtain ⟨front, split⟩ := List.reverse_suffix.mpr (List.take_prefix keep files)
  exact ⟨front.flatten, by rw [← split, List.flatten_append]⟩

theorem Keeps.write {lines : List α} {log : Rotation α} (keeps : Keeps size limit keep lines log) {line : α}
    (small : size line < limit) : Keeps size limit keep (lines ++ [line]) (log.write size limit keep line) := by
  unfold Rotation.write
  split
  next fits =>
    have grown : Rotation.kept { log with current := log.current ++ [line] } = log.kept ++ [line] :=
      (List.append_assoc ..).symm
    refine ⟨?_, ?_, ?_, keeps.files⟩
    · intro file member
      rcases List.mem_cons.mp member with rfl | old
      · simpa [volume] using fits
      · exact keeps.bounded file (List.mem_cons_of_mem _ old)
    · rw [grown]
      obtain ⟨front, split⟩ := keeps.newest
      exact ⟨front, by rw [← split, List.append_assoc]⟩
    · intro few
      rw [grown, keeps.whole few]
  next full =>
    have all : (log.current :: log.older).reverse.flatten = log.kept := by simp [kept]
    refine ⟨?_, ?_, ?_, ?_⟩
    · intro file member
      rcases List.mem_cons.mp member with rfl | old
      · simpa [volume] using small
      · exact keeps.bounded file (List.mem_of_mem_take old)
    · obtain ⟨lost, split⟩ := (all ▸ flatten_take_suffix (log.current :: log.older) keep).trans keeps.newest
      exact ⟨lost, by rw [kept, ← split, List.append_assoc]⟩
    · intro few
      have files := keeps.files
      have short : (log.current :: log.older).length ≤ keep := by
        rw [List.length_cons]
        dsimp only at few
        omega
      rw [kept, List.take_of_length_le short, all, keeps.whole (Nat.le_of_succ_le few)]
    · have files := keeps.files
      rw [List.length_take, List.length_cons]
      change min keep (log.older.length + 1) = min (log.rotations + 1) keep
      omega

theorem keeps_run (positive : 0 < limit) {lines : List α} (small : ∀ line ∈ lines, size line < limit) :
    Keeps size limit keep lines (lines.foldl (Rotation.write size limit keep) start) := by
  induction lines using List.reverseRecOn with
  | nil => exact keeps_start positive
  | append_singleton lines line ih =>
    rw [List.foldl_append, List.foldl_cons, List.foldl_nil]
    refine (ih fun other member => small other (List.mem_append_left _ member)).write ?_
    exact small line (List.mem_append_right _ (List.mem_singleton_self line))

end Rotation
end Foundation
