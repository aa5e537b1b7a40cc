import Luagent.Diag
import Luagent.Foundation.Rotation
import Luagent.Proofs.Texts

/-! The log file and the files it was rotated into hold the newest lines. The
renames of one rotation, last file first, shift every file by one number, so the
files show a log of four files, of which the oldest is dropped. -/

namespace Luagent.Proofs.LogRotation
open Foundation

section names
variable {path : Path}

private theorem snprintfCut_of_lt {size : Nat} {text : Bytes} (short : text.length < size) : snprintfCut size text = text :=
  List.take_of_length_le (by omega)

private theorem logName_zero (buffer : path.length < 512) : logName path 0 = path := snprintfCut_of_lt (by omega)

private theorem logName_succ (buffer : path.length < 512) {index : Nat} (kept : index < diagLogRotateKeep) :
    logName path (index + 1) = path ++ (ascii "." ++ decimal (index + 1)) := by
  unfold diagLogRotateKeep at kept
  have digits : (decimal (index + 1)).length ≤ 1 := decimal_length_le (by decide) (by omega)
  have dot : (ascii ".").length = 1 := by decide
  rw [logName, snprintfCut_of_lt, List.append_assoc]
  simp only [List.length_append]
  omega

private theorem logName_injective (buffer : path.length < 512) {left right : Nat} (leftKept : left ≤ diagLogRotateKeep)
    (rightKept : right ≤ diagLogRotateKeep) (same : logName path left = logName path right) : left = right := by
  have numbered {index : Nat} (kept : index < diagLogRotateKeep) : logName path (index + 1) ≠ path := by
    rw [logName_succ buffer kept]
    intro equal
    have longer := congrArg List.length equal
    simp [ascii] at longer
  match left, right with
  | 0, 0 => rfl
  | 0, right + 1 => exact absurd (same.symm.trans (logName_zero buffer)) (numbered rightKept)
  | left + 1, 0 => exact absurd (same.trans (logName_zero buffer)) (numbered leftKept)
  | left + 1, right + 1 =>
    rw [logName_succ buffer leftKept, logName_succ buffer rightKept] at same
    exact decimal_injective (List.append_cancel_left (List.append_cancel_left same))

end names

section renames
variable {path : Path}

/-- The files in front of `count` denote different files, and behind a missing one
the next is missing too. -/
structure Lined (path : Path) (count : Nat) (fs : FileSystem) : Prop where
  apart : ∀ index < count, fs.Apart (logName path index) (logName path (index + 1))
  behind : ∀ index < count, fs.names (logName path index) = none → fs.names (logName path (index + 1)) = none

structure Shifted (path : Path) (count : Nat) (before after : FileSystem) : Prop where
  moved : ∀ index < count, after.names (logName path (index + 1)) = before.names (logName path index)
  free : 0 < count → after.names (logName path 0) = none
  others : ∀ name, (∀ index ≤ count, name ≠ logName path index) → after.names name = before.names name

@[simp] theorem rotateFiles_data (path : Path) (count : Nat) (fs : FileSystem) : (rotateFiles {} path count fs).data = fs.data := by
  induction count generalizing fs with
  | zero => rfl
  | succ count ih => rw [rotateFiles, ih, if_pos rfl, FileSystem.rename_data]

private theorem rotateFiles_shifted (buffer : path.length < 512) {count : Nat} (kept : count ≤ diagLogRotateKeep)
    {fs : FileSystem}
    (lined : Lined path count fs) : Shifted path count fs (rotateFiles {} path count fs) := by
  induction count generalizing fs with
  | zero => exact ⟨fun _ none => absurd none (Nat.not_lt_zero _), fun none => absurd none (Nat.not_lt_zero _), fun _ _ => rfl⟩
  | succ count ih =>
    have distinct {left right : Nat} (different : left ≠ right) (leftKept : left ≤ count + 1) (rightKept : right ≤ count + 1) :
        logName path left ≠ logName path right :=
      fun same => different (logName_injective buffer (by omega) (by omega) same)
    -- the last file moves first and leaves its name free
    have renamed := FileSystem.rename_names_behind (lined.apart count (Nat.lt_succ_self _)) (lined.behind count (Nat.lt_succ_self _))
    generalize moved : fs.rename (logName path count) (logName path (count + 1)) = middle at renamed
    have last : middle.names (logName path (count + 1)) = fs.names (logName path count) := by
      rw [renamed, Function.update_self]
    have freed : middle.names (logName path count) = none := by
      rw [renamed, Function.update_of_ne (distinct (by omega) (by omega) (by omega)), Function.update_self]
    have same {name : Path} (notLast : name ≠ logName path (count + 1)) (notMoved : name ≠ logName path count) :
        middle.names name = fs.names name := by
      rw [renamed, Function.update_of_ne notLast, Function.update_of_ne notMoved]
    have early {index : Nat} (before : index < count) : middle.names (logName path index) = fs.names (logName path index) :=
      same (distinct (by omega) (by omega) (by omega)) (distinct (by omega) (by omega) (by omega))
    have still : Lined path count middle := by
      constructor <;> intro index before <;> by_cases next : index + 1 = count
      · exact FileSystem.Apart.symm (.inl (next ▸ freed))
      · unfold FileSystem.Apart
        rw [early before, early (by omega : index + 1 < count)]
        exact lined.apart index (by omega)
      · exact fun _ => next ▸ freed
      · rw [early before, early (by omega : index + 1 < count)]
        exact lined.behind index (by omega)
    have shifted := ih (Nat.le_of_succ_le kept) still
    rw [rotateFiles, if_pos rfl, moved]
    refine ⟨fun index before => ?_, fun _ => ?_, fun name other => ?_⟩
    · by_cases here : index = count
      · subst here
        rw [shifted.others _ fun other within => distinct (by omega) (by omega) (by omega), last]
      · rw [shifted.moved index (by omega), early (by omega)]
    · cases count with
      | zero => exact freed
      | succ count => exact shifted.free (Nat.succ_pos count)
    · rw [shifted.others name fun index within => other index (by omega),
        same (other _ (Nat.le_refl _)) (other _ (Nat.le_succ _))]

end renames

private theorem names_eq_none_iff {fs : FileSystem} {name : Path} : fs.names name = none ↔ fs.read name = none := by
  rw [FileSystem.read, Option.map_eq_none_iff]

/-- The log file and the rotated files hold the lines of a log. -/
structure Holds (path : Path) (fs : FileSystem) (files : Rotation Bytes) : Prop where
  current : fs.read (logName path 0) = some files.current.flatten
  older : ∀ index < diagLogRotateKeep, fs.read (logName path (index + 1)) = files.older[index]?.map List.flatten
  apart : ∀ left ≤ diagLogRotateKeep, ∀ right ≤ diagLogRotateKeep, left ≠ right →
    fs.Apart (logName path left) (logName path right)

namespace Holds
variable {path : Path} {fs : FileSystem} {files : Rotation Bytes}

theorem close (holds : Holds path fs files) (fd : Nat) : Holds path (fs.close fd) files := by
  obtain ⟨current, older, apart⟩ := holds
  constructor <;> simp only [FileSystem.read_close, FileSystem.Apart, FileSystem.close_names]
  · exact current
  · exact older
  · exact apart

/-- A line is appended to the current file and to no other. -/
theorem append (holds : Holds path fs files) {fd : Nat} (opened : fs.fds fd = fs.names (logName path 0)) (line : Bytes) :
    Holds path (fs.append fd line) { files with current := files.current ++ [line] } := by
  obtain ⟨file, named, content⟩ := Option.map_eq_some_iff.mp holds.current
  have described : fs.fds fd = some file := opened.trans named
  refine ⟨?_, fun index kept => ?_, fun left leftKept right rightKept different => ?_⟩
  · rw [FileSystem.read_append _ described named, content]
    simp
  · have other : fs.names (logName path (index + 1)) ≠ some file := by
      rcases holds.apart 0 (Nat.zero_le _) (index + 1) kept (by omega) with absent | unequal
      · rw [named] at absent
        cases absent
      · rw [named] at unequal
        exact unequal.symm
    rw [FileSystem.read_append_of_ne _ described other]
    exact holds.older index kept
  · unfold FileSystem.Apart
    rw [FileSystem.append_names]
    exact holds.apart left leftKept right rightKept different

/-- Behind a missing file there is no other. -/
theorem lined (holds : Holds path fs files) : Lined path diagLogRotateKeep fs where
  apart index kept := holds.apart index (Nat.le_of_lt kept) (index + 1) kept (by omega)
  behind index kept absent := by
    rw [names_eq_none_iff] at absent ⊢
    cases index with
    | zero =>
      rw [holds.current] at absent
      cases absent
    | succ index =>
      rw [holds.older index (Nat.lt_of_succ_lt kept), Option.map_eq_none_iff, List.getElem?_eq_none_iff] at absent
      rw [holds.older (index + 1) kept, List.getElem?_eq_none (Nat.le_succ_of_le absent)]
      rfl

theorem numbered (holds : Holds path fs files) {index : Nat} (kept : index ≤ diagLogRotateKeep) :
    fs.read (logName path index) = (files.current :: files.older)[index]?.map List.flatten := by
  cases index with
  | zero => exact holds.current
  | succ index => exact holds.older index kept

/-- A new file is begun in front of others. -/
theorem begin (buffer : path.length < 512) (free : fs.names path = none) {older : List (List Bytes)} {rotations : Nat}
    (behind : ∀ index < diagLogRotateKeep, fs.read (logName path (index + 1)) = older[index]?.map List.flatten)
    (apart : ∀ left < diagLogRotateKeep, ∀ right < diagLogRotateKeep, left ≠ right →
      fs.Apart (logName path (left + 1)) (logName path (right + 1))) :
    Holds path (fs.openAppend path) ⟨[], older, rotations⟩ := by
  have other {index : Nat} (kept : index < diagLogRotateKeep) : logName path (index + 1) ≠ path := by
    intro same
    have := logName_injective buffer kept (Nat.zero_le _) (same.trans (logName_zero buffer).symm)
    omega
  have names {index : Nat} (kept : index < diagLogRotateKeep) :
      (fs.openAppend path).names (logName path (index + 1)) = fs.names (logName path (index + 1)) := by
    rw [FileSystem.openAppend_names, Function.update_of_ne (other kept)]
  -- no other file has the number of the new one
  have fresh {index : Nat} (kept : index < diagLogRotateKeep) :
      (fs.openAppend path).Apart (logName path 0) (logName path (index + 1)) := by
    refine .inr ?_
    rw [names kept, logName_zero buffer, FileSystem.openAppend_names, Function.update_self, FileSystem.target, free,
      Option.getD_none]
    exact fun same => Nat.lt_irrefl _ (fs.named same.symm)
  refine ⟨?_, fun index kept => ?_, fun left leftKept right rightKept different => ?_⟩
  · rw [logName_zero buffer, FileSystem.read_openAppend, names_eq_none_iff.mp free]
    rfl
  · rw [FileSystem.read_openAppend_of_ne _ (other kept)]
    exact behind index kept
  · cases left with
    | zero =>
      cases right with
      | zero => exact absurd rfl different
      | succ right => exact fresh rightKept
    | succ left =>
      cases right with
      | zero => exact (fresh leftKept).symm
      | succ right =>
        unfold FileSystem.Apart
        rw [names leftKept, names rightKept]
        exact apart left leftKept right rightKept (by omega)

/-- Every file moves on by one number, the oldest is dropped and a new one is begun. -/
theorem rotate (holds : Holds path fs files) (buffer : path.length < 512) :
    Holds path ((rotateFiles {} path diagLogRotateKeep fs).openAppend path)
      ⟨[], (files.current :: files.older).take diagLogRotateKeep, files.rotations + 1⟩ := by
  have shifted := rotateFiles_shifted buffer (Nat.le_refl _) holds.lined
  refine begin buffer ?_ (fun index kept => ?_) fun left leftKept right rightKept different => ?_
  · have free := shifted.free (by decide)
    rwa [logName_zero buffer] at free
  · rw [FileSystem.read, shifted.moved index kept, rotateFiles_data, List.getElem?_take_of_lt kept]
    exact holds.numbered (Nat.le_of_lt kept)
  · unfold FileSystem.Apart
    rw [shifted.moved left leftKept, shifted.moved right rightKept]
    exact holds.apart left (Nat.le_of_lt leftKept) right (Nat.le_of_lt rightKept) different

end Holds

/-- The log file is open and shows a log. -/
structure Shows (path : Path) (log : Logger) (files : Rotation Bytes) : Prop where
  placed : log.diag.path = path
  enabled : path ≠ []
  opened : ∃ fd, log.diag.file = some fd ∧ log.fs.fds fd = log.fs.names (logName path 0)
  holds : Holds path log.fs files

namespace Shows
variable {path : Path} {log : Logger} {files : Rotation Bytes}

theorem buffer (shows : Shows path log files) : path.length < 512 := shows.placed ▸ log.diag.buffer

theorem needsRotation_iff (shows : Shows path log files) (incomingLen : Nat) :
    needsRotation {} log incomingLen = true ↔
      ¬ Rotation.volume List.length files.current + incomingLen < diagLogRotateBytes := by
  have there := shows.holds.current
  rw [logName_zero shows.buffer] at there
  have size : files.current.flatten.length = Rotation.volume List.length files.current := List.length_flatten
  simp [needsRotation, shows.placed, shows.enabled, there, size]

theorem ensure (shows : Shows path log files) : ensureLogFile {} log = log := by
  obtain ⟨fd, opened, -⟩ := shows.opened
  simp [ensureLogFile, opened]

theorem rotate (shows : Shows path log files) {incomingLen : Nat} (due : needsRotation {} log incomingLen = true) :
    Shows path (ensureLogFile {} (rotateLogsIfNeeded {} log incomingLen))
      ⟨[], (files.current :: files.older).take diagLogRotateKeep, files.rotations + 1⟩ := by
  obtain ⟨fd, opened, -⟩ := shows.opened
  have rotated : rotateLogsIfNeeded {} log incomingLen =
      { log with fs := rotateFiles {} path diagLogRotateKeep (log.fs.close fd), diag := { log.diag with file := none } } := by
    simp only [rotateLogsIfNeeded, due, if_true, closeLogFile, opened, shows.placed]
  have reopened : ensureLogFile {} (rotateLogsIfNeeded {} log incomingLen) =
      { log with
        fs := (rotateFiles {} path diagLogRotateKeep (log.fs.close fd)).openAppend path
        diag := { log.diag with file := some (rotateFiles {} path diagLogRotateKeep (log.fs.close fd)).nextFd } } := by
    rw [rotated]
    simp [ensureLogFile, shows.placed, shows.enabled]
  rw [reopened]
  refine ⟨shows.placed, shows.enabled, ⟨_, rfl, ?_⟩, (shows.holds.close fd).rotate shows.buffer⟩
  rw [logName_zero shows.buffer, FileSystem.openAppend_fds, FileSystem.openAppend_names, Function.update_self]
  exact Function.update_self ..

theorem append (shows : Shows path log files) (line : Bytes) :
    Shows path (appendLogFile {} log line) { files with current := files.current ++ [line] } := by
  obtain ⟨fd, opened, denotes⟩ := shows.opened
  have appended : appendLogFile {} log line = { log with fs := log.fs.append fd line } := by
    simp only [appendLogFile, opened, List.take_length]
  rw [appended]
  refine ⟨shows.placed, shows.enabled, ⟨fd, opened, ?_⟩, shows.holds.append denotes line⟩
  rw [FileSystem.append_fds, FileSystem.append_names, denotes]

/-- A line is written as to a log of four files. -/
theorem write (shows : Shows path log files) (line : Bytes) :
    Shows path (diagWriteLine {} log line) (files.write List.length diagLogRotateBytes diagLogRotateKeep line) := by
  have shown : Shows path { log with stderr := log.stderr ++ line } files :=
    ⟨shows.placed, shows.enabled, shows.opened, shows.holds⟩
  have due := shown.needsRotation_iff line.length
  unfold diagWriteLine Rotation.write
  dsimp only
  cases full : needsRotation {} { log with stderr := log.stderr ++ line } line.length with
  | true =>
    rw [if_neg (due.mp full)]
    exact (shown.rotate full).append line
  | false =>
    have fits : Rotation.volume List.length files.current + line.length < diagLogRotateBytes := by
      rw [full] at due
      simpa using due
    have same : rotateLogsIfNeeded {} { log with stderr := log.stderr ++ line } line.length =
        { log with stderr := log.stderr ++ line } := by simp [rotateLogsIfNeeded, full]
    rw [if_pos fits, same, shown.ensure]
    exact shown.append line

end Shows

/-- Lines written one after the other, with calls that succeed. -/
def written (log : Logger) (lines : List Bytes) : Logger := lines.foldl (diagWriteLine {}) log

/-- How often that rotates the files. -/
def rotations (log : Logger) : List Bytes → Nat
  | [] => 0
  | line :: rest => (needsRotation {} log line.length).toNat + rotations (diagWriteLine {} log line) rest

theorem Shows.written {path : Path} {log : Logger} {files : Rotation Bytes} (shows : Shows path log files)
    (lines : List Bytes) :
    ∃ after, after = lines.foldl (Rotation.write List.length diagLogRotateBytes diagLogRotateKeep) files ∧
      Shows path (written log lines) after ∧ after.rotations = files.rotations + rotations log lines := by
  induction lines generalizing log files with
  | nil => exact ⟨files, rfl, shows, rfl⟩
  | cons line rest ih =>
    obtain ⟨after, rfl, shown, counted⟩ := ih (shows.write line)
    refine ⟨_, rfl, shown, ?_⟩
    have due := shows.needsRotation_iff line.length
    rw [List.foldl_cons, counted, rotations, Rotation.write]
    split
    next fits =>
      rw [Bool.eq_false_iff.mpr fun full => due.mp full fits, Bool.toNat_false, Nat.zero_add]
    next full =>
      rw [due.mpr full, Bool.toNat_true, Nat.add_assoc]

/-- What is in the file with this number. -/
def logContent (log : Logger) (index : Nat) : Bytes := (log.fs.read (logName log.diag.path index)).getD []

/-- All that is left of the log, oldest first. -/
def retained (log : Logger) : Bytes := logContent log 3 ++ logContent log 2 ++ logContent log 1 ++ logContent log 0

theorem Shows.logContent_eq {path : Path} {log : Logger} {files : Rotation Bytes} (shows : Shows path log files)
    {index : Nat}
    (kept : index ≤ diagLogRotateKeep) : logContent log index = ((files.current :: files.older)[index]?.getD []).flatten := by
  rw [logContent, shows.placed, shows.holds.numbered kept]
  cases (files.current :: files.older)[index]? <;> rfl

theorem Shows.retained_eq {path : Path} {log : Logger} {files : Rotation Bytes} (shows : Shows path log files)
    (few : files.older.length ≤ diagLogRotateKeep) : retained log = files.kept.flatten := by
  unfold retained
  rw [shows.logContent_eq (by decide), shows.logContent_eq (by decide), shows.logContent_eq (by decide),
    shows.logContent_eq (by decide)]
  obtain ⟨current, older, count⟩ := files
  match older, few with
  | [], _ => simp [Rotation.kept]
  | [first], _ => simp [Rotation.kept]
  | [first, second], _ => simp [Rotation.kept]
  | [first, second, third], _ => simp [Rotation.kept]

/-- After these lines all files are smaller than the limit and hold the newest
lines, whole ones, and all lines as long as there were less than four rotations. -/
structure KeepsNewest (start : Logger) (lines : List Bytes) : Prop where
  bounded : ∀ index ≤ diagLogRotateKeep, (logContent (written start lines) index).length < diagLogRotateBytes
  newest : ∃ lost, retained (written start lines) = (lines.drop lost).flatten
  whole : rotations start lines < 4 → retained (written start lines) = lines.flatten

private theorem keepsNewest {path : Path} {start : Logger} (shows : Shows path start .start) {lines : List Bytes}
    (short : ∀ line ∈ lines, line.length < 1400) : KeepsNewest start lines := by
  have small : ∀ line ∈ lines, line.length < diagLogRotateBytes := fun line member =>
    Nat.lt_trans (short line member) (by decide)
  have keeps := @Rotation.keeps_run _ List.length diagLogRotateBytes diagLogRotateKeep (by decide) lines small
  obtain ⟨files, rfl, shown, counted⟩ := shows.written lines
  have retains := shown.retained_eq (by rw [keeps.files]; exact Nat.min_le_right ..)
  refine ⟨fun index kept => ?_, ?_, fun few => ?_⟩
  · rw [shown.logContent_eq kept, List.length_flatten]
    cases found : (_ :: _)[index]? with
    | none => decide
    | some file => exact keeps.bounded file (List.mem_of_getElem? found)
  · obtain ⟨lost, split⟩ := keeps.newest
    have rest : lines.drop lost.length = Rotation.kept _ := split ▸ List.drop_left
    exact ⟨lost.length, retains.trans (congrArg List.flatten rest.symm)⟩
  · rw [retains, keeps.whole]
    rw [counted]
    exact (Nat.zero_add _).symm ▸ Nat.le_of_lt_succ few

section program
variable {fs : FileSystem} {file : Bytes} (levelEnv wireEnv : Option Bytes)

private theorem diagInit_shows (named : file ≠ [])
    (clean : ∀ index ≤ diagLogRotateKeep, fs.read (logName (snprintfCut 512 file) index) = none) :
    Shows (snprintfCut 512 file) (diagInit {} fs levelEnv wireEnv (some file)) .start := by
  have enabled : snprintfCut 512 file ≠ [] := by simp [snprintfCut, named]
  have buffer : (snprintfCut 512 file).length < 512 := Nat.lt_of_le_of_lt (List.length_take_le _ _) (by decide)
  have free {index : Nat} (kept : index ≤ diagLogRotateKeep) : fs.names (logName (snprintfCut 512 file) index) = none :=
    names_eq_none_iff.mpr (clean index kept)
  have unnamed : fs.names (snprintfCut 512 file) = none := by
    have unnamed := free (Nat.zero_le _)
    rwa [logName_zero buffer] at unnamed
  have opened : (diagInit {} fs levelEnv wireEnv (some file)).fs = fs.openAppend (snprintfCut 512 file) := by
    simp [diagInit, ensureLogFile, DiagState.zero, enabled]
  refine ⟨by simp [diagInit, ensureLogFile, enabled, DiagState.zero], enabled, ⟨fs.nextFd, ?_, ?_⟩, ?_⟩
  · simp [diagInit, ensureLogFile, enabled, DiagState.zero]
  · rw [opened, logName_zero buffer, FileSystem.openAppend_fds, FileSystem.openAppend_names, Function.update_self]
    exact Function.update_self ..
  · rw [opened]
    refine .begin buffer unnamed (fun index kept => clean (index + 1) kept) fun left leftKept _ _ _ => ?_
    exact .inl (free leftKept)

/-- A program that starts without log files loses only the oldest lines. -/
theorem log_keeps_newest (named : file ≠ [])
    (clean : ∀ index ≤ diagLogRotateKeep, fs.read (logName (snprintfCut 512 file) index) = none)
    {lines : List Bytes} (short : ∀ line ∈ lines, line ≠ [] ∧ line.length < 1400) :
    KeepsNewest (diagInit {} fs levelEnv wireEnv (some file)) lines :=
  keepsNewest (diagInit_shows levelEnv wireEnv named clean) fun line member => (short line member).2

/-- Enough lines of the greatest length for four rotations. -/
def longLog : List Bytes := List.replicate 3000 (List.replicate 1399 65)

theorem log_keeps_newest_long :
    KeepsNewest (diagInit {} .empty none none (some (ascii "log"))) longLog ∧
      4 ≤ rotations (diagInit {} .empty none none (some (ascii "log"))) longLog ∧
      (retained (written (diagInit {} .empty none none (some (ascii "log"))) longLog)).length < longLog.flatten.length := by
  have keeps : KeepsNewest (diagInit {} .empty none none (some (ascii "log"))) longLog := by
    refine log_keeps_newest none none (by decide) (fun _ _ => rfl) fun line member => ?_
    have length : line.length = 1399 := by rw [List.eq_of_mem_replicate member, List.length_replicate]
    exact ⟨List.ne_nil_of_length_pos (by omega), by omega⟩
  have large : longLog.flatten.length = 3000 * 1399 := by
    simp only [longLog, List.length_flatten, List.map_replicate, List.length_replicate, List.sum_replicate_nat]
  have lost : (retained (written (diagInit {} .empty none none (some (ascii "log"))) longLog)).length <
      longLog.flatten.length := by
    have newest := keeps.bounded 0 (by decide)
    have second := keeps.bounded 1 (by decide)
    have third := keeps.bounded 2 (by decide)
    have oldest := keeps.bounded 3 (by decide)
    simp only [retained, List.length_append, large]
    unfold diagLogRotateBytes at newest second third oldest
    omega
  refine ⟨keeps, ?_, lost⟩
  by_contra few
  rw [keeps.whole (Nat.lt_of_not_le few)] at lost
  exact Nat.lt_irrefl _ lost

end program

section entries

private theorem diagWriteLine_settings (calls : LogCalls) (log : Logger) (line : Bytes) :
    (diagWriteLine calls log line).diag.initialized = log.diag.initialized ∧
      (diagWriteLine calls log line).diag.level = log.diag.level := by
  have closed (log : Logger) : (closeLogFile log).diag.initialized = log.diag.initialized ∧
      (closeLogFile log).diag.level = log.diag.level := by
    unfold closeLogFile
    split <;> exact ⟨rfl, rfl⟩
  have rotated (log : Logger) : (rotateLogsIfNeeded calls log line.length).diag.initialized = log.diag.initialized ∧
      (rotateLogsIfNeeded calls log line.length).diag.level = log.diag.level := by
    unfold rotateLogsIfNeeded
    split
    · exact closed log
    · exact ⟨rfl, rfl⟩
  have ensured (log : Logger) : (ensureLogFile calls log).diag.initialized = log.diag.initialized ∧
      (ensureLogFile calls log).diag.level = log.diag.level := by
    unfold ensureLogFile
    split
    · exact ⟨rfl, rfl⟩
    · split <;> exact ⟨rfl, rfl⟩
  have both := ensured (rotateLogsIfNeeded calls { log with stderr := log.stderr ++ line } line.length)
  have before := rotated { log with stderr := log.stderr ++ line }
  unfold diagWriteLine appendLogFile
  dsimp only
  split <;> exact ⟨both.1.trans before.1, both.2.trans before.2⟩

private theorem logLine_short (entry : LogEntry) : (logLine entry).length < 1400 :=
  Nat.lt_of_le_of_lt (List.length_take_le _ _) (by decide)

def shownLines (level : DiagLevel) (entries : List LogEntry) : List Bytes :=
  (entries.filter fun entry => entry.level.code ≤ level.code).map logLine

private theorem diagLog_run {log : Logger} (initialized : log.diag.initialized = true) (entries : List LogEntry) :
    entries.foldl (diagLog {}) log = written log (shownLines log.diag.level entries) := by
  induction entries generalizing log with
  | nil => rfl
  | cons entry rest ih =>
    rw [List.foldl_cons]
    by_cases shown : entry.level.code ≤ log.diag.level.code
    · have step : diagLog {} log entry = diagWriteLine {} log (logLine entry) := by
        simp [diagLog, initialized, Nat.not_lt.mpr shown]
      have first : shownLines log.diag.level (entry :: rest) = logLine entry :: shownLines log.diag.level rest := by
        simp [shownLines, shown]
      obtain ⟨same, level⟩ := diagWriteLine_settings {} log (logLine entry)
      rw [step, ih (same.trans initialized), level, first]
      rfl
    · have step : diagLog {} log entry = log := by simp [diagLog, Nat.not_le.mp shown]
      have skipped : shownLines log.diag.level (entry :: rest) = shownLines log.diag.level rest := by
        simp [shownLines, shown]
      rw [step, ih initialized, skipped]

/-- So the files of a program hold the newest of the lines it has logged. -/
theorem diagLog_keeps_newest {fs : FileSystem} {file : Bytes} (levelEnv wireEnv : Option Bytes) (named : file ≠ [])
    (clean : ∀ index ≤ diagLogRotateKeep, fs.read (logName (snprintfCut 512 file) index) = none) (entries : List LogEntry) :
    ∃ lost, retained (entries.foldl (diagLog {}) (diagInit {} fs levelEnv wireEnv (some file))) =
      ((shownLines (parseLevel levelEnv) entries).drop lost).flatten := by
  have shows := diagInit_shows levelEnv wireEnv named clean
  have level : (diagInit {} fs levelEnv wireEnv (some file)).diag.level = parseLevel levelEnv := by
    unfold diagInit ensureLogFile
    dsimp only
    split
    · rfl
    · split <;> rfl
  rw [diagLog_run rfl, level]
  refine (keepsNewest shows fun line member => ?_).newest
  obtain ⟨entry, -, rfl⟩ := List.mem_map.mp member
  exact logLine_short entry

end entries

end Luagent.Proofs.LogRotation
