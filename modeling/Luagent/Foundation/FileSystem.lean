import Luagent.Foundation.Bytes
import Mathlib.Logic.Function.Basic

/-! A POSIX-like file system: names denote files, open descriptors denote files,
and a file lives on under its descriptors when its name moves or goes away.
Operations are those that succeed; a caller decides which calls fail. -/

namespace Foundation

abbrev Path := Bytes

structure FileSystem where
  /-- the file a name denotes -/
  names : Path → Option Nat
  data : Nat → Bytes
  /-- the file an open descriptor denotes -/
  fds : Nat → Option Nat
  /-- how often a descriptor was passed to `close` -/
  closes : Nat → Nat
  /-- files and descriptors are numbered as they are created -/
  files : Nat
  opened : Nat
  named : ∀ {path file}, names path = some file → file < files
  described : ∀ {fd file}, fds fd = some file → file < files
  numbered : ∀ {fd file}, fds fd = some file → fd < opened
  unclosed : ∀ {fd}, opened ≤ fd → closes fd = 0

namespace FileSystem

/-- Whether a path names a file, and with which content. -/
def read (fs : FileSystem) (path : Path) : Option Bytes := (fs.names path).map fs.data

/-- The descriptor the next `open` returns. -/
def nextFd (fs : FileSystem) : Nat := fs.opened

/-- A fresh descriptor for a file that exists. -/
def describe (fs : FileSystem) (file : Nat) (present : file < fs.files) : FileSystem :=
  { fs with
    fds := Function.update fs.fds fs.opened (some file)
    opened := fs.opened + 1
    described := by
      intro fd other found
      by_cases same : fd = fs.opened
      · subst same
        rw [Function.update_self] at found
        exact Option.some.inj found ▸ present
      · rw [Function.update_of_ne same] at found
        exact fs.described found
    numbered := by
      intro fd other found
      by_cases same : fd = fs.opened
      · omega
      · rw [Function.update_of_ne same] at found
        have := fs.numbered found
        omega
    unclosed := fun later => fs.unclosed (by omega) }

/-- Opening with `O_TRUNC` empties the file for all its names and descriptors. -/
def truncate (fs : FileSystem) (file : Nat) : FileSystem :=
  { fs with data := Function.update fs.data file [] }

/-- A new empty file under a name that was free. -/
def link (fs : FileSystem) (path : Path) : FileSystem :=
  { fs with
    names := Function.update fs.names path (some fs.files)
    data := Function.update fs.data fs.files []
    files := fs.files + 1
    named := by
      intro other file found
      by_cases same : other = path
      · subst same
        rw [Function.update_self] at found
        cases found
        omega
      · rw [Function.update_of_ne same] at found
        have := fs.named found
        omega
    described := fun found => Nat.lt_succ_of_lt (fs.described found) }

/-- `open` with `O_CREAT | O_TRUNC | O_WRONLY`. -/
def create (fs : FileSystem) (path : Path) : FileSystem :=
  match found : fs.names path with
  | some file => (fs.truncate file).describe file (fs.named found)
  | none => (fs.link path).describe fs.files (Nat.lt_succ_self _)

/-- `open` with `O_RDONLY`. -/
def openRead (fs : FileSystem) (path : Path) : Option FileSystem :=
  match found : fs.names path with
  | some file => some (fs.describe file (fs.named found))
  | none => none

/-- `open` with `O_CREAT | O_APPEND | O_WRONLY`. -/
def openAppend (fs : FileSystem) (path : Path) : FileSystem :=
  match found : fs.names path with
  | some file => fs.describe file (fs.named found)
  | none => (fs.link path).describe fs.files (Nat.lt_succ_self _)

/-- A positioned write through a descriptor. -/
def pwrite (fs : FileSystem) (fd offset : Nat) (bytes : Bytes) : FileSystem :=
  match fs.fds fd with
  | some file => { fs with data := Function.update fs.data file (writeAt (fs.data file) offset bytes) }
  | none => fs

/-- The content behind a descriptor. -/
def content (fs : FileSystem) (fd : Nat) : Bytes := ((fs.fds fd).map fs.data).getD []

/-- A write through a descriptor that was opened for appending. -/
def append (fs : FileSystem) (fd : Nat) (bytes : Bytes) : FileSystem := fs.pwrite fd (fs.content fd).length bytes

def close (fs : FileSystem) (fd : Nat) : FileSystem :=
  if opened : fd < fs.opened then
    { fs with
      fds := Function.update fs.fds fd none
      closes := Function.update fs.closes fd (fs.closes fd + 1)
      described := by
        intro other file found
        by_cases same : other = fd
        · subst same
          simp at found
        · rw [Function.update_of_ne same] at found
          exact fs.described found
      numbered := by
        intro other file found
        by_cases same : other = fd
        · subst same
          simp at found
        · rw [Function.update_of_ne same] at found
          exact fs.numbered found
      unclosed := by
        intro other later
        rw [Function.update_of_ne (by omega)]
        exact fs.unclosed later }
  else fs

/-- Removing a name keeps the file for its descriptors. -/
def unlink (fs : FileSystem) (path : Path) : FileSystem :=
  { fs with
    names := Function.update fs.names path none
    named := by
      intro other file found
      by_cases same : other = path
      · subst same
        simp at found
      · rw [Function.update_of_ne same] at found
        exact fs.named found }

/-- Moving a name replaces what the new name denoted. Two names of one file stay
as they are. -/
def rename (fs : FileSystem) (source target : Path) : FileSystem :=
  match found : fs.names source with
  | none => fs
  | some file =>
    if fs.names target = some file then fs
    else
      { fs with
        names := Function.update (Function.update fs.names source none) target (some file)
        named := by
          intro other moved here
          by_cases same : other = target
          · subst same
            rw [Function.update_self] at here
            exact Option.some.inj here ▸ fs.named found
          · rw [Function.update_of_ne same] at here
            by_cases gone : other = source
            · subst gone
              simp at here
            · rw [Function.update_of_ne gone] at here
              exact fs.named here }

/-- A file system without files. -/
def empty : FileSystem where
  names := fun _ => none
  data := fun _ => []
  fds := fun _ => none
  closes := fun _ => 0
  files := 0
  opened := 0
  named := by simp
  described := by simp
  numbered := by simp
  unclosed := by simp

section effects
variable (fs : FileSystem)

/-- The file an `open` that creates or truncates leads to. -/
def target (path : Path) : Nat := (fs.names path).getD fs.files

theorem target_of_some {path : Path} {file : Nat} (found : fs.names path = some file) : fs.target path = file := by
  simp [target, found]

@[simp] theorem create_names (path : Path) :
    (fs.create path).names = Function.update fs.names path (some (fs.target path)) := by
  unfold create
  split
  next file found => simp [describe, truncate, target_of_some fs found, ← found]
  next found => simp [describe, link, target, found]

@[simp] theorem create_data (path : Path) :
    (fs.create path).data = Function.update fs.data (fs.target path) [] := by
  unfold create
  split
  next file found => simp [describe, truncate, target_of_some fs found]
  next found => simp [describe, link, target, found]

@[simp] theorem create_fds (path : Path) :
    (fs.create path).fds = Function.update fs.fds fs.opened (some (fs.target path)) := by
  unfold create
  split
  next file found => simp [describe, truncate, target_of_some fs found]
  next found => simp [describe, link, target, found]

@[simp] theorem openAppend_names (path : Path) :
    (fs.openAppend path).names = Function.update fs.names path (some (fs.target path)) := by
  unfold openAppend
  split
  next file found => simp [describe, target_of_some fs found, ← found]
  next found => simp [describe, link, target, found]

/-- A file that is there keeps its content. -/
@[simp] theorem openAppend_data (path : Path) :
    (fs.openAppend path).data = Function.update fs.data (fs.target path) ((fs.read path).getD []) := by
  unfold openAppend
  split
  next file found => simp [describe, target_of_some fs found, read, found]
  next found => simp [describe, link, target, read, found]

@[simp] theorem openAppend_fds (path : Path) :
    (fs.openAppend path).fds = Function.update fs.fds fs.opened (some (fs.target path)) := by
  unfold openAppend
  split
  next file found => simp [describe, target_of_some fs found]
  next found => simp [describe, link, target, found]

@[simp] theorem unlink_names (path : Path) : (fs.unlink path).names = Function.update fs.names path none := rfl
@[simp] theorem unlink_data (path : Path) : (fs.unlink path).data = fs.data := rfl
@[simp] theorem unlink_fds (path : Path) : (fs.unlink path).fds = fs.fds := rfl

@[simp] theorem close_names (fd : Nat) : (fs.close fd).names = fs.names := by
  unfold close
  split <;> rfl

@[simp] theorem close_data (fd : Nat) : (fs.close fd).data = fs.data := by
  unfold close
  split <;> rfl

theorem close_fds_self (fd : Nat) : (fs.close fd).fds fd = none := by
  unfold close
  split
  · simp
  next unopened =>
    rcases found : fs.fds fd with _ | file
    · rfl
    · exact absurd (fs.numbered found) unopened

theorem close_fds_of_ne {fd other : Nat} (different : other ≠ fd) : (fs.close fd).fds other = fs.fds other := by
  unfold close
  split
  · simp [different]
  · rfl

@[simp] theorem pwrite_names (fd offset : Nat) (bytes : Bytes) : (fs.pwrite fd offset bytes).names = fs.names := by
  unfold pwrite
  split <;> rfl

@[simp] theorem pwrite_fds (fd offset : Nat) (bytes : Bytes) : (fs.pwrite fd offset bytes).fds = fs.fds := by
  unfold pwrite
  split <;> rfl

theorem pwrite_data {fd file : Nat} (described : fs.fds fd = some file) (offset : Nat) (bytes : Bytes) :
    (fs.pwrite fd offset bytes).data = Function.update fs.data file (writeAt (fs.data file) offset bytes) := by
  unfold pwrite
  split
  next other found => rw [described] at found; cases found; rfl
  next found => rw [described] at found; cases found

@[simp] theorem append_names (fd : Nat) (bytes : Bytes) : (fs.append fd bytes).names = fs.names := pwrite_names ..

@[simp] theorem append_fds (fd : Nat) (bytes : Bytes) : (fs.append fd bytes).fds = fs.fds := pwrite_fds ..

theorem append_data {fd file : Nat} (described : fs.fds fd = some file) (bytes : Bytes) :
    (fs.append fd bytes).data = Function.update fs.data file (fs.data file ++ bytes) := by
  have behind : fs.content fd = fs.data file := by simp [content, described]
  rw [append, pwrite_data fs described, behind, writeAt_length]

@[simp] theorem rename_data (source target : Path) : (fs.rename source target).data = fs.data := by
  unfold rename
  split
  · rfl
  · split <;> rfl

@[simp] theorem rename_fds (source target : Path) : (fs.rename source target).fds = fs.fds := by
  unfold rename
  split
  · rfl
  · split <;> rfl

/-- Afterwards the new name denotes what the old one did. -/
theorem rename_names_target {source target : Path} {file : Nat} (found : fs.names source = some file) :
    (fs.rename source target).names target = some file := by
  unfold rename
  split
  next absent => rw [found] at absent; cases absent
  next other present =>
    rw [found] at present
    cases present
    split
    next same => exact same
    · simp

/-- The old name is free afterwards, unless the new one was another name of the file. -/
theorem rename_names_source {source target : Path} {file : Nat} (found : fs.names source = some file)
    (other : fs.names target ≠ some file) (different : source ≠ target) : (fs.rename source target).names source = none := by
  unfold rename
  split
  next absent => rw [found] at absent; cases absent
  next moved present =>
    rw [found] at present
    cases present
    rw [if_neg other]
    simp [different]

end effects

section reads
variable (fs : FileSystem) {path name : Path}

theorem read_close (fd : Nat) (name : Path) : (fs.close fd).read name = fs.read name := by
  rw [read, read, close_names, close_data]

theorem read_unlink (path name : Path) : (fs.unlink path).read name = if name = path then none else fs.read name := by
  rw [read, unlink_names, unlink_data, read]
  split
  next same => rw [same, Function.update_self, Option.map_none]
  next other => rw [Function.update_of_ne other]

theorem read_create (path : Path) : (fs.create path).read path = some [] := by
  simp [read]

theorem read_openAppend (path : Path) : (fs.openAppend path).read path = some ((fs.read path).getD []) := by
  simp [read]

theorem read_openAppend_of_ne (other : name ≠ path) : (fs.openAppend path).read name = fs.read name := by
  unfold openAppend
  split
  · rfl
  next absent =>
    have linked : (fs.link path).names name = fs.names name := Function.update_of_ne other ..
    change ((fs.link path).names name).map (fs.link path).data = (fs.names name).map fs.data
    rw [linked]
    refine Option.map_congr fun file found => ?_
    have older := fs.named found
    exact Function.update_of_ne (Nat.ne_of_lt older) ..

theorem read_append {fd file : Nat} (described : fs.fds fd = some file) (named : fs.names path = some file)
    (bytes : Bytes) :
    (fs.append fd bytes).read path = some (fs.data file ++ bytes) := by
  rw [read, append_names, append_data fs described, named, Option.map_some, Function.update_self]

/-- What is appended to a file is not seen under names of other files. -/
theorem read_append_of_ne {fd file : Nat} (described : fs.fds fd = some file) (other : fs.names name ≠ some file)
    (bytes : Bytes) :
    (fs.append fd bytes).read name = fs.read name := by
  rw [read, append_names, append_data fs described, read]
  refine Option.map_congr fun found denoted => ?_
  refine Function.update_of_ne ?_ ..
  rintro rfl
  exact other denoted

/-- A file that holds nothing is not changed under its other names. -/
theorem read_create_of_ne (blank : fs.read path = none ∨ fs.read path = some []) (other : name ≠ path) :
    (fs.create path).read name = fs.read name := by
  rw [read, read, create_names, create_data, Function.update_of_ne other]
  cases found : fs.names name with
  | none => rfl
  | some file =>
    rw [Option.map_some, Option.map_some]
    by_cases same : file = fs.target path
    · subst same
      cases there : fs.names path with
      | none =>
        have older := fs.named found
        rw [target, there, Option.getD_none] at older
        omega
      | some file =>
        rw [read, there, Option.map_some] at blank
        rw [target_of_some fs there, Function.update_self, ← blank.resolve_left (by simp)]
    · rw [Function.update_of_ne same]

end reads

@[simp] theorem close_files (fs : FileSystem) (fd : Nat) : (fs.close fd).files = fs.files := by
  unfold close
  split <;> rfl

@[simp] theorem pwrite_files (fs : FileSystem) (fd offset : Nat) (bytes : Bytes) :
    (fs.pwrite fd offset bytes).files = fs.files := by
  unfold pwrite
  split <;> rfl

theorem files_le_create (fs : FileSystem) (path : Path) : fs.files ≤ (fs.create path).files := by
  unfold create
  split
  · exact Nat.le_refl _
  · exact Nat.le_succ _

/-- A descriptor that is closed never comes back. -/
structure Forgets (before after : FileSystem) : Prop where
  opened : before.opened ≤ after.opened
  fds : ∀ fd, fd < before.opened → before.fds fd = none → after.fds fd = none

namespace Forgets
variable {before middle after : FileSystem}

theorem of_fds (opened : after.opened = before.opened) (fds : after.fds = before.fds) : Forgets before after :=
  ⟨Nat.le_of_eq opened.symm, fun _ _ closed => by rw [fds]; exact closed⟩

theorem trans (first : Forgets before middle) (second : Forgets middle after) : Forgets before after :=
  ⟨Nat.le_trans first.opened second.opened, fun fd old closed =>
    second.fds fd (Nat.lt_of_lt_of_le old first.opened) (first.fds fd old closed)⟩

theorem describe (fs : FileSystem) (file : Nat) (present : file < fs.files) : Forgets fs (fs.describe file present) :=
  ⟨Nat.le_succ _, fun _ old closed => (Function.update_of_ne (Nat.ne_of_lt old) _ _).trans closed⟩

theorem create (fs : FileSystem) (path : Path) : Forgets fs (fs.create path) := by
  unfold FileSystem.create
  split
  · exact .trans (by exact .of_fds rfl rfl) (describe (fs.truncate _) _ _)
  · exact .trans (by exact .of_fds rfl rfl) (describe (fs.link path) _ _)

theorem close (fs : FileSystem) (fd : Nat) : Forgets fs (fs.close fd) := by
  refine ⟨?_, fun other _ closed => ?_⟩
  · unfold FileSystem.close
    split <;> exact Nat.le_refl _
  · by_cases same : other = fd
    · rw [same]
      exact close_fds_self fs fd
    · rw [close_fds_of_ne fs same]
      exact closed

theorem pwrite (fs : FileSystem) (fd offset : Nat) (bytes : Bytes) : Forgets fs (fs.pwrite fd offset bytes) := by
  refine .of_fds ?_ (by simp)
  unfold FileSystem.pwrite
  split <;> rfl

end Forgets

/-- Names, contents and descriptors stay; new descriptors may appear. -/
structure Preserves (before after : FileSystem) : Prop where
  names : after.names = before.names
  data : after.data = before.data
  files : after.files = before.files
  fds : ∀ fd file, before.fds fd = some file → after.fds fd = some file
  closed : Forgets before after

namespace Preserves
variable {before middle after : FileSystem}

theorem refl (fs : FileSystem) : Preserves fs fs := ⟨rfl, rfl, rfl, fun _ _ found => found, .of_fds rfl rfl⟩

theorem trans (first : Preserves before middle) (second : Preserves middle after) : Preserves before after :=
  ⟨second.names.trans first.names, second.data.trans first.data, second.files.trans first.files,
    fun fd file found => second.fds fd file (first.fds fd file found), first.closed.trans second.closed⟩

end Preserves

/-- A name that denotes a file can be opened, and the descriptor denotes the file. -/
theorem openRead_of_named {fs : FileSystem} {path : Path} {file : Nat} (named : fs.names path = some file) :
    ∃ opened, fs.openRead path = some opened ∧ opened.fds fs.nextFd = some file ∧ opened.data = fs.data := by
  unfold openRead
  split
  next other found =>
    cases named.symm.trans found
    exact ⟨_, rfl, by simp [describe, nextFd], rfl⟩
  next absent =>
    rw [named] at absent
    cases absent

theorem openRead_of_free {fs : FileSystem} {path : Path} (free : fs.names path = none) : fs.openRead path = none := by
  unfold openRead
  split
  next found =>
    rw [free] at found
    cases found
  next => rfl

theorem openRead_opened {fs opened : FileSystem} {path : Path} (reading : fs.openRead path = some opened) :
    opened.opened = fs.opened + 1 := by
  unfold openRead at reading
  split at reading
  · cases reading
    rfl
  · cases reading

/-- A file opened for reading and closed again leaves no trace. -/
theorem openRead_close_preserves {fs opened : FileSystem} {path : Path} (reading : fs.openRead path = some opened) :
    Preserves fs (opened.close fs.nextFd) := by
  unfold openRead at reading
  split at reading
  next file found =>
    cases reading
    refine ⟨by simp [describe], by simp [describe], by simp [describe], ?_, (Forgets.describe ..).trans (.close ..)⟩
    intro fd file described
    have older : fd ≠ fs.nextFd := by
      have := fs.numbered described
      unfold nextFd
      omega
    rw [close_fds_of_ne _ older]
    simpa [describe, Function.update_of_ne (show fd ≠ fs.opened from older)] using described
  next => cases reading

/-- At most a file opened for reading and closed again. -/
inductive Visits (before : FileSystem) : FileSystem → Prop where
  | nothing : Visits before before
  | opened {path : Path} {opened : FileSystem} (reading : before.openRead path = some opened) :
      Visits before (opened.close before.nextFd)

theorem Visits.preserves {before after : FileSystem} (visits : Visits before after) : Preserves before after := by
  cases visits with
  | nothing => exact .refl before
  | opened reading => exact openRead_close_preserves reading

/-- Two names that do not denote one file. -/
def Apart (fs : FileSystem) (path part : Path) : Prop := fs.names path = none ∨ fs.names path ≠ fs.names part

theorem Apart.symm {fs : FileSystem} {path part : Path} (apart : fs.Apart path part) : fs.Apart part path := by
  rcases apart with absent | unequal
  · by_cases free : fs.names part = none
    · exact .inl free
    · exact .inr (absent ▸ free)
  · exact .inr unequal.symm

/-- Moving a name that is apart from another one onto it leaves the old name free. -/
theorem Apart.rename {fs : FileSystem} {path part : Path} (apart : fs.Apart path part) (different : path ≠ part) :
    (fs.rename part path).Apart path part := by
  unfold FileSystem.rename
  split
  · exact apart
  next file found =>
    split
    next same =>
      rcases apart with absent | unequal
      · rw [absent] at same
        cases same
      · exact absurd (same.trans found.symm) unequal
    next => exact .inr (by simp [different.symm])

/-- A name moves onto another one that is behind it: where the first denotes no
file, neither does the second. -/
theorem rename_names_behind {fs : FileSystem} {source target : Path} (apart : fs.Apart source target)
    (behind : fs.names source = none → fs.names target = none) :
    (fs.rename source target).names =
      Function.update (Function.update fs.names source none) target (fs.names source) := by
  unfold FileSystem.rename
  split
  next absent => rw [absent, ← absent, Function.update_eq_self, absent, ← behind absent, Function.update_eq_self]
  next file found =>
    rw [if_neg]
    · exact congrArg (Function.update _ target) found.symm
    · intro same
      rcases apart with absent | unequal
      · rw [found] at absent
        cases absent
      · exact unequal (found.trans same.symm)

/-- At most the name `part` and the file behind it change. -/
structure Spares (part : Path) (before after : FileSystem) : Prop where
  names : ∀ other, other ≠ part → after.names other = before.names other
  data : ∀ file, file < before.files → before.names part ≠ some file → after.data file = before.data file
  part : ∀ file, after.names part = some file → before.names part = some file ∨ before.files ≤ file
  files : before.files ≤ after.files
  closed : Forgets before after

namespace Spares
variable {part : Path} {before middle after : FileSystem}

theorem of_names (names : after.names = before.names) (data : after.data = before.data)
    (files : after.files = before.files) (closed : Forgets before after) : Spares part before after :=
  ⟨fun other _ => congrFun names other, fun file _ _ => congrFun data file,
    fun _ found => .inl (names ▸ found), Nat.le_of_eq files.symm, closed⟩

theorem of_preserves (preserved : Preserves before after) : Spares part before after :=
  of_names preserved.names preserved.data preserved.files preserved.closed

theorem refl (fs : FileSystem) : Spares part fs fs := of_preserves (.refl fs)

theorem trans (first : Spares part before middle) (second : Spares part middle after) : Spares part before after where
  names other different := (second.names other different).trans (first.names other different)
  data file old other := by
    have apart : middle.names part ≠ some file := by
      intro found
      rcases first.part file found with same | fresh
      · exact other same
      · omega
    rw [second.data file (Nat.lt_of_lt_of_le old first.files) apart, first.data file old other]
  part file found := by
    rcases second.part file found with same | fresh
    · exact first.part file same
    · exact .inr (Nat.le_trans first.files fresh)
  files := Nat.le_trans first.files second.files
  closed := first.closed.trans second.closed

theorem create (fs : FileSystem) (part : Path) : Spares part fs (fs.create part) where
  names other different := by simp [different]
  data file old other := by
    have apart : file ≠ fs.target part := by
      unfold target
      cases found : fs.names part with
      | none => simp only [Option.getD_none]; omega
      | some named => rintro rfl; exact other found
    simp [apart]
  part file found := by
    simp only [create_names, Function.update_self, Option.some.injEq] at found
    subst found
    unfold target
    cases found : fs.names part with
    | none => exact .inr (Nat.le_refl _)
    | some named => exact .inl rfl
  files := files_le_create fs part
  closed := .create fs part

theorem unlink (fs : FileSystem) (part : Path) : Spares part fs (fs.unlink part) where
  names other different := by simp [different]
  data _ _ _ := rfl
  part file found := by simp at found
  files := Nat.le_refl _
  closed := .of_fds rfl rfl

theorem close (fs : FileSystem) (part : Path) (fd : Nat) : Spares part fs (fs.close fd) where
  names _ _ := by simp
  data _ _ _ := by simp
  part _ found := .inl (by simpa using found)
  files := by simp
  closed := .close fs fd

theorem pwrite {fs : FileSystem} {fd file : Nat} (described : fs.fds fd = some file)
    (named : fs.names part = some file) (offset : Nat) (bytes : Bytes) :
    Spares part fs (fs.pwrite fd offset bytes) where
  names _ _ := by simp
  data other _ apart := by
    have different : other ≠ file := by
      rintro rfl
      exact apart named
    simp [pwrite_data fs described, different]
  part _ found := .inl (by simpa using found)
  files := by simp
  closed := .pwrite fs fd offset bytes

/-- A name that is not another name of the file behind `part` stays so. -/
theorem apart (spared : Spares part before after) {path : Path} (different : path ≠ part)
    (apart : before.Apart path part) : after.Apart path part := by
  unfold Apart at *
  rw [spared.names path different]
  rcases apart with absent | unequal
  · exact .inl absent
  · cases found : before.names path with
    | none => exact .inl rfl
    | some file =>
      refine .inr fun same => ?_
      rcases spared.part file same.symm with behind | fresh
      · exact unequal (found.trans behind.symm)
      · have := before.named found
        omega

/-- Such a name keeps its content. -/
theorem read (spared : Spares part before after) {path : Path} (different : path ≠ part)
    (apart : before.Apart path part) : after.read path = before.read path := by
  unfold FileSystem.read
  rw [spared.names path different]
  cases found : before.names path with
  | none => rfl
  | some file =>
    have other : before.names part ≠ some file := by
      rcases apart with absent | unequal
      · rw [found] at absent
        cases absent
      · exact fun same => unequal (found.trans same.symm)
    simp [spared.data file (before.named found) other]

end Spares

@[simp] theorem create_opened (fs : FileSystem) (path : Path) : (fs.create path).opened = fs.opened + 1 := by
  unfold create
  split <;> rfl

@[simp] theorem close_opened (fs : FileSystem) (fd : Nat) : (fs.close fd).opened = fs.opened := by
  unfold close
  split <;> rfl

theorem close_closes {fs : FileSystem} {fd : Nat} (opened : fd < fs.opened) :
    (fs.close fd).closes = Function.update fs.closes fd (fs.closes fd + 1) := by
  unfold close
  rw [dif_pos opened]

end FileSystem
end Foundation
