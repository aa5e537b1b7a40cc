import Luagent.Foundation.FileSystem

/-! A file system that several owners use. Each of them has at most one descriptor and
some names of its own; a step is that of one owner, who may give its descriptor back or
get another one, and leaves the descriptors and names of all others alone. -/

namespace Foundation.FileSystem

/-- An open descriptor that was never closed. -/
def Held (fs : FileSystem) (fd : Nat) : Prop := (fs.fds fd).isSome = true ∧ fs.closes fd = 0

/-- A descriptor that was closed once. -/
def Gone (fs : FileSystem) (fd : Nat) : Prop := fs.fds fd = none ∧ fs.closes fd = 1

theorem Held.issued {fs : FileSystem} {fd : Nat} (held : fs.Held fd) : fd < fs.opened := by
  obtain ⟨file, found⟩ := Option.isSome_iff_exists.mp held.1
  exact fs.numbered found

/-- Whoever has this descriptor may use it. -/
def Owns (fs : FileSystem) (own : Option Nat) : Prop := ∀ fd, own = some fd → fs.Held fd

theorem owns_none (fs : FileSystem) : fs.Owns none := by
  intro fd none
  cases none

/-- One owner's step: it had the descriptor `own` and has `left` afterwards. -/
structure Exchanges (before after : FileSystem) (own left : Option Nat) : Prop where
  opened : before.opened ≤ after.opened
  others : ∀ fd, fd < before.opened → own ≠ some fd → after.fds fd = before.fds fd ∧ after.closes fd = before.closes fd
  owned : after.Owns left
  /-- what is left was there before or is new -/
  mine : ∀ fd, left = some fd → own = some fd ∨ before.opened ≤ fd
  /-- what is not left was given back -/
  gone : ∀ fd, fd < after.opened → left ≠ some fd → own = some fd ∨ before.opened ≤ fd → after.Gone fd

namespace Exchanges
variable {before middle after : FileSystem} {own between left : Option Nat}

/-- No descriptor is opened or closed. -/
theorem same (owns : before.Owns own) (opened : after.opened = before.opened) (fds : after.fds = before.fds)
    (closes : after.closes = before.closes) : Exchanges before after own own where
  opened := Nat.le_of_eq opened.symm
  others fd _ _ := ⟨congrFun fds fd, congrFun closes fd⟩
  owned fd mine := by
    rw [Held, fds, closes]
    exact owns fd mine
  mine _ mine := .inl mine
  gone fd issued other or := by
    rcases or with mine | fresh
    · exact absurd mine other
    · omega

theorem refl (owns : before.Owns own) : Exchanges before before own own := .same owns rfl rfl rfl

/-- Anything may follow what was left. -/
theorem trans (first : Exchanges before middle own between) (second : Exchanges middle after between left) :
    Exchanges before after own left where
  opened := Nat.le_trans first.opened second.opened
  others fd old other := by
    have foreign : between ≠ some fd := by
      intro got
      rcases first.mine fd got with mine | fresh
      · exact other mine
      · omega
    obtain ⟨fds, closes⟩ := first.others fd old other
    obtain ⟨fds', closes'⟩ := second.others fd (Nat.lt_of_lt_of_le old first.opened) foreign
    exact ⟨fds'.trans fds, closes'.trans closes⟩
  owned := second.owned
  mine fd got := by
    rcases second.mine fd got with mine | fresh
    · exact first.mine fd mine
    · exact .inr (Nat.le_trans first.opened fresh)
  gone fd issued lost ours := by
    by_cases passed : between = some fd
    · exact second.gone fd issued lost (.inl passed)
    · by_cases old : fd < middle.opened
      · -- given back in the first step, and nobody's in the second
        obtain ⟨fds, closes⟩ := second.others fd old passed
        obtain ⟨closed, once⟩ := first.gone fd old passed ours
        exact ⟨fds.trans closed, closes.trans once⟩
      · exact second.gone fd issued lost (.inr (Nat.le_of_not_lt old))

theorem close {fs : FileSystem} {fd : Nat} (held : fs.Held fd) : Exchanges fs (fs.close fd) (some fd) none where
  opened := by simp
  others other old different := by
    have unequal : other ≠ fd := fun same => different (same ▸ rfl)
    rw [close_closes held.issued, Function.update_of_ne unequal]
    exact ⟨close_fds_of_ne fs unequal, rfl⟩
  owned := owns_none _
  mine _ none := by cases none
  gone other issued _ ours := by
    rw [close_opened] at issued
    have same : other = fd := by
      rcases ours with same | fresh
      · exact (Option.some.inj same).symm
      · omega
    subst same
    rw [Gone, close_closes held.issued, Function.update_self, held.2]
    exact ⟨close_fds_self fs other, rfl⟩

/-- A new descriptor for a file that is there. -/
theorem describe (fs : FileSystem) (file : Nat) (present : file < fs.files) :
    Exchanges fs (fs.describe file present) none (some fs.nextFd) where
  opened := Nat.le_succ _
  others fd old _ := ⟨Function.update_of_ne (Nat.ne_of_lt old) .., rfl⟩
  owned fd new := by
    cases new
    refine ⟨?_, fs.unclosed (Nat.le_refl _)⟩
    simp [FileSystem.describe, nextFd]
  mine fd new := .inr (Nat.le_of_eq (Option.some.inj new))
  gone fd issued other ours := by
    have unequal : fd ≠ fs.opened := fun same => other (same ▸ rfl)
    have issued : fd < fs.opened + 1 := issued
    rcases ours with none | fresh
    · cases none
    · omega

theorem create (fs : FileSystem) (path : Path) : Exchanges fs (fs.create path) none (some fs.nextFd) := by
  unfold FileSystem.create
  split
  · exact .trans (by exact .same (owns_none _) rfl rfl rfl) (describe (fs.truncate _) _ _)
  · exact .trans (by exact .same (owns_none _) rfl rfl rfl) (describe (fs.link path) _ _)

/-- An owner of nothing may open a file for reading and close it again. -/
theorem visits (seen : Visits before after) : Exchanges before after none none := by
  cases seen with
  | nothing => exact .refl (owns_none before)
  | @opened path opened reading =>
    have began : Exchanges before opened none (some before.nextFd) := by
      unfold openRead at reading
      split at reading
      · cases reading
        exact describe ..
      · cases reading
    exact began.trans (.close (began.owned _ rfl))

/-- What an owner of nothing does, an owner of something may do as well. -/
theorem keeping (owns : before.Owns own) (step : Exchanges before after none none) : Exchanges before after own own where
  opened := step.opened
  others fd old _ := step.others fd old nofun
  owned fd mine := by
    obtain ⟨fds, closes⟩ := step.others fd (owns fd mine).issued nofun
    rw [Held, fds, closes]
    exact owns fd mine
  mine _ mine := .inl mine
  gone fd issued other ours := by
    rcases ours with mine | fresh
    · exact absurd mine other
    · exact step.gone fd issued nofun (.inr fresh)

end Exchanges

/-- The descriptors from `since` on are shared out: each is somebody's, or was closed once. -/
structure SharedOwners {ι : Type} (since : Nat) (has : ι → Option Nat) (fs : FileSystem) : Prop where
  later : since ≤ fs.opened
  owned : ∀ i, fs.Owns (has i)
  issued : ∀ {i fd}, has i = some fd → since ≤ fd
  distinct : ∀ {i j fd}, has i = some fd → has j = some fd → i = j
  gone : ∀ fd, since ≤ fd → fd < fs.opened → (∀ i, has i ≠ some fd) → fs.Gone fd

namespace SharedOwners
variable {ι : Type} {since : Nat} {has : ι → Option Nat} {before after : FileSystem}

/-- At first nobody has one. -/
theorem start (fs : FileSystem) : SharedOwners fs.opened (fun _ : ι => none) fs where
  later := Nat.le_refl _
  owned _ := owns_none fs
  issued none := by cases none
  distinct none := by cases none
  gone fd late issued := absurd issued (Nat.not_lt.mpr late)

/-- An owner's step shares them out again. -/
theorem exchange [DecidableEq ι] (shared : SharedOwners since has before) {i : ι} {left : Option Nat}
    (step : Exchanges before after (has i) left) : SharedOwners since (Function.update has i left) after where
  later := Nat.le_trans shared.later step.opened
  owned j := by
    by_cases same : j = i
    · rw [same, Function.update_self]
      exact step.owned
    · rw [Function.update_of_ne same]
      intro fd theirs
      have held := shared.owned j fd theirs
      obtain ⟨fds, closes⟩ := step.others fd held.issued fun mine => same (shared.distinct theirs mine)
      rw [Held, fds, closes]
      exact held
  issued {j fd} known := by
    by_cases same : j = i
    · rw [same, Function.update_self] at known
      rcases step.mine fd known with mine | fresh
      · exact shared.issued mine
      · exact Nat.le_trans shared.later fresh
    · rw [Function.update_of_ne same] at known
      exact shared.issued known
  distinct {j k fd} first second := by
    -- a descriptor of another owner is neither the one given up nor a new one
    have foreign : ∀ {other}, other ≠ i → has other = some fd → left ≠ some fd := by
      intro other different theirs got
      rcases step.mine fd got with mine | fresh
      · exact different (shared.distinct theirs mine)
      · exact absurd (shared.owned other fd theirs).issued (Nat.not_lt.mpr fresh)
    by_cases here : j = i <;> by_cases there : k = i
    · exact here.trans there.symm
    · rw [here, Function.update_self] at first
      rw [Function.update_of_ne there] at second
      exact absurd first (foreign there second)
    · rw [there, Function.update_self] at second
      rw [Function.update_of_ne here] at first
      exact absurd second (foreign here first)
    · rw [Function.update_of_ne here] at first
      rw [Function.update_of_ne there] at second
      exact shared.distinct first second
  gone fd late issued nobody := by
    have lost : left ≠ some fd := by
      have mine := nobody i
      rwa [Function.update_self] at mine
    by_cases ours : has i = some fd ∨ before.opened ≤ fd
    · exact step.gone fd issued lost ours
    · rw [not_or, Nat.not_le] at ours
      obtain ⟨fds, closes⟩ := step.others fd ours.2 ours.1
      rw [Gone, fds, closes]
      refine shared.gone fd late ours.2 fun j theirs => ?_
      by_cases same : j = i
      · exact ours.1 (same ▸ theirs)
      · have other := nobody j
        rw [Function.update_of_ne same] at other
        exact other theirs

/-- An open descriptor is that of exactly one owner. -/
theorem open_iff (shared : SharedOwners since has before) {fd : Nat} (late : since ≤ fd) :
    (before.fds fd).isSome = true ↔ ∃! i, has i = some fd := by
  constructor
  · intro isOpen
    obtain ⟨file, found⟩ := Option.isSome_iff_exists.mp isOpen
    by_contra nobody
    have none : ∀ i, has i ≠ some fd := fun i mine => nobody ⟨i, mine, fun j theirs => shared.distinct theirs mine⟩
    have closed := (shared.gone fd late (before.numbered found) none).1
    rw [found] at closed
    cases closed
  · rintro ⟨i, mine, _⟩
    exact (shared.owned i fd mine).1

end SharedOwners

/-- No file has two names. -/
def Unaliased (fs : FileSystem) : Prop := ∀ path other file, fs.names path = some file → fs.names other = some file → path = other

/-- At most these names and the files behind them change, and no file gets a second name. -/
structure Confined (own : Path → Prop) (before after : FileSystem) : Prop where
  names : ∀ path, ¬ own path → after.names path = before.names path
  data : ∀ file, file < before.files → (∀ path, own path → before.names path ≠ some file) →
    after.data file = before.data file
  behind : ∀ path file, own path → after.names path = some file →
    (∃ other, own other ∧ before.names other = some file) ∨ before.files ≤ file
  files : before.files ≤ after.files
  unaliased : before.Unaliased → after.Unaliased

namespace Confined
variable {own : Path → Prop} {part source target : Path} {before middle after : FileSystem}

theorem trans (first : Confined own before middle) (second : Confined own middle after) : Confined own before after where
  names path foreign := (second.names path foreign).trans (first.names path foreign)
  data file old apart := by
    refine (second.data file (Nat.lt_of_lt_of_le old first.files) fun path mine found => ?_).trans (first.data file old apart)
    rcases first.behind path file mine found with ⟨other, alsoMine, earlier⟩ | fresh
    · exact apart other alsoMine earlier
    · omega
  behind path file mine found := by
    rcases second.behind path file mine found with ⟨other, alsoMine, earlier⟩ | fresh
    · exact first.behind other file alsoMine earlier
    · exact .inr (Nat.le_trans first.files fresh)
  files := Nat.le_trans first.files second.files
  unaliased distinct := second.unaliased (first.unaliased distinct)

theorem of_spares (mine : own part) (spared : Spares part before after) : Confined own before after where
  names path foreign := spared.names path fun same => foreign (same ▸ mine)
  data file old apart := spared.data file old (apart part mine)
  behind path file also found := by
    by_cases same : path = part
    · exact (spared.part file (same ▸ found)).imp (fun earlier => ⟨part, mine, earlier⟩) id
    · exact .inl ⟨path, also, spared.names path same ▸ found⟩
  files := spared.files
  unaliased distinct := by
    -- the file behind `part` was behind it before, or nobody's
    have other : ∀ path file, path ≠ part → after.names part = some file → after.names path ≠ some file := by
      intro path file different behind found
      rw [spared.names path different] at found
      rcases spared.part file behind with earlier | fresh
      · exact different (distinct path part file found earlier)
      · exact absurd (before.named found) (Nat.not_lt.mpr fresh)
    intro path name file here there
    by_cases first : path = part <;> by_cases second : name = part
    · exact first.trans second.symm
    · exact absurd there (other name file second (first ▸ here))
    · exact absurd here (other path file first (second ▸ there))
    · rw [spared.names path first] at here
      rw [spared.names name second] at there
      exact distinct path name file here there

theorem of_preserves (preserved : Preserves before after) : Confined own before after where
  names path _ := congrFun preserved.names path
  data file _ _ := congrFun preserved.data file
  behind path _ mine found := .inl ⟨path, mine, preserved.names ▸ found⟩
  files := Nat.le_of_eq preserved.files.symm
  unaliased distinct path other file here there :=
    distinct path other file (preserved.names ▸ here) (preserved.names ▸ there)

/-- A name after a move is a name that stayed, or the new one. -/
theorem renamed (fs : FileSystem) (source target : Path) :
    (fs.rename source target).names = fs.names ∨ ∃ file, fs.names source = some file ∧
      ∀ path, (fs.rename source target).names path = if path = target then some file else
        if path = source then none else fs.names path := by
  unfold FileSystem.rename
  split
  · exact .inl rfl
  next file found =>
  split
  · exact .inl rfl
  · refine .inr ⟨file, found, fun path => ?_⟩
    simp only [Function.update_apply]

theorem rename (fs : FileSystem) (hasSource : own source) (hasTarget : own target) :
    Confined own fs (fs.rename source target) := by
  have files : (fs.rename source target).files = fs.files := by
    unfold FileSystem.rename
    repeat' split
    all_goals rfl
  have data := rename_data fs source target
  rcases renamed fs source target with same | ⟨file, found, moved⟩
  · exact ⟨fun path _ => congrFun same path, fun other _ _ => congrFun data other,
      fun path _ mine there => .inl ⟨path, mine, same ▸ there⟩, Nat.le_of_eq files.symm, fun distinct path name other here there =>
        distinct path name other (same ▸ here) (same ▸ there)⟩
  -- the file that moved is behind the new name alone
  have cases : ∀ path other, (fs.rename source target).names path = some other →
      path = target ∧ other = file ∨ path ≠ target ∧ path ≠ source ∧ fs.names path = some other := by
    intro path other there
    rw [moved path] at there
    split at there
    next new => exact .inl ⟨new, (Option.some.inj there).symm⟩
    next old =>
      split at there
      · cases there
      next stays => exact .inr ⟨old, stays, there⟩
  refine ⟨fun path foreign => ?_, fun other _ _ => congrFun data other, fun path other mine there => ?_, Nat.le_of_eq files.symm, ?_⟩
  · rw [moved path, if_neg fun same : path = target => foreign (same ▸ hasTarget),
      if_neg fun same : path = source => foreign (same ▸ hasSource)]
  · rcases cases path other there with ⟨_, rfl⟩ | ⟨_, _, stays⟩
    · exact .inl ⟨source, hasSource, found⟩
    · exact .inl ⟨path, mine, stays⟩
  · intro distinct path name other here there
    rcases cases path other here with ⟨rfl, rfl⟩ | ⟨_, left, stays⟩ <;>
      rcases cases name other there with ⟨rfl, same⟩ | ⟨_, gone, also⟩
    · rfl
    · exact absurd (distinct name source other also found) gone
    · exact absurd (distinct path source other stays (same ▸ found)) left
    · exact distinct path name other stays also

/-- The name of another owner keeps its file, and the file its content. -/
theorem foreign (confined : Confined own before after) (distinct : before.Unaliased) {path : Path} {file : Nat}
    (foreign : ¬ own path) (named : before.names path = some file) :
    after.names path = some file ∧ after.data file = before.data file := by
  refine ⟨(confined.names path foreign).trans named, confined.data file (before.named named) ?_⟩
  rintro other mine found
  exact foreign (distinct path other file named found ▸ mine)

end Confined

end Foundation.FileSystem
