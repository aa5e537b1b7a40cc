import Mathlib.Data.List.Nodup
import Mathlib.Data.List.Perm.Subperm
import Mathlib.Data.Nat.Find
import Mathlib.Logic.Function.Basic

/-! Looking up entries of maps and lists after they have changed. -/

namespace Foundation
variable {α β : Type}

/-- What a map holds after one of its entries was set. -/
theorem update_eq_some [DecidableEq α] {map : α → Option β} {key other : α} {entry found : β}
    (held : Function.update map key (some entry) other = some found) :
    other = key ∧ found = entry ∨ other ≠ key ∧ map other = some found := by
  by_cases same : other = key
  · subst same
    rw [Function.update_self] at held
    exact .inl ⟨rfl, (Option.some.inj held).symm⟩
  · rw [Function.update_of_ne same] at held
    exact .inr ⟨same, held⟩

/-- With distinct keys a list of pairs is read as the set of its pairs. -/
theorem lookup_eq_some_iff_mem [BEq α] [LawfulBEq α] {entries : List (α × β)} (distinct : (entries.map Prod.fst).Nodup)
    {key : α} {value : β} : entries.lookup key = some value ↔ (key, value) ∈ entries := by
  induction entries with
  | nil => simp
  | cons entry entries ih =>
    rw [List.map_cons, List.nodup_cons] at distinct
    rw [List.lookup_cons, List.mem_cons]
    by_cases same : key = entry.1
    · subst same
      have absent : (entry.1, value) ∉ entries := fun member => distinct.1 (List.mem_map.mpr ⟨_, member, rfl⟩)
      simp [absent, Prod.ext_iff, eq_comm]
    · have other : (key, value) ≠ entry := fun equal => same (congrArg Prod.fst equal)
      rw [beq_false_of_ne same, ih distinct.2, or_iff_right other]

/-- Assignments that are made one after the other; the last one is found first. -/
theorem foldl_assign {γ : Type} {record : γ → Option (α × β)} {assign : List (α × β) → γ → List (α × β)}
    (each : ∀ out line, assign out line = (record line).toList ++ out) (lines : List γ) (out : List (α × β)) :
    lines.foldl assign out = (lines.filterMap record).reverse ++ out := by
  induction lines generalizing out with
  | nil => rfl
  | cons line lines ih =>
    rw [List.foldl_cons, ih, each, List.filterMap_cons]
    cases record line <;> simp

theorem getElem?_append_some {entries : List α} {place : Nat} {entry : α} (found : entries[place]? = some entry)
    (more : List α) : (entries ++ more)[place]? = some entry := by
  rw [List.getElem?_append_left (List.getElem?_eq_some_iff.mp found).1, found]

theorem mem_of_getElem?_append {entries more : List α} {place : Nat} {entry : α}
    (found : (entries ++ more)[place]? = some entry) : entries[place]? = some entry ∨ entry ∈ more := by
  by_cases old : place < entries.length
  · rw [List.getElem?_append_left old] at found
    exact .inl found
  · rw [List.getElem?_append_right (Nat.le_of_not_lt old)] at found
    exact .inr (List.mem_of_getElem? found)

/-- An entry of a list that grew, beside the list of what belongs to each. -/
theorem getElem?_append_cases {entries more : List α} {beside : List β} (of : α → β) {place : Nat} {entry : α}
    (aligned : beside.length = entries.length) (found : (entries ++ more)[place]? = some entry) :
    entries[place]? = some entry ∨ entry ∈ more ∧ (beside ++ more.map of)[place]? = some (of entry) := by
  by_cases old : place < entries.length
  · rw [List.getElem?_append_left old] at found
    exact .inl found
  · rw [List.getElem?_append_right (Nat.le_of_not_lt old)] at found
    refine .inr ⟨List.mem_of_getElem? found, ?_⟩
    rw [List.getElem?_append_right (by omega), aligned, List.getElem?_map, found]
    rfl

/-- An entry of a list that grew by one. -/
theorem getElem?_concat_cases {entries : List α} {last : α} {place : Nat} {entry : α}
    (found : (entries ++ [last])[place]? = some entry) :
    entries[place]? = some entry ∨ place = entries.length ∧ entry = last := by
  by_cases old : place < entries.length
  · rw [List.getElem?_append_left old] at found
    exact .inl found
  · rw [List.getElem?_append_right (Nat.le_of_not_lt old)] at found
    obtain ⟨same, rfl⟩ := List.getElem?_eq_some_iff.mp found
    simp only [List.length_singleton] at same
    exact .inr ⟨by omega, by simp⟩

/-- An entry of a list of which one was replaced. -/
theorem getElem?_set_cases {entries : List α} {place other : Nat} {entry found : α}
    (held : (entries.set place entry)[other]? = some found) :
    other = place ∧ found = entry ∨ other ≠ place ∧ entries[other]? = some found := by
  by_cases same : other = place
  · subst same
    rw [List.getElem?_set_self'] at held
    obtain ⟨_, _, rfl⟩ := Option.map_eq_some_iff.mp held
    exact .inl ⟨rfl, rfl⟩
  · rw [List.getElem?_set_ne (Ne.symm same)] at held
    exact .inr ⟨same, held⟩

/-- What a list begins with and does not hold again is found where nothing stands before it. -/
theorem split_at_first {first entry : α} {entries before after : List α}
    (split : first :: entries = before ++ entry :: after)
    (others : entry ∉ entries) : before = [] ∧ entry = first ∧ after = entries := by
  cases before with
  | nil =>
    obtain ⟨same, rest⟩ := List.cons.inj split
    exact ⟨rfl, same.symm, rest.symm⟩
  | cons head before =>
    obtain ⟨_, rest⟩ := List.cons.inj split
    exact absurd (rest ▸ List.mem_append_right before List.mem_cons_self) others

/-- And what it ends with where everything else does. -/
theorem split_at_last {last entry : α} {entries before after : List α}
    (split : entries ++ [last] = before ++ entry :: after)
    (others : entry ∉ entries) : before = entries ∧ entry = last := by
  rcases List.append_eq_append_iff.mp split with ⟨more, whole, rest⟩ | ⟨more, whole, rest⟩
  · cases more with
    | nil =>
      obtain ⟨same, _⟩ := List.cons.inj rest
      exact ⟨by simpa using whole, same.symm⟩
    | cons head more => simp at rest
  · cases more with
    | nil =>
      obtain ⟨same, _⟩ := List.cons.inj rest
      exact ⟨by simpa using whole.symm, same⟩
    | cons head more =>
      obtain ⟨rfl, _⟩ := List.cons.inj rest
      exact absurd (whole ▸ List.mem_append_right before List.mem_cons_self) others

/-- A list of one entry at most holds one at most. -/
theorem eq_of_mem_short {entries : List α} {one other : α} (short : entries.length ≤ 1) (here : one ∈ entries)
    (there : other ∈ entries) : one = other := by
  match entries, short with
  | [entry], _ => rw [List.mem_singleton.mp here, List.mem_singleton.mp there]

/-- The list that is found by asking for one number after the other. -/
def Leads (read : Nat → Option α) (entries : List α) : Prop := ∀ index ≤ entries.length, read index = entries[index]?

theorem Leads.last {read : Nat → Option α} {entries : List α} (leads : Leads read entries) :
    read entries.length = none := by
  rw [leads _ (Nat.le_refl _), List.getElem?_eq_none (Nat.le_refl _)]

theorem Leads.inside {read : Nat → Option α} {entries : List α} (leads : Leads read entries) {index : Nat}
    (inside : index < entries.length) : read index = some entries[index] := by
  rw [leads _ (Nat.le_of_lt inside), List.getElem?_eq_getElem inside]

/-- Asking ends where the first number is missing. -/
theorem exists_leads {read : Nat → Option α} (stops : ∃ index, read index = none) : ∃ entries, Leads read entries := by
  classical
  have before {index : Nat} (early : index < Nat.find stops) : ∃ entry, read index = some entry :=
    Option.ne_none_iff_exists'.mp (Nat.find_min stops early)
  refine ⟨List.ofFn fun place : Fin (Nat.find stops) => (before place.isLt).choose, ?_⟩
  intro index within
  rw [List.length_ofFn] at within
  rw [List.getElem?_ofFn]
  split
  next early => exact (before early).choose_spec
  next late =>
    obtain rfl : index = Nat.find stops := by omega
    exact Nat.find_spec stops

/-- Entries under distinct names are no more than the list has. -/
theorem count_le_of_named {entries : List α} {name : Nat → β} (injective : Function.Injective name) (nameOf : α → β)
    {count : Nat}
    (named : ∀ index < count, ∃ entry ∈ entries, nameOf entry = name index) : count ≤ entries.length := by
  have distinct : ((List.range count).map name).Nodup := List.Nodup.map injective List.nodup_range
  have among : (List.range count).map name ⊆ entries.map nameOf := by
    intro other member
    obtain ⟨index, inside, rfl⟩ := List.mem_map.mp member
    obtain ⟨entry, listed, same⟩ := named index (List.mem_range.mp inside)
    exact List.mem_map.mpr ⟨entry, listed, same⟩
  have counted := (List.subperm_of_subset distinct among).length_le
  rwa [List.length_map, List.length_range, List.length_map] at counted

/-- So asking for names of entries ends, and finds no more than the list has. -/
theorem exists_leads_named {entries : List α} {name : Nat → β} (injective : Function.Injective name) {nameOf : α → β}
    {γ : Type}
    {read : Nat → Option γ} (named : ∀ index found, read index = some found → ∃ entry ∈ entries, nameOf entry = name index) :
    ∃ found, Leads read found ∧ found.length ≤ entries.length := by
  have stops : ∃ index, read index = none := by
    by_contra endless
    push Not at endless
    have counted : entries.length + 1 ≤ entries.length := by
      apply count_le_of_named injective nameOf
      intro index _
      obtain ⟨found, answer⟩ := Option.ne_none_iff_exists'.mp (endless index)
      exact named index found answer
    omega
  obtain ⟨found, leads⟩ := exists_leads stops
  refine ⟨found, leads, count_le_of_named injective nameOf fun index inside => ?_⟩
  exact named index found[index] (leads.inside inside)

end Foundation
