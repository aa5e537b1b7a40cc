import Luagent.Foundation.Lookup
import Luagent.Lua
import Luagent.Proofs.KeyValues

/-! The readers of the agent's requests. `kv_copy` takes the first line that
binds a key to something, `parse_kv` the last one that binds it at all, and they
do not agree on what ends a line. On what the client sends they read the same. -/

namespace Luagent.Proofs.Decoders
open Foundation Client

/-- What ends a line for `parse_kv`. -/
def endsLine (byte : UInt8) : Bool := byte = carriageReturn || byte = newline

private theorem luaLines_eq (payload : Bytes) : luaLines payload = payload.splitOnP endsLine := by
  induction payload with
  | nil => rfl
  | cons byte payload ih =>
    obtain ⟨line, lines, shape⟩ := List.exists_cons_of_ne_nil (List.splitOnP_ne_nil endsLine payload)
    rw [luaLines, ih, List.splitOnP_cons_eq_if_modifyHead, shape]
    simp only [endsLine, List.modifyHead_cons]

theorem parseKv_eq (payload : Bytes) : parseKv payload = ((payload.splitOnP endsLine).filterMap luaRecord).reverse := by
  have records : ∀ line, (if (!line.isEmpty) = true then luaRecord line else none) = luaRecord line := by
    intro line
    cases line <;> rfl
  rw [parseKv, luaLines_eq, @foldl_assign _ _ _ luaRecord]
  · simp only [List.append_nil, List.filterMap_filter, records]
  · intro out line
    cases luaRecord line <;> rfl

/-- A record that every reader takes as it is. -/
structure Sendable (item : Bytes × Bytes) : Prop where
  named : item.1 ≠ []
  filled : item.2 ≠ []
  keyEnd : equalsSign ∉ item.1
  key : Clean item.1
  value : Clean item.2
  keyString : 0 ∉ item.1
  valueString : 0 ∉ item.2

theorem Sendable.plain {item : Bytes × Bytes} (sendable : Sendable item) : Plain item :=
  ⟨sendable.key.line, sendable.keyEnd, sendable.value.line, sendable.value.noReturn⟩

theorem Sendable.record {item : Bytes × Bytes} (sendable : Sendable item) : luaRecord (recordLine item) = some item := by
  have key : (recordLine item).takeWhile (· ≠ equalsSign) = item.1 := takeWhile_append_of_notMem sendable.keyEnd item.2
  have rest : (recordLine item).drop item.1.length = equalsSign :: item.2 := List.drop_left
  simp only [luaRecord, key, rest]
  rw [if_neg (by simp [sendable.named])]

theorem Sendable.line {item : Bytes × Bytes} (sendable : Sendable item) :
    ∀ byte ∈ recordLine item, endsLine byte = false := by
  intro byte member
  have noReturn : byte ≠ carriageReturn := by
    rintro rfl
    rcases List.mem_append.mp member with key | value
    · exact sendable.key.noReturn key
    · exact sendable.value.noReturn ((List.mem_cons.mp value).resolve_left (by decide))
  have noLine : byte ≠ newline := by
    rintro rfl
    exact sendable.plain.line member
  simp [endsLine, noReturn, noLine]

section items
variable {items : List (Bytes × Bytes)} (sendable : ∀ item ∈ items, Sendable item)
include sendable

theorem cstr_encodeKv : cstr (encodeKv items) = encodeKv items := by
  apply cstr_of_notMem
  apply notMem_encodeKv (by decide) (by decide)
  exact fun item member => ⟨(sendable item member).keyString, (sendable item member).valueString⟩

theorem parseKv_encodeKv : parseKv (encodeKv items) = items.reverse := by
  rw [parseKv_eq, encodeKv_eq]
  by_cases empty : items = []
  · subst empty
    rfl
  · have lines : ([newline].intercalate (items.map recordLine)).splitOnP endsLine = items.map recordLine := by
      apply splitOnP_intercalate rfl _ (by simpa using empty)
      intro line member
      obtain ⟨item, inside, rfl⟩ := List.mem_map.mp member
      exact (sendable item inside).line
    rw [lines, List.filterMap_map]
    congr 1
    conv => rhs; rw [← List.filterMap_some (l := items)]
    exact List.filterMap_congr fun item member => (sendable item member).record

private theorem firstBound_eq_lookup (key : Bytes) : firstBound items key = items.lookup key := by
  induction items with
  | nil => rfl
  | cons item items ih =>
    obtain ⟨own, others⟩ := List.forall_mem_cons.mp sendable
    by_cases same : item.1 = key
    · rw [firstBound_cons_bound (by simp [same, own.filled]), List.lookup_cons, same, BEq.rfl]
    · rw [firstBound_cons_unbound (by simp [same]), List.lookup_cons, beq_false_of_ne (Ne.symm same), ih others]

theorem get_parseKv (distinct : (items.map Prod.fst).Nodup) (key value : Bytes) :
    (parseKv (encodeKv items)).get key = some value ↔ (key, value) ∈ items := by
  have reversed : (items.reverse.map Prod.fst).Nodup := by rwa [List.map_reverse, List.nodup_reverse]
  rw [parseKv_encodeKv sendable, Table.get, lookup_eq_some_iff_mem reversed, List.mem_reverse]

end items

/-- On the text of a list of records with distinct keys, in whatever order,
`kv_copy` finds each value that its buffer holds and nothing under other keys,
and `parse_kv` finds the records and no others. -/
theorem readers_agree {items : List (Bytes × Bytes)} (distinct : (items.map Prod.fst).Nodup)
    (sendable : ∀ item ∈ items, Sendable item) :
    (∀ key value size, (key, value) ∈ items → value.length < size →
      kvCopy size (cstr (encodeKv items)) key = some value) ∧
    (∀ key size, equalsSign ∉ key → key ∉ items.map Prod.fst → kvCopy size (cstr (encodeKv items)) key = none) ∧
    ∀ key value, (parseKv (cstr (encodeKv items))).get key = some value ↔ (key, value) ∈ items := by
  have plain item (member : item ∈ items) := (sendable item member).plain
  rw [cstr_encodeKv sendable]
  refine ⟨?_, ?_, get_parseKv sendable distinct⟩
  · intro key value size member fits
    rw [kvCopy_encodeKv plain (sendable _ member).keyEnd, firstBound_eq_lookup sendable,
      (lookup_eq_some_iff_mem distinct).mpr member]
    simp [Option.filter, fits]
  · intro key size ends unbound
    have missing : items.lookup key = none := by
      rw [List.lookup_eq_none_iff]
      intro item member
      rw [bne_iff_ne]
      rintro rfl
      exact unbound (List.mem_map_of_mem member)
    rw [kvCopy_encodeKv plain ends, firstBound_eq_lookup sendable, missing]
    rfl

/-- Keys of which one begins the other, and a value that looks like a record. -/
def prefixItems : List (Bytes × Bytes) :=
  [(ascii "argv10", ascii "argv1=b"), (ascii "argv1", ascii "a=b"), (ascii "argv", ascii "argv1")]

private theorem prefixItems_sendable : ∀ item ∈ prefixItems, Sendable item := by
  intro item member
  simp only [prefixItems, List.mem_cons, List.not_mem_nil, or_false] at member
  rcases member with rfl | rfl | rfl <;>
    exact ⟨by decide, by decide, by decide, ⟨by decide, by decide⟩, ⟨by decide, by decide⟩, by decide, by decide⟩

theorem readers_agree_prefixes :
    kvCopy 64 (cstr (encodeKv prefixItems)) (ascii "argv1") = some (ascii "a=b") ∧
      (parseKv (cstr (encodeKv prefixItems))).get (ascii "argv1") = some (ascii "a=b") := by
  obtain ⟨copies, -, reads⟩ := readers_agree (show (prefixItems.map Prod.fst).Nodup by decide) prefixItems_sendable
  have member : (ascii "argv1", ascii "a=b") ∈ prefixItems := by decide
  exact ⟨copies _ _ 64 member (by decide), (reads _ _).mpr member⟩

/-- The text with a carriage return before each newline. -/
def withReturns (payload : Bytes) : Bytes :=
  payload.flatMap fun byte => if byte = newline then [carriageReturn, newline] else [byte]

def returned : List Bytes → List Bytes
  | [] => []
  | [line] => [line]
  | line :: next :: lines => (line ++ [carriageReturn]) :: returned (next :: lines)

section endings
variable {key line : Bytes} {lines : List Bytes}

private theorem withReturns_line (clean : newline ∉ line) : withReturns line = line := by
  induction line with
  | nil => rfl
  | cons byte line ih =>
    rw [List.mem_cons, not_or] at clean
    rw [withReturns, List.flatMap_cons, if_neg (Ne.symm clean.1), ← withReturns, ih clean.2, List.singleton_append]

private theorem withReturns_append (left right : Bytes) :
    withReturns (left ++ right) = withReturns left ++ withReturns right :=
  List.flatMap_append

private theorem withReturns_lines (clean : ∀ line ∈ lines, newline ∉ line) :
    withReturns ([newline].intercalate lines) = [newline].intercalate (returned lines) := by
  induction lines with
  | nil => rfl
  | cons line lines ih =>
    obtain ⟨own, others⟩ := List.forall_mem_cons.mp clean
    cases lines with
    | nil => rw [returned, List.intercalate_singleton, withReturns_line own]
    | cons next lines =>
      have more : returned (next :: lines) ≠ [] := by cases lines <;> exact List.cons_ne_nil _ _
      obtain ⟨head, tail, shape⟩ := List.exists_cons_of_ne_nil more
      have ih := ih others
      rw [shape] at ih
      rw [returned, shape, List.intercalate_cons_cons, List.intercalate_cons_cons, ← ih, withReturns_append,
        withReturns_append, withReturns_line own, List.append_assoc line [carriageReturn]]
      rfl

private theorem returned_clean (clean : ∀ line ∈ lines, newline ∉ line) : ∀ line ∈ returned lines, newline ∉ line := by
  induction lines with
  | nil => exact clean
  | cons line lines ih =>
    obtain ⟨own, others⟩ := List.forall_mem_cons.mp clean
    cases lines with
    | nil => exact clean
    | cons next lines =>
      refine List.forall_mem_cons.mpr ⟨?_, ih others⟩
      rw [List.mem_append, List.mem_singleton, not_or]
      exact ⟨own, by decide⟩

private theorem bindsKey_return (clean : newline ∉ line) :
    bindsKey key (line ++ [carriageReturn]) = true ↔ bindsKey key line = true ∨ line = key ++ [equalsSign] := by
  have longer : newline ∉ line ++ [carriageReturn] := by
    rw [List.mem_append, List.mem_singleton, not_or]
    exact ⟨clean, by decide⟩
  rw [bindsKey_iff longer, bindsKey_iff clean]
  constructor
  · rintro ⟨value, filled, split⟩
    obtain ⟨text, last, rfl⟩ := (List.eq_nil_or_concat value).resolve_left filled
    rw [List.concat_eq_append, ← List.cons_append, ← List.append_assoc] at split
    obtain ⟨rfl, -⟩ := List.append_inj' split rfl
    by_cases empty : text = []
    · exact .inr (by rw [empty])
    · exact .inl ⟨text, empty, rfl⟩
  · rintro (⟨value, filled, rfl⟩ | rfl)
    · exact ⟨value ++ [carriageReturn], by simp, by simp⟩
    · exact ⟨[carriageReturn], by simp, by simp⟩

private theorem firstRecord_filled (clean : ∀ line ∈ lines, newline ∉ line)
    (noReturn : ∀ line ∈ lines, carriageReturn ∉ line) :
    firstRecord key lines ≠ some [] := by
  intro read
  obtain ⟨line, found, empty⟩ := Option.map_eq_some_iff.mp read
  have member := List.mem_of_find?_eq_some found
  obtain ⟨value, filled, rfl⟩ := (bindsKey_iff (clean line member)).mp (List.find?_some found)
  rw [lineValue_append, takeWhile_of_notMem fun inside => noReturn _ member (by simp [inside])] at empty
  exact filled empty

/-- A line that holds nothing but `key=`, with another line after it, and no line
before it that binds the key. -/
def EmptyFirst (key : Bytes) (lines : List Bytes) : Prop :=
  ∃ earlier later, lines = earlier ++ (key ++ [equalsSign]) :: later ∧ later ≠ [] ∧ ∀ line ∈ earlier, bindsKey key line = false

private theorem emptyFirst_cons (other : line ≠ key ++ [equalsSign]) :
    EmptyFirst key (line :: lines) ↔ bindsKey key line = false ∧ EmptyFirst key lines := by
  constructor
  · rintro ⟨earlier, later, split, more, unbound⟩
    cases earlier with
    | nil =>
      rw [List.nil_append, List.cons.injEq] at split
      exact absurd split.1 other
    | cons first earlier =>
      rw [List.cons_append, List.cons.injEq] at split
      obtain ⟨own, others⟩ := List.forall_mem_cons.mp unbound
      exact ⟨split.1 ▸ own, earlier, later, split.2, more, others⟩
  · rintro ⟨own, earlier, later, rfl, more, unbound⟩
    exact ⟨line :: earlier, later, rfl, more, List.forall_mem_cons.mpr ⟨own, unbound⟩⟩

private theorem firstRecord_returned (clean : ∀ line ∈ lines, newline ∉ line)
    (noReturn : ∀ line ∈ lines, carriageReturn ∉ line) :
    (EmptyFirst key lines ∧ firstRecord key (returned lines) = some []) ∨
      (¬ EmptyFirst key lines ∧ firstRecord key (returned lines) = firstRecord key lines) := by
  induction lines with
  | nil => exact .inr ⟨by rintro ⟨earlier, later, split, -⟩; simp at split, rfl⟩
  | cons line lines ih =>
    obtain ⟨own, others⟩ := List.forall_mem_cons.mp clean
    obtain ⟨ownReturn, otherReturns⟩ := List.forall_mem_cons.mp noReturn
    have ih := ih others otherReturns
    cases lines with
    | nil =>
      refine .inr ⟨?_, rfl⟩
      rintro ⟨earlier, later, split, more, -⟩
      have length := congrArg List.length split
      have := List.length_pos_of_ne_nil more
      simp only [List.length_append, List.length_cons, List.length_nil] at length
      omega
    | cons next lines =>
      rw [returned]
      by_cases empty : line = key ++ [equalsSign]
      · subst empty
        have binds := (@bindsKey_return key _ own).mpr (.inr rfl)
        refine .inl ⟨⟨[], next :: lines, rfl, List.cons_ne_nil _ _, by simp⟩, ?_⟩
        rw [firstRecord_cons_bound binds, List.append_assoc, List.singleton_append, lineValue_append]
        rfl
      · rw [emptyFirst_cons empty]
        cases binds : bindsKey key line with
        | true =>
          refine .inr ⟨by simp, ?_⟩
          obtain ⟨value, -, rfl⟩ := (bindsKey_iff own).mp binds
          have still := (@bindsKey_return key _ own).mpr (.inl binds)
          have whole : carriageReturn ∉ value := fun inside => ownReturn (by simp [inside])
          rw [firstRecord_cons_bound still, firstRecord_cons_bound binds, List.append_assoc, List.cons_append, lineValue_append,
            lineValue_append, takeWhile_append_of_notMem whole, takeWhile_of_notMem whole]
        | false =>
          have still : bindsKey key (line ++ [carriageReturn]) = false := by
            rw [Bool.eq_false_iff, ne_eq, bindsKey_return own]
            simp [binds, empty]
          rw [firstRecord_cons_unbound still, firstRecord_cons_unbound binds, and_iff_right rfl]
          exact ih

end endings

/-- A text without carriage returns is read as the same text with a carriage
return before each newline if and only if there is no room for anything or no
empty record stands in front of all that bind the key. -/
theorem endings_agree_iff {payload : Bytes} (noReturn : carriageReturn ∉ payload) (key : Bytes) (size : Nat) :
    kvCopy size (withReturns payload) key = kvCopy size payload key ↔
      size = 0 ∨ ¬ EmptyFirst key (payload.splitOn newline) := by
  have joined : [newline].intercalate (payload.splitOn newline) = payload := List.intercalate_splitOn newline
  have clean line (member : line ∈ payload.splitOn newline) : newline ∉ line := (items_of_mem_splitOn member).1
  have plain line (member : line ∈ payload.splitOn newline) : carriageReturn ∉ line :=
    fun inside => noReturn ((items_of_mem_splitOn member).2 inside)
  have other : kvCopy size (withReturns payload) key =
      (firstRecord key (returned (payload.splitOn newline))).filter fun value => decide (value.length < size) := by
    rw [← kvCopy_lines size key (returned_clean clean), ← withReturns_lines clean, joined]
  rw [other, kvCopy_splitOn]
  rcases firstRecord_returned clean plain with ⟨empty, read⟩ | ⟨none, read⟩
  · have filled := @firstRecord_filled key _ clean plain
    rw [read]
    cases size with
    | zero => simp
    | succ size =>
      have differs : (some []).filter (fun value : Bytes => decide (value.length < size + 1)) ≠
          (firstRecord key (payload.splitOn newline)).filter fun value => decide (value.length < size + 1) := by
        intro same
        exact filled (Option.filter_eq_some_iff.mp same.symm).1
      exact iff_of_false differs (by simp [empty])
  · rw [read]
    exact ⟨fun _ => .inr none, fun _ => rfl⟩

theorem endings_agree_iff_put :
    carriageReturn ∉ ascii "path=x\nsize=3" ∧ ¬ EmptyFirst (ascii "size") ((ascii "path=x\nsize=3").splitOn newline) :=
  ⟨by decide, ((endings_agree_iff (by decide) (ascii "size") 64).mp (by decide)).resolve_left (by decide)⟩

theorem empty_record_shadows :
    kvCopy 512 (ascii "path=\npath=x") (ascii "path") = some (ascii "x") ∧
      kvCopy 512 (withReturns (ascii "path=\npath=x")) (ascii "path") = some [] := by
  decide

end Luagent.Proofs.Decoders
