import Mathlib.Data.List.GetD
import Mathlib.Data.List.TakeWhile
import Luagent.Client
import Luagent.Foundation.Lines
import Luagent.Proofs.Texts

/-! What the agent's `kv_copy` finds in a payload that the daemon's `encode_kv`
has put together: the first record with the key and a value that is not empty. -/

namespace Luagent.Proofs
open Foundation Client

/-- A string the client can send on a line of its own. -/
structure Clean (text : Bytes) : Prop where
  line : newline ∉ text
  noReturn : carriageReturn ∉ text

theorem decimal_clean (value : Nat) : Clean (decimal value) := by
  refine ⟨newline_notMem_decimal value, fun member => ?_⟩
  have digit := decimal_digits member
  revert digit
  decide

theorem signedDecimal_clean (value : Int) : Clean (signedDecimal value) := by
  cases value with
  | ofNat number => exact decimal_clean number
  | negSucc number =>
    have sign : Clean (ascii "-") := ⟨by decide, by decide⟩
    refine ⟨?_, ?_⟩ <;> rw [signedDecimal, List.mem_append, not_or]
    · exact ⟨sign.line, (decimal_clean _).line⟩
    · exact ⟨sign.noReturn, (decimal_clean _).noReturn⟩

/-- A record that keeps to its line. -/
structure Plain (item : Bytes × Bytes) : Prop where
  keyLine : newline ∉ item.1
  keyEnd : equalsSign ∉ item.1
  valueLine : newline ∉ item.2
  valueReturn : carriageReturn ∉ item.2

theorem Plain.of_clean {name value : Bytes} (word : newline ∉ name ∧ equalsSign ∉ name) (given : Clean value) :
    Plain (name, value) := ⟨word.1, word.2, given.line, given.noReturn⟩

theorem Plain.line {item : Bytes × Bytes} (plain : Plain item) : newline ∉ item.1 ++ equalsSign :: item.2 := by
  rw [List.mem_append, List.mem_cons, not_or, not_or]
  exact ⟨plain.keyLine, by decide, plain.valueLine⟩

section lines
variable {key line rest : Bytes}

theorem takeWhile_of_notMem {text : Bytes} {byte : UInt8} (absent : byte ∉ text) :
    text.takeWhile (· ≠ byte) = text := by
  apply List.takeWhile_eq_self_iff.mpr
  intro other member
  simp only [decide_eq_true_eq]
  rintro rfl
  exact absent member

theorem takeWhile_append_of_notMem {text : Bytes} {byte : UInt8} (absent : byte ∉ text) (rest : Bytes) :
    (text ++ byte :: rest).takeWhile (· ≠ byte) = text := by
  rw [List.takeWhile_append_of_pos]
  · simp
  · intro other member
    simp only [decide_eq_true_eq]
    rintro rfl
    exact absent member

private theorem lineLen_append (clean : newline ∉ line) (rest : Bytes) :
    lineLen (line ++ newline :: rest) = line.length := by
  rw [lineLen, takeWhile_append_of_notMem clean]

private theorem lineLen_of_clean (clean : newline ∉ line) : lineLen line = line.length := by
  rw [lineLen, takeWhile_of_notMem clean]

private theorem bindsKey_append (key : Bytes) (clean : newline ∉ line) (rest : Bytes) :
    bindsKey key (line ++ newline :: rest) = bindsKey key line := by
  unfold bindsKey
  rw [lineLen_append clean, lineLen_of_clean clean]
  by_cases long : key.length + 1 < line.length
  · rw [List.take_append_of_le_length (by omega), List.getD_append _ _ _ _ (by omega)]
  · simp [long]

private theorem kvScan_skip (key : Bytes) (clean : newline ∉ line) (rest : Bytes) :
    kvScan key false (line ++ newline :: rest) = kvScan key true rest := by
  induction line with
  | nil => simp [kvScan]
  | cons byte line ih =>
    rw [List.mem_cons, not_or] at clean
    simp only [List.cons_append, kvScan, Bool.false_and, Bool.false_eq_true, if_false]
    rw [beq_false_of_ne (Ne.symm clean.1)]
    exact ih clean.2

private theorem kvScan_line (key : Bytes) (clean : newline ∉ line) (rest : Bytes) :
    kvScan key true (line ++ newline :: rest) =
      if bindsKey key line then some ((line ++ newline :: rest).drop (key.length + 1)) else kvScan key true rest := by
  have same := bindsKey_append key clean rest
  cases line with
  | nil =>
    rw [List.nil_append] at same ⊢
    simp only [kvScan, same, Bool.true_and, BEq.rfl]
  | cons byte line =>
    rw [List.cons_append] at same ⊢
    simp only [kvScan, same, Bool.true_and]
    rw [List.mem_cons, not_or] at clean
    rw [beq_false_of_ne (Ne.symm clean.1), kvScan_skip key clean.2]

private theorem kvScan_stop (key : Bytes) (clean : newline ∉ line) : kvScan key false line = none := by
  induction line with
  | nil => rfl
  | cons byte line ih =>
    rw [List.mem_cons, not_or] at clean
    simp only [kvScan, Bool.false_and, Bool.false_eq_true, if_false]
    rw [beq_false_of_ne (Ne.symm clean.1)]
    exact ih clean.2

private theorem kvScan_last (key : Bytes) (clean : newline ∉ line) :
    kvScan key true line = if bindsKey key line then some (line.drop (key.length + 1)) else none := by
  cases line with
  | nil => simp [kvScan, bindsKey, lineLen]
  | cons byte line =>
    simp only [kvScan, Bool.true_and]
    rw [List.mem_cons, not_or] at clean
    rw [beq_false_of_ne (Ne.symm clean.1), kvScan_stop key clean.2]

private theorem bindsKey_length (clean : newline ∉ line) (binds : bindsKey key line = true) :
    key.length + 1 ≤ line.length := by
  simp only [bindsKey, lineLen_of_clean clean, Bool.and_eq_true, decide_eq_true_eq] at binds
  omega

private theorem takeWhile_line (clean : newline ∉ line) (ended : rest = [] ∨ ∃ more, rest = newline :: more) :
    (line ++ rest).takeWhile (fun byte => byte ≠ carriageReturn && byte ≠ newline) = line.takeWhile (· ≠ carriageReturn) := by
  induction line with
  | nil => rcases ended with rfl | ⟨more, rfl⟩ <;> simp
  | cons byte line ih =>
    rw [List.mem_cons, not_or] at clean
    rw [List.cons_append, List.takeWhile_cons, List.takeWhile_cons, ih clean.2]
    simp [Ne.symm clean.1]

/-- What it takes for a line to bind a key. -/
theorem bindsKey_iff (clean : newline ∉ line) :
    bindsKey key line = true ↔ ∃ value, value ≠ [] ∧ line = key ++ equalsSign :: value := by
  simp only [bindsKey, lineLen_of_clean clean, Bool.and_eq_true, decide_eq_true_eq, beq_iff_eq]
  constructor
  · rintro ⟨⟨long, begins⟩, isEnd⟩
    refine ⟨line.drop (key.length + 1), fun none => ?_, ?_⟩
    · rw [List.drop_eq_nil_iff] at none
      omega
    · conv => lhs; rw [← List.take_append_drop key.length line, begins]
      rw [List.getD_eq_getElem _ _ (by omega)] at isEnd
      rw [List.drop_eq_getElem_cons (by omega), isEnd]
  · rintro ⟨value, filled, rfl⟩
    have := List.length_pos_of_ne_nil filled
    simp only [List.length_append, List.length_cons, List.take_left', and_true]
    exact ⟨by omega, by simp⟩

private theorem bindsKey_record {item : Bytes × Bytes} (plain : Plain item) (ends : equalsSign ∉ key) :
    bindsKey key (item.1 ++ equalsSign :: item.2) = (item.1 == key && !item.2.isEmpty) := by
  rw [Bool.eq_iff_iff, bindsKey_iff plain.line]
  simp only [Bool.and_eq_true, beq_iff_eq, Bool.not_eq_true', List.isEmpty_eq_false_iff]
  constructor
  · rintro ⟨value, filled, split⟩
    -- both keys end at the first equals sign of the line
    have same : item.1 = key := by
      rw [← takeWhile_append_of_notMem plain.keyEnd item.2, split, takeWhile_append_of_notMem ends]
    rw [same, List.append_cancel_left_eq, List.cons.injEq] at split
    exact ⟨same, split.2 ▸ filled⟩
  · rintro ⟨rfl, filled⟩
    exact ⟨item.2, filled, rfl⟩

end lines

def firstBound (items : List (Bytes × Bytes)) (key : Bytes) : Option Bytes :=
  (items.find? fun item => item.1 == key && !item.2.isEmpty).map Prod.snd

theorem firstBound_cons_bound {item : Bytes × Bytes} {items : List (Bytes × Bytes)} {key : Bytes}
    (bound : (item.1 == key && !item.2.isEmpty) = true) : firstBound (item :: items) key = some item.2 := by
  simp [firstBound, bound]

theorem firstBound_cons_unbound {item : Bytes × Bytes} {items : List (Bytes × Bytes)} {key : Bytes}
    (unbound : (item.1 == key && !item.2.isEmpty) = false) : firstBound (item :: items) key = firstBound items key := by
  simp [firstBound, unbound]

theorem firstBound_skip {name value key : Bytes} {items : List (Bytes × Bytes)} (other : name ≠ key) :
    firstBound ((name, value) :: items) key = firstBound items key :=
  firstBound_cons_unbound (by rw [beq_false_of_ne other, Bool.false_and])

/-- What a line binds a key to: the text behind the equals sign, up to a carriage return. -/
def lineValue (key line : Bytes) : Bytes := (line.drop (key.length + 1)).takeWhile (· ≠ carriageReturn)

theorem lineValue_append (key value : Bytes) :
    lineValue key (key ++ equalsSign :: value) = value.takeWhile (· ≠ carriageReturn) := by
  have dropped : (key ++ equalsSign :: value).drop (key.length + 1) = value := by simp [List.drop_append]
  rw [lineValue, dropped]

/-- The value of the first line that binds the key. -/
def firstRecord (key : Bytes) (lines : List Bytes) : Option Bytes := (lines.find? (bindsKey key)).map (lineValue key)

theorem firstRecord_cons_bound {key line : Bytes} (bound : bindsKey key line = true) (lines : List Bytes) :
    firstRecord key (line :: lines) = some (lineValue key line) := by
  rw [firstRecord, List.find?_cons_of_pos bound, Option.map_some]

theorem firstRecord_cons_unbound {key line : Bytes} (unbound : bindsKey key line = false) (lines : List Bytes) :
    firstRecord key (line :: lines) = firstRecord key lines := by
  rw [firstRecord, List.find?_cons_of_neg (by simp [unbound]), firstRecord]

private theorem kvValue_lines (key : Bytes) {lines : List Bytes} (clean : ∀ line ∈ lines, newline ∉ line) :
    (lines.find? (bindsKey key) = none ∧ kvValue ([newline].intercalate lines) key = none) ∨
      ∃ line rest, lines.find? (bindsKey key) = some line ∧ newline ∉ line ∧
        kvValue ([newline].intercalate lines) key = some (line.drop (key.length + 1) ++ rest) ∧
        (rest = [] ∨ ∃ more, rest = newline :: more) := by
  induction lines with
  | nil => exact .inl ⟨rfl, rfl⟩
  | cons line lines ih =>
    have own := clean line List.mem_cons_self
    have ih := ih fun other member => clean other (List.mem_cons_of_mem _ member)
    have last : kvValue line key = if bindsKey key line then some (line.drop (key.length + 1)) else none :=
      kvScan_last key own
    cases lines with
    | nil =>
      rw [List.intercalate_singleton, last]
      cases binds : bindsKey key line with
      | true => exact .inr ⟨line, [], by simp [binds], own, by simp, .inl rfl⟩
      | false => exact .inl ⟨by simp [binds], rfl⟩
    | cons next lines =>
      have joined : [newline].intercalate (line :: next :: lines) = line ++ newline :: [newline].intercalate (next :: lines) := by
        simp [List.intercalate]
      have scanned := kvScan_line key own ([newline].intercalate (next :: lines))
      rw [joined, kvValue, scanned]
      cases binds : bindsKey key line with
      | true =>
        have long : key.length + 1 ≤ line.length := bindsKey_length own binds
        refine .inr ⟨line, newline :: [newline].intercalate (next :: lines), by simp [binds], own, ?_, .inr ⟨_, rfl⟩⟩
        rw [if_pos rfl, List.drop_append_of_le_length long]
      | false =>
        rw [List.find?_cons_of_neg (by simp [binds])]
        exact ih

/-- `kv_copy` reads the text line by line. -/
theorem kvCopy_lines (size : Nat) (key : Bytes) {lines : List Bytes} (clean : ∀ line ∈ lines, newline ∉ line) :
    kvCopy size ([newline].intercalate lines) key =
      (firstRecord key lines).filter fun value => decide (value.length < size) := by
  rcases kvValue_lines key clean with ⟨missing, unfound⟩ | ⟨line, rest, found, own, value, ended⟩
  · simp [kvCopy, firstRecord, missing, unfound]
  · have text : (line.drop (key.length + 1) ++ rest).takeWhile (fun byte => byte ≠ carriageReturn && byte ≠ newline) =
        lineValue key line := by
      have kept : newline ∉ line.drop (key.length + 1) := fun member => own (List.mem_of_mem_drop member)
      exact takeWhile_line kept ended
    simp only [kvCopy, value, text, firstRecord, found, Option.map_some, Option.filter]
    by_cases fits : (lineValue key line).length < size
    · rw [if_neg (by omega), if_pos (by simpa using fits)]
    · rw [if_pos (by omega), if_neg (by simpa using fits)]

theorem kvCopy_splitOn (size : Nat) (payload key : Bytes) :
    kvCopy size payload key =
      (firstRecord key (payload.splitOn newline)).filter fun value => decide (value.length < size) := by
  have joined : [newline].intercalate (payload.splitOn newline) = payload := List.intercalate_splitOn newline
  conv => lhs; rw [← joined]
  exact kvCopy_lines size key fun line member => (items_of_mem_splitOn member).1

def recordLine (item : Bytes × Bytes) : Bytes := item.1 ++ equalsSign :: item.2

theorem encodeKv_eq (items : List (Bytes × Bytes)) : encodeKv items = [newline].intercalate (items.map recordLine) := rfl

theorem encodeKv_cons (item next : Bytes × Bytes) (items : List (Bytes × Bytes)) :
    encodeKv (item :: next :: items) = (item.1 ++ equalsSign :: item.2) ++ newline :: encodeKv (next :: items) := by
  simp [encodeKv, List.intercalate]

theorem encodeKv_singleton (item : Bytes × Bytes) : encodeKv [item] = item.1 ++ equalsSign :: item.2 := by
  simp [encodeKv, List.intercalate]

private theorem lineValue_record {item : Bytes × Bytes} (plain : Plain item) :
    lineValue item.1 (recordLine item) = item.2 := by
  rw [recordLine, lineValue_append, takeWhile_of_notMem plain.valueReturn]

theorem kvCopy_encodeKv {items : List (Bytes × Bytes)} {key : Bytes} (plain : ∀ item ∈ items, Plain item)
    (ends : equalsSign ∉ key) (size : Nat) :
    kvCopy size (encodeKv items) key = (firstBound items key).filter fun value => decide (value.length < size) := by
  have clean : ∀ line ∈ items.map recordLine, newline ∉ line := by
    intro line member
    obtain ⟨item, inside, rfl⟩ := List.mem_map.mp member
    exact (plain item inside).line
  have found : firstRecord key (items.map recordLine) = firstBound items key := by
    clear clean
    induction items with
    | nil => rfl
    | cons item items ih =>
      have own := plain item List.mem_cons_self
      have ih := ih fun other member => plain other (List.mem_cons_of_mem _ member)
      have binds : bindsKey key (recordLine item) = (item.1 == key && !item.2.isEmpty) := bindsKey_record own ends
      cases bound : (item.1 == key && !item.2.isEmpty) with
      | true =>
        have same : item.1 = key := by simpa using (Bool.and_eq_true_iff.mp bound).1
        rw [firstBound_cons_bound bound, List.map_cons, firstRecord_cons_bound (by rw [binds, bound]), ← same,
          lineValue_record own]
      | false => rw [firstBound_cons_unbound bound, List.map_cons, firstRecord_cons_unbound (by rw [binds, bound]), ih]
  rw [encodeKv_eq, kvCopy_lines size key clean, found]

/-- A byte that is in no record and is no separator is not in the text. -/
theorem notMem_encodeKv {items : List (Bytes × Bytes)} {byte : UInt8} (notLine : byte ≠ newline)
    (notEnd : byte ≠ equalsSign)
    (absent : ∀ item ∈ items, byte ∉ item.1 ∧ byte ∉ item.2) : byte ∉ encodeKv items := by
  induction items with
  | nil => exact List.not_mem_nil
  | cons item items ih =>
    have own := absent item List.mem_cons_self
    have ih := ih fun other member => absent other (List.mem_cons_of_mem _ member)
    cases items with
    | nil => simp [encodeKv_singleton, own.1, own.2, notEnd]
    | cons next items =>
      rw [encodeKv_cons]
      simp [own.1, own.2, notEnd, notLine, ih]

theorem cstr_of_notMem {text : Bytes} (absent : 0 ∉ text) : cstr text = text := takeWhile_of_notMem absent

end Luagent.Proofs
