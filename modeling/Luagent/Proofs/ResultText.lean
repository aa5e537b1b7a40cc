import Luagent.Daemon
import Luagent.Foundation.Lines
import Luagent.Foundation.Lookup
import Luagent.Lua

/-! The text of a result, from the Lua table to the dictionary of the client
daemon. Lua joins the records with newlines; the daemon ends a line at other
characters as well, and has no text for bytes that are no UTF-8. -/

namespace Luagent.Proofs.ResultText
open Foundation Daemon

section lines
variable {line text : List Char} {lines : List (List Char)}

private theorem splitlinesFrom_clean (begun : ∀ char ∈ line, isLineBreak char = false) :
    ∀ piece ∈ splitlinesFrom line text, ∀ char ∈ piece, isLineBreak char = false := by
  fun_induction splitlinesFrom line text with
  | case1 => simp
  | case2 line filled =>
    intro piece member
    rw [List.mem_singleton] at member
    exact member ▸ begun
  | case3 line rest ih => exact List.forall_mem_cons.mpr ⟨begun, ih (by simp)⟩
  | case4 line char rest other ends ih => exact List.forall_mem_cons.mpr ⟨begun, ih (by simp)⟩
  | case5 line char rest other goes ih =>
    apply ih
    intro later member
    rcases List.mem_append.mp member with old | new
    · exact begun later old
    · rw [List.mem_singleton.mp new]
      simpa using goes

private theorem splitlinesFrom_step (line : List Char) {char : Char} (goes : isLineBreak char = false) (rest : List Char) :
    splitlinesFrom line (char :: rest) = splitlinesFrom (line ++ [char]) rest := by
  rw [splitlinesFrom]
  · rw [if_neg (by simp [goes])]
  · rintro _ rfl
    exact absurd goes (by decide)

private theorem splitlinesFrom_line (clean : ∀ char ∈ text, isLineBreak char = false) (rest : List Char) :
    splitlinesFrom line (text ++ rest) = splitlinesFrom (line ++ text) rest := by
  induction text generalizing line with
  | nil => rw [List.nil_append, List.append_nil]
  | cons char text ih =>
    obtain ⟨goes, others⟩ := List.forall_mem_cons.mp clean
    rw [List.cons_append, splitlinesFrom_step line goes, ih others, List.append_assoc, List.singleton_append]

private theorem splitlines_intercalate (clean : ∀ line ∈ lines, ∀ char ∈ line, isLineBreak char = false)
    (filled : ∀ line ∈ lines, line ≠ []) :
    splitlines (['\n'].intercalate lines) = lines := by
  induction lines with
  | nil => rfl
  | cons line lines ih =>
    obtain ⟨own, others⟩ := List.forall_mem_cons.mp clean
    obtain ⟨ownFilled, othersFilled⟩ := List.forall_mem_cons.mp filled
    cases lines with
    | nil =>
      have whole := @splitlinesFrom_line [] line own []
      rw [List.append_nil, List.nil_append] at whole
      rw [List.intercalate_singleton, splitlines, whole, splitlinesFrom, if_neg (by simpa using ownFilled)]
    | cons next lines =>
      rw [List.intercalate_cons_cons, splitlines, List.append_assoc, splitlinesFrom_line own]
      exact congrArg (List.cons line) (ih others othersFilled)

end lines

private theorem splitRecord_append {key : List Char} (ends : '=' ∉ key) (value : List Char) :
    splitRecord (key ++ '=' :: value) = some (key, value) := by
  have first : (key ++ '=' :: value).takeWhile (· ≠ '=') = key := by
    rw [List.takeWhile_append_of_pos]
    · simp
    · intro char member
      simp only [decide_eq_true_eq]
      rintro rfl
      exact ends member
  simp only [splitRecord, first]
  rw [if_pos (by simp)]
  simp [List.drop_append]

private theorem splitRecord_subset {line key value : List Char} (split : splitRecord line = some (key, value)) :
    key ⊆ line ∧ value ⊆ line := by
  unfold splitRecord at split
  split at split
  next =>
    rw [Option.some.injEq, Prod.mk.injEq] at split
    obtain ⟨rfl, rfl⟩ := split
    exact ⟨(List.takeWhile_sublist _).subset, (List.drop_sublist _ _).subset⟩
  next => cases split

private theorem parseKv_eq (payload : Bytes) :
    Daemon.parseKv payload = ((splitlines (decodeReplacing payload)).filterMap splitRecord).reverse := by
  rw [Daemon.parseKv, @foldl_assign _ _ _ splitRecord, List.append_nil]
  intro out line
  cases splitRecord line <;> rfl

/-- The bytes are a text of one line, as the daemon sees it. -/
def Readable (bytes : Bytes) : Prop := ∃ text, utf8 text = bytes ∧ ∀ char ∈ text, isLineBreak char = false

/-- The dictionary holds the records of the table and no others. -/
def ReturnsTable (table : Table) (payload : Bytes) : Prop :=
  ∀ key value, (key, value) ∈ table ↔
    ∃ name text, utf8 name = key ∧ utf8 text = value ∧ (Daemon.parseKv payload).lookup name = some text

/-- No key or value of a dictionary holds a line break. -/
theorem ReturnsTable.readable {table : Table} {payload : Bytes} (returned : ReturnsTable table payload) :
    ∀ item ∈ table, Readable item.1 ∧ Readable item.2 := by
  intro item member
  obtain ⟨name, text, key, value, found⟩ := (returned item.1 item.2).mp member
  obtain ⟨before, after, split, -⟩ := List.lookup_eq_some_iff.mp found
  have entry : (name, text) ∈ Daemon.parseKv payload := by
    rw [split]
    simp
  rw [parseKv_eq, List.mem_reverse, List.mem_filterMap] at entry
  obtain ⟨line, inside, record⟩ := entry
  have clean := @splitlinesFrom_clean [] (decodeReplacing payload) (by simp) line inside
  obtain ⟨keySubset, valueSubset⟩ := splitRecord_subset record
  exact ⟨⟨name, key, fun char inKey => clean char (keySubset inKey)⟩,
    ⟨text, value, fun char inValue => clean char (valueSubset inValue)⟩⟩

private theorem concatLines_eq (lines : List Bytes) : concatLines lines = [newline].intercalate lines := by
  induction lines with
  | nil => rfl
  | cons line lines ih =>
    cases lines with
    | nil => rw [concatLines, List.intercalate_singleton]
    | cons next lines =>
      rw [concatLines, ih, List.intercalate_cons_cons]
      exact List.cons_ne_nil _ _

private theorem utf8_intercalate (lines : List (List Char)) :
    utf8 (['\n'].intercalate lines) = [newline].intercalate (lines.map utf8) := by
  induction lines with
  | nil => rfl
  | cons line lines ih =>
    cases lines with
    | nil => rw [List.intercalate_singleton, List.map_singleton, List.intercalate_singleton]
    | cons next lines =>
      rw [List.intercalate_cons_cons, utf8_append, utf8_append, ih, List.map_cons, List.map_cons, List.map_cons,
        List.intercalate_cons_cons]
      rfl

def resultLine (item : Bytes × Bytes) : Bytes := item.1 ++ [equalsSign] ++ item.2

private theorem encodeResult_eq (listed : Table) :
    encodeResult listed = [newline].intercalate ((listed.map resultLine).insertionSort fun left right => bytesLe left right) :=
  concatLines_eq _

def decoded (item : Bytes × Bytes) : List Char × List Char := (decodeReplacing item.1, decodeReplacing item.2)

def decodedLine (item : Bytes × Bytes) : List Char := (decoded item).1 ++ '=' :: (decoded item).2

theorem Readable.decode {bytes : Bytes} (readable : Readable bytes) :
    utf8 (decodeReplacing bytes) = bytes ∧ ∀ char ∈ decodeReplacing bytes, isLineBreak char = false := by
  obtain ⟨text, rfl, clean⟩ := readable
  rw [decodeReplacing_utf8]
  exact ⟨rfl, clean⟩

section record
variable {item : Bytes × Bytes} (key : Readable item.1) (value : Readable item.2)
include key value

private theorem utf8_decodedLine : utf8 (decodedLine item) = resultLine item := by
  rw [resultLine, decodedLine, decoded, utf8_append, utf8_cons, key.decode.1, value.decode.1, List.append_assoc]
  rfl

private theorem decodedLine_clean : ∀ char ∈ decodedLine item, isLineBreak char = false := by
  intro char member
  rcases List.mem_append.mp member with inKey | rest
  · exact key.decode.2 char inKey
  · rcases List.mem_cons.mp rest with rfl | inValue
    · decide
    · exact value.decode.2 char inValue

omit value in
private theorem splitRecord_decodedLine (ends : equalsSign ∉ item.1) :
    splitRecord (decodedLine item) = some (decoded item) := by
  apply splitRecord_append
  intro member
  -- the byte of an equals sign is among the bytes of the key
  apply ends
  rw [← key.decode.1]
  exact List.mem_flatMap.mpr ⟨'=', member, by decide⟩

end record

section table
variable {table listed : Table} (readable : ∀ item ∈ table, Readable item.1 ∧ Readable item.2) (order : listed.Perm table)
include readable order

private theorem splitlines_encodeResult :
    (splitlines (decodeReplacing (encodeResult listed))).Perm (table.map decodedLine) := by
  rw [encodeResult_eq]
  generalize isSorted : (listed.map resultLine).insertionSort (fun left right => bytesLe left right) = sorted
  have written : sorted.Perm (table.map resultLine) := isSorted ▸ (List.perm_insertionSort _ _).trans (order.map resultLine)
  have lines : ∀ line ∈ sorted, ∃ item ∈ table, line = utf8 (decodedLine item) := by
    intro line member
    obtain ⟨item, inside, rfl⟩ := List.mem_map.mp (written.mem_iff.mp member)
    exact ⟨item, inside, (utf8_decodedLine (readable item inside).1 (readable item inside).2).symm⟩
  have back : (sorted.map decodeReplacing).map utf8 = sorted := by
    rw [List.map_map]
    conv => rhs; rw [← List.map_id sorted]
    apply List.map_congr_left
    intro line member
    obtain ⟨item, -, rfl⟩ := lines line member
    exact congrArg utf8 (decodeReplacing_utf8 _)
  have found : splitlines (decodeReplacing ([newline].intercalate sorted)) = sorted.map decodeReplacing := by
    conv => lhs; rw [← back, ← utf8_intercalate, decodeReplacing_utf8]
    apply splitlines_intercalate
    all_goals
      intro line member
      obtain ⟨bytes, inside, rfl⟩ := List.mem_map.mp member
      obtain ⟨item, inTable, rfl⟩ := lines bytes inside
      rw [decodeReplacing_utf8]
    · exact decodedLine_clean (readable item inTable).1 (readable item inTable).2
    · simp [decodedLine]
  rw [found]
  refine (written.map decodeReplacing).trans (.of_eq ?_)
  rw [List.map_map]
  apply List.map_congr_left
  intro item member
  rw [Function.comp_apply, ← utf8_decodedLine (readable item member).1 (readable item member).2, decodeReplacing_utf8]

private theorem parseKv_encodeResult (ends : ∀ item ∈ table, equalsSign ∉ item.1) :
    (Daemon.parseKv (encodeResult listed)).Perm (table.map decoded) := by
  rw [parseKv_eq]
  refine (List.reverse_perm _).trans (((splitlines_encodeResult readable order).filterMap _).trans (.of_eq ?_))
  rw [List.filterMap_map, ← List.filterMap_eq_map]
  apply List.filterMap_congr
  intro item member
  exact splitRecord_decodedLine (readable item member).1 (ends item member)

end table

/-- The daemon gets back the table that Lua has encoded, in whatever order it was
enumerated, if and only if every key and every value is UTF-8 without a
character that ends a line for Python. -/
theorem result_returned_iff {table listed : Table} (distinct : (table.map Prod.fst).Nodup)
    (ends : ∀ item ∈ table, equalsSign ∉ item.1) (order : listed.Perm table) :
    ReturnsTable table (encodeResult listed) ↔ ∀ item ∈ table, Readable item.1 ∧ Readable item.2 := by
  refine ⟨ReturnsTable.readable, fun readable => ?_⟩
  have entries := parseKv_encodeResult readable order ends
  have keys : ((table.map decoded).map Prod.fst).Nodup := by
    apply List.Nodup.of_map utf8
    have same : ((table.map decoded).map Prod.fst).map utf8 = table.map Prod.fst := by
      rw [List.map_map, List.map_map]
      exact List.map_congr_left fun item member => (readable item member).1.decode.1
    rwa [same]
  have found (name text : List Char) : (Daemon.parseKv (encodeResult listed)).lookup name = some text ↔ (name, text) ∈ table.map decoded := by
    rw [lookup_eq_some_iff_mem (((entries.map Prod.fst).nodup_iff).mpr keys), entries.mem_iff]
  intro key value
  simp only [found]
  constructor
  · intro member
    have read := readable _ member
    exact ⟨_, _, read.1.decode.1, read.2.decode.1, List.mem_map_of_mem member⟩
  · rintro ⟨name, text, rfl, rfl, member⟩
    obtain ⟨item, inside, same⟩ := List.mem_map.mp member
    have read := readable item inside
    obtain ⟨rfl, rfl⟩ := Prod.mk.inj same
    rw [read.1.decode.1, read.2.decode.1]
    exact inside

/-- What `list` answers for an empty directory of this name. -/
def listResult (path : Bytes) : Table := [(ascii "status", ascii "ok"), (ascii "path", path), (ascii "count", ascii "0")]

private theorem listResult_readable : ∀ item ∈ listResult (ascii "a b"), Readable item.1 ∧ Readable item.2 := by
  have word {text : List Char} (clean : text.any isLineBreak = false) : Readable (utf8 text) :=
    ⟨text, rfl, fun char member => Bool.eq_false_iff.mpr (List.any_eq_false.mp clean char member)⟩
  simp only [listResult, List.forall_mem_cons, List.not_mem_nil, false_implies, implies_true, and_true]
  exact ⟨⟨@word "status".toList (by decide), @word "ok".toList (by decide)⟩,
    ⟨@word "path".toList (by decide), @word "a b".toList (by decide)⟩,
    ⟨@word "count".toList (by decide), @word "0".toList (by decide)⟩⟩

theorem result_returned_iff_list : ReturnsTable (listResult (ascii "a b")) (encodeResult (listResult (ascii "a b"))) :=
  (result_returned_iff (by decide) (by decide) (.refl _)).mpr listResult_readable

/-- A vertical tab in the name cuts the path off. -/
theorem vertical_tab_cuts :
    (∀ world, opList { fsScandir := 0 } world [(ascii "path", ascii "a\x0bb")] = (world, .ok (listResult (ascii "a\x0bb")))) ∧
      (Daemon.parseKv (encodeResult (listResult (ascii "a\x0bb")))).lookup ['p', 'a', 't', 'h'] = some ['a'] ∧
      ¬ ReturnsTable (listResult (ascii "a\x0bb")) (encodeResult (listResult (ascii "a\x0bb"))) := by
  refine ⟨fun _ => rfl, by decide, fun returned => ?_⟩
  have read := (returned.readable (ascii "path", ascii "a\x0bb") (by decide)).2.decode.2
  exact absurd (read '\x0b' (by decide)) (by decide)

end Luagent.Proofs.ResultText
