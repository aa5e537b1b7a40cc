import Luagent.Proofs.SpawnArgs

/-! The numbers of a request. `strtoull` also takes white space and a sign in front
of the digits, and a process id is cut to 32 bits after it was read, so that other
texts than the decimal numeral of a number stand for it. -/

namespace Luagent.Proofs.Numerals
open Foundation

/-- The decimal numerals of a number, leading zeros included. -/
structure Numeral (text : Bytes) (value : Nat) : Prop where
  filled : text ≠ []
  digits : ∀ byte ∈ text, isDigit byte = true
  value : digitsValue text = value

/-- Neither white space nor a sign stands in front. -/
def startsWithDigit (text : Bytes) : Bool := text.head?.any isDigit

theorem Numeral.starts {text : Bytes} {value : Nat} (numeral : Numeral text value) : startsWithDigit text = true := by
  obtain ⟨first, rest, rfl⟩ := List.exists_cons_of_ne_nil numeral.filled
  exact numeral.digits first List.mem_cons_self

theorem Numeral.unique {text : Bytes} {left right : Nat} (first : Numeral text left) (second : Numeral text right) :
    left = right := first.value.symm.trans second.value

private theorem parseUnsigned_some {text : Bytes} {value : Nat} (parsed : parseUnsigned text = some value) :
    strtoull text = some (value, []) := by
  unfold parseUnsigned at parsed
  split at parsed
  next converted =>
    cases parsed
    exact converted
  next => cases parsed

private theorem strtoull_digits {text : Bytes} (starts : startsWithDigit text = true) :
    strtoull text =
      if 2 ^ 64 ≤ digitsValue (text.takeWhile isDigit) then none
      else some (digitsValue (text.takeWhile isDigit), text.dropWhile isDigit) := by
  cases text with
  | nil => cases starts
  | cons first rest =>
    have digit : isDigit first = true := starts
    obtain ⟨space, minus, plus⟩ := digit_plain digit
    have body : (first :: rest).dropWhile isSpace = first :: rest := List.dropWhile_cons_of_neg (by simp [space])
    have converted : (first :: rest).takeWhile isDigit ≠ [] := by simp [digit]
    have left : (first :: rest).drop ((first :: rest).takeWhile isDigit).length = (first :: rest).dropWhile isDigit := by
      conv => lhs; arg 2; rw [← List.takeWhile_append_dropWhile (p := isDigit) (l := first :: rest)]
      exact List.drop_left
    simp only [strtoull, body, List.head?_cons, Option.some_beq_some, beq_false_of_ne minus, beq_false_of_ne plus, Bool.or_self,
      Bool.false_eq_true, if_false, List.isEmpty_iff, converted, left]

private theorem parseUnsigned_numeral_iff {text : Bytes} {value : Nat} (parsed : parseUnsigned text = some value) :
    Numeral text value ↔ startsWithDigit text = true := by
  refine ⟨Numeral.starts, fun starts => ?_⟩
  have converted := parseUnsigned_some parsed
  rw [strtoull_digits starts, Option.ite_none_left_eq_some, Option.some.injEq, Prod.mk.injEq,
    List.dropWhile_eq_nil_iff] at converted
  obtain ⟨_, same, digits⟩ := converted
  rw [List.takeWhile_eq_self_iff.mpr digits] at same
  refine ⟨?_, digits, same⟩
  rintro rfl
  cases starts

private theorem parseUnsigned_of_numeral {text : Bytes} {value : Nat} (numeral : Numeral text value)
    (small : value < 2 ^ 64) :
    parseUnsigned text = some value := by
  have whole : text.takeWhile isDigit = text := List.takeWhile_eq_self_iff.mpr numeral.digits
  have rest : text.dropWhile isDigit = [] := List.dropWhile_eq_nil_iff.mpr numeral.digits
  unfold parseUnsigned
  rw [strtoull_digits numeral.starts, whole, rest, numeral.value, if_neg (Nat.not_le.mpr small)]

private theorem kvU64_some {payload key : Bytes} {value : Nat} (found : kvU64 payload key = some value) :
    ∃ text, kvCopy 64 payload key = some text ∧ parseUnsigned text = some value := Option.bind_eq_some_iff.mp found

private theorem begun_size {env : Env} {world : World} {reqId : UInt32} {payload : Bytes}
    (idle : world.upload.active = false)
    (begun : (transferHandlePutBegin env world reqId payload).1.upload.active = true) :
    kvU64 payload (ascii "size") = some (transferHandlePutBegin env world reqId payload).1.upload.totalSize := by
  cases putBegin_effect env world reqId payload with
  | refused _ upload =>
    rw [upload, idle] at begun
    cases begun
  | failed _ _ _ _ upload =>
    rw [upload] at begun
    cases begun
  | opened _ _ _ asks _ upload =>
    rw [upload]
    exact asks.size

/-- A number that was read is the decimal numeral in its record exactly when the
record starts with a digit. So it is with the size of an accepted upload. -/
theorem declared_number_iff (payload key : Bytes) (env : Env) (world : World) (reqId : UInt32) :
    (∀ value, kvU64 payload key = some value → value < 2 ^ 64 ∧
      ∃ text, kvCopy 64 payload key = some text ∧ (Numeral text value ↔ startsWithDigit text = true)) ∧
    (world.upload.active = false → (transferHandlePutBegin env world reqId payload).1.upload.active = true →
      ∃ text, kvCopy 64 payload (ascii "size") = some text ∧
        (Numeral text (transferHandlePutBegin env world reqId payload).1.upload.totalSize ↔ startsWithDigit text = true)) := by
  have read : ∀ field value, kvU64 payload field = some value →
      ∃ text, kvCopy 64 payload field = some text ∧ (Numeral text value ↔ startsWithDigit text = true) := by
    intro field value found
    obtain ⟨text, copied, parsed⟩ := kvU64_some found
    exact ⟨text, copied, parseUnsigned_numeral_iff parsed⟩
  refine ⟨fun value found => ⟨kvU64_lt found, read key value found⟩, ?_⟩
  intro idle begun
  exact read (ascii "size") _ (begun_size idle begun)

def beginNegative : World × Bool := transferHandlePutBegin {} Upload.freshSession 7 (ascii "path=a\nsize=-1")

/-- A client that declares a size of -1 has to send 2^64 - 1 bytes. -/
theorem negative_size_accepted :
    Upload.freshSession.upload.active = false ∧ beginNegative.1.upload.active = true ∧ beginNegative.2 = true ∧
    kvCopy 64 (ascii "path=a\nsize=-1") (ascii "size") = some (ascii "-1") ∧
    kvU64 (ascii "path=a\nsize=-1") (ascii "size") = some (2 ^ 64 - 1) ∧ beginNegative.1.upload.totalSize = 2 ^ 64 - 1 ∧
    ¬ Numeral (ascii "-1") (2 ^ 64 - 1) := by
  refine ⟨by decide, by decide, by decide +kernel, by decide, by decide, by decide, fun numeral => ?_⟩
  exact absurd numeral.starts (by decide)

theorem declared_number_iff_two : ∃ text, kvCopy 64 (ascii "path=a\nsize=2") (ascii "size") = some text ∧
    Numeral text (transferHandlePutBegin {} Upload.freshSession 7 (ascii "path=a\nsize=2")).1.upload.totalSize := by
  obtain ⟨text, copied, exact⟩ :=
    (declared_number_iff (ascii "path=a\nsize=2") (ascii "size") {} Upload.freshSession 7).2 (by decide) (by decide)
  have two : kvCopy 64 (ascii "path=a\nsize=2") (ascii "size") = some (ascii "2") := by decide
  cases copied.symm.trans two
  exact ⟨_, copied, exact.mpr (by decide)⟩

section kill
variable (env : Env) (world : World) (reqId : UInt32) (payload : Bytes)

/-- The record is a decimal numeral of the id of the child in the slot. -/
def Named : Prop :=
  world.proc.active = true ∧ ∃ text, kvCopy 32 payload (ascii "proc_id") = some text ∧ Numeral text world.proc.procId.toNat

/-- The record is another text that stands for the id after it was read and cut
to 32 bits: one with white space or a sign in front, or a larger number. -/
def Aliased : Prop :=
  world.proc.active = true ∧ ∃ text value, kvCopy 32 payload (ascii "proc_id") = some text ∧
    parseUnsigned text = some value ∧ value.toUInt32 = world.proc.procId ∧ (startsWithDigit text = false ∨ 2 ^ 32 ≤ value)

/-- Only a request that names the child kills it. Any other is answered with an
error and leaves the slot as it was. -/
structure KillsOnlyNamed : Prop where
  kills : (procHandleKill env world reqId payload).1.proc.kills ≠ world.proc.kills → Named world payload
  others : ¬ Named world payload → (procHandleKill env world reqId payload).1.proc = world.proc ∧
    ∃ code message, procHandleKill env world reqId payload = (world.sendError env reqId code message, false)

variable {world payload}

private theorem taken_iff : (world.proc.active = true ∧ kvU32 payload (ascii "proc_id") = some world.proc.procId) ↔
    Named world payload ∨ Aliased world payload := by
  have read : kvU32 payload (ascii "proc_id") = some world.proc.procId ↔ ∃ text value,
      kvCopy 32 payload (ascii "proc_id") = some text ∧ parseUnsigned text = some value ∧ value.toUInt32 = world.proc.procId := by
    simp only [kvU32, Option.map_eq_some_iff, Option.bind_eq_some_iff]
    constructor
    · rintro ⟨value, ⟨text, copied, parsed⟩, same⟩
      exact ⟨text, value, copied, parsed, same⟩
    · rintro ⟨text, value, copied, parsed, same⟩
      exact ⟨value, ⟨text, copied, parsed⟩, same⟩
  rw [read]
  constructor
  · rintro ⟨active, text, value, copied, parsed, same⟩
    by_cases plain : startsWithDigit text = true ∧ value < 2 ^ 32
    · refine .inl ⟨active, text, copied, ?_⟩
      have small : value.toUInt32.toNat = value := Nat.mod_eq_of_lt plain.2
      rw [← same, small]
      exact (parseUnsigned_numeral_iff parsed).mpr plain.1
    · refine .inr ⟨active, text, value, copied, parsed, same, ?_⟩
      rwa [not_and_or, Bool.not_eq_true, Nat.not_lt] at plain
  · rintro (⟨active, text, copied, numeral⟩ | ⟨active, text, value, copied, parsed, same, _⟩)
    · have small : world.proc.procId.toNat < 2 ^ 32 := world.proc.procId.toNat_lt
      refine ⟨active, text, _, copied, parseUnsigned_of_numeral numeral (by omega), ?_⟩
      exact UInt32.ofNat_toNat
    · exact ⟨active, text, value, copied, parsed, same⟩

/-- A numeral is no alias. -/
theorem Named.not_aliased (named : Named world payload) : ¬ Aliased world payload := by
  rintro ⟨_, other, value, found, parsed, _, odd⟩
  obtain ⟨_, text, copied, numeral⟩ := named
  cases copied.symm.trans found
  have small : world.proc.procId.toNat < 2 ^ 32 := world.proc.procId.toNat_lt
  have same := (parseUnsigned_of_numeral numeral (by omega)).symm.trans parsed
  rcases odd with unsigned | large
  · rw [numeral.starts] at unsigned
    cases unsigned
  · have := Option.some.inj same
    omega

private theorem handleKill_kills (taken : world.proc.active = true ∧ kvU32 payload (ascii "proc_id") = some world.proc.procId) :
    (procHandleKill env world reqId payload).1.proc.kills ≠ world.proc.kills := by
  have more : world.proc.kills ++ [⟨world.proc.spawned, .requested, env.kill⟩] ≠ world.proc.kills := by simp
  have ending := handleKill_ending env world reqId payload
  generalize procHandleKill env world reqId payload = result at ending ⊢
  cases ending with
  | missing missing => exact absurd (missing.symm.trans taken.2) (Option.some_ne_none _).symm
  | unknown _ other => exact absurd taken other
  | failed | killed => exact more

private theorem handleKill_refuses (untaken : ¬ (world.proc.active = true ∧ kvU32 payload (ascii "proc_id") = some world.proc.procId)) :
    ∃ code message, procHandleKill env world reqId payload = (world.sendError env reqId code message, false) := by
  have ending := handleKill_ending env world reqId payload
  generalize procHandleKill env world reqId payload = result at ending ⊢
  cases ending with
  | missing | unknown => exact ⟨_, _, rfl⟩
  | failed taken | killed taken => exact absurd taken untaken

/-- Whatever the state of the session, a request reaches only the child it names
unless its record is an alias. -/
theorem kill_only_named_iff (env : Env) (world : World) (reqId : UInt32) (payload : Bytes) :
    KillsOnlyNamed env world reqId payload ↔ ¬ Aliased world payload := by
  by_cases taken : world.proc.active = true ∧ kvU32 payload (ascii "proc_id") = some world.proc.procId
  · constructor
    · intro only
      exact (only.kills (handleKill_kills env reqId taken)).not_aliased
    · intro plain
      have named := (taken_iff.mp taken).resolve_right plain
      exact ⟨fun _ => named, fun unnamed => absurd named unnamed⟩
  · have plain : ¬ Aliased world payload := fun aliased => taken (taken_iff.mpr (.inr aliased))
    obtain ⟨code, message, refused⟩ := handleKill_refuses env reqId taken
    refine ⟨fun _ => plain, fun _ => ⟨fun killed => ?_, fun _ => ⟨by rw [refused]; rfl, code, message, refused⟩⟩⟩
    rw [refused] at killed
    exact absurd rfl killed

end kill

/-- A session whose first child runs. -/
def oneChild : World := (procHandleSpawn {} Upload.freshSession 7 (ascii "path=x")).1

/-- 2^32 + 1 is taken for 1. -/
theorem larger_number_kills :
    oneChild.proc.active = true ∧ oneChild.proc.procId = 1 ∧
    kvCopy 32 (ascii "proc_id=4294967297") (ascii "proc_id") = some (ascii "4294967297") ∧
    Numeral (ascii "4294967297") 4294967297 ∧
    (procHandleKill {} oneChild 8 (ascii "proc_id=4294967297")).1.proc.kills = [⟨1, .requested, 0⟩] ∧
    (procHandleKill {} oneChild 8 (ascii "proc_id=4294967297")).2 = true ∧
    ¬ KillsOnlyNamed {} oneChild 8 (ascii "proc_id=4294967297") := by
  have copied : kvCopy 32 (ascii "proc_id=4294967297") (ascii "proc_id") = some (ascii "4294967297") := by decide
  have numeral : Numeral (ascii "4294967297") 4294967297 := ⟨by decide, List.all_eq_true.mp (by decide), by decide⟩
  refine ⟨by decide, by decide, copied, numeral, by decide, by decide +kernel, fun only => ?_⟩
  obtain ⟨_, text, found, named⟩ := only.kills (by decide)
  cases copied.symm.trans found
  exact absurd (named.unique numeral) (by decide)

end Luagent.Proofs.Numerals
