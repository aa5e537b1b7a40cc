import Luagent.Proofs.SpawnArgs

/-! The two passes of `proc_build_args`. The first asks for one number after the
other until one is missing; each number is found on a line of its own, so it ends.
The second finds what the first has found and fills an array of that size. -/

namespace Luagent.Proofs.ArgScan
open Foundation SpawnArgs

/-- The lines of a text. Behind the last newline is one only if something stands there. -/
def textLines (text : Bytes) : List Bytes :=
  if (text.splitOn newline).getLast? = some [] then (text.splitOn newline).dropLast else text.splitOn newline

private theorem mem_textLines {text line : Bytes} (member : line ∈ text.splitOn newline) (filled : line ≠ []) :
    line ∈ textLines text := by
  unfold textLines
  split
  next last =>
    obtain ⟨front, split⟩ := List.getLast?_eq_some_iff.mp last
    rw [split] at member ⊢
    rw [List.mem_append, List.mem_singleton] at member
    rw [List.dropLast_concat]
    exact member.resolve_right filled
  next => exact member

theorem length_textLines_le (text : Bytes) : (textLines text).length ≤ text.length + 1 := by
  have pieces := length_splitOnP_le (· == newline) text
  rw [← List.splitOn_eq_splitOnP] at pieces
  unfold textLines
  split
  · exact Nat.le_trans (List.dropLast_sublist _).length_le pieces
  · exact pieces

/-- A line is asked for under one number only. -/
theorem exists_args (text : Bytes) :
    ∃ args, Leads (fun index => kvCopy 512 text (argName index)) args ∧ args.length ≤ (textLines text).length := by
  have named : ∀ index value, kvCopy 512 text (argName index) = some value →
      ∃ line ∈ textLines text, line.takeWhile (· ≠ equalsSign) = argName index := by
    intro index value read
    rw [kvCopy_splitOn] at read
    obtain ⟨line, found, -⟩ := Option.map_eq_some_iff.mp (Option.filter_eq_some_iff.mp read).1
    have member := List.mem_of_find?_eq_some found
    obtain ⟨rest, -, rfl⟩ := (bindsKey_iff (items_of_mem_splitOn member).1).mp (List.find?_some found)
    exact ⟨_, mem_textLines member (by simp), takeWhile_append_of_notMem (argName_clean index).2 rest⟩
  exact exists_leads_named (fun _ _ same => argName_injective same) named

section array
variable (env : Env) (payload : Bytes)

def copyArg (index : Nat) : Option Bytes := do
  let key ← argKey index
  let value ← kvCopy 512 payload key
  if env.alloc (.procArg index) then some value else none

private theorem fillArgs_succ (left index : Nat) (args : ArgArray) :
    fillArgs env payload (left + 1) index args =
      (copyArg env payload index).bind fun value => fillArgs env payload left (index + 1) (args.set index (some value)) := by
  rw [fillArgs, copyArg]
  cases argKey index with
  | none => rfl
  | some key =>
    simp only [Option.bind_eq_bind, Option.bind_some]
    cases kvCopy 512 payload key with
    | none => rfl
    | some value => cases env.alloc (.procArg index) <;> rfl

private theorem fillArgs_eq (left : Nat) (done : List Bytes) :
    fillArgs env payload left done.length (done.map some ++ List.replicate (left + 1) none) =
      ((List.range' done.length left).mapM (copyArg env payload)).map fun args => (done ++ args).map some ++ [none] := by
  induction left generalizing done with
  | zero => simp [fillArgs]
  | succ left ih =>
    rw [fillArgs_succ, List.range'_succ, List.mapM_cons]
    cases copyArg env payload done.length with
    | none => rfl
    | some value =>
      have stored : (done.map some ++ List.replicate (left + 2) none).set done.length (some value) =
          (done ++ [value]).map some ++ List.replicate (left + 1) none := by
        rw [List.set_append_right _ _ (by simp), List.length_map, Nat.sub_self, List.replicate_succ, List.set_cons_zero]
        simp
      have rest := ih (done ++ [value])
      rw [List.length_append, List.length_singleton] at rest
      simp only [Option.bind_some, Option.bind_eq_bind, stored, rest, Option.pure_def]
      cases (List.range' (done.length + 1) left).mapM (copyArg env payload) with
      | none => rfl
      | some args => simp

private theorem strings_append (args : List Bytes) (rest : ArgArray) :
    ArgArray.strings (args.map some ++ none :: rest) = args := by
  unfold ArgArray.strings
  induction args with
  | nil => rfl
  | cons arg args ih =>
    rw [List.map_cons, List.cons_append, List.takeWhile_cons_of_pos rfl]
    exact congrArg (arg :: ·) ih

variable {env payload}

/-- The list of strings and the array are built alike. They differ where the only
string could not be copied: then the array has two entries, both NULL. -/
private theorem build_cases (path : Bytes) :
    (procBuildArgs env payload path = some (if env.alloc (.procArg 0) then [path] else []) ∧
      procBuildArgArray env payload path = some [if env.alloc (.procArg 0) then some path else none, none]) ∨
    procBuildArgArray env payload path = (procBuildArgs env payload path).map fun args => args.map some ++ [none] := by
  unfold procBuildArgArray procBuildArgs
  cases countArgs payload (payload.length + 2) 0 with
  | none => exact .inr rfl
  | some found =>
    dsimp only
    generalize (if found = 0 then 1 else found) = count
    cases env.alloc .procArgs with
    | false => exact .inr rfl
    | true =>
      simp only [Bool.not_true, Bool.false_eq_true, if_false]
      split
      next one =>
        rw [one]
        exact .inl ⟨rfl, rfl⟩
      next =>
        rw [List.range_eq_range']
        exact .inr (fillArgs_eq env payload count [])

private theorem procBuildArgArray_eq (path : Bytes) (copied : env.alloc (.procArg 0) = true) :
    procBuildArgArray env payload path = (procBuildArgs env payload path).map fun args => args.map some ++ [none] := by
  rcases @build_cases env payload path with ⟨strings, array⟩ | array
  · rw [strings, array, copied]
    rfl
  · exact array

/-- In any case `procBuildArgs` returns the strings that a reader of the array sees. -/
theorem procBuildArgs_eq (path : Bytes) :
    procBuildArgs env payload path = (procBuildArgArray env payload path).map ArgArray.strings := by
  rcases @build_cases env payload path with ⟨strings, array⟩ | array
  · rw [strings, array]
    cases env.alloc (.procArg 0) <;> rfl
  · rw [array, Option.map_map]
    cases procBuildArgs env payload path with
    | none => rfl
    | some args => exact congrArg some (strings_append args []).symm

end array

/-- The counting loop ends after no more turns than the text has lines and one,
with a key that fits its buffer each time. It counts the leading `argv` records that
can be read. The second pass then fills an array with the values of these, or with
the path alone when there is no more than one, up to the NULL at its end. -/
theorem build_args_terminates (env : Env) (payload path : Bytes) (bounded : payload.length ≤ maxFramePayload) :
    ∃ args : List Bytes, Leads (fun index => kvCopy 512 (cstr payload) (argName index)) args ∧
      args.length ≤ (textLines (cstr payload)).length ∧
      (∀ turns, args.length < turns → countArgs (cstr payload) turns 0 = some args.length) ∧
      (∀ index ≤ args.length, index < 2 ^ 32 ∧ argKey index = some (ascii "argv" ++ decimal index)) ∧
      ((∀ site, env.alloc site = true) → ∃ entries : List Bytes, entries = (if args.length ≤ 1 then [path] else args) ∧
        entries.length = max args.length 1 ∧ procBuildArgArray env (cstr payload) path = some (entries.map some ++ [none])) := by
  have inside : (cstr payload).length ≤ payload.length := (List.takeWhile_sublist _).length_le
  have lines := length_textLines_le (cstr payload)
  obtain ⟨args, leads, few⟩ := exists_args (cstr payload)
  unfold maxFramePayload at bounded
  refine ⟨args, leads, few, ?_, ?_, ?_⟩
  · intro turns enough
    exact countArgs_leads leads (by omega) turns 0 (Nat.zero_le _) (by omega)
  · intro index within
    exact ⟨by omega, argKey_small (by omega)⟩
  · intro memory
    rw [procBuildArgArray_eq path (memory _), procBuildArgs_leads env leads (by omega) (by omega)]
    refine ⟨_, rfl, ?_, ?_⟩
    · split
      next single => rw [List.length_singleton, Nat.max_eq_right single]
      next several => exact (Nat.max_eq_left (by omega)).symm
    · simp [memory]

theorem build_args_terminates_two :
    countArgs (cstr (ascii "argv0=a\nargv1=b\n")) 3 0 = some 2 ∧
      procBuildArgArray {} (cstr (ascii "argv0=a\nargv1=b\n")) (ascii "x") = some [some (ascii "a"), some (ascii "b"), none] := by
  obtain ⟨args, leads, few, ends, -, built⟩ := build_args_terminates {} (ascii "argv0=a\nargv1=b\n") (ascii "x") (by decide)
  have lines : (textLines (cstr (ascii "argv0=a\nargv1=b\n"))).length = 2 := by decide
  have counted := ends 3 (by omega)
  have two : args.length = 2 := Option.some.inj (counted.symm.trans (by decide))
  have values : args = [ascii "a", ascii "b"] := by
    apply List.ext_getElem? fun index => ?_
    rcases Nat.lt_or_ge 2 index with beyond | within
    · rw [List.getElem?_eq_none (by omega), List.getElem?_eq_none (by simpa using by omega)]
    · rw [← leads index (by omega)]
      match index with
      | 0 | 1 | 2 => decide
  obtain ⟨entries, same, -, array⟩ := built fun _ => rfl
  rw [two] at counted
  rw [same, values] at array
  exact ⟨counted, array⟩

end Luagent.Proofs.ArgScan
