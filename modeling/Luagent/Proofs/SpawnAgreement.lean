import Luagent.Proofs.ArgScan
import Luagent.Proofs.Decoders

/-! The two ways to start a child, `PROC_SPAWN` and the operation `tool.run`, on
one text. Each reader is given by the lines of the text; from what they read
follows when both hand on the same path and arguments. -/

namespace Luagent.Proofs.SpawnAgreement
open Foundation Decoders SpawnArgs

/-- What `proc_handle_spawn` hands to `proc_spawn_common`. -/
def spawnRequest (env : Env) (payload : Bytes) : Option (Bytes × List Bytes) :=
  match kvCopy 512 payload (ascii "path") with
  | none => none
  | some path => (procBuildArgs env payload path).map fun args => (path, args)

theorem handleSpawn_request (env : Env) (world : World) (reqId : UInt32) (payload : Bytes) :
    (spawnRequest env payload = none ∧
      ∃ code message, procHandleSpawn env world reqId payload = (world.sendError env reqId code message, false)) ∨
    ∃ path args timeoutMs idleTimeoutMs, spawnRequest env payload = some (path, args) ∧
      procHandleSpawn env world reqId payload = procSpawnCommon env world reqId path args timeoutMs idleTimeoutMs true := by
  have ending := handleSpawn_ending env world reqId payload
  generalize procHandleSpawn env world reqId payload = result at ending ⊢
  cases ending with
  | missing missing => exact .inl ⟨by simp [spawnRequest, missing], _, _, rfl⟩
  | unbuilt named unbuilt => exact .inl ⟨by simp [spawnRequest, named, unbuilt], _, _, rfl⟩
  | spawns named built => exact .inr ⟨_, _, _, _, by simp [spawnRequest, named, built], rfl⟩

/-- A timeout as `tool.run` takes it, if it is a number `proc_spawn` takes. -/
def runTimeout (env : Env) (given : Option Bytes) (word : String) (usual : Int) : Option Int :=
  ((tonumber env (given.getD (ascii word))).getD (.ofInt usual)).integer

/-- What `tool.run` hands to `proc_spawn`. -/
def runRequest (env : Env) (req : Table) : Option (Bytes × List Bytes) :=
  match req.get (ascii "path") with
  | none => none
  | some path =>
    if (runTimeout env (req.get (ascii "timeout_ms")) "60000" 60000).isSome &&
        (runTimeout env (req.get (ascii "idle_timeout_ms")) "10000" 10000).isSome then
      some (path, collectArgv req path)
    else none

theorem toolRun_request (env : Env) (world : World) (req : Table) :
    (runRequest env req = none ∧ ∃ message, opToolRun env world req = (world, .error message)) ∨
    ∃ path argv timeoutMs idleTimeoutMs, runRequest env req = some (path, argv) ∧
      (opToolRun env world req).1 = (procSpawnBinding env world path argv timeoutMs idleTimeoutMs).1 := by
  unfold runRequest opToolRun runTimeout
  cases req.get (ascii "path") with
  | none => exact .inl ⟨rfl, _, rfl⟩
  | some path =>
    dsimp only
    cases ((tonumber env ((req.get (ascii "timeout_ms")).getD (ascii "60000"))).getD (.ofInt 60000)).integer with
    | none => exact .inl ⟨rfl, _, rfl⟩
    | some timeoutMs =>
      cases ((tonumber env ((req.get (ascii "idle_timeout_ms")).getD (ascii "10000"))).getD (.ofInt 10000)).integer with
      | none => exact .inl ⟨rfl, _, rfl⟩
      | some idleMs =>
        refine .inr ⟨path, collectArgv req path, toUInt64 timeoutMs, toUInt64 idleMs, rfl, ?_⟩
        dsimp only
        split <;> rename_i spawned <;> rw [spawned]
        rfl

/-- The first line that binds the key to something, cut at a carriage return, if
it fits the buffer. -/
def spawnReads (text key : Bytes) : Option Bytes :=
  (firstRecord key (text.splitOn newline)).filter fun value => decide (value.length < 512)

/-- The last line that binds the key, where a carriage return ends a line too. -/
def runReads (text key : Bytes) : Option Bytes := ((text.splitOnP endsLine).filterMap luaRecord).reverse.lookup key

/-- The request of `tool.run` with this text. -/
def runText (text : Bytes) : Bytes := ascii "name=tool.run\n" ++ text

section readers
variable {env : Env} {text : Bytes} {given run : List Bytes}

private theorem kvCopy_spawnReads (text key : Bytes) :
    kvCopy 512 text key = spawnReads text key := kvCopy_splitOn 512 text key

private theorem get_runReads (text : Bytes) {key : Bytes} (other : key ≠ ascii "name") :
    (parseKv (runText text)).get key = runReads text key := by
  have unended : (ascii "name=tool.run").any endsLine = false := by decide
  have clean byte (member : byte ∈ ascii "name=tool.run") : endsLine byte = false :=
    Bool.eq_false_iff.mpr (List.any_eq_false.mp unended byte member)
  have first : luaRecord (ascii "name=tool.run") = some (ascii "name", ascii "tool.run") := by decide
  have lines : (runText text).splitOnP endsLine = ascii "name=tool.run" :: text.splitOnP endsLine :=
    List.splitOnP_append_cons_of_forall_mem clean newline (by decide) text
  rw [Table.get, parseKv_eq, lines, List.filterMap_cons, first, List.reverse_cons, List.lookup_append, runReads,
    List.lookup_cons, beq_false_of_ne other]
  exact Option.or_none

private theorem argName_ne_name (index : Nat) : argName index ≠ ascii "name" := by
  intro same
  have first : some 97 = (ascii "name").head? := congrArg List.head? same
  exact absurd first (by decide)

private theorem exists_given (text : Bytes) :
    ∃ given, Leads (fun index => spawnReads text (argName index)) given ∧ given.length ≤ text.length + 1 := by
  obtain ⟨given, leads, few⟩ := ArgScan.exists_args text
  simp only [kvCopy_spawnReads] at leads
  exact ⟨given, leads, Nat.le_trans few (ArgScan.length_textLines_le text)⟩

private theorem exists_run (text : Bytes) :
    ∃ run, Leads (fun index => runReads text (argName index)) run ∧ run.length ≤ (parseKv (runText text)).length := by
  have named : ∀ index value, runReads text (argName index) = some value →
      ∃ entry ∈ parseKv (runText text), entry.1 = argName index := by
    intro index value read
    rw [← get_runReads text (argName_ne_name index)] at read
    obtain ⟨before, after, split, -⟩ := List.lookup_eq_some_iff.mp read
    exact ⟨(argName index, value), by rw [split]; simp, rfl⟩
  exact exists_leads_named (fun _ _ same => argName_injective same) named

private theorem collectArgvFrom_leads {req : Table} (leads : Leads (fun index => req.get (argName index)) run)
    (fuel index : Nat)
    (reached : index ≤ run.length) (enough : run.length < index + fuel) : collectArgvFrom req fuel index = run.drop index := by
  induction fuel generalizing index with
  | zero => omega
  | succ fuel ih =>
    rw [collectArgvFrom]
    by_cases last : index = run.length
    · subst last
      rw [show req.get (ascii "argv" ++ decimal run.length) = none from leads.last, List.drop_length]
    · have inside : index < run.length := by omega
      rw [show req.get (ascii "argv" ++ decimal index) = some run[index] from leads.inside inside,
        List.drop_eq_getElem_cons inside]
      exact congrArg _ (ih (index + 1) (by omega) (by omega))

private theorem spawnRequest_eq (leads : Leads (fun index => spawnReads text (argName index)) given)
    (few : given.length ≤ text.length + 1)
    (short : text.length < 2 ^ 32) (memory : ∀ site, env.alloc site = true) :
    spawnRequest env text =
      (spawnReads text (ascii "path")).map fun path => (path, if given.length ≤ 1 then [path] else given) := by
  simp only [← kvCopy_spawnReads] at leads ⊢
  unfold spawnRequest
  cases kvCopy 512 text (ascii "path") with
  | none => rfl
  | some path => simp [procBuildArgs_leads env leads few short, memory]

/-- The numbers of the text are ones that `proc_spawn` takes. -/
def timed (env : Env) (text : Bytes) : Bool :=
  (runTimeout env (runReads text (ascii "timeout_ms")) "60000" 60000).isSome &&
    (runTimeout env (runReads text (ascii "idle_timeout_ms")) "10000" 10000).isSome

private theorem runRequest_eq (leads : Leads (fun index => runReads text (argName index)) run)
    (few : run.length ≤ (parseKv (runText text)).length) :
    runRequest env (parseKv (runText text)) =
      ((runReads text (ascii "path")).filter fun _ => timed env text).map fun path => (path, if run = [] then [path] else run) := by
  have leads : Leads (fun index => (parseKv (runText text)).get (argName index)) run := by
    intro index within
    exact (get_runReads text (argName_ne_name index)).trans (leads index within)
  have collected : collectArgvFrom (parseKv (runText text)) ((parseKv (runText text)).length + 1) 0 = run :=
    collectArgvFrom_leads leads _ 0 (Nat.zero_le _) (by omega)
  unfold runRequest timed
  rw [get_runReads text (by decide), get_runReads text (by decide), get_runReads text (by decide)]
  cases runReads text (ascii "path") with
  | none => rfl
  | some path =>
    simp only [collectArgv, collected, Option.filter]
    split
    · cases run <;> rfl
    · rfl

private theorem args_eq_iff (path : Bytes) (given run : List Bytes) :
    (if given.length ≤ 1 then [path] else given) = (if run = [] then [path] else run) ↔
      if given.length ≤ 1 then run = [] ∨ run = [path] else run = given := by
  by_cases none : run = [] <;> by_cases few : given.length ≤ 1
  · simp [none, few]
  · have several : given ≠ [path] := by
      rintro rfl
      exact few (Nat.le_refl 1)
    have filled : given ≠ [] := by
      rintro rfl
      exact few (Nat.zero_le 1)
    simp [none, few, several, filled.symm]
  · simp [none, few, eq_comm]
  · simp [none, few, eq_comm]

end readers

/-- What the two readers find gives one path and one list of arguments, or
nothing for both. The lists are what each finds under the numbers. -/
def SameRequest (env : Env) (text : Bytes) (given run : List Bytes) : Prop :=
  (spawnReads text (ascii "path") = none ∧ (runReads text (ascii "path") = none ∨ timed env text = false)) ∨
    ∃ path, spawnReads text (ascii "path") = some path ∧ runReads text (ascii "path") = some path ∧ timed env text = true ∧
      if given.length ≤ 1 then run = [] ∨ run = [path] else run = given

/-- `PROC_SPAWN` and `tool.run` hand on the same path and arguments, or refuse
both, if and only if the two readers find the same path, the timeouts are
integers, and they find the same two arguments or more, or `PROC_SPAWN` at most
one and `tool.run` none or the path; or if neither has something to hand on. -/
theorem spawn_run_agree_iff {env : Env} {text : Bytes} (short : text.length < 2 ^ 32)
    (memory : ∀ site, env.alloc site = true) :
    ∃ given run, Leads (fun index => spawnReads text (argName index)) given ∧
      Leads (fun index => runReads text (argName index)) run ∧
      (spawnRequest env text = runRequest env (parseKv (runText text)) ↔ SameRequest env text given run) := by
  obtain ⟨given, givenLeads, givenFew⟩ := exists_given text
  obtain ⟨run, runLeads, runFew⟩ := exists_run text
  refine ⟨given, run, givenLeads, runLeads, ?_⟩
  rw [spawnRequest_eq givenLeads givenFew short memory, runRequest_eq runLeads runFew, SameRequest]
  cases spawnReads text (ascii "path") with
  | none => cases runReads text (ascii "path") <;> cases timed env text <;> simp [Option.filter]
  | some path =>
    cases runReads text (ascii "path") with
    | none => simp
    | some other =>
      cases timed env text with
      | false => simp [Option.filter]
      | true =>
        simp only [Option.filter, if_true, Option.map_some, Option.some.injEq, Prod.mk.injEq]
        constructor
        · rintro ⟨rfl, same⟩
          exact .inr ⟨path, rfl, rfl, trivial, (args_eq_iff path given run).mp same⟩
        · rintro (⟨missing, -⟩ | ⟨named, here, there, -, same⟩)
          · cases missing
          · subst here there
            exact ⟨rfl, (args_eq_iff _ given run).mpr same⟩

/-- A lone argument that is not the path. -/
def loneArg : Bytes := ascii "path=x\nargv0=y"

theorem spawn_run_agree_iff_lone :
    ∃ given run, Leads (fun index => spawnReads loneArg (argName index)) given ∧
      Leads (fun index => runReads loneArg (argName index)) run ∧
      (spawnRequest {} loneArg = runRequest {} (parseKv (runText loneArg)) ↔ SameRequest {} loneArg given run) :=
  spawn_run_agree_iff (by decide) fun _ => rfl

theorem lone_argument_replaced :
    spawnRequest {} loneArg = some (ascii "x", [ascii "x"]) ∧
      runRequest {} (parseKv (runText loneArg)) = some (ascii "x", [ascii "y"]) := by
  decide

end Luagent.Proofs.SpawnAgreement
