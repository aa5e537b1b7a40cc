import Luagent.Foundation.Lookup
import Luagent.Proofs.KeyValues
import Luagent.Proofs.Speech
import Luagent.Proofs.UploadSoundness

/-! The arguments of a child, from the client's list to `uv_spawn`. The list is
sent as numbered records and counted again by asking for one number after the
other, so an argument that is empty or longer than the buffer ends it, and the
only argument of a list of one is replaced by the path. -/

namespace Luagent.Proofs.SpawnArgs
open Foundation Client

def argName (index : Nat) : Bytes := ascii "argv" ++ decimal index

theorem argName_injective {left right : Nat} (same : argName left = argName right) : left = right :=
  decimal_injective (List.append_cancel_left same)

theorem argName_clean (index : Nat) : newline ∉ argName index ∧ equalsSign ∉ argName index := by
  have number : equalsSign ∉ decimal index := by
    intro member
    have digit := decimal_digits member
    revert digit
    decide
  constructor <;> rw [argName, List.mem_append, not_or]
  · exact ⟨by decide, newline_notMem_decimal index⟩
  · exact ⟨by decide, number⟩

theorem argKey_small {index : Nat} (small : index < 10 ^ 27) : argKey index = some (argName index) := by
  have digits := decimal_length_le (by decide) small
  have fits : (ascii "argv" ++ decimal index).length < 32 := by
    rw [List.length_append]
    have : (ascii "argv").length = 4 := by decide
    omega
  simp only [argKey, utilSnprintf, if_pos fits, argName]

theorem spawnItems_plain {path : Bytes} {argv : List Bytes} (cleanPath : Clean path) (clean : ∀ arg ∈ argv, Clean arg)
    (timeoutMs idleTimeoutMs : Int) : ∀ item ∈ spawnItems path argv timeoutMs idleTimeoutMs, Plain item := by
  intro item member
  rcases List.mem_append.mp member with fixed | numbered
  · simp only [List.mem_cons, List.not_mem_nil, or_false] at fixed
    rcases fixed with rfl | rfl | rfl
    · exact .of_clean (by decide) cleanPath
    · exact .of_clean (by decide) (signedDecimal_clean timeoutMs)
    · exact .of_clean (by decide) (signedDecimal_clean idleTimeoutMs)
  · obtain ⟨⟨arg, index⟩, inside, rfl⟩ := List.mem_map.mp numbered
    exact .of_clean (argName_clean index) (clean arg (List.fst_mem_of_mem_zipIdx inside))

private theorem firstBound_numbered (argv : List Bytes) (start wanted : Nat) :
    firstBound ((argv.zipIdx start).map fun (arg, index) => (ascii "argv" ++ decimal index, arg)) (argName wanted) =
      if start ≤ wanted then argv[wanted - start]?.filter fun arg => !arg.isEmpty else none := by
  induction argv generalizing start with
  | nil => simp [firstBound]
  | cons arg argv ih =>
    rw [List.zipIdx_cons, List.map_cons]
    by_cases here : start = wanted
    · subst here
      rw [if_pos (Nat.le_refl _), Nat.sub_self, List.getElem?_cons_zero]
      cases empty : arg.isEmpty with
      | true =>
        rw [firstBound_cons_unbound (by simp [empty]), ih, if_neg (by omega)]
        simp [Option.filter, empty]
      | false =>
        rw [firstBound_cons_bound (by simp [argName, empty])]
        simp [Option.filter, empty]
    · rw [firstBound_skip (show ascii "argv" ++ decimal start ≠ argName wanted from fun same => here (argName_injective same)),
        ih]
      by_cases later : start ≤ wanted
      · obtain ⟨distance, rfl⟩ := Nat.exists_eq_add_of_lt (Nat.lt_of_le_of_ne later here)
        rw [if_pos (by omega), if_pos later, show start + distance + 1 - start = distance + 1 by omega,
          List.getElem?_cons_succ, show start + distance + 1 - (start + 1) = distance by omega]
      · rw [if_neg (by omega), if_neg later]

private theorem length_le_encodeKv (items : List (Bytes × Bytes)) : items.length ≤ (encodeKv items).length := by
  induction items with
  | nil => exact Nat.le_refl _
  | cons item items ih =>
    cases items with
    | nil =>
      simp only [encodeKv_singleton, List.length_append, List.length_cons, List.length_nil]
      omega
    | cons next items =>
      rw [encodeKv_cons]
      simp only [List.length_cons, List.length_append] at ih ⊢
      omega

/-- The loop of `proc_build_args` counts the arguments it finds. -/
theorem countArgs_leads {payload : Bytes} {args : List Bytes}
    (leads : Leads (fun index => kvCopy 512 payload (argName index)) args)
    (small : args.length < 10 ^ 27) (fuel count : Nat) (reached : count ≤ args.length) (enough : args.length < count + fuel) :
    countArgs payload fuel count = some args.length := by
  induction fuel generalizing count with
  | zero => omega
  | succ fuel ih =>
    rw [countArgs, argKey_small (by omega)]
    by_cases last : count = args.length
    · subst last
      simp only [leads.last]
    · simp only [leads.inside (show count < args.length by omega)]
      exact ih (count + 1) (by omega) (by omega)

private theorem mapM_range {argv : List Bytes} {count : Nat} {copy : Nat → Option Bytes} {keeps : Nat → Bool}
    (within : count ≤ argv.length)
    (each : ∀ index, index < count → copy index = if keeps index then argv[index]? else none) :
    (List.range count).mapM copy = if (List.range count).all keeps then some (argv.take count) else none := by
  induction count with
  | zero => rfl
  | succ count ih =>
    have ih := ih (by omega) fun index inside => each index (by omega)
    have present : argv[count]? = some argv[count] := List.getElem?_eq_getElem (by omega)
    have last : [count].mapM copy = if keeps count then some [argv[count]] else none := by
      rw [List.mapM_cons, each count (by omega), present]
      cases keeps count <;> rfl
    rw [List.range_succ, List.mapM_append, ih, last, List.all_append, List.take_add_one, present]
    cases (List.range count).all keeps with
    | false => rfl
    | true => cases kept : keeps count <;> simp [kept]

/-- What `proc_build_args` makes of the arguments it finds. -/
theorem procBuildArgs_leads (env : Env) {payload path : Bytes} {args : List Bytes}
    (leads : Leads (fun index => kvCopy 512 payload (argName index)) args) (few : args.length ≤ payload.length + 1)
    (short : payload.length < 2 ^ 32) :
    procBuildArgs env payload path =
      if env.alloc .procArgs && (decide (args.length ≤ 1) || (List.range args.length).all fun index => env.alloc (.procArg index)) then
        some (if args.length ≤ 1 then (if env.alloc (.procArg 0) then [path] else []) else args)
      else none := by
  unfold procBuildArgs
  rw [countArgs_leads leads (by omega) _ 0 (Nat.zero_le _) (by omega)]
  simp only
  cases env.alloc .procArgs with
  | false => rfl
  | true =>
    by_cases single : args.length ≤ 1
    · have one : (if args.length = 0 then 1 else args.length) = 1 := by split <;> omega
      rw [one]
      simp [single]
    · have several : (if args.length = 0 then 1 else args.length) = args.length := if_neg (by omega)
      have other : args.length ≠ 1 := by omega
      rw [several]
      simp only [Bool.not_true, Bool.false_eq_true, if_false, if_neg other, single, decide_false, Bool.false_or, Bool.true_and]
      rw [@mapM_range args args.length _ (fun index => env.alloc (.procArg index)) (Nat.le_refl _), List.take_length]
      intro index inside
      rw [argKey_small (by omega)]
      simp only [Option.bind_eq_bind, Option.bind_some, leads.inside inside, List.getElem?_eq_getElem inside]

section payload
variable {path : Bytes} {argv : List Bytes} (timeoutMs idleTimeoutMs : Int)

/-- The agent's buffers hold an argument of up to 511 bytes, and it takes an empty
one for a missing one. -/
def passes (arg : Bytes) : Bool := !arg.isEmpty && decide (arg.length < 512)

private theorem filter_getElem?_takeWhile {index : Nat} (within : index ≤ (argv.takeWhile passes).length) :
    argv[index]?.filter passes = (argv.takeWhile passes)[index]? := by
  induction argv generalizing index with
  | nil => rfl
  | cons arg argv ih =>
    cases passed : passes arg with
    | false =>
      rw [List.takeWhile_cons_of_neg (by simp [passed]), List.length_nil, Nat.le_zero] at within
      subst within
      simp [passed, Option.filter]
    | true =>
      rw [List.takeWhile_cons_of_pos passed] at within ⊢
      cases index with
      | zero => simp [passed, Option.filter]
      | succ index => exact ih (Nat.le_of_succ_le_succ within)

private theorem firstBound_arg (index : Nat) :
    firstBound (spawnItems path argv timeoutMs idleTimeoutMs) (argName index) =
      argv[index]?.filter fun arg => !arg.isEmpty := by
  have other {name : Bytes} (first : name.head? ≠ some 97) : name ≠ argName index := by
    rintro rfl
    exact first rfl
  unfold spawnItems
  rw [List.cons_append, firstBound_skip (other (by decide)), List.cons_append, firstBound_skip (other (by decide)),
    List.cons_append, firstBound_skip (other (by decide)), List.nil_append, firstBound_numbered argv 0 index, if_pos (Nat.zero_le _), Nat.sub_zero]

variable (cleanPath : Clean path) (clean : ∀ arg ∈ argv, Clean arg)
include cleanPath clean

private theorem kvCopy_arg (index : Nat) :
    kvCopy 512 (spawnPayload path argv timeoutMs idleTimeoutMs) (argName index) = argv[index]?.filter passes := by
  rw [spawnPayload, kvCopy_encodeKv (spawnItems_plain cleanPath clean timeoutMs idleTimeoutMs) (argName_clean index).2,
    firstBound_arg]
  cases argv[index]? with
  | none => rfl
  | some arg => cases empty : arg.isEmpty <;> simp [Option.filter, passes, empty]

theorem kvCopy_path (named : path ≠ []) :
    kvCopy 512 (spawnPayload path argv timeoutMs idleTimeoutMs) (ascii "path") =
      if path.length < 512 then some path else none := by
  rw [spawnPayload, kvCopy_encodeKv (spawnItems_plain cleanPath clean timeoutMs idleTimeoutMs) (by decide), spawnItems,
    List.cons_append, firstBound_cons_bound (by simp [named])]
  simp [Option.filter]

private theorem leads_spawn : Leads (fun index => kvCopy 512 (spawnPayload path argv timeoutMs idleTimeoutMs) (argName index))
    (argv.takeWhile passes) := by
  intro index within
  simp only [kvCopy_arg timeoutMs idleTimeoutMs cleanPath clean]
  exact filter_getElem?_takeWhile within

/-- Whether memory for the arguments the agent has found is there. A list of one
is not checked. -/
def copied (env : Env) (argv : List Bytes) : Bool :=
  env.alloc .procArgs && (decide ((argv.takeWhile passes).length ≤ 1) ||
    (List.range (argv.takeWhile passes).length).all fun index => env.alloc (.procArg index))

def builtArgs (env : Env) (path : Bytes) (argv : List Bytes) : List Bytes :=
  if (argv.takeWhile passes).length ≤ 1 then (if env.alloc (.procArg 0) then [path] else []) else argv.takeWhile passes

theorem procBuildArgs_spawn (env : Env) (encodes : (spawnPayload path argv timeoutMs idleTimeoutMs).length < 2 ^ 32) :
    procBuildArgs env (spawnPayload path argv timeoutMs idleTimeoutMs) path =
      if copied env argv then some (builtArgs env path argv) else none := by
  have records : argv.length ≤ (spawnPayload path argv timeoutMs idleTimeoutMs).length := by
    refine Nat.le_trans ?_ (length_le_encodeKv (spawnItems path argv timeoutMs idleTimeoutMs))
    simp only [spawnItems, List.length_append, List.length_map, List.length_zipIdx]
    omega
  have within := (List.takeWhile_sublist passes (l := argv)).length_le
  exact procBuildArgs_leads env (leads_spawn timeoutMs idleTimeoutMs cleanPath clean) (by omega) encodes

end payload

section handler
variable {env : Env} {world : World} {reqId : UInt32} {path : Bytes} {args argv : List Bytes}

private theorem answersError_of_complains {before after : Link} (serves : Serves env) (live : after.life.closed = false)
    (replies : Replies env reqId before after) (complains : Complains before after) : AnswersError reqId before after := by
  obtain ⟨frames, speaks, answers, one⟩ := replies
  obtain ⟨errors, queued, isError⟩ := complains
  have same : errors = frames := List.append_cancel_left (queued.symm.trans speaks.queued)
  subst same
  obtain ⟨frame, rfl⟩ := List.length_eq_one_iff.mp (one serves live)
  refine ⟨frame, ?_, isError frame (by simp), (answers frame (by simp)).2⟩
  rw [speaks.since]
  exact List.mem_singleton_self frame

/-- The request is turned down for a reason that has nothing to do with the
arguments: the path is too long, for its buffer or for the reply, memory is
missing, or no child can be started. -/
def turnedDown (env : Env) (world : World) (path : Bytes) (argv : List Bytes) : Bool :=
  decide (512 ≤ path.length) || decide (256 ≤ (spawnReply world.nextProcId path).length) || !copied env argv ||
    !canSpawn env world.proc

/-- The lists that arrive: of two or more arguments that all pass, or the path
alone. -/
def Arrives (env : Env) (path : Bytes) (argv : List Bytes) : Prop :=
  (2 ≤ argv.length ∧ ∀ arg ∈ argv, passes arg = true) ∨ (argv = [path] ∧ env.alloc (.procArg 0) = true)

theorem builtArgs_eq_iff (given : argv ≠ []) : builtArgs env path argv = argv ↔ Arrives env path argv := by
  have within := (List.takeWhile_sublist passes (l := argv)).length_le
  unfold builtArgs Arrives
  split
  next few =>
    constructor
    · intro same
      split at same
      next copy => exact .inr ⟨same.symm, copy⟩
      next => exact absurd same.symm given
    · rintro (⟨several, pass⟩ | ⟨rfl, copy⟩)
      · rw [List.takeWhile_eq_self_iff.mpr pass] at few
        omega
      · rw [if_pos copy]
  next many =>
    constructor
    · intro same
      exact .inl ⟨by omega, List.takeWhile_eq_self_iff.mp same⟩
    · rintro (⟨several, pass⟩ | ⟨rfl, copy⟩)
      · exact List.takeWhile_eq_self_iff.mpr pass
      · rw [List.length_singleton] at within
        exact absurd within many

private theorem handleSpawn_eq (cleanPath : Clean path) (named : path ≠ []) (clean : ∀ arg ∈ argv, Clean arg)
    (timeoutMs idleTimeoutMs : Int) (encodes : (spawnPayload path argv timeoutMs idleTimeoutMs).length < 2 ^ 32)
    (short : path.length < 512) (memory : copied env argv = true) :
    ∃ timeout idleTimeout, procHandleSpawn env world reqId (spawnPayload path argv timeoutMs idleTimeoutMs) =
      procSpawnCommon env world reqId path (builtArgs env path argv) timeout idleTimeout true := by
  have path_eq := (kvCopy_path timeoutMs idleTimeoutMs cleanPath clean named).trans (if_pos short)
  have args_eq := (procBuildArgs_spawn timeoutMs idleTimeoutMs cleanPath clean env encodes).trans (if_pos memory)
  exact ⟨_, _, handleSpawn_spawns world reqId path_eq args_eq⟩

/-- A request whose path is too long or whose arguments cannot be copied is refused. -/
theorem handleSpawn_unread (world : World) (reqId : UInt32) (cleanPath : Clean path) (named : path ≠ [])
    (clean : ∀ arg ∈ argv, Clean arg) (timeoutMs idleTimeoutMs : Int)
    (encodes : (spawnPayload path argv timeoutMs idleTimeoutMs).length < 2 ^ 32)
    (unread : ¬ (path.length < 512 ∧ copied env argv = true)) :
    ∃ code message, procHandleSpawn env world reqId (spawnPayload path argv timeoutMs idleTimeoutMs) =
      (world.sendError env reqId code message, false) := by
  refine handleSpawn_refuses world reqId fun found isPath => ?_
  rw [kvCopy_path timeoutMs idleTimeoutMs cleanPath clean named] at isPath
  split at isPath
  next short =>
    cases isPath
    rw [procBuildArgs_spawn timeoutMs idleTimeoutMs cleanPath clean env encodes, if_neg fun memory => unread ⟨short, memory⟩]
  next => cases isPath

private theorem turnedDown_answersError (cleanPath : Clean path) (named : path ≠ []) (clean : ∀ arg ∈ argv, Clean arg)
    (timeoutMs idleTimeoutMs : Int) (encodes : (spawnPayload path argv timeoutMs idleTimeoutMs).length < 2 ^ 32)
    (serves : Serves env)
    (live : (procHandleSpawn env world reqId (spawnPayload path argv timeoutMs idleTimeoutMs)).1.link.life.closed = false)
    (down : turnedDown env world path argv = true) :
    AnswersError reqId world.link (procHandleSpawn env world reqId (spawnPayload path argv timeoutMs idleTimeoutMs)).1.link := by
  refine answersError_of_complains serves live (handleSpawn_replies ..) ?_
  by_cases read : path.length < 512 ∧ copied env argv = true
  case neg =>
    obtain ⟨code, message, refused⟩ :=
      handleSpawn_unread world reqId cleanPath named clean timeoutMs idleTimeoutMs encodes read
    rw [refused]
    exact sendError_complains ..
  case pos =>
    obtain ⟨short, memory⟩ := read
    obtain ⟨timeout, idleTimeout, handled⟩ :=
      @handleSpawn_eq env world reqId path argv cleanPath named clean timeoutMs idleTimeoutMs encodes short memory
    rw [handled]
    cases spawn_outcome env world reqId path (builtArgs env path argv) timeout idleTimeout true with
    | refused _ _ complains => exact complains
    | started can fits =>
      have short := Nat.not_le.mpr short
      have fits := Nat.not_le.mpr (fits rfl)
      simp [turnedDown, can, memory, short, fits] at down

end handler

/-- A spawn request is answered with an error, or starts a child with the file
and the arguments the client has given, if and only if it is turned down for
another reason or the list is one of those that arrive. -/
theorem spawn_faithful_iff {env : Env} {world : World} {reqId : UInt32} {path : Bytes} {argv : List Bytes}
    {timeoutMs idleTimeoutMs : Int} {after : World} {result : Bool}
    (cleanPath : Clean path) (named : path ≠ []) (clean : ∀ arg ∈ argv, Clean arg) (given : argv ≠ [])
    (encodes : (spawnPayload path argv timeoutMs idleTimeoutMs).length < 2 ^ 32)
    (handled : procHandleSpawn env world reqId (spawnPayload path argv timeoutMs idleTimeoutMs) = (after, result))
    (serves : Serves env) (live : after.link.life.closed = false) :
    (AnswersError reqId world.link after.link ∨ StartsChild world.proc after.proc path argv) ↔
      (turnedDown env world path argv = true ∨ Arrives env path argv) := by
  obtain rfl : (procHandleSpawn env world reqId (spawnPayload path argv timeoutMs idleTimeoutMs)).1 = after := by rw [handled]
  cases down : turnedDown env world path argv with
  | true =>
    have error := turnedDown_answersError cleanPath named clean timeoutMs idleTimeoutMs encodes serves live down
    exact ⟨fun _ => .inl rfl, fun _ => .inl error⟩
  | false =>
    simp only [turnedDown, Bool.or_eq_false_iff, decide_eq_false_iff_not, Bool.not_eq_false'] at down
    obtain ⟨⟨⟨short, fits⟩, memory⟩, can⟩ := down
    obtain ⟨timeout, idleTimeout, spawned⟩ :=
      @handleSpawn_eq env world reqId path argv cleanPath named clean timeoutMs idleTimeoutMs encodes (Nat.not_le.mp short)
        memory
    rw [spawned]
    cases spawn_outcome env world reqId path (builtArgs env path argv) timeout idleTimeout true with
    | refused why =>
      rcases why with cannot | ⟨_, long⟩
      · rw [can] at cannot
        cases cannot
      · exact absurd long fits
    | started _ _ starts acknowledged =>
      obtain ⟨frames, speaks, acks⟩ := (acknowledged rfl).1
      rw [← builtArgs_eq_iff given]
      constructor
      · rintro (⟨frame, member, isError, _⟩ | faithful)
        · rw [speaks.since] at member
          rw [acks frame member] at isError
          cases isError
        · exact .inr (Option.some.inj (starts.args.symm.trans faithful.args))
      · rintro (down | same)
        · cases down
        · exact .inr ⟨starts.spawned, starts.file, by rw [starts.args, same]⟩

def echo : Bytes := ascii "/bin/echo"

private theorem echo_clean : Clean echo := ⟨by decide, by decide⟩

/-- A client asks for `/bin/echo` with these arguments. -/
def spawnEcho (argv : List Bytes) : World × Bool :=
  procHandleSpawn {} Upload.freshSession 7 (spawnPayload echo argv 60000 10000)

/-- A child that should see one argument of another name than its path. -/
theorem single_argument_replaced :
    Clean (ascii "echo") ∧ (spawnEcho [ascii "echo"]).1.link.life.closed = false ∧
    (spawnEcho [ascii "echo"]).1.proc.args = some [echo] ∧
    ¬ (AnswersError 7 Upload.freshSession.link (spawnEcho [ascii "echo"]).1.link ∨
      StartsChild Upload.freshSession.proc (spawnEcho [ascii "echo"]).1.proc echo [ascii "echo"]) := by
  have replaced : (spawnEcho [ascii "echo"]).1.proc.args = some [echo] := by decide
  refine ⟨⟨by decide, by decide⟩, by decide +kernel, replaced, ?_⟩
  rintro (⟨frame, member, isError, _⟩ | faithful)
  · have acknowledged : (framesSince Upload.freshSession.link (spawnEcho [ascii "echo"]).1.link).all
        (fun frame => frame.type == FrameType.ack.code) = true := by decide +kernel
    have isAck := List.all_eq_true.mp acknowledged frame member
    rw [isError] at isAck
    cases isAck
  · exact absurd (replaced.symm.trans faithful.args) (by decide)

theorem spawn_faithful_iff_hi :
    AnswersError 7 Upload.freshSession.link (spawnEcho [ascii "echo", ascii "hi"]).1.link ∨
      StartsChild Upload.freshSession.proc (spawnEcho [ascii "echo", ascii "hi"]).1.proc echo [ascii "echo", ascii "hi"] := by
  refine (@spawn_faithful_iff {} Upload.freshSession 7 echo [ascii "echo", ascii "hi"] 60000 10000 _ _ echo_clean (by decide)
    ?_ (by decide) (by decide) rfl serves_default (by decide +kernel)).mpr (.inr (.inl ⟨by decide, by decide⟩))
  intro arg member
  simp only [List.mem_cons, List.not_mem_nil, or_false] at member
  rcases member with rfl | rfl
  · exact ⟨by decide, by decide⟩
  · exact ⟨by decide, by decide⟩

end Luagent.Proofs.SpawnArgs
