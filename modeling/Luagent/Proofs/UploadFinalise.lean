import Luagent.Proofs.UploadSoundness

/-! What an upload does to its destination. Up to the end request only the
`.part` file changes. The end request gives the destination up before it moves
the new file there, and without the overwrite flag it moves it all the same. -/

namespace Luagent.Proofs.Upload
open Foundation FileSystem

/-- An end request that removes the destination and then fails to replace it. -/
structure LosesFile (path : Path) (world : World) (input : Input) : Prop where
  overwrite : world.upload.overwrite = true
  present : (world.fs.names path).isSome = true
  complete : world.upload.offset = world.upload.totalSize
  ends : ∃ message, input.1 = .read (.dispatch message) ∧ message.type = FrameType.putEnd.code ∧
    message.reqId = world.upload.reqId
  closed : 0 ≤ input.2.fsClose
  unlinked : 0 ≤ input.2.fsUnlink path
  unmoved : input.2.fsRename < 0

theorem cleared_spares (env : Env) (fs : FileSystem) {overwrite : Bool} {path : Path}
    (kept : overwrite = true → (fs.names path).isSome = true → env.fsUnlink path < 0) :
    (cleared env fs overwrite path).names = fs.names := by
  unfold cleared uvFsUnlink
  split
  next overwriting =>
    split
    next => rfl
    next unlinked =>
      have absent : fs.names path = none := by
        by_contra present
        exact unlinked (kept overwriting (Option.isSome_iff_ne_none.mpr present))
      rw [unlink_names, ← absent, Function.update_eq_self]
  next => rfl

private theorem step_keeps_destination {world next : World} {input : Input} {path : Path} {fd file : Nat}
    (download : world.download = transferInit) (uploading : Uploading world path fd file)
    (apart : world.fs.Apart path (partPath path)) (stepped : agent.step world input = some next)
    (unfinished : finishes world input = false) (kept : ¬ LosesFile path world input) :
    next.fs.read path = world.fs.read path := by
  have different := partPath_ne path
  cases (upload_step download uploading stepped).2 with
  | kept _ _ fs => exact (Spares.of_preserves fs).read different apart
  | stored _ _ _ _ _ fs =>
    rw [fs]
    exact (Spares.pwrite uploading.described uploading.named _ _).read different apart
  | dropped _ fs => exact fs.read different apart
  | unmoved message isFrame isEnd same complete closed failed _ fs =>
    have names : (cleared input.2 (world.fs.close fd) world.upload.overwrite path).names = world.fs.names := by
      rw [cleared_spares, close_names]
      rw [close_names]
      intro overwrite present
      by_contra unlinked
      exact kept ⟨overwrite, present, complete, ⟨message, isFrame, isEnd, same.symm⟩, closed, by omega, failed⟩
    have apart : (cleared input.2 (world.fs.close fd) world.upload.overwrite path).Apart path (partPath path) := by
      unfold Apart
      rw [names]
      exact apart
    rw [fs.read different apart]
    unfold FileSystem.read
    rw [names, cleared_data, close_data]
  | finished _ _ _ _ _ finish =>
    rw [finish] at unfinished
    cases unfinished

private theorem loses_destination {world next : World} {input : Input} {path : Path} {fd file : Nat}
    (uploading : Uploading world path fd file) (stepped : agent.step world input = some next)
    (loses : LosesFile path world input) : next.upload = transferInit ∧ next.fs.read path = none := by
  obtain ⟨message, isFrame, isEnd, same⟩ := loses.ends
  obtain ⟨_, rfl⟩ := agent_step stepped
  rw [isFrame]
  simp only [callback, perform, control_end isEnd]
  cases putEnd_effect input.2 (uploading.counted message) message.reqId with
  | refused other => exact absurd same.symm other
  | dropped _ early =>
    rcases early with incomplete | unclosed
    · exact absurd loses.complete incomplete
    · have := loses.closed
      omega
  | unmoved _ _ _ _ _ upload fs =>
    refine ⟨upload, ?_⟩
    have removed : (cleared input.2 ((world.countFrame message).fs.close fd) (world.countFrame message).upload.overwrite
        path).names path = none := by
      have := loses.unlinked
      simp [cleared, uvFsUnlink, show (world.countFrame message).upload.overwrite = true from loses.overwrite,
        show ¬ input.2.fsUnlink path < 0 by omega]
    unfold FileSystem.read
    rw [fs.names path (partPath_ne path), removed]
    rfl
  | finished _ _ _ moved =>
    have := loses.unmoved
    omega

/-- The upload is open and the next step does not reach its ok reply. -/
def Unfinished (world : World) (input : Input) : Prop := world.upload.active = true ∧ finishes world input = false

/-- Where an upload run stands before its last step: nothing but the `.part`
file has changed, and no step so far has lost the destination. -/
structure Underway (before opened : World) (path : Path) (sofar : List Input) (world : World) : Prop where
  spared : Spares (partPath path) before.fs world.fs
  uploading : ∃ fd file, Uploading world path fd file
  kept : agent.Conforms (fun world input => ¬ LosesFile path world input) opened sofar

private theorem underway_step {before opened world next : World} {path : Path} {sofar : List Input} {input : Input}
    (download : world.download = transferInit) (underway : Underway before opened path sofar world)
    (executed : agent.run opened sofar = some world) (stepped : agent.step world input = some next) :
    next.download = transferInit ∧ (next.upload.active = true → Underway before opened path (sofar ++ [input]) next) := by
  obtain ⟨fd, file, uploading⟩ := underway.uploading
  obtain ⟨idle, step⟩ := upload_step download uploading stepped
  refine ⟨idle, fun active => ?_⟩
  have ended : next.upload = transferInit → False := by
    intro upload
    rw [upload] at active
    cases active
  have kept : agent.Conforms (fun world input => ¬ LosesFile path world input) opened (sofar ++ [input]) := by
    refine agent.conforms_append.mpr ⟨underway.kept, fun state reached loses => ?_⟩
    cases executed.symm.trans reached
    exact ended (loses_destination uploading stepped loses).1
  cases step with
  | kept _ upload fs =>
    exact ⟨underway.spared.trans (.of_preserves fs), ⟨fd, file, uploading.preserved upload fs⟩, kept⟩
  | stored _ _ _ within upload fs =>
    refine ⟨underway.spared.trans ?_, ⟨fd, file, uploading_of_stored uploading within upload fs⟩, kept⟩
    rw [fs]
    exact .pwrite uploading.described uploading.named _ _
  | dropped upload => exact (ended upload).elim
  | unmoved _ _ _ _ _ _ _ upload => exact (ended upload).elim
  | finished _ _ _ _ _ _ upload => exact (ended upload).elim

private theorem begin_spares {before opened : World} {env : Env} {message : Message} {path : Path}
    (download : before.download = transferInit) (upload : before.upload = transferInit)
    (named : kvCopy 512 (cstr message.payload) (ascii "path") = some path)
    (begins : agent.step before (.read (.dispatch message), env) = some opened) :
    opened.download = transferInit ∧ Spares (partPath path) before.fs opened.fs ∧
      (opened.upload.active = true → ∃ fd file, Uploading opened path fd file) := by
  obtain ⟨idle, step⟩ := idle_step download upload begins
  have ended : opened.upload = transferInit → opened.upload.active = true → ∃ fd file, Uploading opened path fd file := by
    intro slot active
    rw [slot] at active
    cases active
  refine ⟨idle, ?_⟩
  cases step with
  | idle slot fs => exact ⟨.of_preserves fs, ended slot⟩
  | failed other path isFrame _ found slot fs =>
    cases isFrame
    cases named.symm.trans found
    exact ⟨fs, ended slot⟩
  | opened other path size isFrame _ asks fits slot fs =>
    cases isFrame
    cases named.symm.trans asks.path
    exact ⟨fs ▸ .create _ _, fun _ => ⟨_, _, (uploading_of_opened asks fits slot fs).1⟩⟩

/-- Atomic finalisation. An upload begun while its `.part` name is no other name
of the destination, and not finished by an ok reply, leaves the destination as
it was, exactly when no end request gives it up and then fails to replace it. -/
theorem destination_kept_iff {connectEnv env : Env} {sessionId : Nat} {counts : Tally} {fs : FileSystem} {engine : Engine}
    {start before opened after : World} {history later : List Input} {message : Message} {path : Path}
    (connected : onNewConnection connectEnv sessionId counts fs engine = some start)
    (executed : agent.run start history = some before) (inactive : before.upload.active = false)
    (named : kvCopy 512 (cstr message.payload) (ascii "path") = some path)
    (apart : before.fs.Apart path (partPath path))
    (begins : agent.step before (.read (.dispatch message), env) = some opened)
    (unfinished : agent.Conforms Unfinished opened later) (continued : agent.run opened later = some after) :
    after.fs.read path = before.fs.read path ↔
      agent.Conforms (fun world input => ¬ LosesFile path world input) opened later := by
  have tracked := run_tracked connected executed
  have upload : before.upload = transferInit := by
    rcases tracked.upload with idle | ⟨_, _, _, _, progress⟩
    · exact idle
    · rw [progress.uploading.active] at inactive
      cases inactive
  obtain ⟨download, spared, filled⟩ := begin_spares tracked.download upload named begins
  have underway : ∀ {sofar world}, agent.Conforms Unfinished opened sofar → agent.run opened sofar = some world →
      world.download = transferInit ∧ (world.upload.active = true → Underway before opened path sofar world) := by
    intro sofar world conforms reached
    refine agent.conforming_induction (fun sofar world => world.download = transferInit ∧
      (world.upload.active = true → Underway before opened path sofar world))
      ⟨download, fun active => ⟨spared, filled active, trivial⟩⟩ ?_ conforms reached
    intro sofar world input next reached state allowed stepped
    exact underway_step state.1 (state.2 allowed.1) reached stepped
  induction later using List.reverseRecOn with
  | nil =>
    cases continued
    exact iff_of_true (spared.read (partPath_ne path) apart) trivial
  | append_singleton sofar input _ =>
    obtain ⟨conforms, last⟩ := agent.conforms_append.mp unfinished
    obtain ⟨world, reached, stepped⟩ := agent.run_append_some continued
    rw [Machine.run_singleton] at stepped
    obtain ⟨active, unfinished⟩ := last world reached
    obtain ⟨idle, going⟩ := underway conforms reached
    have going := going active
    obtain ⟨fd, file, uploading⟩ := going.uploading
    have different := partPath_ne path
    have same := going.spared.read different apart
    rw [agent.conforms_append]
    constructor
    · intro kept
      refine ⟨going.kept, fun state arrived loses => ?_⟩
      cases reached.symm.trans arrived
      obtain ⟨file, found⟩ := Option.isSome_iff_exists.mp loses.present
      rw [(loses_destination uploading stepped loses).2, ← same, FileSystem.read, found] at kept
      cases kept
    · intro kept
      rw [← same]
      exact step_keeps_destination idle uploading (going.spared.apart different apart) stepped unfinished
        (kept.2 world reached)

def oldFile : FileSystem := ((FileSystem.empty.create (ascii "a")).pwrite 0 0 (ascii "old")).close 0

def sessionWithOld : World := (onNewConnection {} 1 {} oldFile portfwdEngineInit).get (by decide)

def beginOverwrite : Input := (request .putBegin 7 (ascii "path=a\nsize=0\noverwrite=1"), {})

def overwriting : World := (agent.step sessionWithOld beginOverwrite).get (by decide)

def endUnmoved : Input := (request .putEnd 7 [] (Nat.zero_le _), { fsRename := -1 })

def lost : World := (agent.run overwriting [endUnmoved]).get (by decide +kernel)

/-- With the overwrite flag, a rename that fails leaves no destination at all. -/
theorem failed_rename_loses_destination :
    agent.step sessionWithOld beginOverwrite = some overwriting ∧ agent.run overwriting [endUnmoved] = some lost ∧
      finishes overwriting endUnmoved = false ∧ lost.upload.active = false ∧
      sessionWithOld.fs.read (ascii "a") = some (ascii "old") ∧ lost.fs.read (ascii "a") = none :=
  ⟨(Option.some_get (by decide)).symm, (Option.some_get (by decide +kernel)).symm, by decide, by decide +kernel,
   by decide, by decide +kernel⟩

def endUnclosed : Input := (request .putEnd 7 [] (Nat.zero_le _), { fsClose := -5 })

def unclosed : World := (agent.run overwriting [endUnclosed]).get (by decide +kernel)

theorem destination_kept_iff_unclosed : finishes overwriting endUnclosed = false ∧
    (unclosed.fs.read (ascii "a") = sessionWithOld.fs.read (ascii "a") ↔
      agent.Conforms (fun world input => ¬ LosesFile (ascii "a") world input) overwriting [endUnclosed]) := by
  have connected : onNewConnection {} 1 {} oldFile portfwdEngineInit = some sessionWithOld :=
    (Option.some_get (by decide)).symm
  have executed : agent.run sessionWithOld [] = some sessionWithOld := rfl
  have begins : agent.step sessionWithOld beginOverwrite = some overwriting := (Option.some_get (by decide)).symm
  have continued : agent.run overwriting [endUnclosed] = some unclosed := (Option.some_get (by decide +kernel)).symm
  refine ⟨by decide, destination_kept_iff connected executed (by decide) (by decide) (.inr (by decide)) begins
    ⟨⟨by decide, by decide⟩, fun _ _ => trivial⟩ continued⟩

/-- What an open upload keeps of the request that opened it. -/
structure TracedSlot (world : World) (payload : Bytes) (reqId : UInt32) (path : Path) (size : Nat) : Prop where
  download : world.download = transferInit
  uploading : ∃ fd file, Uploading world path fd file
  request : world.upload.reqId = reqId
  total : world.upload.totalSize = size
  overwrite : world.upload.overwrite = kvBoolDefault payload (ascii "overwrite") false

theorem TracedSlot.step {world next : World} {payload : Bytes} {reqId : UInt32} {path : Path} {size : Nat} {input : Input}
    (slot : TracedSlot world payload reqId path size) (stepped : agent.step world input = some next)
    (active : next.upload.active = true) : TracedSlot next payload reqId path size := by
  obtain ⟨fd, file, uploading⟩ := slot.uploading
  obtain ⟨idle, step⟩ := upload_step slot.download uploading stepped
  have ended : next.upload = transferInit → False := by
    intro upload
    rw [upload] at active
    cases active
  cases step with
  | kept _ upload fs =>
    exact ⟨idle, ⟨fd, file, uploading.preserved upload fs⟩, upload ▸ slot.request, upload ▸ slot.total,
      upload ▸ slot.overwrite⟩
  | stored _ _ _ within upload fs =>
    refine ⟨idle, ⟨fd, file, uploading_of_stored uploading within upload fs⟩, ?_, ?_, ?_⟩ <;> rw [upload]
    · exact slot.request
    · exact slot.total
    · exact slot.overwrite
  | dropped upload => exact (ended upload).elim
  | unmoved _ _ _ _ _ _ _ upload => exact (ended upload).elim
  | finished _ _ _ _ _ _ upload => exact (ended upload).elim

theorem Opening.slot {connectEnv : Env} {sessionId : Nat} {counts : Tally} {fs : FileSystem} {engine : Engine}
    {start world : World} {history : List Input} {reqId : UInt32} {path : Path} {size : Nat} {received : Bytes}
    (connected : onNewConnection connectEnv sessionId counts fs engine = some start)
    (executed : agent.run start history = some world)
    (opening : Opening start history reqId path size received) :
    TracedSlot world (cstr opening.message.payload) reqId path size := by
  have tracked := run_tracked connected opening.reached
  have idle : opening.idle.upload = transferInit := by
    rcases tracked.upload with idle | ⟨_, _, _, _, progress⟩
    · exact idle
    · have := opening.inactive
      rw [progress.uploading.active] at this
      cases this
  have begun : TracedSlot opening.opened (cstr opening.message.payload) reqId path size := by
    have active := opening.unbroken [] opening.opened (List.nil_prefix) rfl
    obtain ⟨download, step⟩ := idle_step tracked.download idle opening.opens
    cases step with
    | idle upload => rw [upload] at active; cases active
    | failed _ _ _ _ _ upload => rw [upload] at active; cases active
    | opened message path size isFrame _ asks fits upload fs =>
      cases isFrame
      cases opening.asks.path.symm.trans asks.path
      cases opening.asks.size.symm.trans asks.size
      refine ⟨download, ⟨_, _, (uploading_of_opened asks fits upload fs).1⟩, ?_, ?_, ?_⟩ <;> rw [upload]
      · exact opening.request
      · rfl
      · rfl
  have kept : opening.later <+: opening.later → TracedSlot world (cstr opening.message.payload) reqId path size := by
    refine agent.run_induction (fun sofar world => sofar <+: opening.later →
      TracedSlot world (cstr opening.message.payload) reqId path size) (fun _ => begun) ?_ (opening.run executed)
    intro sofar world input next reached slot stepped inside
    have shorter := (List.prefix_append sofar [input]).trans inside
    refine (slot shorter).step stepped (opening.unbroken _ next inside ?_)
    rw [Machine.run_append, reached]
    exact (agent.run_singleton world input).trans stepped
  exact kept (List.prefix_refl _)

private theorem putEnd_data (env : Env) (world : World) (reqId : UInt32) :
    (transferHandlePutEnd env world reqId).1.fs.data = world.fs.data := by
  have unlinked : ∀ (fs : FileSystem) (path : Path), (uvFsUnlink env fs path).data = fs.data := by
    intro fs path
    unfold uvFsUnlink
    split <;> rfl
  have aborted : ∀ middle : World, (middle.abortUpload env).fs.data = middle.fs.data := by
    intro middle
    unfold World.abortUpload transferAbort
    simp only
    cases middle.upload.file <;> cases middle.upload.tmpPath <;> simp [unlinked, uvFsClose]
  have finalised : ∀ (fs : FileSystem) (overwrite : Bool) (tmpPath path : Path),
      (transferFinalizeRename env fs overwrite tmpPath path).1.data = fs.data := by
    intro fs overwrite tmpPath path
    unfold transferFinalizeRename uvFsRename
    cases overwrite <;> simp only [Bool.false_eq_true, if_false, if_true] <;> repeat' split
    all_goals simp [unlinked]
  have renamed : (endRename env world).1.data = world.fs.data := (finalised ..).trans (close_data ..)
  have ending := putEnd_ending env world reqId
  generalize transferHandlePutEnd env world reqId = result at ending ⊢
  cases ending with
  | refused => rfl
  | incomplete => exact aborted _
  | unclosed => exact (aborted _).trans (close_data ..)
  | unmoved | overflowed => exact (aborted _).trans renamed
  | finished => exact renamed

private theorem finishes_end {world : World} {env : Env} {message : Message}
    (isEnd : message.type = FrameType.putEnd.code) :
    finishes world (.read (.dispatch message), env) =
      (transferHandlePutEnd env (world.countFrame message) message.reqId).2 := by
  simp only [finishes, isEnd, control_end isEnd, BEq.rfl, Bool.true_and]

/-- The end request is refused, comes too early, or a call before its reply fails. -/
def Refused (env : Env) (world : World) (reqId : UInt32) (size : Nat) (message : Message) : Prop :=
  message.reqId ≠ reqId ∨ world.upload.offset ≠ size ∨ env.fsClose < 0 ∨ env.fsRename < 0

private theorem put_end_keeps_iff_refused {env : Env} {world : World} {payload : Bytes} {reqId : UInt32} {path : Path}
    {size : Nat}
    {message : Message} (slot : TracedSlot world payload reqId path size) (kept : world.upload.overwrite = false) :
    ((transferHandlePutEnd env (world.countFrame message) message.reqId).1.fs.read path = world.fs.read path ∧
      (transferHandlePutEnd env (world.countFrame message) message.reqId).2 = false) ↔
      Refused env world reqId size message := by
  obtain ⟨fd, file, uploading⟩ := slot.uploading
  have data := putEnd_data env (world.countFrame message) message.reqId
  have effect := putEnd_effect env (uploading.counted message) message.reqId
  generalize transferHandlePutEnd env (world.countFrame message) message.reqId = result at data effect
  have unchanged : result.1.fs.names path = world.fs.names path → result.1.fs.read path = world.fs.read path := by
    intro names
    unfold FileSystem.read
    rw [names, data]
    rfl
  have different := partPath_ne path
  cases effect with
  | refused other result _ fs =>
    exact iff_of_true ⟨unchanged (by rw [fs]; rfl), result⟩ (.inl fun same => other (slot.request.trans same.symm))
  | dropped same early result _ fs =>
    refine iff_of_true ⟨unchanged (fs.names path different), result⟩ (.inr ?_)
    rcases early with incomplete | unclosed
    · exact .inl (slot.total ▸ incomplete)
    · exact .inr (.inl unclosed)
  | unmoved _ _ _ failed result _ fs =>
    refine iff_of_true ⟨unchanged ?_, result⟩ (.inr (.inr (.inr failed)))
    rw [fs.names path different, show (world.countFrame message).upload.overwrite = false from kept]
    exact congrFun (close_names _ fd) path
  | finished same complete closed moved result =>
    refine iff_of_false (fun both => by rw [result] at both; cases both.2) ?_
    rintro (other | incomplete | unclosed | unmoved)
    · exact other (same.symm.trans slot.request)
    · exact incomplete (slot.total ▸ complete)
    · omega
    · omega

/-- No silent overwrite. For an upload begun without the overwrite flag, an end
request spares an existing destination and is then not answered with ok exactly
when there is none, or the request is refused or fails before its reply. -/
theorem put_end_spares_existing_iff {connectEnv env : Env} {sessionId : Nat} {counts : Tally} {fs : FileSystem}
    {engine : Engine} {start world next : World} {history : List Input} {message : Message} {reqId : UInt32} {path : Path}
    {size : Nat} {received : Bytes} (connected : onNewConnection connectEnv sessionId counts fs engine = some start)
    (executed : agent.run start history = some world) (opening : Opening start history reqId path size received)
    (keeping : kvCopy 16 (cstr opening.message.payload) (ascii "overwrite") ≠ some (ascii "1"))
    (isEnd : message.type = FrameType.putEnd.code)
    (stepped : agent.step world (.read (.dispatch message), env) = some next) :
    ((world.fs.read path).isSome = true →
        next.fs.read path = world.fs.read path ∧ finishes world (.read (.dispatch message), env) = false) ↔
      (world.fs.read path = none ∨ Refused env world reqId size message) := by
  have slot := opening.slot connected executed
  have kept : world.upload.overwrite = false := by
    rw [slot.overwrite, kvBoolDefault]
    split
    next => rfl
    next text found => simpa using fun same => keeping (found.trans (congrArg some same))
  obtain ⟨_, rfl⟩ := agent_step stepped
  rw [finishes_end isEnd]
  simp only [callback, perform, control_end isEnd]
  rw [put_end_keeps_iff_refused slot kept]
  cases world.fs.read path <;> simp

def beginKeeping : Input := (request .putBegin 7 (ascii "path=a\nsize=0\noverwrite=0"), {})

def keepingOld : World := (agent.step sessionWithOld beginKeeping).get (by decide)

def endUpload : Input := (request .putEnd 7 [] (Nat.zero_le _), {})

def replaced : World := (agent.step keepingOld endUpload).get (by decide +kernel)

/-- Without the overwrite flag an existing destination is replaced and the
upload is acknowledged. -/
theorem rename_replaces_existing :
    agent.step sessionWithOld beginKeeping = some keepingOld ∧ agent.step keepingOld endUpload = some replaced ∧
      keepingOld.fs.read (ascii "a") = some (ascii "old") ∧ replaced.fs.read (ascii "a") = some [] ∧
      replaced.link.queued = keepingOld.link.queued ++ [⟨FrameType.ack.code, 7, putEndReply (ascii "a") 0⟩] :=
  ⟨(Option.some_get (by decide)).symm, (Option.some_get (by decide +kernel)).symm, by decide, by decide +kernel,
   by decide +kernel⟩

def openingKeeping : Opening sessionWithOld [beginKeeping] 7 (ascii "a") 0 [] where
  before := []
  message := ⟨FrameType.putBegin.code, 7, ascii "path=a\nsize=0\noverwrite=0", by decide⟩
  env := {}
  later := []
  idle := sessionWithOld
  opened := keepingOld
  split := rfl
  isBegin := rfl
  request := rfl
  asks := ⟨by decide, by decide⟩
  reached := rfl
  inactive := by decide
  opens := (Option.some_get (by decide)).symm
  unbroken sofar world inside reached := by
    rw [List.prefix_nil.mp inside] at reached
    cases reached
    decide
  accepted := rfl

theorem put_end_spares_existing_iff_replaced :
    ((keepingOld.fs.read (ascii "a")).isSome = true →
        replaced.fs.read (ascii "a") = keepingOld.fs.read (ascii "a") ∧ finishes keepingOld endUpload = false) ↔
      (keepingOld.fs.read (ascii "a") = none ∨
        Refused {} keepingOld 7 0 ⟨FrameType.putEnd.code, 7, [], by decide⟩) := by
  have connected : onNewConnection {} 1 {} oldFile portfwdEngineInit = some sessionWithOld :=
    (Option.some_get (by decide)).symm
  have executed : agent.run sessionWithOld [beginKeeping] = some keepingOld := by
    rw [Machine.run_singleton]
    exact (Option.some_get (by decide)).symm
  have stepped : agent.step keepingOld endUpload = some replaced := (Option.some_get (by decide +kernel)).symm
  exact put_end_spares_existing_iff connected executed openingKeeping (by decide) rfl stepped

end Luagent.Proofs.Upload
