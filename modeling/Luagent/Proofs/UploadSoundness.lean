import Luagent.Proofs.Connecting
import Luagent.Proofs.Texts
import Luagent.Proofs.UploadSteps

/-! Uploads over whole runs of a session: the file under construction always
holds the accepted chunks of the upload that is open, so an acknowledged upload
puts exactly these at its destination. -/

namespace Luagent.Proofs.Upload
open Foundation FileSystem

abbrev Input := Event × Env

/-- What a step adds to the upload of a request. -/
def contribution (reqId : UInt32) (world : World) (input : Input) : Bytes :=
  match acceptedChunk world input with
  | some message => if message.reqId = reqId then message.payload else []
  | none => []

/-- The accepted chunks of a request along a run, in order. -/
def acceptedBytes (reqId : UInt32) : World → List Input → Bytes
  | _, [] => []
  | world, input :: rest =>
    contribution reqId world input ++
      match agent.step world input with
      | some next => acceptedBytes reqId next rest
      | none => []

private theorem acceptedBytes_append (reqId : UInt32) {world last : World} {inputs : List Input} (input : Input)
    (executed : agent.run world inputs = some last) :
    acceptedBytes reqId world (inputs ++ [input]) =
      acceptedBytes reqId world inputs ++ contribution reqId last input := by
  induction inputs generalizing world with
  | nil =>
    cases executed
    simp only [List.nil_append, acceptedBytes]
    split <;> simp
  | cons first rest ih =>
    obtain ⟨next, stepped, continued⟩ := agent.run_cons_some executed
    simp only [List.cons_append, acceptedBytes, stepped, ih continued, List.append_assoc]

/-- The begin request that opened the upload in progress, and what was accepted
for it since. The upload has been open ever since. -/
structure Opening (start : World) (history : List Input) (reqId : UInt32) (path : Path) (size : Nat)
    (received : Bytes) where
  before : List Input
  message : Message
  env : Env
  later : List Input
  idle : World
  opened : World
  split : history = before ++ (.read (.dispatch message), env) :: later
  isBegin : message.type = FrameType.putBegin.code
  request : message.reqId = reqId
  asks : Asks (cstr message.payload) path size
  reached : agent.run start before = some idle
  inactive : idle.upload.active = false
  opens : agent.step idle (.read (.dispatch message), env) = some opened
  unbroken : ∀ sofar world, sofar <+: later → agent.run opened sofar = some world → world.upload.active = true
  accepted : received = acceptedBytes reqId opened later

/-- Where an upload stands after a run. -/
structure Progress (start : World) (history : List Input) (world : World) (path : Path) (fd file : Nat)
    (received : Bytes) : Prop where
  uploading : Uploading world path fd file
  opening : Nonempty (Opening start history world.upload.reqId path world.upload.totalSize received)
  stored : world.upload.totalSize < 2 ^ 63 → Stored world file received

/-- Nothing is being downloaded between two callbacks, and the upload slot is
empty or holds an upload whose beginning is in the history. -/
structure Tracked (start : World) (history : List Input) (world : World) : Prop where
  download : world.download = transferInit
  upload : world.upload = transferInit ∨ ∃ path fd file received, Progress start history world path fd file received

theorem Tracked.shape {start world : World} {history : List Input} (tracked : Tracked start history world) :
    UploadShape world :=
  tracked.upload.imp id fun ⟨path, fd, file, _, progress⟩ => ⟨path, fd, file, progress.uploading⟩

theorem contribution_of_accepted {world : World} {input : Input} {message : Message}
    (accepted : acceptedChunk world input = some message) : contribution message.reqId world input = message.payload := by
  simp [contribution, accepted]

theorem contribution_of_none {world : World} {input : Input} (unaccepted : acceptedChunk world input = none)
    (reqId : UInt32) : contribution reqId world input = [] := by
  simp [contribution, unaccepted]

theorem Opening.run {start world : World} {history : List Input} {reqId : UInt32} {path : Path} {size : Nat}
    {received : Bytes} (opening : Opening start history reqId path size received)
    (executed : agent.run start history = some world) : agent.run opening.opened opening.later = some world := by
  rw [opening.split] at executed
  obtain ⟨idle, reached, continued⟩ := agent.run_append_some executed
  cases opening.reached.symm.trans reached
  obtain ⟨opened, opens, continued⟩ := agent.run_cons_some continued
  cases opening.opens.symm.trans opens
  exact continued

/-- A step that leaves the upload open extends its history. -/
def Opening.extend {start world next : World} {history : List Input} {reqId : UInt32} {path : Path} {size : Nat}
    {received : Bytes} (opening : Opening start history reqId path size received)
    (executed : agent.run start history = some world) {input : Input} (stepped : agent.step world input = some next)
    (active : next.upload.active = true) :
    Opening start (history ++ [input]) reqId path size (received ++ contribution reqId world input) where
  __ := opening
  later := opening.later ++ [input]
  split := by simp [opening.split]
  unbroken sofar middle isPrefix reached := by
    rcases List.prefix_concat_iff.mp isPrefix with whole | shorter
    · have last : agent.run opening.opened (opening.later ++ [input]) = some next := by
        rw [Machine.run_append, opening.run executed]
        exact (agent.run_singleton world input).trans stepped
      rw [whole, last] at reached
      cases reached
      exact active
    · exact opening.unbroken sofar middle shorter reached
  accepted := by
    rw [acceptedBytes_append reqId input (opening.run executed), ← opening.accepted]

theorem Progress.extend {start world next : World} {history : List Input} {path : Path} {fd file : Nat}
    {received : Bytes} (progress : Progress start history world path fd file received)
    (executed : agent.run start history = some world) {input : Input} (stepped : agent.step world input = some next)
    (uploading : Uploading next path fd file) (request : next.upload.reqId = world.upload.reqId)
    (size : next.upload.totalSize = world.upload.totalSize)
    (stored : world.upload.totalSize < 2 ^ 63 →
      Stored next file (received ++ contribution world.upload.reqId world input)) :
    Progress start (history ++ [input]) next path fd file (received ++ contribution world.upload.reqId world input) where
  uploading := uploading
  opening := by
    rw [request, size]
    exact progress.opening.map fun opening => opening.extend executed stepped uploading.active
  stored := size ▸ stored

private theorem tracked_step {start world next : World} {history : List Input} {input : Input}
    (executed : agent.run start history = some world) (tracked : Tracked start history world)
    (stepped : agent.step world input = some next) : Tracked start (history ++ [input]) next := by
  rcases tracked.upload with idle | ⟨path, fd, file, received, progress⟩
  · obtain ⟨download, step⟩ := idle_step tracked.download idle stepped
    refine ⟨download, ?_⟩
    cases step with
    | idle upload _ => exact .inl upload
    | failed _ _ _ _ _ upload _ => exact .inl upload
    | opened message path size isFrame isBegin asks fits upload fs =>
      obtain ⟨uploading, stored⟩ := uploading_of_opened asks fits upload fs
      have same : input = (.read (.dispatch message), input.2) := Prod.ext isFrame rfl
      refine .inr ⟨path, _, _, [], uploading, ⟨?_⟩, fun _ => stored⟩
      exact {
        before := history, message, env := input.2, later := [], idle := world, opened := next
        split := by rw [← same]
        isBegin
        request := by rw [upload]; rfl
        asks := by rw [upload]; exact asks
        reached := executed
        inactive := by rw [idle]; rfl
        opens := by rw [← same]; exact stepped
        unbroken := by
          intro sofar world isPrefix reached
          rw [List.prefix_nil.mp isPrefix] at reached
          cases reached
          exact uploading.active
        accepted := rfl }
  · obtain ⟨download, step⟩ := upload_step tracked.download progress.uploading stepped
    refine ⟨download, ?_⟩
    cases step with
    | kept unaccepted upload fs =>
      refine .inr ⟨path, fd, file, _, progress.extend executed stepped (progress.uploading.preserved upload fs)
        (by rw [upload]) (by rw [upload]) fun small => ?_⟩
      rw [contribution_of_none unaccepted, List.append_nil]
      exact (progress.stored small).preserved upload fs
    | stored message accepted same within upload fs =>
      refine .inr ⟨path, fd, file, _, progress.extend executed stepped
        (uploading_of_stored progress.uploading within upload fs) (by rw [upload]) (by rw [upload]) fun small => ?_⟩
      rw [same, contribution_of_accepted accepted]
      exact stored_append progress.uploading (progress.stored small) small message.bounded upload fs
    | dropped upload _ => exact .inl upload
    | unmoved _ _ _ _ _ _ _ upload _ => exact .inl upload
    | finished _ _ _ _ _ _ upload _ _ => exact .inl upload

theorem run_tracked {env : Env} {sessionId : Nat} {counts : Tally} {fs : FileSystem} {engine : Engine}
    {start world : World} {history : List Input} (connected : onNewConnection env sessionId counts fs engine = some start)
    (executed : agent.run start history = some world) : Tracked start history world := by
  have fresh := connected_fresh connected
  exact agent.run_induction (Tracked start) ⟨fresh.download, .inl fresh.upload⟩
    (fun _ _ _ _ reached tracked stepped => tracked_step reached tracked stepped) executed

theorem not_complains_ack {before after : Link} {reqId : UInt32} {text : Bytes} (complains : Complains before after)
    (acked : after.queued = before.queued ++ [⟨FrameType.ack.code, reqId, text⟩]) : False := by
  obtain ⟨frames, queued, errors⟩ := complains
  rw [acked] at queued
  have single := List.append_cancel_left queued
  have isError := errors ⟨FrameType.ack.code, reqId, text⟩ (single ▸ List.mem_singleton_self _)
  exact absurd (show FrameType.ack.code = FrameType.error.code from isError) (by decide)

/-- A send that queued this text was asked to send it. -/
theorem sendText_acked {env : Env} {link : Link} {reqId other : UInt32} {text sent : Bytes}
    (acked : (sessionSendText env link .ack reqId text).1.queued =
      link.queued ++ [⟨FrameType.ack.code, other, sent⟩]) : reqId = other ∧ text = sent := by
  have queued := sendFrame_queued env link FrameType.ack.code reqId text
  rw [sessionSendText] at acked
  rw [acked] at queued
  have single := List.append_cancel_left queued
  split at single
  · cases single
    exact ⟨rfl, rfl⟩
  · cases single

/-- Upload soundness: an upload acknowledged with a path and a size was opened
with these by a begin request of the same request id, and the destination holds
exactly the chunks accepted for that request since, which are `size` bytes. -/
theorem put_end_ack_sound {connectEnv env : Env} {sessionId : Nat} {counts : Tally} {fs : FileSystem} {engine : Engine}
    {start world next : World} {history : List Input} {message : Message} {reqId : UInt32} {path : Path} {size : Nat}
    (connected : onNewConnection connectEnv sessionId counts fs engine = some start)
    (executed : agent.run start history = some world)
    (stepped : agent.step world (.read (.dispatch message), env) = some next)
    (isEnd : message.type = FrameType.putEnd.code)
    (acked : next.link.queued = world.link.queued ++ [⟨FrameType.ack.code, reqId, putEndReply path size⟩])
    (small : size < 2 ^ 63) :
    ∃ content, Nonempty (Opening start history reqId path size content) ∧
      next.fs.read path = some content ∧ content.length = size := by
  have tracked := run_tracked connected executed
  obtain ⟨_, rfl⟩ := agent_step stepped
  simp only [callback, perform, control_end isEnd] at acked ⊢
  rcases tracked.upload with idle | ⟨destination, fd, file, received, progress⟩
  · have inactive : (world.countFrame message).upload.active = false := by
      rw [show (world.countFrame message).upload = world.upload from rfl, idle]
      rfl
    rw [putEnd_idle inactive] at acked
    exact (not_complains_ack (sendError_complains env (world.countFrame message).link _ _ _) acked).elim
  · have uploading := progress.uploading
    have effect := putEnd_effect env (uploading.counted message) message.reqId
    generalize transferHandlePutEnd env (world.countFrame message) message.reqId = result at acked effect
    cases effect with
    | refused _ _ _ _ reply => exact (not_complains_ack reply acked).elim
    | dropped _ _ _ _ _ _ reply => exact (not_complains_ack reply acked).elim
    | unmoved _ _ _ _ _ _ _ reply => exact (not_complains_ack reply acked).elim
    | finished same complete closed moved _ _ fs reply =>
      rw [reply] at acked
      obtain ⟨request, text⟩ := sendText_acked acked
      obtain ⟨rfl, total⟩ := putEndReply_injective text
      have total : world.upload.totalSize = size := total
      have request : world.upload.reqId = reqId := same.trans request
      have stored := progress.stored (by rw [total]; exact small)
      refine ⟨received, ?_, ?_, ?_⟩
      · rw [← request, ← total]
        exact progress.opening
      · rw [fs, ← stored.content]
        exact uploading.read_renamed env _
      · rw [← total, ← stored.offset]
        exact complete

/-- A frame of a client, for the runs below. -/
def request (type : FrameType) (reqId : UInt32) (payload : Bytes)
    (bounded : payload.length ≤ maxFramePayload := by decide) : Event := .read (.dispatch ⟨type.code, reqId, payload, bounded⟩)

def freshSession : World := (onNewConnection {} 1 {} .empty portfwdEngineInit).get (by decide)

def beginHi : Event := request .putBegin 7 (ascii "path=a\nsize=2")

/-- A client asks for a child. -/
def spawnX : Event := request .procSpawn 7 (ascii "path=x")

def uploadHi : List Input := [(beginHi, {}), (request .putChunk 7 (ascii "hi"), {})]

def uploadedHi : World := (agent.run freshSession uploadHi).get (by decide +kernel)

def acknowledgedHi : World := (agent.step uploadedHi (request .putEnd 7 [] (Nat.zero_le _), {})).get (by decide +kernel)

theorem put_end_ack_sound_hi :
    acknowledgedHi.link.queued = uploadedHi.link.queued ++ [⟨FrameType.ack.code, 7, putEndReply (ascii "a") 2⟩] ∧
    ∃ content, Nonempty (Opening freshSession uploadHi 7 (ascii "a") 2 content) ∧
      acknowledgedHi.fs.read (ascii "a") = some content ∧ content.length = 2 := by
  have acked : acknowledgedHi.link.queued =
      uploadedHi.link.queued ++ [⟨FrameType.ack.code, 7, putEndReply (ascii "a") 2⟩] := by decide +kernel
  refine ⟨acked, ?_⟩
  exact put_end_ack_sound (Option.some_get (by decide)).symm (Option.some_get (by decide +kernel)).symm
    (Option.some_get (by decide +kernel)).symm rfl acked (by decide)

end Luagent.Proofs.Upload
