import Luagent.Proofs.UploadFinalise
import Luagent.Sharing

/-! Concurrent uploads to one path. Both sessions write under the one `.part`
name, so they disturb each other unless one begins only when the other is not
uploading; then the destination always holds the last acknowledged upload. -/

namespace Luagent.Proofs.Isolation
open Foundation FileSystem

/-- An end request that comes as far as moving its file to the destination. -/
structure Completes (shared : Shared) (input : Arrival) : Prop where
  isEnd : input.message.type = FrameType.putEnd.code
  same : (shared.session input.side).upload.reqId = input.message.reqId
  complete : (shared.session input.side).upload.offset = (shared.session input.side).upload.totalSize
  closed : 0 ≤ input.env.fsClose

/-- A frame that cannot disturb the other session's upload. An end request that
moves its file can be answered, and one that does not leaves the destination. -/
structure Undisturbed (path : Path) (shared : Shared) (input : Arrival) : Prop where
  begins : input.message.type = FrameType.putBegin.code → (shared.session input.side.other).upload.active = false
  sized : input.message.type = FrameType.putBegin.code →
    ∀ size, kvU64 (cstr input.message.payload) (ascii "size") = some size → size < 2 ^ 63
  answered : Completes shared input → 0 ≤ input.env.fsRename →
    CanSend input.env (shared.session input.side).link
      (putEndReply path (shared.session input.side).upload.totalSize).length
  spared : Completes shared input → input.env.fsRename < 0 →
    (shared.session input.side).upload.overwrite = true → (shared.fs.names path).isSome = true →
    input.env.fsUnlink path < 0

structure Holding (path : Path) (shared : Shared) (side : Side) (fd file : Nat) : Prop where
  uploading : Uploading (shared.world side) path fd file
  stored : Stored (shared.world side) file (shared.received side)
  small : (shared.session side).upload.totalSize < 2 ^ 63

/-- At most one side uploads, and the destination is what was acknowledged last. -/
structure Exclusive (path : Path) (shared : Shared) : Prop where
  apart : shared.fs.Apart path (partPath path)
  slot : ∀ side, (shared.session side).upload = transferInit ∨ ∃ fd file, Holding path shared side fd file
  alone : ∀ side, (shared.session side).upload.active = true → (shared.session side.other).upload.active = false
  last : ∀ content, shared.acked.getLast? = some content → shared.fs.read path = some content

theorem Exclusive.idle {path : Path} {shared : Shared} (exclusive : Exclusive path shared) {side : Side}
    (inactive : (shared.session side).upload.active = false) : (shared.session side).upload = transferInit := by
  rcases exclusive.slot side with idle | ⟨fd, file, holding⟩
  · exact idle
  · have active : (shared.session side).upload.active = true := holding.uploading.active
    rw [active] at inactive
    cases inactive

/-- What a frame does to the two sessions. -/
inductive Turn (path : Path) (shared : Shared) (side : Side) (next : Shared) : Prop where
  | quiet (upload : (next.session side).upload = (shared.session side).upload) (fs : next.fs = shared.fs)
      (received : (shared.session side).upload.active = true → next.received side = shared.received side)
      (acked : next.acked = shared.acked)
  | changed (alone : (shared.session side.other).upload.active = false) (fs : Spares (partPath path) shared.fs next.fs)
      (slot : (next.session side).upload = transferInit ∨ ∃ fd file, Holding path next side fd file)
      (acked : next.acked = shared.acked)
  | finished (alone : (shared.session side.other).upload.active = false)
      (upload : (next.session side).upload = transferInit) (read : next.fs.read path = some (shared.received side))
      (apart : next.fs.Apart path (partPath path)) (acked : next.acked = shared.acked ++ [shared.received side])

structure Beside (shared : Shared) (side : Side) (next : Shared) : Prop where
  session : next.session side.other = shared.session side.other
  received : next.received side.other = shared.received side.other

private theorem Side.eq_or_other (side current : Side) : current = side ∨ current = side.other := by
  cases side <;> cases current <;> simp [Side.other]

private theorem Side.other_ne (side : Side) : side.other ≠ side := by
  cases side <;> simp [Side.other]

private theorem Side.other_other (side : Side) : side.other.other = side := by
  cases side <;> rfl

theorem Holding.preserved {path : Path} {shared next : Shared} {side : Side} {fd file : Nat}
    (holding : Holding path shared side fd file) (upload : (next.session side).upload = (shared.session side).upload)
    (fs : next.fs = shared.fs) (received : next.received side = shared.received side) :
    Holding path next side fd file where
  uploading := holding.uploading.preserved upload (show Preserves shared.fs next.fs from fs ▸ .refl _)
  stored := received ▸ holding.stored.preserved upload (show Preserves shared.fs next.fs from fs ▸ .refl _)
  small := upload ▸ holding.small

private theorem exclusive_turn {path : Path} {shared next : Shared} {side : Side} (exclusive : Exclusive path shared)
    (turn : Turn path shared side next) (beside : Beside shared side next) : Exclusive path next := by
  have different := partPath_ne path
  have others : (shared.session side.other).upload.active = false →
      (next.session side.other).upload = transferInit := fun inactive => by
    rw [beside.session]
    exact exclusive.idle inactive
  have both : ∀ {holds : Side → Prop}, holds side → holds side.other → ∀ current, holds current := by
    intro holds here there current
    rcases Side.eq_or_other side current with rfl | rfl
    · exact here
    · exact there
  have inactive : ∀ {upload : TransferState}, upload = transferInit → upload.active = true → False := by
    rintro _ rfl active
    cases active
  cases turn with
  | quiet upload fs received acked =>
    refine ⟨fs ▸ exclusive.apart, both ?_ ?_, both ?_ ?_, ?_⟩
    · rcases exclusive.slot side with idle | ⟨fd, file, holding⟩
      · exact .inl (upload.trans idle)
      · exact .inr ⟨fd, file, holding.preserved upload fs (received holding.uploading.active)⟩
    · rcases exclusive.slot side.other with idle | ⟨fd, file, holding⟩
      · exact .inl (by rw [beside.session]; exact idle)
      · exact .inr ⟨fd, file, holding.preserved (by rw [beside.session]) fs beside.received⟩
    · rw [upload, beside.session]
      exact exclusive.alone side
    · rw [Side.other_other, upload, beside.session]
      simpa [Side.other_other] using exclusive.alone side.other
    · rw [acked, fs]
      exact exclusive.last
  | changed alone fs slot acked =>
    refine ⟨fs.apart different exclusive.apart, both slot (.inl (others alone)), both ?_ ?_, ?_⟩
    · intro _
      rw [others alone]
      rfl
    · intro active
      exact (inactive (others alone) active).elim
    · intro content found
      rw [fs.read different exclusive.apart]
      exact exclusive.last content (acked ▸ found)
  | finished alone upload read apart acked =>
    refine ⟨apart, both (.inl upload) (.inl (others alone)), both ?_ ?_, ?_⟩
    · intro active
      exact (inactive upload active).elim
    · intro active
      exact (inactive (others alone) active).elim
    · intro content found
      rw [acked, List.getLast?_concat] at found
      rw [read, found]

private theorem queuedAck_of_complains {before after : Link} (complains : Complains before after) :
    queuedAck before after = false := by
  obtain ⟨frames, queued, errors⟩ := complains
  rw [queuedAck, queued, List.drop_left, List.any_eq_false]
  intro frame member
  rw [errors frame member]
  decide

private theorem queuedAck_of_append {before after : Link} {reqId : UInt32} {text : Bytes}
    (queued : after.queued = before.queued ++ [⟨FrameType.ack.code, reqId, text⟩]) : queuedAck before after = true := by
  rw [queuedAck, queued, List.drop_left]
  rfl

section turns
variable {path : Path} {shared : Shared} {input : Arrival}

def outcome (shared : Shared) (input : Arrival) : World × Bool :=
  protocolHandleControl input.env ((shared.world input.side).countFrame input.message) input.message

private theorem handle_session (shared : Shared) (input : Arrival) :
    (shared.handle input).session input.side = (outcome shared input).1.toSession := by
  simp [Shared.handle, outcome]

private theorem handle_received (shared : Shared) (input : Arrival) :
    (shared.handle input).received input.side =
      receivedAfter (shared.world input.side) (shared.received input.side) input.message (outcome shared input).2 := by
  simp [Shared.handle, outcome]

private theorem handle_beside (shared : Shared) (input : Arrival) : Beside shared input.side (shared.handle input) :=
  ⟨by simp [Shared.handle, Side.other_ne], by simp [Shared.handle, Side.other_ne]⟩

private theorem handle_acked (other : input.message.type ≠ FrameType.putEnd.code) :
    (shared.handle input).acked = shared.acked := by
  simp [Shared.handle, other]

private theorem handle_unacked (silent : queuedAck (shared.world input.side).link (outcome shared input).1.link = false) :
    (shared.handle input).acked = shared.acked := by
  unfold outcome at silent
  simp [Shared.handle, silent]

private theorem begin_turn (undisturbed : Undisturbed path shared input)
    (isBegin : input.message.type = FrameType.putBegin.code)
    (named : kvCopy 512 (cstr input.message.payload) (ascii "path") = some path) :
    Turn path shared input.side (shared.handle input) := by
  have unacked : (shared.handle input).acked = shared.acked := handle_acked (by rw [isBegin]; decide)
  have session := handle_session shared input
  have received := handle_received shared input
  have fs : (shared.handle input).fs = (outcome shared input).1.fs := rfl
  have control := control_effect input.env ((shared.world input.side).countFrame input.message) input.message
  simp only [receivedAfter, isBegin, show FrameType.putBegin.code ≠ FrameType.putChunk.code by decide, if_false,
    if_true] at received
  have kept : (shared.session input.side).upload.active = true →
      (shared.handle input).received input.side = shared.received input.side := fun active =>
    received.trans (if_pos active)
  change ControlEffect _ _ _ (outcome shared input) at control
  generalize outcome shared input = result at session fs control
  cases control with
  | chunk isChunk => rw [isBegin] at isChunk; exact absurd isChunk (by decide)
  | ended isEnd => rw [isBegin] at isEnd; exact absurd isEnd (by decide)
  | text _ effect =>
    rw [isBegin, FrameType.ofCode_code] at effect
    generalize result.1 = after at session fs effect
    cases effect with
    | talked talks =>
      exact .quiet (by rw [session]; exact talks.files.upload) (fs.trans (by rw [talks.same]; rfl)) kept unacked
    | operated isOp => cases isOp
    | downloaded isGet => cases isGet
    | spawned isSpawn => cases isSpawn
    | killed isKill => cases isKill
    | began =>
      cases putBegin_effect input.env ((shared.world input.side).countFrame input.message) input.message.reqId
          (cstr input.message.payload) with
      | refused _ upload same => exact .quiet (by rw [session]; exact upload) (fs.trans same) kept unacked
      | failed other _ found _ upload spared =>
        cases named.symm.trans found
        exact .changed (undisturbed.begins isBegin) (fs ▸ spared) (.inl (by rw [session]; exact upload)) unacked
      | opened other size idle asks fits upload created =>
        cases named.symm.trans asks.path
        have slot : ((shared.handle input).world input.side).upload =
            openedUpload input.env input.message.reqId (cstr input.message.payload) path size shared.fs.nextFd :=
          (congrArg Session.upload session).trans upload
        obtain ⟨uploading, stored⟩ := @uploading_of_opened _ (shared.world input.side) _ _ _ _ _ asks fits slot
          (fs.trans created)
        refine .changed (undisturbed.begins isBegin) ?_ (.inr ⟨_, _, uploading, ?_, ?_⟩) unacked
        · rw [fs, created]
          exact .create _ _
        · rw [received, if_neg (by rw [show (shared.world input.side).upload.active = false from idle]; simp)]
          exact stored
        · rw [show ((shared.handle input).session input.side).upload = _ from slot]
          exact undisturbed.sized isBegin size asks.size

private theorem chunk_turn (exclusive : Exclusive path shared) (isChunk : input.message.type = FrameType.putChunk.code) :
    Turn path shared input.side (shared.handle input) := by
  have unacked : (shared.handle input).acked = shared.acked := handle_acked (by rw [isChunk]; decide)
  have session := handle_session shared input
  have received := handle_received shared input
  have fs : (shared.handle input).fs = (outcome shared input).1.fs := rfl
  simp only [receivedAfter, isChunk, if_true] at received
  have handled : outcome shared input = transferHandlePutChunk input.env
      ((shared.world input.side).countFrame input.message) input.message.reqId input.message.payload :=
    control_chunk isChunk
  rw [handled] at session received fs
  have kept : ∀ {result : Bool}, result = false →
      (if result = true then shared.received input.side ++ input.message.payload else shared.received input.side) =
        shared.received input.side := by
    rintro _ rfl
    rfl
  rcases exclusive.slot input.side with idle | ⟨fd, file, holding⟩
  · have inactive : ((shared.world input.side).countFrame input.message).upload.active = false := by
      rw [show ((shared.world input.side).countFrame input.message).upload = transferInit from idle]
      rfl
    rw [putChunk_idle inactive] at session received fs
    exact .quiet (by rw [session]; rfl) fs (fun _ => received) unacked
  · have alone := exclusive.alone input.side holding.uploading.active
    have uploading := holding.uploading.counted input.message
    have effect := putChunk_effect input.env uploading input.message.reqId input.message.payload
    generalize transferHandlePutChunk input.env ((shared.world input.side).countFrame input.message)
      input.message.reqId input.message.payload = result at session received fs effect
    cases effect with
    | refused _ failed upload same =>
      exact .quiet (by rw [session]; exact upload) (fs.trans same) (fun _ => received.trans (kept failed)) unacked
    | dropped _ upload spared => exact .changed alone (fs ▸ spared) (.inl (by rw [session]; exact upload)) unacked
    | stored _ accepted within upload written =>
      have slot : ((shared.handle input).world input.side).upload = _ := (congrArg Session.upload session).trans upload
      have content : ((shared.handle input).world input.side).fs = _ := fs.trans written
      refine .changed alone ?_ (.inr ⟨fd, file, ?_, ?_, ?_⟩) unacked
      · rw [fs, written]
        exact .pwrite uploading.described uploading.named _ _
      · exact uploading_of_stored uploading within slot content
      · rw [received, accepted]
        exact stored_append uploading (holding.stored.preserved rfl (.refl _)) holding.small input.message.bounded slot content
      · rw [show ((shared.handle input).session input.side).upload = _ from slot]
        exact holding.small

private theorem spares_uncleared (undisturbed : Undisturbed path shared input) (completes : Completes shared input)
    (failed : input.env.fsRename < 0) (fd : Nat) :
    Spares (partPath path) shared.fs
      (cleared input.env (shared.fs.close fd) (shared.session input.side).upload.overwrite path) := by
  have names : (cleared input.env (shared.fs.close fd) (shared.session input.side).upload.overwrite path).names =
      (shared.fs.close fd).names := by
    apply Upload.cleared_spares
    rw [close_names]
    exact undisturbed.spared completes failed
  exact (Spares.close shared.fs _ fd).trans (.of_names names (cleared_data ..) (cleared_files ..) (cleared_forgets ..))

private theorem end_queues (undisturbed : Undisturbed path shared input) (completes : Completes shared input)
    (moved : 0 ≤ input.env.fsRename) {fd file : Nat} (uploading : Uploading (shared.world input.side) path fd file)
    (reqId : UInt32) :
    Queues ((shared.world input.side).countFrame input.message).link
      ⟨FrameType.ack.code, reqId, putEndReply path (shared.session input.side).upload.totalSize⟩
      (sessionSendText input.env ((shared.world input.side).countFrame input.message).link .ack reqId
        (putEndReply path (shared.session input.side).upload.totalSize)).1 := by
  have can : CanSend input.env ((shared.world input.side).countFrame input.message).link
      (putEndReply path (shared.session input.side).upload.totalSize).length := by
    obtain ⟨live, room, request, buffer, accepted⟩ := undisturbed.answered completes moved
    exact ⟨live, room, request, buffer, accepted⟩
  have short := Nat.lt_of_le_of_lt (putEndReply_length _ path _) uploading.fits
  refine sendFrame_queues reqId (show FrameType.ack.code ≠ 0 by decide) ?_ can
  unfold maxFramePayload
  exact Nat.le_trans (Nat.le_of_lt short) (by decide)

private theorem end_turn (exclusive : Exclusive path shared) (undisturbed : Undisturbed path shared input)
    (isEnd : input.message.type = FrameType.putEnd.code) : Turn path shared input.side (shared.handle input) := by
  have session := handle_session shared input
  have received := handle_received shared input
  have fs : (shared.handle input).fs = (outcome shared input).1.fs := rfl
  simp only [receivedAfter, isEnd, show FrameType.putEnd.code ≠ FrameType.putChunk.code by decide,
    show FrameType.putEnd.code ≠ FrameType.putBegin.code by decide, if_false] at received
  have silent := @handle_unacked shared input
  have acked : queuedAck (shared.world input.side).link (outcome shared input).1.link = true →
      (shared.handle input).acked = shared.acked ++ [shared.received input.side] := by
    unfold outcome
    intro queued
    simp [Shared.handle, isEnd, queued]
  have handled : outcome shared input =
      transferHandlePutEnd input.env ((shared.world input.side).countFrame input.message) input.message.reqId :=
    control_end isEnd
  rw [handled] at session fs silent acked
  rcases exclusive.slot input.side with idle | ⟨fd, file, holding⟩
  · have inactive : ((shared.world input.side).countFrame input.message).upload.active = false := by
      rw [show ((shared.world input.side).countFrame input.message).upload = transferInit from idle]
      rfl
    rw [putEnd_idle inactive] at session fs silent
    exact .quiet (by rw [session]; rfl) fs (fun _ => received)
      (silent (queuedAck_of_complains (sendError_complains input.env
        ((shared.world input.side).countFrame input.message).link _ _ _)))
  · have alone := exclusive.alone input.side holding.uploading.active
    have uploading := holding.uploading.counted input.message
    have effect := putEnd_effect input.env uploading input.message.reqId
    generalize transferHandlePutEnd input.env ((shared.world input.side).countFrame input.message)
      input.message.reqId = result at session fs silent acked effect
    cases effect with
    | refused _ _ upload same reply =>
      exact .quiet (by rw [session]; exact upload) (fs.trans same) (fun _ => received)
        (silent (queuedAck_of_complains reply))
    | dropped _ _ _ upload spared _ reply =>
      exact .changed alone (fs ▸ spared) (.inl (by rw [session]; exact upload))
        (silent (queuedAck_of_complains reply))
    | unmoved same complete closed failed _ upload spared reply =>
      refine .changed alone ?_ (.inl (by rw [session]; exact upload)) (silent (queuedAck_of_complains reply))
      exact fs ▸ (spares_uncleared undisturbed ⟨isEnd, same, complete, closed⟩ failed fd).trans spared
    | finished same complete closed moved _ upload renamed reply =>
      refine .finished alone (by rw [session]; exact upload) ?_ ?_ (acked ?_)
      · rw [fs, renamed, ← holding.stored.content]
        exact uploading.read_renamed input.env _
      · rw [fs, renamed]
        exact (cleared_apart _ _ ((Spares.close shared.fs _ fd).apart (partPath_ne path)
          exclusive.apart)).rename (partPath_ne path)
      · rw [reply]
        exact queuedAck_of_append (end_queues undisturbed ⟨isEnd, same, complete, closed⟩ moved holding.uploading _).queued

end turns

private theorem exclusive_step {path : Path} {shared next : Shared} {input : Arrival} (exclusive : Exclusive path shared)
    (undisturbed : Undisturbed path shared input) (stepped : (sharing path).step shared input = some next) :
    Exclusive path next := by
  simp only [sharing] at stepped
  split at stepped
  next frame =>
    cases stepped
    apply exclusive_turn exclusive _ (handle_beside shared input)
    simp only [uploads, Bool.or_eq_true, Bool.and_eq_true, beq_iff_eq] at frame
    rcases frame with (⟨isBegin, named⟩ | isChunk) | isEnd
    · exact begin_turn undisturbed isBegin named
    · exact chunk_turn exclusive isChunk
    · exact end_turn exclusive undisturbed isEnd
  next => cases stepped

/-- Two sessions as they are after the agent accepted them. -/
structure Accepted (path : Path) (shared : Shared) : Prop where
  connected : ∀ side, ∃ env sessionId counts fs engine world,
    onNewConnection env sessionId counts fs engine = some world ∧ shared.session side = world.toSession
  apart : shared.fs.Apart path (partPath path)
  unacknowledged : shared.acked = []

theorem Accepted.exclusive {path : Path} {shared : Shared} (accepted : Accepted path shared) : Exclusive path shared := by
  have idle : ∀ side, (shared.session side).upload = transferInit := by
    intro side
    obtain ⟨env, sessionId, counts, fs, engine, world, connected, same⟩ := accepted.connected side
    rw [same]
    exact (connected_fresh connected).upload
  refine ⟨accepted.apart, fun side => .inl (idle side), fun side _ => by rw [idle]; rfl, ?_⟩
  intro content last
  rw [accepted.unacknowledged] at last
  cases last

/-- Isolation: as long as no frame disturbs the other session's upload, the
destination is at all times the upload that was acknowledged last. -/
theorem last_acknowledged_stays {path : Path} {start shared : Shared} {arrivals : List Arrival}
    (accepted : Accepted path start) (undisturbed : (sharing path).Conforms (Undisturbed path) start arrivals)
    (executed : (sharing path).run start arrivals = some shared) :
    ∀ content, shared.acked.getLast? = some content → shared.fs.read path = some content :=
  ((sharing path).conforming_induction (fun _ => Exclusive path) accepted.exclusive
    (fun _ _ _ _ _ exclusive allowed stepped => exclusive_step exclusive allowed stepped) undisturbed executed).last

/-- Frames of a client, for the runs below. -/
def beginOn (side : Side) (payload : Bytes) (bounded : payload.length ≤ maxFramePayload := by decide) : Arrival :=
  ⟨side, ⟨FrameType.putBegin.code, 1, payload, bounded⟩, {}⟩

def chunkOn (side : Side) (payload : Bytes) (bounded : payload.length ≤ maxFramePayload := by decide) : Arrival :=
  ⟨side, ⟨FrameType.putChunk.code, 1, payload, bounded⟩, {}⟩

def endOn (side : Side) : Arrival := ⟨side, ⟨FrameType.putEnd.code, 1, [], Nat.zero_le _⟩, {}⟩

def connection (side : Side) : World :=
  (onNewConnection {} (match side with | .left => 1 | .right => 2) {} .empty portfwdEngineInit).get
    (by cases side <;> decide)

def twoSessions : Shared where
  session side := (connection side).toSession
  fs := .empty
  engine := portfwdEngineInit
  received _ := []
  acked := []

private theorem twoSessions_accepted (path : Path) : Accepted path twoSessions where
  connected side := ⟨_, _, _, _, _, connection side, (Option.some_get (by cases side <;> decide)).symm, rfl⟩
  apart := .inl rfl
  unacknowledged := rfl

/-- The right session opens the left one's temporary file, and writes to it after
the left one has moved it to the destination. -/
def interleaved : List Arrival :=
  [beginOn .left (ascii "path=a\nsize=1"), beginOn .right (ascii "path=a\nsize=1"), chunkOn .left (ascii "x"),
    endOn .left, chunkOn .right (ascii "y")]

def disturbed : Shared := ((sharing (ascii "a")).run twoSessions interleaved).get (by decide)

theorem open_upload_changes_acknowledged :
    Accepted (ascii "a") twoSessions ∧ (sharing (ascii "a")).run twoSessions interleaved = some disturbed ∧
      disturbed.acked = [ascii "x"] ∧ disturbed.fs.read (ascii "a") = some (ascii "y") :=
  ⟨twoSessions_accepted _, (Option.some_get (by decide)).symm, by decide +kernel, by decide⟩

private theorem beginOn_undisturbed {path : Path} {shared : Shared} {side : Side} {payload : Bytes} {size : Nat}
    (bounded : payload.length ≤ maxFramePayload) (free : (shared.session side.other).upload.active = false)
    (declared : kvU64 (cstr payload) (ascii "size") = some size) (small : size < 2 ^ 63) :
    Undisturbed path shared (beginOn side payload bounded) where
  begins _ := free
  sized _ other found := by
    cases declared.symm.trans found
    exact small
  answered completes := absurd completes.isEnd (show FrameType.putBegin.code ≠ FrameType.putEnd.code by decide)
  spared completes := absurd completes.isEnd (show FrameType.putBegin.code ≠ FrameType.putEnd.code by decide)

private theorem chunkOn_undisturbed {path : Path} {shared : Shared} {side : Side} {payload : Bytes}
    (bounded : payload.length ≤ maxFramePayload) : Undisturbed path shared (chunkOn side payload bounded) where
  begins isBegin := absurd isBegin (show FrameType.putChunk.code ≠ FrameType.putBegin.code by decide)
  sized isBegin := absurd isBegin (show FrameType.putChunk.code ≠ FrameType.putBegin.code by decide)
  answered completes := absurd completes.isEnd (show FrameType.putChunk.code ≠ FrameType.putEnd.code by decide)
  spared completes := absurd completes.isEnd (show FrameType.putChunk.code ≠ FrameType.putEnd.code by decide)

private theorem endOn_undisturbed {path : Path} {shared : Shared} {side : Side}
    (can : CanSend {} (shared.session side).link (putEndReply path (shared.session side).upload.totalSize).length) :
    Undisturbed path shared (endOn side) where
  begins isBegin := absurd isBegin (show FrameType.putEnd.code ≠ FrameType.putBegin.code by decide)
  sized isBegin := absurd isBegin (show FrameType.putEnd.code ≠ FrameType.putBegin.code by decide)
  answered _ _ := can
  spared _ unmoved := absurd unmoved (show ¬ (0 : Int) < 0 by decide)

/-- One upload after the other. -/
def consecutive : List Arrival :=
  [beginOn .left (ascii "path=a\nsize=1"), chunkOn .left (ascii "x"), endOn .left,
    beginOn .right (ascii "path=a\nsize=1"), chunkOn .right (ascii "y")]

def consecutiveEnd : Shared := ((sharing (ascii "a")).run twoSessions consecutive).get (by decide)

theorem last_acknowledged_stays_consecutive :
    consecutiveEnd.acked.getLast? = some (ascii "x") ∧ consecutiveEnd.fs.read (ascii "a") = some (ascii "x") := by
  have acked : consecutiveEnd.acked.getLast? = some (ascii "x") := by decide +kernel
  refine ⟨acked, last_acknowledged_stays (twoSessions_accepted _) ?_ (Option.some_get (by decide)).symm _ acked⟩
  refine ⟨beginOn_undisturbed (by decide) rfl (show _ = some 1 by decide) (by decide), ?_⟩
  rintro _ ⟨rfl⟩
  refine ⟨chunkOn_undisturbed (by decide), ?_⟩
  rintro _ ⟨rfl⟩
  refine ⟨endOn_undisturbed ⟨by decide +kernel, by decide +kernel, rfl, rfl, rfl⟩, ?_⟩
  rintro _ ⟨rfl⟩
  refine ⟨beginOn_undisturbed (by decide) (by decide) (show _ = some 1 by decide) (by decide), ?_⟩
  rintro _ ⟨rfl⟩
  exact ⟨chunkOn_undisturbed (by decide), fun _ _ => trivial⟩

end Luagent.Proofs.Isolation
