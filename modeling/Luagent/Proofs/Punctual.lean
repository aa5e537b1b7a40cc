import Luagent.Clock
import Luagent.Proofs.Balance
import Luagent.Proofs.ExitReason
import Luagent.Proofs.Heartbeat

/-! The timeouts of `heartbeat_cb` against a clock that does not go back. Every
timestamp of a session is the time of something that has happened to it, so that
no difference to the time of a tick wraps and nothing times out early. -/

namespace Luagent.Proofs.Punctual
open Foundation Balance

/-- A callback reads a clock of 64 bits between two times. -/
structure Within (env : Env) (earliest latest : Nat) : Prop where
  now : earliest ≤ env.now ∧ env.now ≤ latest
  sends : ∀ send, earliest ≤ env.sentAt send ∧ env.sentAt send ≤ latest
  small : latest < 2 ^ 64

/-- Traffic of the relays reads no clock. -/
def reads : ServerEvent → Nat → Nat → Prop
  | .connect env, earliest, latest => Within env earliest latest
  | .session _ _ env, earliest, latest => Within env earliest latest
  | .relay _ _, earliest, latest => earliest ≤ latest

/-- No callback reads an earlier time than one before it. -/
def Forward : Nat → List ServerEvent → Nat → Prop
  | earliest, [], latest => earliest ≤ latest
  | earliest, event :: events, latest => ∃ middle, reads event earliest middle ∧ Forward middle events latest

private theorem forward_append {earliest latest : Nat} {events : List ServerEvent} {event : ServerEvent} :
    Forward earliest (events ++ [event]) latest ↔
      ∃ middle later, Forward earliest events middle ∧ reads event middle later ∧ later ≤ latest := by
  induction events generalizing earliest with
  | nil =>
    constructor
    · rintro ⟨later, read, bound⟩
      exact ⟨earliest, later, Nat.le_refl _, read, bound⟩
    · rintro ⟨middle, later, before, read, bound⟩
      refine ⟨later, ?_, bound⟩
      cases event with
      | connect | session =>
        exact ⟨⟨before.trans read.now.1, read.now.2⟩,
          fun send => ⟨before.trans (read.sends send).1, (read.sends send).2⟩, read.small⟩
      | relay => exact before.trans read
  | cons first rest ih =>
    simp only [List.cons_append, Forward, ih]
    constructor
    · rintro ⟨next, read, middle, later, kept, last⟩
      exact ⟨middle, later, ⟨next, read, kept⟩, last⟩
    · rintro ⟨middle, later, ⟨next, read, kept⟩, last⟩
      exact ⟨next, read, middle, later, kept, last⟩

/-- What the timeouts of a session are counted from. -/
inductive Mark where
  | heard | progressed | spawned | spoke
deriving DecidableEq

/-- Whether a callback gives a timeout a new start: bytes came in, an upload began or
went on, a child was spawned or wrote something. -/
def noted (env : Env) (world : World) (event : Event) : Mark → Bool
  | .heard => event == .read .received
  | .progressed => (acceptedChunk world (event, env)).isSome ||
      (!world.upload.active && (callback env world event).upload.active)
  | .spawned => (callback env world event).proc.spawned != world.proc.spawned
  | .spoke => match event with
    | .output _ _ => true
    | _ => false

def marks (env : Env) (world : World) (event : Event) : List (Mark × Nat) :=
  ([.heard, .progressed, .spawned, .spoke].filter (noted env world event)).map fun mark => (mark, env.now)

/-- What a step of the agent notes for a session. Its connection counts as heard. -/
def observed (id : Nat) (state : ServerState) (event : ServerEvent) (_ : ServerState) : List (Mark × Nat) :=
  match event with
  | .connect env => if state.nextSessionId = id then [(.heard, env.now)] else []
  | .session other event env =>
    if other = id then (state.session id).toList.flatMap fun session => marks env (state.world id session) event else []
  | .relay _ _ => []

private theorem mem_marks {env : Env} {world : World} {event : Event} {mark : Mark} {time : Nat}
    (member : (mark, time) ∈ marks env world event) : noted env world event mark = true ∧ time = env.now := by
  simp only [marks, List.mem_map, List.mem_filter, Prod.mk.injEq] at member
  obtain ⟨_, ⟨_, noted⟩, rfl, rfl⟩ := member
  exact ⟨noted, rfl⟩

/-- The timestamps of a session, given what was noted for it until some time. -/
structure Timely (log : List (Mark × Nat)) (latest : Nat) (session : Session) : Prop where
  received : session.lastRxMs ≤ latest
  heard : ∀ time, (.heard, time) ∈ log → time ≤ session.lastRxMs
  sent : session.link.lastTxMs ≤ latest
  upload : session.upload.active = true → session.upload.lastProgressMs ≤ latest ∧
    ∀ time, (.progressed, time) ∈ log → time ≤ session.upload.lastProgressMs
  child : session.proc.active = true → session.proc.startedMs ≤ latest ∧ session.proc.lastIoMs ≤ latest ∧
    (∀ time, (.spawned, time) ∈ log → time ≤ session.proc.startedMs ∧ time ≤ session.proc.lastIoMs) ∧
    ∀ time, (.spoke, time) ∈ log → time ≤ session.proc.lastIoMs

theorem Timely.mono {log : List (Mark × Nat)} {latest later : Nat} {session : Session} (timely : Timely log latest session)
    (bound : latest ≤ later) : Timely log later session where
  received := timely.received.trans bound
  heard := timely.heard
  sent := timely.sent.trans bound
  upload active := ⟨(timely.upload active).1.trans bound, (timely.upload active).2⟩
  child active := by
    obtain ⟨started, lastIo, rest⟩ := timely.child active
    exact ⟨started.trans bound, lastIo.trans bound, rest⟩

section upload
variable (env : Env) (world : World)

/-- How a callback leaves the upload slot: as it was without a chunk accepted, empty,
or with the time of the callback. -/
inductive UploadTimes (event : Event) (next : World) : Prop where
  | kept (unaccepted : acceptedChunk world (event, env) = none) (same : next.upload = world.upload)
  | ended (inactive : next.upload.active = false)
  | progressed (now : next.upload.lastProgressMs = env.now)

private theorem putChunk_times (reqId : UInt32) (payload : Bytes) :
    ((transferHandlePutChunk env world reqId payload).2 = false ∧
        (transferHandlePutChunk env world reqId payload).1.upload = world.upload) ∨
      (transferHandlePutChunk env world reqId payload).1.upload.active = false ∨
      (transferHandlePutChunk env world reqId payload).1.upload.lastProgressMs = env.now := by
  have ending := putChunk_ending env world reqId payload
  generalize transferHandlePutChunk env world reqId payload = result at ending ⊢
  cases ending with
  | refused => exact .inl ⟨rfl, rfl⟩
  | exceeding | unwritten => exact .inr (.inl rfl)
  | stored => exact .inr (.inr rfl)

private theorem putEnd_times (reqId : UInt32) : (transferHandlePutEnd env world reqId).1.upload = world.upload ∨
    (transferHandlePutEnd env world reqId).1.upload.active = false := by
  have ending := putEnd_ending env world reqId
  generalize transferHandlePutEnd env world reqId = result at ending ⊢
  cases ending with
  | refused => exact .inl rfl
  | incomplete | unclosed | unmoved | overflowed | finished => exact .inr rfl

variable {world}

theorem callback_upload (event : Event) (idle : world.download = transferInit) :
    UploadTimes env world event (callback env world event) := by
  cases callback_seen env world event idle with
  | kept elsewhere leaves => exact .kept (@acceptedChunk_elsewhere world (event, env) elsewhere) leaves.upload
  | began message isFrame isBegin _ upload =>
    cases putBegin_effect env (world.countFrame message) message.reqId (cstr message.payload) with
    | refused _ same =>
      exact .kept (acceptedChunk_other isFrame (by rw [isBegin]; decide)) (upload.trans same)
    | failed _ _ _ _ emptied =>
      refine .ended ?_
      rw [upload, emptied]
      rfl
    | opened _ _ _ _ _ opened =>
      refine .progressed ?_
      rw [upload, opened]
      rfl
  | chunk message isFrame isChunk handled =>
    rw [handled]
    rcases putChunk_times env (world.countFrame message) message.reqId message.payload with ⟨failed, same⟩ | inactive | now
    · refine .kept ((acceptedChunk_chunk isFrame isChunk).trans (if_neg ?_)) same
      simp only [failed, Bool.false_eq_true, not_false_eq_true]
    · exact .ended inactive
    · exact .progressed now
  | ended message isFrame isEnd handled =>
    rw [handled]
    rcases putEnd_times env (world.countFrame message) message.reqId with same | inactive
    · exact .kept (acceptedChunk_other isFrame (by rw [isEnd]; decide)) same
    · exact .ended inactive
  | aborted _ _ emptied =>
    refine .ended ?_
    rw [emptied]
    rfl

end upload

/-- The times in the process slot and what they belong to. -/
structure SameTimes (before after : ProcState) : Prop where
  active : after.active = before.active
  spawned : after.spawned = before.spawned
  startedMs : after.startedMs = before.startedMs
  lastIoMs : after.lastIoMs = before.lastIoMs

inductive ChildTimes (env : Env) (before after : ProcState) : Prop where
  | kept (same : SameTimes before after)
  | ended (inactive : after.active = false)
  | started (startedMs : after.startedMs = env.now) (lastIoMs : after.lastIoMs = env.now)

section child
variable (env : Env) (world : World)

theorem ChildTimes.of_eq {before after : ProcState} (same : after = before) : ChildTimes env before after := by
  subst same
  exact .kept ⟨rfl, rfl, rfl, rfl⟩

private theorem spawn_times (reqId : UInt32) (path : Bytes) (args : List Bytes) (timeoutMs idleTimeoutMs : Nat)
    (sendAck : Bool) :
    ChildTimes env world.proc (procSpawnCommon env world reqId path args timeoutMs idleTimeoutMs sendAck).1.proc := by
  have ending := spawn_ending env world reqId path args timeoutMs idleTimeoutMs sendAck
  generalize procSpawnCommon env world reqId path args timeoutMs idleTimeoutMs sendAck = after at ending
  cases ending with
  | busy => exact .kept ⟨rfl, rfl, rfl, rfl⟩
  | unnamed => exact .ended rfl
  | failed _ _ _ _ _ _ inactive => exact .ended inactive
  | started | overflowed | acknowledged => exact .started rfl rfl

private theorem finalize_times {before : ProcState} (proc : ProcState) (same : SameTimes before proc) :
    ChildTimes env before (procMaybeFinalize proc) := by
  unfold procMaybeFinalize
  split
  · exact .ended rfl
  · exact .kept same

private theorem checkTimeouts_times : ChildTimes env world.proc (procCheckTimeouts env world).proc := by
  have ending := checkTimeouts_ending env world
  generalize procCheckTimeouts env world = next at ending ⊢
  cases ending <;> exact .kept ⟨rfl, rfl, rfl, rfl⟩

variable {world}

private theorem text_times {after : World} {type : Option FrameType} {reqId : UInt32} {payload : Bytes}
    (idle : world.download = transferInit) (effect : TextEffect env world type reqId payload after) :
    ChildTimes env world.proc after.proc := by
  cases effect with
  | talked talks => exact .of_eq env (by rw [talks.same])
  | operated _ _ effect talks =>
    rw [talks.same]
    cases effect with
    | nothing | opened => exact .kept ⟨rfl, rfl, rfl, rfl⟩
    | closed relayId =>
      have ending := portClose_ending world relayId
      generalize portfwdClose world relayId = result at ending ⊢
      cases ending <;> exact .kept ⟨rfl, rfl, rfl, rfl⟩
    | spawned => exact spawn_times ..
  | began => exact .of_eq env (putBegin_sameRest ..).proc
  | downloaded => exact .of_eq env (getBegin_effect env world reqId _ idle).2.proc
  | spawned => exact spawn_times ..
  | killed _ _ kill talks =>
    rw [talks.same, kill]
    exact .kept ⟨rfl, rfl, rfl, rfl⟩

private theorem control_times (message : Message) (idle : world.download = transferInit) :
    ChildTimes env world.proc (protocolHandleControl env world message).1.proc := by
  have effect := control_effect env world message
  generalize protocolHandleControl env world message = result at effect
  cases effect with
  | chunk => exact .of_eq env (putChunk_sameRest ..).proc
  | ended => exact .of_eq env (putEnd_sameRest ..).proc
  | text _ effect => exact text_times env idle effect

private theorem checked_proc (idle : world.download = transferInit) :
    (transferCheckTimeoutDownload env (transferCheckTimeoutUpload env (heartbeatPing env world))).proc = world.proc := by
  have checked := (heartbeatPing_sameRest env world).trans (checkUpload_sameRest env (heartbeatPing env world))
  rw [checkDownload_idle env (by rw [checkUpload_download, (heartbeatPing_same env world).download, idle]), checked.proc]

private theorem tick_times (idle : world.download = transferInit) :
    ChildTimes env world.proc (heartbeatCb env world).proc := by
  cases tick_step env idle with
  | closed _ same => exact .of_eq env (by rw [same])
  | idle _ _ shut => exact .of_eq env (by rw [shut]; rfl)
  | checked _ _ middle _ rest timed =>
    rw [timed, ← rest.proc]
    exact checkTimeouts_times env middle

private theorem close_times (name : SessionHandle) : ChildTimes env world.proc (closeCb env world name).proc := by
  have ending := closeCb_ending env world name
  generalize closeCb env world name = next at ending ⊢
  cases ending with
  | plain _ shut | dropped _ shut =>
    cases shut
    exact .kept ⟨rfl, rfl, rfl, rfl⟩
  | released _ shut =>
    cases shut
    simp only [releasedWorld, procAbort]
    split
    · exact .kept ⟨rfl, rfl, rfl, rfl⟩
    · exact .ended rfl

theorem callback_child {event : Event} (silent : ∀ pipe bytes, event ≠ .output pipe bytes)
    (idle : world.download = transferInit) : ChildTimes env world.proc (callback env world event).proc := by
  cases event with
  | read action =>
    cases action with
    | dispatch message => exact @control_times env (world.countFrame message) message idle
    | received | badHeader | overflow | hangup => exact .kept ⟨rfl, rfl, rfl, rfl⟩
  | tick => exact tick_times env idle
  | written => exact .kept ⟨rfl, rfl, rfl, rfl⟩
  | exited status => exact .ended (maybeFinalize_over rfl).1
  | output pipe bytes => exact absurd rfl (silent pipe bytes)
  | ended pipe => cases pipe <;> exact finalize_times env _ ⟨rfl, rfl, rfl, rfl⟩
  | closed name => exact close_times env name

end child

/-- Nothing but a receipt moves the time of the last one. -/
theorem callback_lastRx (env : Env) (world : World) {event : Event} (other : event ≠ .read .received) :
    (callback env world event).lastRxMs = world.lastRxMs := by
  by_cases tick : event = .tick
  · subst tick
    change (heartbeatCb env world).lastRxMs = world.lastRxMs
    have ending := tick_ending env world
    generalize heartbeatCb env world = next at ending ⊢
    cases ending with
    | closed | idle => rfl
    | checked =>
      rw [(checks_clock env (heartbeatPing env world)).lastRx]
      have pinged := heartbeatPing_ending env world
      generalize heartbeatPing env world = middle at pinged ⊢
      cases pinged <;> rfl
  · exact (callback_clock env world other tick).lastRx

section step
variable {log after : List (Mark × Nat)} {latest later : Nat} {env : Env} {world : World} {event : Event}

/-- A callback keeps the timestamps of its session in step with what it notes. -/
theorem Timely.step (timely : Timely log latest world.toSession) (past : ∀ mark time, (mark, time) ∈ log → time ≤ latest)
    (idle : world.download = transferInit) (within : Within env latest later)
    (entries : ∀ mark time, (mark, time) ∈ after → (mark, time) ∈ log ∨ noted env world event mark = true ∧ time = env.now) :
    Timely after later (callback env world event).toSession := by
  obtain ⟨⟨since, upTo⟩, sends, _⟩ := within
  have bound : latest ≤ later := since.trans upTo
  have before : ∀ mark time, (mark, time) ∈ after → time ≤ env.now := by
    intro mark time member
    rcases entries mark time member with old | ⟨_, rfl⟩
    · exact (past mark time old).trans since
    · exact Nat.le_refl _
  -- what this callback does not note was noted earlier
  have earlier : ∀ mark, noted env world event mark ≠ true → ∀ time, (mark, time) ∈ after → (mark, time) ∈ log := by
    intro mark unnoted time member
    exact (entries mark time member).resolve_right fun new => unnoted new.1
  have lastRx : (callback env world event).lastRxMs ≤ later ∧
      ∀ time, (.heard, time) ∈ after → time ≤ (callback env world event).lastRxMs := by
    by_cases receipt : event = .read .received
    · subst receipt
      exact ⟨upTo, before _⟩
    · rw [callback_lastRx env world receipt]
      refine ⟨timely.received.trans bound, fun time member => timely.heard time (earlier _ ?_ time member)⟩
      simpa [noted] using receipt
  refine ⟨lastRx.1, lastRx.2, ?_, ?_, ?_⟩
  · rcases callback_sent env world event with same | ⟨send, sent⟩
    · exact same.le.trans (timely.sent.trans bound)
    · exact sent.le.trans (sends send).2
  · intro active
    cases callback_upload env event idle with
    | kept unaccepted same =>
      have was : world.upload.active = true := same ▸ active
      obtain ⟨progress, marked⟩ := timely.upload was
      rw [same]
      refine ⟨progress.trans bound, fun time member => marked time (earlier _ ?_ time member)⟩
      simp [noted, unaccepted, was]
    | ended inactive => exact absurd active (by simp [inactive])
    | progressed now =>
      rw [now]
      exact ⟨upTo, before _⟩
  · intro active
    by_cases output : ∃ pipe bytes, event = .output pipe bytes
    · obtain ⟨pipe, bytes, rfl⟩ := output
      obtain ⟨started, _, spawns, _⟩ := timely.child active
      refine ⟨started.trans bound, upTo, fun time member => ⟨?_, before _ time member⟩, before _⟩
      exact (spawns time (earlier _ (by simp [noted, callback, procReadOutput]) time member)).1
    · have silent : ∀ pipe bytes, event ≠ .output pipe bytes := fun pipe bytes same => output ⟨pipe, bytes, same⟩
      have unspoken : noted env world event .spoke ≠ true := by
        cases event <;> simp_all [noted]
      cases callback_child env silent idle with
      | kept same =>
        obtain ⟨started, lastIo, spawns, outputs⟩ := timely.child (same.active ▸ active)
        have unspawned : noted env world event .spawned ≠ true := by simp [noted, same.spawned]
        rw [same.startedMs, same.lastIoMs]
        exact ⟨started.trans bound, lastIo.trans bound, fun time member => spawns time (earlier _ unspawned time member),
          fun time member => outputs time (earlier _ unspoken time member)⟩
      | ended inactive => exact absurd active (by simp [inactive])
      | started startedMs lastIoMs =>
        rw [startedMs, lastIoMs]
        exact ⟨upTo, upTo, fun time member => ⟨before _ time member, before _ time member⟩, before _⟩

end step

section run
variable {fs : FileSystem} {history : List ServerEvent} {state : ServerState} {latest id : Nat}

/-- What was noted for a session in a run of the agent. -/
def log (fs : FileSystem) (id : Nat) (history : List ServerEvent) : List (Mark × Nat) :=
  server.gather (observed id) (.start fs) history

private theorem reads_mono {event : ServerEvent} {earliest : Nat} (read : reads event earliest latest) :
    earliest ≤ latest := by
  cases event with
  | connect | session => exact read.now.1.trans read.now.2
  | relay => exact read

private theorem observed_time {event : ServerEvent} {next : ServerState} {earliest : Nat}
    (read : reads event earliest latest)
    {mark : Mark} {time : Nat} (member : (mark, time) ∈ observed id state event next) : time ≤ latest := by
  cases event with
  | connect env =>
    simp only [observed] at member
    split at member
    · simp only [List.mem_singleton, Prod.mk.injEq] at member
      exact member.2.le.trans read.now.2
    · cases member
  | session other event env =>
    simp only [observed] at member
    split at member
    · obtain ⟨session, _, member⟩ := List.mem_flatMap.mp member
      exact (mem_marks member).2.le.trans read.now.2
    · cases member
  | relay => cases member

private theorem log_past (executed : server.run (.start fs) history = some state) (forward : Forward 0 history latest)
    {mark : Mark}
    {time : Nat} (member : (mark, time) ∈ log fs id history) : time ≤ latest := by
  refine server.run_induction (fun history _ => ∀ latest, Forward 0 history latest →
    (mark, time) ∈ log fs id history → time ≤ latest) (fun _ _ none => by cases none) ?_ executed latest forward member
  intro events state event next executed past stepped latest forward member
  obtain ⟨middle, later, before, read, bound⟩ := forward_append.mp forward
  rw [log, server.gather_step _ executed stepped, List.mem_append] at member
  rcases member with old | new
  · exact (past middle before old).trans ((reads_mono read).trans bound)
  · exact (observed_time read new).trans bound

private theorem observed_elsewhere {event : ServerEvent} {next : ServerState} (found : id < state.nextSessionId)
    (other : ∀ event' env, event ≠ .session id event' env) : observed id state event next = [] := by
  cases event with
  | connect env => exact if_neg (Nat.ne_of_gt found)
  | session number event env =>
    refine if_neg fun same => ?_
    subst same
    exact other event env rfl
  | relay => rfl

theorem Timely.connected {env : Env} {number : Nat} {counts : Tally} {files : FileSystem} {engine : Engine} {start : World}
    {log : List (Mark × Nat)} {earliest : Nat} (fresh : Fresh env number counts files engine start)
    (past : ∀ mark time, (mark, time) ∈ log → time ≤ env.now) (within : Within env earliest latest) :
    Timely log latest start.toSession where
  received := fresh.lastRxMs.le.trans within.now.2
  heard time member := (past _ time member).trans fresh.lastRxMs.ge
  sent := fresh.lastTxMs.le.trans within.now.2
  upload active := by
    rw [fresh.upload] at active
    cases active
  child active := by
    rw [fresh.proc] at active
    cases active

section steps
variable {entries : List (Mark × Nat)} {earliest : Nat} {session : Session} {env : Env}

/-- A connection is noted for the session that begins, and for no other. -/
theorem Timely.afterConnect (past : ∀ mark time, (mark, time) ∈ entries → time ≤ earliest)
    (timely : state.session id = some session → Timely entries earliest session ∧ id < state.nextSessionId)
    (read : reads (.connect env) earliest latest) (found : (state.connect env).session id = some session) :
    Timely (entries ++ observed id state (.connect env) (state.connect env)) latest session := by
  have unchanged (was : state.session id = some session) :
      Timely (entries ++ observed id state (.connect env) (state.connect env)) latest session := by
    rw [observed_elsewhere (timely was).2 (fun _ _ => by simp), List.append_nil]
    exact (timely was).1.mono (reads_mono read)
  cases connect_connects state env with
  | refused same => exact unchanged (same ▸ found)
  | accepted start fresh same =>
    rw [same] at found
    by_cases new : id = state.nextSessionId
    · subst new
      rw [Function.update_self] at found
      cases found
      refine .connected fresh (fun mark time member => ?_) read
      rcases List.mem_append.mp member with old | now
      · exact (past mark time old).trans read.now.1
      · simp only [observed, if_true, List.mem_singleton, Prod.mk.injEq] at now
        exact now.2.le
    · rw [Function.update_of_ne new] at found
      exact unchanged found

/-- A callback is noted for the session that is served, and for no other. -/
theorem Timely.afterSession {number : Nat} {event : Event} {current : Session}
    (past : ∀ mark time, (mark, time) ∈ entries → time ≤ earliest) (kept : Kept state)
    (timely : ∀ session, state.session id = some session → Timely entries earliest session ∧ id < state.nextSessionId)
    (read : reads (.session number event env) earliest latest) (was : state.session number = some current) {left : World}
    (handled : agent.step (state.world number current) (event, env) = some left)
    (found : (state.after number left).session id = some session) :
    Timely (entries ++ observed id state (.session number event env) (state.after number left)) latest session := by
  rcases after_session found with ⟨rfl, _, rfl⟩ | ⟨different, earlier, held, rfl⟩
  · obtain ⟨_, rfl⟩ := agent_step handled
    have own := (timely current was).1
    have found : Timely entries earliest (state.world id current).toSession :=
      ⟨own.received, own.heard, own.sent, own.upload, own.child⟩
    refine found.step past (kept.sound id current was).1.download read fun mark time member => ?_
    rcases List.mem_append.mp member with old | new
    · exact .inl old
    · simp only [observed, if_true, was, Option.toList_some, List.flatMap_singleton] at new
      exact .inr (mem_marks new)
  · obtain ⟨own, inside⟩ := timely earlier held
    have own := own.mono (reads_mono read)
    rw [observed_elsewhere inside (by rintro _ _ ⟨⟩; exact different rfl), List.append_nil]
    exact ⟨own.received, own.heard, own.sent, own.upload, own.child⟩

end steps

private theorem timely_of_run (executed : server.run (.start fs) history = some state) (forward : Forward 0 history latest)
    {session : Session} (found : state.session id = some session) : Timely (log fs id history) latest session := by
  refine server.run_induction (fun history state => ∀ latest, Forward 0 history latest → ∀ session,
    state.session id = some session → Timely (log fs id history) latest session) (fun _ _ _ none => by cases none) ?_
    executed latest forward session found
  intro events state event next executed timely stepped latest forward session found
  obtain ⟨middle, later, before, read, bound⟩ := forward_append.mp forward
  have past : ∀ mark time, (mark, time) ∈ log fs id events → time ≤ middle := fun _ _ => log_past executed before
  have kept := (followed_of_run executed).kept
  have timely (earlier : Session) (was : state.session id = some earlier) :
      Timely (log fs id events) middle earlier ∧ id < state.nextSessionId := by
    refine ⟨timely middle before earlier was, ?_⟩
    by_contra outside
    rw [kept.numbered id (Nat.le_of_not_lt outside)] at was
    cases was
  refine Timely.mono ?_ bound
  rw [log, server.gather_step _ executed stepped]
  cases event with
  | connect env =>
    cases stepped
    exact .afterConnect past (timely session) read found
  | session number event env =>
    obtain ⟨current, was, stepped⟩ := Option.bind_eq_some_iff.mp stepped
    obtain ⟨left, handled, rfl⟩ := Option.map_eq_some_iff.mp stepped
    exact .afterSession past kept timely read was handled found
  | relay event env =>
    simp only [server] at stepped
    split at stepped
    · cases stepped
      obtain ⟨own, inside⟩ := timely session found
      rw [observed_elsewhere inside (fun _ _ => by simp), List.append_nil]
      exact own.mono read
    · cases stepped

/-- A difference to the time of a tick is what it would be among all numbers. -/
structure Exact (now since : Nat) : Prop where
  before : since ≤ now
  difference : elapsedMs now since = now - since

/-- The subtractions of `heartbeat_cb` and the checks it makes, as it comes to them. -/
structure Unwrapped (env : Env) (world : World) : Prop where
  received : Exact env.now world.lastRxMs
  sent : Exact env.now world.link.lastTxMs
  upload : (heartbeatPing env world).upload.active = true →
    Exact env.now (heartbeatPing env world).upload.lastProgressMs
  download : (transferCheckTimeoutUpload env (heartbeatPing env world)).download.active = true →
    Exact env.now (transferCheckTimeoutUpload env (heartbeatPing env world)).download.lastProgressMs
  child : ∀ proc, proc = (transferCheckTimeoutDownload env (transferCheckTimeoutUpload env (heartbeatPing env world))).proc →
    proc.active = true → Exact env.now proc.startedMs ∧ Exact env.now proc.lastIoMs

/-- A step of a session times nothing out early, given what was noted for the session. -/
structure OnTime (log : List (Mark × Nat)) (env : Env) (world : World) (event : Event) (next : World) : Prop where
  unwrapped : event = .tick → Unwrapped env world
  /-- it is closed for idleness, or for want of room for what a tick sends -/
  session : event = .tick → world.link.life.closed = false → next.link.life.closed = true →
    (world.idlesOut env.now ∧ ∀ time, (.heard, time) ∈ log → time + sessionIdleMs ≤ env.now) ∨
      (¬ world.idlesOut env.now ∧ Heartbeat.overflows env world = true)
  upload : event = .tick → world.upload.active = true → next.upload.active = false →
    ∀ time, (.progressed, time) ∈ log → time + transferIdleMs ≤ env.now
  child : ∃ kills, next.proc.kills = world.proc.kills ++ kills ∧ ∀ kill ∈ kills,
    (kill.reason = .timeout → 0 < world.proc.timeoutMs ∧
      ∀ time, (.spawned, time) ∈ log → time + world.proc.timeoutMs ≤ env.now) ∧
    (kill.reason = .idle → 0 < world.proc.idleTimeoutMs ∧
      ∀ time, (.spawned, time) ∈ log ∨ (.spoke, time) ∈ log → time + world.proc.idleTimeoutMs ≤ env.now)

private theorem exact_of_le {now since : Nat} (before : since ≤ now) (small : now < 2 ^ 64) : Exact now since :=
  ⟨before, Heartbeat.elapsedMs_of_le before (by omega)⟩

theorem Exact.reached {now since limit time : Nat} (exactly : Exact now since) (elapsed : limit ≤ elapsedMs now since)
    (noted : time ≤ since) : time + limit ≤ now := by
  rw [exactly.difference] at elapsed
  have before := exactly.before
  omega

section tick
variable {entries : List (Mark × Nat)} {env : Env} {world : World}

theorem Timely.unwrapped (timely : Timely entries env.now world.toSession) (idle : world.download = transferInit)
    (small : env.now < 2 ^ 64) : Unwrapped env world where
  received := exact_of_le timely.received small
  sent := exact_of_le timely.sent small
  upload := by
    rw [(heartbeatPing_same env world).upload]
    exact fun active => exact_of_le (timely.upload active).1 small
  download := by
    rw [checkUpload_download, (heartbeatPing_same env world).download, idle]
    intro active
    cases active
  child := by
    rintro _ rfl
    rw [checked_proc env idle]
    intro active
    obtain ⟨started, lastIo, _⟩ := timely.child active
    exact ⟨exact_of_le started small, exact_of_le lastIo small⟩

private theorem killTried_late {event : Event} {reason : KillReason}
    (tried : ExitReason.killTried env world event = some reason)
    (late : reason ≠ .requested) : timedOut env.now world.proc = some reason := by
  unfold ExitReason.killTried at tried
  split at tried
  · simp only [Option.ite_none_right_eq_some, Option.some.injEq] at tried
    exact absurd tried.2.symm late
  · exact (Option.ite_none_left_eq_some.mp tried).2
  · simp only [Option.ite_none_right_eq_some, Option.some.injEq] at tried
    exact absurd tried.2.symm late
  · cases tried

private theorem of_timedOut_timeout {now : Nat} {proc : ProcState} (tried : timedOut now proc = some .timeout) :
    proc.active = true ∧ 0 < proc.timeoutMs ∧ proc.timeoutMs ≤ elapsedMs now proc.startedMs := by
  unfold timedOut at tried
  grind

private theorem of_timedOut_idle {now : Nat} {proc : ProcState} (tried : timedOut now proc = some .idle) :
    proc.active = true ∧ 0 < proc.idleTimeoutMs ∧ proc.idleTimeoutMs ≤ elapsedMs now proc.lastIoMs := by
  unfold timedOut at tried
  grind

theorem Timely.timeout (timely : Timely entries env.now world.toSession) (small : env.now < 2 ^ 64)
    (tried : timedOut env.now world.proc = some .timeout) : 0 < world.proc.timeoutMs ∧
      ∀ time, (.spawned, time) ∈ entries → time + world.proc.timeoutMs ≤ env.now := by
  obtain ⟨active, limited, elapsed⟩ := of_timedOut_timeout tried
  obtain ⟨started, _, spawns, _⟩ := timely.child active
  exact ⟨limited, fun time member => (exact_of_le started small).reached elapsed (spawns time member).1⟩

theorem Timely.idle (timely : Timely entries env.now world.toSession) (small : env.now < 2 ^ 64)
    (tried : timedOut env.now world.proc = some .idle) : 0 < world.proc.idleTimeoutMs ∧
      ∀ time, (.spawned, time) ∈ entries ∨ (.spoke, time) ∈ entries → time + world.proc.idleTimeoutMs ≤ env.now := by
  obtain ⟨active, limited, elapsed⟩ := of_timedOut_idle tried
  obtain ⟨_, lastIo, spawns, outputs⟩ := timely.child active
  refine ⟨limited, fun time member => (exact_of_le lastIo small).reached elapsed ?_⟩
  rcases member with spawned | spoke
  · exact (spawns time spawned).2
  · exact outputs time spoke

private theorem stalled_of_ended (idle : world.download = transferInit) (active : world.upload.active = true)
    (ended : (heartbeatCb env world).upload.active = false) : transferIdleMs ≤ elapsedMs env.now world.upload.lastProgressMs := by
  by_contra early
  have going : transferStalled world.upload env.now = false := by simp [transferStalled, early]
  rw [(tick_leaves idle going).upload, active] at ended
  cases ended

end tick

/-- Under a clock that does not go back, no subtraction of a tick wraps: a session is
closed for idleness, an upload aborted as stalled and a child killed for a timeout
only when the time for it has passed since everything that gives it a new start. -/
theorem timeouts_not_early (executed : server.run (.start fs) history = some state) (forward : Forward 0 history latest)
    {session : Session} (found : state.session id = some session) {event : Event} {env : Env} {later : Nat}
    (within : Within env latest later) {next : World} (stepped : agent.step (state.world id session) (event, env) = some next) :
    OnTime (log fs id history) env (state.world id session) event next := by
  have idle : (state.world id session).download = transferInit :=
    ((followed_of_run executed).kept.sound id session found).1.download
  have own := (timely_of_run executed forward found).mono within.now.1
  have timely : Timely (log fs id history) env.now (state.world id session).toSession :=
    ⟨own.received, own.heard, own.sent, own.upload, own.child⟩
  have small : env.now < 2 ^ 64 := within.now.2.trans_lt within.small
  obtain ⟨_, rfl⟩ := agent_step stepped
  refine ⟨fun _ => timely.unwrapped idle small, ?_, ?_, _, ExitReason.callback_kills env event idle, fun kill member => ?_⟩
  · rintro rfl live closed
    by_cases late : (state.world id session).idlesOut env.now
    · exact .inl ⟨late, fun time member => (exact_of_le timely.received small).reached late (timely.heard time member)⟩
    · exact .inr ⟨late, ((Heartbeat.tick_closes_iff idle live).mp closed).resolve_left late⟩
  · rintro rfl active ended time member
    obtain ⟨progress, marked⟩ := timely.upload active
    exact (exact_of_le progress small).reached (stalled_of_ended idle active ended) (marked time member)
  · simp only [ExitReason.logged, List.mem_map, Option.mem_toList] at member
    obtain ⟨reason, tried, rfl⟩ := member
    constructor
    · rintro rfl
      exact timely.timeout small (killTried_late tried (by decide))
    · rintro rfl
      exact timely.idle small (killTried_late tried (by decide))

end run

/-- An upload that is begun at once and not gone on with, in a session that is heard from. -/
def stalling : List ServerEvent :=
  [.connect (Env.at {} 1), .session 1 Upload.beginHi (Env.at {} 1), .session 1 (.read .received) (Env.at {} 15000)]

def stalled : ServerState := (server.run (.start .empty) stalling).get (by decide +kernel)

def stalledSession : Session := (stalled.session 1).get (by decide +kernel)

def afterStall : World := (agent.step (stalled.world 1 stalledSession) (.tick, Env.at {} 20001)).get (by decide +kernel)

private theorem at_within (time : Nat) {earliest : Nat} (later : earliest ≤ time) (small : time < 2 ^ 64) :
    Within (Env.at {} time) earliest time := ⟨⟨later, Nat.le_refl _⟩, fun _ => ⟨later, Nat.le_refl _⟩, small⟩

private theorem stalling_forward : Forward 0 stalling 15000 :=
  ⟨1, at_within 1 (by decide) (by decide), 1, at_within 1 (by decide) (by decide), 15000,
    at_within 15000 (by decide) (by decide), Nat.le_refl _⟩

/-- The next tick aborts the upload, 20 seconds after it began. -/
theorem timeouts_not_early_stalled :
    log .empty 1 stalling = [(.heard, 1), (.progressed, 1), (.heard, 15000)] ∧
      (stalled.world 1 stalledSession).upload.active = true ∧ afterStall.upload.active = false ∧
      OnTime (log .empty 1 stalling) (Env.at {} 20001) (stalled.world 1 stalledSession) .tick afterStall :=
  ⟨by decide +kernel, by decide +kernel,
   by decide +kernel, timeouts_not_early (Option.some_get _).symm stalling_forward (Option.some_get _).symm
    (at_within 20001 (by decide) (by decide)) (Option.some_get _).symm⟩

end Luagent.Proofs.Punctual
