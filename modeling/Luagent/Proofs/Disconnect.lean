import Luagent.Proofs.Lifecycle
import Luagent.Proofs.Relays

/-! What is left of a session after it was closed. Everything is cleaned up by
the close callback that drops the last reference, so a child that is still
around postpones it; and no child is killed before. -/

namespace Luagent.Proofs.Disconnect
open Foundation FileSystem Lifecycle

/-- The timer's close callback was delivered, or the timer was never there. -/
def TimerGone (life : Life) : Prop := life.heartbeatTimer.phase = .uninit ∨ life.heartbeatTimer.phase = .closed

/-- The session was closed and the close callbacks of its two handles delivered. -/
def SessionGone (life : Life) : Prop := life.closed = true ∧ life.tcp.phase = .closed ∧ TimerGone life

inductive LifeStep (world : World) (event : Event) (life : Life) : Prop where
  | quiet (refs : Int) (quiet : Quiet { world.link.life with closeRefs := refs } life)
  | closed (name : SessionHandle) (refs : Int) (isClosed : event = .closed name)
      (finished : life = { (world.setHandle name (world.handle name).finish).link.life with closeRefs := refs })

private theorem closeCb_life (env : Env) (world : World) (name : SessionHandle) :
    ∃ refs, (closeCb env world name).link.life =
      { (world.setHandle name (world.handle name).finish).link.life with closeRefs := refs } := by
  have ending := closeCb_ending env world name
  generalize closeCb env world name = next at ending ⊢
  cases ending with
  | plain finished | dropped finished | released finished =>
    rw [← finished]
    exact ⟨_, rfl⟩

theorem life_step {world next : World} {input : Upload.Input} (idle : world.download = transferInit)
    (stepped : agent.step world input = some next) : LifeStep world input.1 next.link.life := by
  obtain ⟨_, rfl⟩ := agent_step stepped
  have slot := callback_slot input.2 world input.1 idle
  generalize callback input.2 world input.1 = after at slot
  cases slot with
  | talked quiet => exact .quiet _ quiet
  | spawned _ _ _ effect =>
    cases effect with
    | refused _ quiet => exact .quiet _ quiet
    | failed _ quiet => exact .quiet _ quiet
    | broken _ _ quiet => exact .quiet _ quiet
    | started _ quiet => exact .quiet (world.link.life.closeRefs + 1 + 1 + 1) quiet
  | exited _ _ quiet => exact .quiet _ quiet
  | ended _ _ life => exact .quiet _ (.inl life)
  | closed name isClosed handled =>
    subst handled
    obtain ⟨refs, life⟩ := closeCb_life input.2 world name
    exact .closed name refs isClosed life

theorem shape_step {world : World} {event : Event} {life : Life} (shape : LifeShape world.link.life)
    (allowed : enabled world event = true) (step : LifeStep world event life) : LifeShape life := by
  cases step with
  | quiet refs quiet => exact quiet_shape (shape.recount refs) quiet
  | closed name refs isClosed finished =>
    rw [isClosed] at allowed
    rw [finished]
    exact (shape.finish allowed).recount refs

private theorem closed_step {world : World} {event : Event} {life : Life} (closed : world.link.life.closed = true)
    (step : LifeStep world event life) : life.closed = true := by
  cases step with
  | quiet refs quiet =>
    rcases quiet with same | closes
    · rw [same]; exact closed
    · rw [closes]; exact life_close_closed _
  | closed name refs _ finished =>
    rw [finished]
    cases name <;> exact closed

private theorem gone_cases {world : World} {event : Event} {life : Life} (shape : LifeShape world.link.life)
    (step : LifeStep world event life) (gone : SessionGone life) :
    SessionGone world.link.life ∨ (event = .closed .tcp ∧ TimerGone world.link.life) ∨
      (event = .closed .heartbeatTimer ∧ world.link.life.tcp.phase = .closed) := by
  obtain ⟨closed, tcp, timer⟩ := gone
  cases step with
  | quiet refs quiet =>
    rcases quiet_cases (shape.recount refs) quiet with same | ⟨_, closes⟩
    · subst same
      exact .inl ⟨closed, tcp, timer⟩
    · rw [closes.tcp] at tcp
      cases tcp
  | closed name refs isClosed finished =>
    subst finished
    cases name with
    | tcp => exact .inr (.inl ⟨isClosed, timer⟩)
    | heartbeatTimer => exact .inr (.inr ⟨isClosed, tcp⟩)
    | process | stdoutPipe | stderrPipe => exact .inl ⟨closed, tcp, timer⟩

/-- The child in the slot, if it runs, was sent a kill. -/
def Killed (proc : ProcState) : Prop := proc.active = true → ∃ kill ∈ proc.kills, kill.child = proc.spawned

/-- The session's upload, relays and child are taken care of. -/
structure Torn (world : World) : Prop where
  upload : world.upload = transferInit
  relays : ∀ ref, Destroyed world.engine world.sessionId ref
  killed : Killed world.proc

private theorem killed_abort (env : Env) (proc : ProcState) : Killed (procAbort env proc) := by
  unfold procAbort
  split
  · exact fun _ => ⟨_, List.mem_append_right _ (List.mem_singleton_self _), rfl⟩
  · intro active
    cases active

private theorem torn_release {world : World} (registry : Registry world.engine) (env : Env) :
    Torn (releasedWorld env world) :=
  ⟨rfl, fun ref => registry.allDestroyed world.sessionId ref, killed_abort env _⟩

private theorem killed_finalize {proc : ProcState} (killed : Killed proc) : Killed (procMaybeFinalize proc) := by
  unfold procMaybeFinalize
  split
  · intro active
    cases active
  · exact killed

private theorem torn_last {world : World} (registry : Registry world.engine) (env : Env) {name : SessionHandle}
    (last : (world.handle name).phase = .closing true ∧ world.link.life.closeRefs ≤ 1 ∨ Torn world) :
    Torn (closeCb env world name) := by
  have kept {middle : World} (finished : middle = world.setHandle name (world.handle name).finish) :
      Registry middle.engine := finished ▸ (setHandle_keepsRelays world name _).registry registry
  have ending := closeCb_ending env world name
  generalize closeCb env world name = next at ending ⊢
  cases ending with
  | plain _ shut other =>
    obtain torn := last.resolve_left fun both => other both.1
    cases shut
    exact ⟨torn.upload, torn.relays, torn.killed⟩
  | dropped _ shut _ more =>
    obtain torn := last.resolve_left fun both => absurd more (Int.not_lt.mpr both.2)
    cases shut
    exact ⟨torn.upload, torn.relays, torn.killed⟩
  | released finished => exact torn_release (kept finished) env

structure Steady (world : World) : Prop where
  shape : LifeShape world.link.life
  silent : world.link.life.tcp.phase = .closed → world.reading = false
  registry : Registry world.engine

private theorem torn_gone {world next : World} {input : Upload.Input} (steady : Steady world)
    (gone : SessionGone world.link.life)
    (torn : Torn world) (stepped : agent.step world input = some next) : Torn next := by
  obtain ⟨allowed, rfl⟩ := agent_step stepped
  obtain ⟨_, tcp, timer⟩ := gone
  have silent := steady.silent tcp
  obtain ⟨event, env⟩ := input
  have kept : Torn (callback env world event) := by
    cases event with
    | read action => cases action <;> simp [enabled, tcp, silent] at allowed
    | tick => rcases timer with phase | phase <;> simp [enabled, phase] at allowed
    | written write => simp [enabled, tcp] at allowed
    | exited status =>
      refine ⟨torn.upload, torn.relays, killed_finalize ?_⟩
      intro active
      cases active
    | output pipe bytes => exact ⟨torn.upload, torn.relays, torn.killed⟩
    | ended pipe =>
      refine ⟨torn.upload, torn.relays, killed_finalize ?_⟩
      cases pipe <;> exact torn.killed
    | closed name => exact torn_last steady.registry env (.inr torn)
  exact ⟨kept.upload, kept.relays, kept.killed⟩

private theorem silent_step {world next : World} {input : Upload.Input} (steady : Steady world)
    (step : LifeStep world input.1 next.link.life) (stepped : agent.step world input = some next)
    (tcp : next.link.life.tcp.phase = .closed) : next.reading = false := by
  obtain ⟨allowed, rfl⟩ := agent_step stepped
  obtain ⟨event, env⟩ := input
  cases event with
  | read action =>
    -- a frame does not finish the connection's close, and none arrives after it
    have before : world.link.life.tcp.phase = .closed := by
      cases step with
      | quiet refs quiet =>
        rcases quiet_cases (steady.shape.recount refs) quiet with same | ⟨_, closes⟩
        · rw [same] at tcp
          exact tcp
        · rw [closes.tcp] at tcp
          cases tcp
      | closed _ _ isClosed => cases isClosed
    cases action <;> simp [enabled, before, steady.silent before] at allowed
  | tick | written | exited | output | ended | closed => rfl

private theorem steady_step {world next : World} {input : Upload.Input} (idle : world.download = transferInit)
    (steady : Steady world) (stepped : agent.step world input = some next) : Steady next := by
  have step := life_step idle stepped
  refine ⟨shape_step steady.shape (agent_step stepped).1 step, silent_step steady step stepped, ?_⟩
  obtain ⟨_, rfl⟩ := agent_step stepped
  exact (callback_keepsRelays input.2 world input.1 idle).registry steady.registry

/-- An end request that moves the uploaded file to its destination. -/
structure EndsUpload (world : World) (input : Upload.Input) : Prop where
  ends : ∃ message, input.1 = .read (.dispatch message) ∧ message.type = FrameType.putEnd.code ∧
    world.upload.reqId = message.reqId
  complete : world.upload.offset = world.upload.totalSize
  closed : 0 ≤ input.2.fsClose
  moved : 0 ≤ input.2.fsRename

/-- Once the session was closed, a child that exits has been killed, no upload is
finished and temporary files can be removed. The later of the two close
callbacks finds no reference but its own, or nothing to clean up. -/
structure Gentle (world : World) (input : Upload.Input) : Prop where
  killed : world.link.life.closed = true → ∀ status, input.1 = .exited status → Killed world.proc
  unfinished : world.link.life.closed = true → ¬ EndsUpload world input
  unlinks : world.link.life.closed = true → ∀ path, 0 ≤ input.2.fsUnlink (partPath path)
  lastTcp : input.1 = .closed .tcp → TimerGone world.link.life → world.link.life.closeRefs ≤ 1 ∨ Torn world
  lastTimer : input.1 = .closed .heartbeatTimer → world.link.life.tcp.phase = .closed →
    world.link.life.closeRefs ≤ 1 ∨ Torn world

private theorem torn_step {world next : World} {input : Upload.Input} (idle : world.download = transferInit)
    (steady : Steady world) (torn : SessionGone world.link.life → Torn world) (gentle : Gentle world input)
    (stepped : agent.step world input = some next) (gone : SessionGone next.link.life) : Torn next := by
  rcases gone_cases steady.shape (life_step idle stepped) gone with before | ⟨isClosed, timer⟩ | ⟨isClosed, tcp⟩
  · exact torn_gone steady before (torn before) stepped
  · have last := gentle.lastTcp isClosed timer
    obtain ⟨allowed, rfl⟩ := agent_step stepped
    rw [isClosed] at allowed ⊢
    have phase : world.link.life.tcp.phase = .closing true := by
      rcases (steady.shape.closing (.inl allowed)).2.1 with phase | phase
      · exact phase
      · simp [enabled, Session.handle, Handle.isClosing, phase] at allowed
    have kept := @torn_last world steady.registry input.2 .tcp (last.imp_left (And.intro phase))
    exact ⟨kept.upload, kept.relays, kept.killed⟩
  · have last := gentle.lastTimer isClosed tcp
    obtain ⟨allowed, rfl⟩ := agent_step stepped
    rw [isClosed] at allowed ⊢
    have phase : world.link.life.heartbeatTimer.phase = .closing true := by
      rcases (steady.shape.closing (.inr allowed)).2.2 with phase | phase | phase
      · simp [enabled, Session.handle, Handle.isClosing, phase] at allowed
      · exact phase
      · simp [enabled, Session.handle, Handle.isClosing, phase] at allowed
    have kept := @torn_last world steady.registry input.2 .heartbeatTimer (last.imp_left (And.intro phase))
    exact ⟨kept.upload, kept.relays, kept.killed⟩

private theorem finalize_kills (proc : ProcState) : (procMaybeFinalize proc).kills = proc.kills := by
  unfold procMaybeFinalize
  split <;> rfl

private theorem abort_kills (env : Env) (proc : ProcState) : proc.kills <+: (procAbort env proc).kills := by
  unfold procAbort
  split
  · exact List.prefix_append ..
  · exact List.prefix_refl _

private theorem closeCb_kills (env : Env) (world : World) (name : SessionHandle) :
    world.proc.kills <+: (closeCb env world name).proc.kills := by
  have ending := closeCb_ending env world name
  generalize closeCb env world name = next at ending ⊢
  cases ending with
  | plain _ shut | dropped _ shut =>
    cases shut
    exact List.prefix_refl _
  | @released middle _ shut =>
    have same : middle.proc.kills = world.proc.kills := by cases shut; rfl
    exact same ▸ abort_kills env middle.proc

private theorem kills_step {world next : World} {input : Upload.Input} (idle : world.download = transferInit)
    (stepped : agent.step world input = some next) : world.proc.kills <+: next.proc.kills := by
  obtain ⟨_, rfl⟩ := agent_step stepped
  have slot := callback_slot input.2 world input.1 idle
  generalize callback input.2 world input.1 = after at slot
  have of_eq : ∀ {kills : List Kill}, kills = world.proc.kills → world.proc.kills <+: kills := by
    rintro _ rfl
    exact List.prefix_refl _
  cases slot with
  | talked _ alike => exact alike.kills
  | spawned _ _ _ effect =>
    cases effect with
    | refused _ _ same => exact of_eq (congrArg ProcState.kills same)
    | failed _ _ emptied => exact of_eq emptied.kills
    | broken _ _ _ _ _ kills => exact of_eq kills
    | started _ _ started => exact of_eq started.kills
  | exited _ _ _ proc => exact of_eq (by rw [show after.proc = _ from proc, finalize_kills]; rfl)
  | ended pipe _ _ proc => exact of_eq (by rw [show after.proc = _ from proc, finalize_kills]; cases pipe <;> rfl)
  | closed name _ handled =>
    subst handled
    exact closeCb_kills input.2 world name

def Attended (child : Nat) (proc : ProcState) : Prop :=
  (proc.active = true ∧ proc.spawned = child) ∨ ∃ kill ∈ proc.kills, kill.child = child

private theorem attended_finalize {child : Nat} {proc : ProcState} (active : proc.active = true)
    (same : proc.spawned = child) :
    Attended child (procMaybeFinalize proc) := by
  simp only [procMaybeFinalize, active, Bool.not_true, Bool.false_and, Bool.false_eq_true, if_false]
  exact .inl ⟨active, same⟩

private theorem attended_closed {child : Nat} {world : World} (active : world.proc.active = true)
    (same : world.proc.spawned = child) (env : Env) (name : SessionHandle) :
    Attended child (closeCb env world name).proc := by
  have ending := closeCb_ending env world name
  generalize closeCb env world name = next at ending ⊢
  cases ending with
  | plain _ shut | dropped _ shut =>
    cases shut
    exact .inl ⟨active, same⟩
  | released _ shut =>
    cases shut
    simp only [releasedWorld, procAbort, active, if_true]
    exact .inl ⟨rfl, same⟩

private theorem attended_step {child : Nat} {world next : World} {input : Upload.Input}
    (idle : world.download = transferInit)
    (closed : world.link.life.closed = true) (gentle : Gentle world input) (attended : Attended child world.proc)
    (stepped : agent.step world input = some next) : Attended child next.proc := by
  have sent : (∃ kill ∈ world.proc.kills, kill.child = child) → Attended child next.proc := by
    rintro ⟨kill, member, same⟩
    exact .inr ⟨kill, (kills_step idle stepped).subset member, same⟩
  rcases attended with ⟨active, same⟩ | killed
  · obtain ⟨_, rfl⟩ := agent_step stepped
    have slot := callback_slot input.2 world input.1 idle
    generalize callback input.2 world input.1 = after at slot sent
    cases slot with
    | talked _ alike => exact .inl ⟨alike.active.trans active, alike.spawned.trans same⟩
    | spawned _ _ _ effect =>
      cases effect with
      | refused _ _ kept => exact .inl (by rw [show after.proc = _ from kept]; exact ⟨active, same⟩)
      | failed inactive | broken inactive | started inactive => rw [active] at inactive; cases inactive
    | exited status isExit =>
      -- only an exit takes the child away
      exact sent (same ▸ gentle.killed closed status isExit active)
    | ended pipe _ _ proc =>
      rw [show after.proc = _ from proc]
      cases pipe <;> exact attended_finalize active same
    | closed name _ handled =>
      subst handled
      exact attended_closed active same input.2 name
  · exact sent killed

/-- The upload that was open in an earlier state is still open, or its descriptor
is closed and its temporary name free. -/
structure UploadTraced (fd : Nat) (tmpPath : Path) (world : World) : Prop where
  descriptor : world.upload.file = some fd ∨ (fd < world.fs.opened ∧ world.fs.fds fd = none)
  temporary : world.upload.tmpPath = some tmpPath ∨ world.fs.names tmpPath = none

private theorem forgotten {before after : FileSystem} {fd : Nat} (forgets : Forgets before after)
    (closed : fd < before.opened ∧ before.fds fd = none) : fd < after.opened ∧ after.fds fd = none :=
  ⟨Nat.lt_of_lt_of_le closed.1 forgets.opened, forgets.fds fd closed.1 closed.2⟩

private theorem accounted_idle {world next : World} {input : Upload.Input} {fd : Nat} {tmpPath : Path}
    (upload : world.upload = transferInit) (accounted : UploadTraced fd tmpPath world)
    (unlinks : ∀ path, 0 ≤ input.2.fsUnlink (partPath path)) (step : IdleStep world input next) :
    UploadTraced fd tmpPath next := by
  have closed : fd < world.fs.opened ∧ world.fs.fds fd = none := accounted.descriptor.resolve_left (by simp [upload, transferInit])
  have free : world.fs.names tmpPath = none := accounted.temporary.resolve_left (by simp [upload, transferInit])
  cases step with
  | idle _ fs => exact ⟨.inr (forgotten fs.closed closed), .inr (by rw [fs.names]; exact free)⟩
  | failed message path _ _ _ _ fs removed =>
    refine ⟨.inr (forgotten fs.closed closed), .inr ?_⟩
    by_cases same : tmpPath = partPath path
    · rcases removed (unlinks _) with none | names
      · rw [same]; exact none
      · rw [names]; exact free
    · rw [fs.names tmpPath same]; exact free
  | opened message path size _ _ _ _ slot fs =>
    refine ⟨.inr (forgotten (fs ▸ .create ..) closed), ?_⟩
    by_cases same : tmpPath = partPath path
    · exact .inl (by rw [slot, same]; rfl)
    · exact .inr (by rw [fs, create_names, Function.update_of_ne same]; exact free)

private theorem accounted_removed {env : Env} {world next : World} {middle : FileSystem} {fd current file : Nat}
    {tmpPath path : Path} (uploading : Uploading world path current file) (accounted : UploadTraced fd tmpPath world)
    (unlinks : 0 ≤ env.fsUnlink (partPath path)) (fs : Spares (partPath path) middle next.fs)
    (forgets : Forgets world.fs middle) (free : world.fs.names tmpPath = none → middle.names tmpPath = none)
    (removed : Removed env current (partPath path) next.fs) : UploadTraced fd tmpPath next := by
  have forgets := forgets.trans fs.closed
  refine ⟨.inr ?_, .inr ?_⟩
  · rcases accounted.descriptor with same | closed
    · cases uploading.descriptor.symm.trans same
      exact ⟨Nat.lt_of_lt_of_le (world.fs.numbered uploading.described) forgets.opened, removed.closed⟩
    · exact forgotten forgets closed
  · by_cases same : tmpPath = partPath path
    · rw [same]; exact removed.unlinked unlinks
    · rw [fs.names tmpPath same]
      refine free (accounted.temporary.resolve_left fun found => same ?_)
      exact (Option.some.inj (uploading.temporary.symm.trans found)).symm

private theorem accounted_uploading {world next : World} {input : Upload.Input} {fd current file : Nat}
    {tmpPath path : Path}
    (uploading : Uploading world path current file) (accounted : UploadTraced fd tmpPath world)
    (unlinks : ∀ path, 0 ≤ input.2.fsUnlink (partPath path)) (unfinished : ¬ EndsUpload world input)
    (step : UploadStep world input path current next) : UploadTraced fd tmpPath next := by
  cases step with
  | kept _ upload fs =>
    refine ⟨accounted.descriptor.imp ?_ (forgotten fs.closed), accounted.temporary.imp ?_ ?_⟩
    · rw [upload]; exact id
    · rw [upload]; exact id
    · rw [fs.names]; exact id
  | stored message _ _ _ upload fs =>
    refine ⟨accounted.descriptor.imp ?_ (forgotten (fs ▸ .pwrite ..)), accounted.temporary.imp ?_ ?_⟩
    · rw [upload]; exact id
    · rw [upload]; exact id
    · rw [fs, pwrite_names]; exact id
  | dropped _ fs removed => exact accounted_removed uploading accounted (unlinks _) fs (.of_fds rfl rfl) id removed
  | unmoved _ _ _ _ _ _ _ _ fs removed =>
    exact accounted_removed uploading accounted (unlinks _) fs ((Forgets.close ..).trans (cleared_forgets ..))
      (fun free => cleared_free _ _ _ (by rw [close_names]; exact free)) removed
  | finished message isFrame isEnd same complete _ _ _ _ closed moved =>
    exact absurd ⟨⟨message, isFrame, isEnd, same⟩, complete, closed, moved⟩ unfinished

section runs
variable {env : Env} {sessionId : Nat} {counts : Tally} {fs : FileSystem} {engine : Engine} {start middle world : World}
  {history later : List Upload.Input}

private theorem connected_steady (connected : onNewConnection env sessionId counts fs engine = some start)
    (registry : Registry engine) : Steady start where
  shape := (connected_kept connected).shape
  silent _ := (connected_life connected).2.2.1
  registry := (connected_fresh connected).engine ▸ registry

private theorem start_not_gone (connected : onNewConnection env sessionId counts fs engine = some start) :
    ¬ SessionGone start.link.life := by
  rintro ⟨_, tcp, _⟩
  rcases (connected_life connected).1 with life | life | ⟨_, _, _, life⟩ | life <;> rw [life] at tcp <;> cases tcp

private theorem gone_torn (connected : onNewConnection env sessionId counts fs engine = some start)
    (registry : Registry engine)
    (gentle : agent.Conforms Gentle start history) (executed : agent.run start history = some world) :
    Steady world ∧ (SessionGone world.link.life → Torn world) :=
  agent.conforming_induction (fun _ world => Steady world ∧ (SessionGone world.link.life → Torn world))
    ⟨connected_steady connected registry, fun gone => absurd gone (start_not_gone connected)⟩
    (fun _ _ _ _ reached state allowed stepped =>
      have idle := (Upload.run_tracked connected reached).download
      ⟨steady_step idle state.1 stepped, torn_step idle state.1 state.2 allowed stepped⟩) gentle executed

private theorem accounted_step {next : World} {input : Upload.Input} {fd : Nat} {tmpPath : Path}
    (tracked : Upload.Tracked start history world) (closed : world.link.life.closed = true) (gentle : Gentle world input)
    (accounted : UploadTraced fd tmpPath world) (stepped : agent.step world input = some next) :
    UploadTraced fd tmpPath next := by
  rcases tracked.upload with idle | ⟨path, current, file, _, progress⟩
  · exact accounted_idle idle accounted (gentle.unlinks closed) (idle_step tracked.download idle stepped).2
  · exact accounted_uploading progress.uploading accounted (gentle.unlinks closed) (gentle.unfinished closed)
      (upload_step tracked.download progress.uploading stepped).2

private theorem closed_run {kept : World → Prop} (connected : onNewConnection env sessionId counts fs engine = some start)
    (reached : agent.run start history = some middle) (closed : middle.link.life.closed = true)
    (gentle : agent.Conforms Gentle middle later) (continued : agent.run middle later = some world)
    (step : ∀ {history state input next}, Upload.Tracked start history state → state.link.life.closed = true →
      Gentle state input → kept state → agent.step state input = some next → kept next)
    (initially : kept middle) : kept world := by
  refine (agent.conforming_induction (fun _ state => state.link.life.closed = true ∧ kept state)
    ⟨closed, initially⟩ ?_ gentle continued).2
  rintro sofar state input next arrived ⟨closed, earlier⟩ allowed stepped
  have executed : agent.run start (history ++ sofar) = some state := by
    rw [Machine.run_append, reached]
    exact arrived
  have tracked := Upload.run_tracked connected executed
  exact ⟨closed_step closed (life_step tracked.download stepped), step tracked closed allowed earlier stepped⟩

end runs

/-- Nothing is left of what the session had: no upload, neither the descriptor
nor the temporary file of one that was open after the session was closed, no
relay, and no child that ran after that and was not killed. -/
structure Cleaned (start : World) (history : List Upload.Input) (world : World) : Prop where
  upload : world.upload = transferInit
  files : ∀ sofar later middle fd tmpPath, history = sofar ++ later → agent.run start sofar = some middle →
    middle.link.life.closed = true → middle.upload.file = some fd → middle.upload.tmpPath = some tmpPath →
    world.fs.fds fd = none ∧ world.fs.names tmpPath = none
  relays : ∀ ref relay, world.engine.relay ref = some relay → relay.owner = world.sessionId →
    relay.closing = true ∧ ref ∉ world.engine.relays
  killed : ∀ sofar later middle, history = sofar ++ later → agent.run start sofar = some middle →
    middle.link.life.closed = true → middle.proc.active = true →
    ∃ kill ∈ world.proc.kills, kill.child = middle.proc.spawned

/-- Disconnect cleanup: when no reference of a child postpones it and a child
that exits in between has been killed, the session is cleaned up once both close
callbacks are delivered. -/
theorem disconnect_cleans_up {env : Env} {sessionId : Nat} {counts : Tally} {fs : FileSystem} {engine : Engine}
    {start world : World} {history : List Upload.Input} (reached : Reached engine)
    (connected : onNewConnection env sessionId counts fs engine = some start)
    (gentle : agent.Conforms Gentle start history) (executed : agent.run start history = some world)
    (gone : SessionGone world.link.life) : Cleaned start history world := by
  obtain ⟨steady, torn⟩ := gone_torn connected reached.registry gentle executed
  have torn := torn gone
  refine ⟨torn.upload, ?_, fun ref relay found owned => ?_, ?_⟩
  · rintro sofar later middle fd tmpPath rfl arrived closed file temporary
    obtain ⟨_, again, continued⟩ := agent.run_append_some executed
    cases arrived.symm.trans again
    obtain ⟨descriptor, free⟩ := closed_run connected arrived closed (agent.conforms_rest gentle arrived) continued
      accounted_step ⟨.inl file, .inl temporary⟩
    exact ⟨(descriptor.resolve_left (by simp [torn.upload, transferInit])).2,
      free.resolve_left (by simp [torn.upload, transferInit])⟩
  · have closing := torn.relays ref relay found owned
    refine ⟨closing, fun member => ?_⟩
    obtain ⟨other, same, usable⟩ := steady.registry.usable ref member
    cases found.symm.trans same
    rw [closing] at usable
    cases usable
  · rintro sofar later middle rfl arrived closed active
    obtain ⟨_, again, continued⟩ := agent.run_append_some executed
    cases arrived.symm.trans again
    have attended := closed_run connected arrived closed (agent.conforms_rest gentle arrived) continued
      (fun tracked => attended_step tracked.download) (.inl ⟨active, rfl⟩)
    rcases attended with ⟨active, same⟩ | killed
    · exact same ▸ torn.killed active
    · exact killed

/-- An upload is open and a child runs when the client goes away. -/
def busyHangup : List Upload.Input :=
  [(Upload.beginHi, {}), (spawnRequest, {}), (.read .hangup, {}), (.closed .heartbeatTimer, {}), (.closed .tcp, {})]

def leftBehind : World := (agent.run Upload.freshSession busyHangup).get (by decide +kernel)

theorem child_postpones_cleanup :
    agent.run Upload.freshSession busyHangup = some leftBehind ∧ leftBehind.link.life.closed = true ∧
      leftBehind.link.life.tcp.phase = .closed ∧ leftBehind.link.life.heartbeatTimer.phase = .closed ∧
      leftBehind.upload.active = true ∧ (leftBehind.fs.names (ascii "a.part")).isSome = true ∧
      leftBehind.proc.active = true ∧ leftBehind.proc.kills = [] :=
  ⟨(Option.some_get (by decide +kernel)).symm, by decide +kernel, by decide +kernel, by decide +kernel,
   by decide +kernel, by decide +kernel, by decide +kernel, by decide +kernel⟩

/-- Only an upload is open. -/
def uploadHangup : List Upload.Input :=
  [(Upload.beginHi, {}), (.read .hangup, {}), (.closed .heartbeatTimer, {}), (.closed .tcp, {})]

def cleanedUp : World := (agent.run Upload.freshSession uploadHangup).get (by decide +kernel)

private theorem gentle_of_live {world : World} {event : Event} {env : Env} (live : world.link.life.closed = false)
    (other : ∀ name, event ≠ .closed name) : Gentle world (event, env) where
  killed closed := by rw [live] at closed; cases closed
  unfinished closed := by rw [live] at closed; cases closed
  unlinks closed := by rw [live] at closed; cases closed
  lastTcp isClosed := absurd isClosed (other _)
  lastTimer isClosed := absurd isClosed (other _)

private theorem gentle_of_closed {world : World} {name : SessionHandle}
    (last : TimerGone world.link.life ∨ world.link.life.tcp.phase = .closed → world.link.life.closeRefs ≤ 1) :
    Gentle world (.closed name, {}) where
  killed _ _ isExit := by cases isExit
  unfinished _ completes := by obtain ⟨_, frame, _⟩ := completes.ends; cases frame
  unlinks _ _ := Int.le_refl 0
  lastTcp _ timer := .inl (last (.inl timer))
  lastTimer _ tcp := .inl (last (.inr tcp))

theorem disconnect_cleans_up_upload :
    SessionGone cleanedUp.link.life ∧ Cleaned Upload.freshSession uploadHangup cleanedUp := by
  have gone : SessionGone cleanedUp.link.life := ⟨by decide +kernel, by decide +kernel, .inr (by decide +kernel)⟩
  have connected : onNewConnection {} 1 {} .empty portfwdEngineInit = some Upload.freshSession :=
    (Option.some_get (by decide)).symm
  refine ⟨gone, disconnect_cleans_up .init connected ?_ (Option.some_get (by decide +kernel)).symm gone⟩
  refine agent.conforms_cons (gentle_of_live (by decide) (by simp [Upload.beginHi, Upload.request])) rfl ?_
  refine agent.conforms_cons (gentle_of_live (by decide +kernel) (by simp)) (Option.some_get (by decide +kernel)).symm ?_
  refine agent.conforms_cons (gentle_of_closed ?_) (Option.some_get (by decide +kernel)).symm ?_
  · rintro ((phase | phase) | phase) <;> exact absurd phase (by decide +kernel)
  exact ⟨gentle_of_closed fun _ => by decide +kernel, fun _ _ => trivial⟩

end Luagent.Proofs.Disconnect
