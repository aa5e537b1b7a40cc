import Luagent.Proofs.SessionSteps
import Luagent.Proofs.UploadSoundness

/-! The lifetime of a session. Its reference counter counts the handles that are
not closed yet, as long as a child is spawned only after the handles of the one
before it are closed, and no spawn fails half way. -/

namespace Luagent.Proofs.Lifecycle
open Foundation

def held (handle : Handle) : Int := if handle.phase = .open ∨ handle.phase = .closing true then 1 else 0

private theorem held_nonneg (handle : Handle) : 0 ≤ held handle := by
  unfold held
  split <;> decide

private theorem held_open {handle : Handle} (opened : handle.phase = .open) : held handle = 1 := by simp [held, opened]

private theorem held_closing {handle : Handle} (closing : handle.phase = .closing true) : held handle = 1 := by
  simp [held, closing]

private theorem held_close (handle : Handle) : held (handle.close true) = 1 := held_closing rfl

private theorem held_finish (handle : Handle) : held handle.finish = 0 := by simp [held]

private theorem idle_of_held {handle : Handle} (none : held handle = 0) (notified : handle.phase ≠ .closing false) :
    handle.idle = true := by
  unfold held at none
  split at none
  · cases none
  next unheld =>
    rw [Handle.idle_iff]
    cases phase : handle.phase with
    | uninit => exact .inl rfl
    | «open» => exact absurd (.inl phase) unheld
    | closing notify =>
      cases notify
      · exact absurd phase notified
      · exact absurd (.inr phase) unheld
    | closed => exact .inr rfl

/-- The connection and the timer are open, or both have been given up. -/
inductive LifeShape (life : Life) : Prop where
  | live (closed : life.closed = false) (tcp : life.tcp.phase = .open) (timer : life.heartbeatTimer.phase = .open)
      (started : life.timerStarted = true)
  | closed (closed : life.closed = true) (tcp : life.tcp.phase = .closing true ∨ life.tcp.phase = .closed)
      (timer : life.heartbeatTimer.phase = .uninit ∨ life.heartbeatTimer.phase = .closing true ∨
        life.heartbeatTimer.phase = .closed)

/-- The references of the session's own two handles. The connection takes its
reference when the session is closed. -/
def ownRefs (life : Life) : Int := (if life.closed then held life.tcp else 0) + held life.heartbeatTimer

def childRefs (proc : ProcState) : Int := held proc.process + held proc.stdoutPipe + held proc.stderrPipe

private theorem ownRefs_nonneg (life : Life) : 0 ≤ ownRefs life := by
  have tcp := held_nonneg life.tcp
  have timer := held_nonneg life.heartbeatTimer
  unfold ownRefs
  split <;> omega

private theorem childRefs_nonneg (proc : ProcState) : 0 ≤ childRefs proc := by
  have process := held_nonneg proc.process
  have stdout := held_nonneg proc.stdoutPipe
  have stderr := held_nonneg proc.stderrPipe
  unfold childRefs
  omega

/-- What closing a session in use leaves. -/
structure JustClosed (before after : Life) : Prop where
  closed : after.closed = true
  tcp : after.tcp = before.tcp.close true
  timer : after.heartbeatTimer = before.heartbeatTimer.close true
  refs : after.closeRefs = before.closeRefs + 1

private theorem close_live {life : Life} (closed : life.closed = false) (started : life.timerStarted = true) :
    JustClosed life life.close := by
  unfold Life.close
  rw [if_neg (by simp [closed])]
  simp only [started, if_true]
  exact ⟨rfl, rfl, rfl, rfl⟩

theorem quiet_cases {before after : Life} (shape : LifeShape before) (quiet : Quiet before after) :
    after = before ∨ (before.closed = false ∧ JustClosed before after) := by
  rcases quiet with same | closes
  · exact .inl same
  · subst closes
    cases shape with
    | live closed _ _ started => exact .inr ⟨closed, close_live closed started⟩
    | closed closed => exact .inl (life_close_of_closed closed)

theorem quiet_shape {before after : Life} (shape : LifeShape before) (quiet : Quiet before after) : LifeShape after := by
  rcases quiet_cases shape quiet with rfl | ⟨_, closes⟩
  · exact shape
  · exact .closed closes.closed (.inl (by rw [closes.tcp]; rfl)) (.inr (.inl (by rw [closes.timer]; rfl)))

private theorem ownRefs_live {life : Life} (closed : life.closed = false) (timer : life.heartbeatTimer.phase = .open) :
    ownRefs life = 1 := by simp [ownRefs, closed, held_open timer]

private theorem quiet_refs {before after : Life} (shape : LifeShape before) (quiet : Quiet before after) :
    after.closeRefs - ownRefs after = before.closeRefs - ownRefs before := by
  rcases quiet_cases shape quiet with rfl | ⟨live, closes⟩
  · rfl
  · cases shape with
    | live closed _ timer _ =>
      have own := ownRefs_live closed timer
      have both : ownRefs after = 2 := by
        simp [ownRefs, closes.closed, closes.tcp, closes.timer, held_close]
      have refs := closes.refs
      omega
    | closed closed => rw [live] at closed; cases closed

structure Proper (handle : Handle) : Prop where
  sound : handle.Sound
  notified : handle.phase ≠ .closing false

theorem Proper.init {handle : Handle} (proper : Proper handle) (unheld : held handle = 0) : Proper handle.init :=
  ⟨Handle.init_sound proper.sound (idle_of_held unheld proper.notified), by simp⟩

theorem Proper.close {handle : Handle} (proper : Proper handle) (opened : handle.phase = .open) :
    Proper (handle.close true) := ⟨Handle.close_sound proper.sound opened true, by simp⟩

theorem Proper.finish {handle : Handle} (proper : Proper handle) : Proper handle.finish :=
  ⟨Handle.finish_sound proper.sound, by simp⟩

/-- The process slot in an orderly run. The pipes are open together; a pipe whose
end was seen is still open. -/
structure Tidy (proc : ProcState) : Prop where
  process : Proper proc.process
  stdoutPipe : Proper proc.stdoutPipe
  stderrPipe : Proper proc.stderrPipe
  running : proc.active = true → proc.process.phase = .open
  exited : proc.active = false → proc.process.phase ≠ .open
  stdoutEnd : proc.stdoutClosed = true → proc.stdoutPipe.phase = .open
  stderrEnd : proc.stderrClosed = true → proc.stderrPipe.phase = .open

theorem Tidy.alike {before after : ProcState} (tidy : Tidy before) (alike : Alike before after) : Tidy after := by
  obtain ⟨process, stdoutPipe, stderrPipe, running, exited, stdoutEnd, stderrEnd⟩ := tidy
  constructor
  · rw [alike.process]; exact process
  · rw [alike.stdoutPipe]; exact stdoutPipe
  · rw [alike.stderrPipe]; exact stderrPipe
  · rw [alike.active, alike.process]; exact running
  · rw [alike.active, alike.process]; exact exited
  · rw [alike.stdoutClosed, alike.stdoutPipe]; exact stdoutEnd
  · rw [alike.stderrClosed, alike.stderrPipe]; exact stderrEnd

private theorem Alike.childRefs {before after : ProcState} (alike : Alike before after) :
    childRefs after = childRefs before := by
  rw [Lifecycle.childRefs, alike.process, alike.stdoutPipe, alike.stderrPipe]
  rfl

theorem Tidy.emptied {before after : ProcState} (tidy : Tidy before) (inactive : before.active = false)
    (emptied : Emptied before after) : Tidy after := by
  constructor
  · rw [emptied.process]; exact tidy.process
  · rw [emptied.stdoutPipe]; exact tidy.stdoutPipe
  · rw [emptied.stderrPipe]; exact tidy.stderrPipe
  · rw [emptied.active]; intro active; cases active
  · rw [emptied.process]; exact fun _ => tidy.exited inactive
  · rw [emptied.stdoutClosed]; intro ended; cases ended
  · rw [emptied.stderrClosed]; intro ended; cases ended

private theorem Emptied.childRefs {before after : ProcState} (emptied : Emptied before after) :
    childRefs after = childRefs before := by
  rw [Lifecycle.childRefs, emptied.process, emptied.stdoutPipe, emptied.stderrPipe]
  rfl

/-- A slot without references can take a new child. -/
theorem Tidy.started {before after : ProcState} (tidy : Tidy before) (free : childRefs before = 0)
    (started : Started before after) : Tidy after ∧ childRefs after = 3 := by
  have process := held_nonneg before.process
  have stdout := held_nonneg before.stdoutPipe
  have stderr := held_nonneg before.stderrPipe
  unfold childRefs at free
  refine ⟨?_, ?_⟩
  · constructor
    · rw [started.process]; exact tidy.process.init (by omega)
    · rw [started.stdoutPipe]; exact tidy.stdoutPipe.init (by omega)
    · rw [started.stderrPipe]; exact tidy.stderrPipe.init (by omega)
    · rw [started.process]; exact fun _ => rfl
    · rw [started.active]; intro inactive; cases inactive
    · rw [started.stdoutClosed]; intro ended; cases ended
    · rw [started.stderrClosed]; intro ended; cases ended
  · rw [childRefs, started.process, started.stdoutPipe, started.stderrPipe]
    simp [held]

/-- Finalising closes pipes that are open, with a callback. -/
theorem Tidy.finalized {proc : ProcState} (tidy : Tidy proc) :
    Tidy (procMaybeFinalize proc) ∧ childRefs (procMaybeFinalize proc) = childRefs proc := by
  unfold procMaybeFinalize
  split
  next ready =>
    simp only [Bool.and_eq_true, Bool.not_eq_true'] at ready
    obtain ⟨⟨inactive, stdoutClosed⟩, stderrClosed⟩ := ready
    have stdout := tidy.stdoutEnd stdoutClosed
    have stderr := tidy.stderrEnd stderrClosed
    refine ⟨⟨tidy.process, tidy.stdoutPipe.close stdout, tidy.stderrPipe.close stderr, ?_, fun _ => tidy.exited inactive,
      ?_, ?_⟩, ?_⟩
    · intro active; cases active
    · intro ended; cases ended
    · intro ended; cases ended
    · simp only [childRefs, procReset, held_close, held_open stdout, held_open stderr]
  next => exact ⟨tidy, rfl⟩

theorem Tidy.afterExit {proc : ProcState} (tidy : Tidy proc) (active : proc.active = true) :
    Tidy (procMaybeFinalize (exitedProc proc)) ∧ childRefs (procMaybeFinalize (exitedProc proc)) = childRefs proc := by
  have opened := tidy.running active
  have exited : Tidy (exitedProc proc) := by
    refine ⟨tidy.process.close opened, tidy.stdoutPipe, tidy.stderrPipe, ?_, ?_, tidy.stdoutEnd, tidy.stderrEnd⟩
    · intro active; cases active
    · intro _ opened; cases opened
  refine ⟨exited.finalized.1, exited.finalized.2.trans ?_⟩
  simp only [childRefs, exitedProc, held_close, held_open opened]

theorem Tidy.afterEnd {proc : ProcState} (tidy : Tidy proc) {pipe : Pipe} (reads : proc.reads pipe = true) :
    Tidy (procMaybeFinalize (endedPipe proc pipe)) ∧
      childRefs (procMaybeFinalize (endedPipe proc pipe)) = childRefs proc := by
  have ended : Tidy (endedPipe proc pipe) := by
    cases pipe with
    | stdout =>
      simp only [ProcState.reads, Bool.and_eq_true, beq_iff_eq] at reads
      exact ⟨tidy.process, tidy.stdoutPipe, tidy.stderrPipe, tidy.running, tidy.exited, fun _ => reads.2, tidy.stderrEnd⟩
    | stderr =>
      simp only [ProcState.reads, Bool.and_eq_true, beq_iff_eq] at reads
      exact ⟨tidy.process, tidy.stdoutPipe, tidy.stderrPipe, tidy.running, tidy.exited, tidy.stdoutEnd, fun _ => reads.2⟩
  refine ⟨ended.finalized.1, ended.finalized.2.trans ?_⟩
  cases pipe <;> rfl

/-- A spawn request finds no references of an earlier child, only those of the
session's own handles, and the spawn does not fail half way. -/
structure Orderly (world : World) (input : Upload.Input) : Prop where
  settled : ∀ message, input.1 = .read (.dispatch message) → asksSpawn message = true → world.proc.active = false →
    world.link.life.closeRefs = if world.link.life.closed then 2 else 1
  works : ∀ message, input.1 = .read (.dispatch message) → asksSpawn message = true → world.proc.active = false →
    SpawnWorks input.2

def Waiting (life : Life) : Prop := life.tcp.phase = .closing true ∧ life.heartbeatTimer.phase = .closing true

/-- The state of a session in an orderly run. -/
structure OrderlyWorld (world : World) : Prop where
  shape : LifeShape world.link.life
  slot : Tidy world.proc
  refs : world.link.life.closeRefs = ownRefs world.link.life + childRefs world.proc
  reading : world.reading = true → world.link.life.closed = true → Waiting world.link.life
  released : world.released = 0 ∨ (world.released = 1 ∧ world.link.life.closeRefs = 0)

theorem OrderlyWorld.notified {world : World} (kept : OrderlyWorld world) (name : SessionHandle) :
    (world.handle name).phase ≠ .closing false := by
  cases name with
  | tcp => rcases kept.shape with ⟨_, phase⟩ | ⟨_, phase | phase⟩ <;> simp [Session.handle, phase]
  | heartbeatTimer =>
    rcases kept.shape with ⟨_, _, phase⟩ | ⟨_, _, phase | phase | phase⟩ <;> simp [Session.handle, phase]
  | process => exact kept.slot.process.notified
  | stdoutPipe => exact kept.slot.stdoutPipe.notified
  | stderrPipe => exact kept.slot.stderrPipe.notified

/-- Without references the session is closed and the loop knows none of its handles. -/
theorem OrderlyWorld.unreferenced {world : World} (kept : OrderlyWorld world) (none : world.link.life.closeRefs = 0) :
    world.link.life.closed = true ∧ ∀ name, (world.handle name).idle = true := by
  have own := ownRefs_nonneg world.link.life
  have child := childRefs_nonneg world.proc
  have refs := kept.refs
  have process := held_nonneg world.proc.process
  have stdout := held_nonneg world.proc.stdoutPipe
  have stderr := held_nonneg world.proc.stderrPipe
  have free : childRefs world.proc = 0 := by omega
  unfold childRefs at free
  cases kept.shape with
  | live closed _ timer _ =>
    have := ownRefs_live closed timer
    omega
  | closed closed =>
    have tcpHeld := held_nonneg world.link.life.tcp
    have timerHeld := held_nonneg world.link.life.heartbeatTimer
    have unheld : ownRefs world.link.life = 0 := by omega
    simp only [ownRefs, closed, if_true] at unheld
    refine ⟨closed, fun name => idle_of_held ?_ (kept.notified name)⟩
    cases name <;> simp only [Session.handle] <;> omega

/-- Once the session is released nothing happens to it any more. -/
theorem OrderlyWorld.final {world : World} (kept : OrderlyWorld world) (none : world.link.life.closeRefs = 0)
    (event : Event) :
    enabled world event = false := by
  obtain ⟨closed, idle⟩ := kept.unreferenced none
  have away : ∀ name, (world.handle name).phase ≠ .open ∧ (world.handle name).isClosing = false := by
    intro name
    rcases (Handle.idle_iff _).mp (idle name) with phase | phase <;> simp [Handle.isClosing, phase]
  have silent : world.reading = false := by
    by_contra reading
    have waiting := kept.reading (by simpa using reading) closed
    have phase := (Handle.idle_iff _).mp (idle .tcp)
    simp [Session.handle, waiting.1] at phase
  have tcp : world.link.life.tcp.phase = .closed := by
    rcases kept.shape with ⟨live⟩ | ⟨_, phase | phase, _⟩
    · rw [live] at closed
      cases closed
    · have := (away .tcp).2
      simp [Session.handle, Handle.isClosing, phase] at this
    · exact phase
  have process := (away .process).1
  have stdout := (away .stdoutPipe).1
  have stderr := (away .stderrPipe).1
  have timer := (away .heartbeatTimer).1
  simp only [Session.handle] at process stdout stderr timer
  cases event with
  | read action => cases action <;> simp [enabled, tcp, silent]
  | tick => simp [enabled, timer]
  | written write => simp [enabled, tcp]
  | exited status => simp [enabled, process]
  | output pipe bytes => cases pipe <;> simp [enabled, ProcState.reads, stdout, stderr]
  | ended pipe => cases pipe <;> simp [enabled, ProcState.reads, stdout, stderr]
  | closed name => exact (away name).2

/-- Frames of a closed session are handled only before any close callback. -/
theorem OrderlyWorld.waiting {world : World} (kept : OrderlyWorld world) {action : Action}
    (allowed : enabled world (.read action) = true)
    (closed : world.link.life.closed = true) : Waiting world.link.life := by
  have away : world.link.life.tcp.phase ≠ .open := by
    rcases kept.shape with ⟨live⟩ | ⟨_, phase | phase, _⟩
    · rw [live] at closed
      cases closed
    · rw [phase]; decide
    · rw [phase]; decide
  refine kept.reading ?_ closed
  cases action with
  | dispatch | badHeader => simpa [enabled, away] using allowed
  | received | overflow | hangup => simp [enabled, away] at allowed

private theorem waiting_of_quiet {before after : Life} (shape : LifeShape before) (quiet : Quiet before after)
    (waiting : before.closed = true → Waiting before) (closed : after.closed = true) : Waiting after := by
  rcases quiet_cases shape quiet with rfl | ⟨_, closes⟩
  · exact waiting closed
  · exact ⟨by rw [closes.tcp]; rfl, by rw [closes.timer]; rfl⟩

theorem OrderlyWorld.ownRefs_reading {world : World} (kept : OrderlyWorld world) {action : Action}
    (allowed : enabled world (.read action) = true) :
    ownRefs world.link.life = if world.link.life.closed then 2 else 1 := by
  cases kept.shape with
  | live closed _ timer _ => simp [ownRefs_live closed timer, closed]
  | closed closed =>
    obtain ⟨tcp, timer⟩ := kept.waiting allowed closed
    simp [ownRefs, closed, held_closing tcp, held_closing timer]

theorem LifeShape.recount {life : Life} (shape : LifeShape life) (refs : Int) :
    LifeShape { life with closeRefs := refs } := by
  cases shape with
  | live closed tcp timer started => exact .live closed tcp timer started
  | closed closed tcp timer => exact .closed closed tcp timer

theorem LifeShape.closing {life : Life} (shape : LifeShape life)
    (closing : life.tcp.isClosing = true ∨ life.heartbeatTimer.isClosing = true) :
    life.closed = true ∧ (life.tcp.phase = .closing true ∨ life.tcp.phase = .closed) ∧
      (life.heartbeatTimer.phase = .uninit ∨ life.heartbeatTimer.phase = .closing true ∨
        life.heartbeatTimer.phase = .closed) := by
  cases shape with
  | live _ tcp timer => simp [Handle.isClosing, tcp, timer] at closing
  | closed closed tcp timer => exact ⟨closed, tcp, timer⟩

/-- A close request that was processed. -/
theorem LifeShape.finish {world : World} (shape : LifeShape world.link.life) {name : SessionHandle}
    (closing : (world.handle name).isClosing = true) :
    LifeShape (world.setHandle name (world.handle name).finish).link.life := by
  cases name with
  | tcp =>
    obtain ⟨closed, _, timer⟩ := shape.closing (.inl closing)
    exact .closed closed (.inr rfl) timer
  | heartbeatTimer =>
    obtain ⟨closed, tcp, _⟩ := shape.closing (.inr closing)
    exact .closed closed tcp (.inr (.inr rfl))
  | process | stdoutPipe | stderrPipe => exact shape

/-- What all callbacks but the close callbacks lead to. `life` is the lifetime
before the answers were sent. -/
private theorem kept_of_quiet {next : World} {event : Event} {life : Life} (shape : LifeShape life)
    (quiet : Quiet life next.link.life) (slot : Tidy next.proc)
    (refs : life.closeRefs = ownRefs life + childRefs next.proc)
    (waiting : event.reads = true → life.closed = true → Waiting life) (reading : next.reading = event.reads)
    (unreleased : next.released = 0) : OrderlyWorld next where
  shape := quiet_shape shape quiet
  slot := slot
  refs := by
    have := quiet_refs shape quiet
    omega
  reading reads := waiting_of_quiet shape quiet (waiting (reading ▸ reads))
  released := .inl unreleased

/-- A handle that finishes closing gives up one reference. -/
structure Finishes (world next : World) : Prop where
  shape : LifeShape next.link.life
  slot : Tidy next.proc
  refs : ownRefs next.link.life + childRefs next.proc = ownRefs world.link.life + childRefs world.proc - 1
  count : next.link.life.closeRefs = world.link.life.closeRefs
  released : next.released = world.released

private theorem kept_finishes {world : World} (kept : OrderlyWorld world) {name : SessionHandle}
    (closing : (world.handle name).phase = .closing true) :
    Finishes world (world.setHandle name (world.handle name).finish) := by
  have tidy := kept.slot
  have one := held_closing closing
  have none := held_finish (world.handle name)
  have isClosing : (world.handle name).isClosing = true := by simp [Handle.isClosing, closing]
  have shape := kept.shape.finish isClosing
  cases name with
  | tcp =>
    obtain ⟨closed, _⟩ := kept.shape.closing (.inl isClosing)
    refine ⟨shape, tidy, ?_, rfl, rfl⟩
    simp only [ownRefs, World.setHandle, World.setLife, closed, if_true]
    simp only [Session.handle] at one none ⊢
    omega
  | heartbeatTimer =>
    obtain ⟨closed, _⟩ := kept.shape.closing (.inr isClosing)
    refine ⟨shape, tidy, ?_, rfl, rfl⟩
    simp only [ownRefs, World.setHandle, World.setLife, closed, if_true]
    simp only [Session.handle] at one none ⊢
    omega
  | process =>
    refine ⟨shape, ⟨tidy.process.finish, tidy.stdoutPipe, tidy.stderrPipe, fun active => ?_, fun _ opened => ?_,
      tidy.stdoutEnd, tidy.stderrEnd⟩, ?_, rfl, rfl⟩
    · cases closing.symm.trans (tidy.running active)
    · cases opened
    · simp only [childRefs, World.setHandle]
      simp only [Session.handle] at one none ⊢
      omega
  | stdoutPipe =>
    refine ⟨shape, ⟨tidy.process, tidy.stdoutPipe.finish, tidy.stderrPipe, tidy.running, tidy.exited,
      fun ended => ?_, tidy.stderrEnd⟩, ?_, rfl, rfl⟩
    · cases closing.symm.trans (tidy.stdoutEnd ended)
    · simp only [childRefs, World.setHandle]
      simp only [Session.handle] at one none ⊢
      omega
  | stderrPipe =>
    refine ⟨shape, ⟨tidy.process, tidy.stdoutPipe, tidy.stderrPipe.finish, tidy.running, tidy.exited,
      tidy.stdoutEnd, fun ended => ?_⟩, ?_, rfl, rfl⟩
    · cases closing.symm.trans (tidy.stderrEnd ended)
    · simp only [childRefs, World.setHandle]
      simp only [Session.handle] at one none ⊢
      omega

/-- The slot of a released session. -/
theorem Tidy.aborted {proc : ProcState} (tidy : Tidy proc) (free : childRefs proc = 0) (env : Env) :
    Tidy (procAbort env proc) ∧ childRefs (procAbort env proc) = 0 := by
  have process := held_nonneg proc.process
  have stdout := held_nonneg proc.stdoutPipe
  have stderr := held_nonneg proc.stderrPipe
  have inactive : proc.active = false := by
    by_contra active
    have := held_open (tidy.running (by simpa using active))
    unfold childRefs at free
    omega
  simp only [procAbort, inactive, Bool.false_eq_true, if_false]
  exact ⟨tidy.emptied inactive {}, free⟩

private theorem kept_closed {world : World} (kept : OrderlyWorld world) (env : Env) {name : SessionHandle}
    (closing : (world.handle name).isClosing = true) (unreleased : world.released = 0) :
    OrderlyWorld { closeCb env world name with reading := false } := by
  have phase : (world.handle name).phase = .closing true := by
    simp only [Handle.isClosing, Bool.or_eq_true, beq_iff_eq] at closing
    rcases closing with phase | phase
    · exact phase
    · exact absurd phase (kept.notified name)
  obtain ⟨shape, slot, refs, count, released⟩ := kept_finishes kept phase
  have before := kept.refs
  have ending := closeCb_ending env world name
  generalize closeCb env world name = next at ending ⊢
  cases ending with
  | plain _ _ other => exact absurd phase other
  | @dropped middle finished _ _ more =>
    rw [← finished] at shape slot refs count released
    have own := ownRefs_nonneg middle.link.life
    have child := childRefs_nonneg middle.proc
    refine ⟨shape.recount _, slot, ?_, fun reading => (by cases reading), .inl (released.trans unreleased)⟩
    change middle.link.life.closeRefs - 1 = ownRefs middle.link.life + childRefs middle.proc
    omega
  | @released middle finished _ _ last =>
    rw [← finished] at shape slot refs count released
    have own := ownRefs_nonneg middle.link.life
    have child := childRefs_nonneg middle.proc
    obtain ⟨aborted, free⟩ := slot.aborted (by omega) env
    refine ⟨shape.recount _, aborted, ?_, fun reading => (by cases reading), .inr ⟨?_, ?_⟩⟩
    · change middle.link.life.closeRefs - 1 = ownRefs middle.link.life + childRefs (procAbort env middle.proc)
      omega
    · change middle.released + 1 = 1
      omega
    · change middle.link.life.closeRefs - 1 = 0
      omega

private theorem kept_step {world next : World} {input : Upload.Input} (idle : world.download = transferInit)
    (kept : OrderlyWorld world)
    (orderly : Orderly world input) (stepped : agent.step world input = some next) : OrderlyWorld next := by
  obtain ⟨allowed, rfl⟩ := agent_step stepped
  have unreleased : world.released = 0 := by
    rcases kept.released with zero | ⟨_, none⟩
    · exact zero
    · rw [kept.final none] at allowed
      cases allowed
  have waiting : input.1.reads = true → world.link.life.closed = true → Waiting world.link.life := by
    intro reads
    obtain ⟨event, env⟩ := input
    cases event with
    | read action => exact kept.waiting allowed
    | tick | written | exited | output | ended | closed => cases reads
  have slot := callback_slot input.2 world input.1 idle
  generalize callback input.2 world input.1 = after at slot
  cases slot with
  | talked quiet alike released =>
    refine kept_of_quiet kept.shape quiet (kept.slot.alike alike) ?_ waiting rfl (released.trans unreleased)
    rw [show childRefs after.proc = _ from Alike.childRefs alike]
    exact kept.refs
  | spawned message isFrame asks effect released =>
    cases effect with
    | refused _ quiet same =>
      exact kept_of_quiet kept.shape quiet (by rw [show after.proc = _ from same]; exact kept.slot)
        (by rw [show after.proc = _ from same]; exact kept.refs) waiting rfl (released.trans unreleased)
    | failed inactive quiet emptied =>
      refine kept_of_quiet kept.shape quiet (kept.slot.emptied inactive emptied) ?_ waiting rfl (released.trans unreleased)
      rw [show childRefs after.proc = _ from Emptied.childRefs emptied]
      exact kept.refs
    | broken inactive fails => exact absurd (orderly.works message isFrame asks inactive) fails
    | started inactive quiet started =>
      have settled := orderly.settled message isFrame asks inactive
      rw [isFrame] at allowed
      have own := kept.ownRefs_reading allowed
      have refs := kept.refs
      obtain ⟨tidy, three⟩ := kept.slot.started (by omega) started
      refine kept_of_quiet (kept.shape.recount (world.link.life.closeRefs + 1 + 1 + 1)) quiet tidy ?_ waiting rfl
        (released.trans unreleased)
      change world.link.life.closeRefs + 1 + 1 + 1 = ownRefs world.link.life + childRefs after.proc
      omega
  | exited status isExit quiet proc released =>
    rw [isExit] at allowed
    simp only [enabled, Bool.and_eq_true] at allowed
    obtain ⟨tidy, same⟩ := kept.slot.afterExit allowed.1
    rw [← proc] at tidy same
    exact kept_of_quiet kept.shape quiet tidy (same ▸ kept.refs) waiting rfl (released.trans unreleased)
  | ended pipe isEnd life proc released =>
    rw [isEnd] at allowed
    obtain ⟨tidy, same⟩ := kept.slot.afterEnd allowed
    rw [← proc] at tidy same
    exact kept_of_quiet kept.shape (.inl life) tidy (same ▸ kept.refs) waiting rfl (released.trans unreleased)
  | closed name isClosed handled =>
    rw [isClosed] at allowed ⊢
    subst handled
    exact kept_closed kept input.2 allowed unreleased

def Once (life : Life) : Prop := life.tcp.closedTwice = false ∧ life.heartbeatTimer.closedTwice = false

private theorem closedOnce_close {handle : Handle} (opened : handle.phase = .open) (once : handle.closedTwice = false) :
    (handle.close true).closedTwice = false := by
  simp [Handle.close, Handle.isClosing, opened, once]

private theorem once_of_quiet {before after : Life} (shape : LifeShape before) (once : Once before)
    (quiet : Quiet before after) :
    Once after := by
  rcases quiet_cases shape quiet with rfl | ⟨live, closes⟩
  · exact once
  · cases shape with
    | live _ tcp timer =>
      refine ⟨?_, ?_⟩
      · rw [closes.tcp]; exact closedOnce_close tcp once.1
      · rw [closes.timer]; exact closedOnce_close timer once.2
    | closed closed => rw [live] at closed; cases closed

private theorem once_closed {world : World} (once : Once world.link.life) (env : Env) (name : SessionHandle) :
    Once (closeCb env world name).link.life := by
  have ending := closeCb_ending env world name
  generalize closeCb env world name = next at ending ⊢
  cases ending with
  | plain finished | dropped finished | released finished =>
    rw [finished]
    cases name <;> exact once

private theorem once_step {world next : World} {input : Upload.Input} (idle : world.download = transferInit)
    (kept : OrderlyWorld world)
    (once : Once world.link.life) (stepped : agent.step world input = some next) : Once next.link.life := by
  obtain ⟨_, rfl⟩ := agent_step stepped
  have slot := callback_slot input.2 world input.1 idle
  generalize callback input.2 world input.1 = after at slot
  cases slot with
  | talked quiet => exact once_of_quiet kept.shape once quiet
  | spawned _ _ _ effect =>
    cases effect with
    | refused _ quiet => exact once_of_quiet kept.shape once quiet
    | failed _ quiet => exact once_of_quiet kept.shape once quiet
    | broken _ _ quiet => exact once_of_quiet kept.shape once quiet
    | started _ quiet => exact once_of_quiet (kept.shape.recount (world.link.life.closeRefs + 1 + 1 + 1)) once quiet
  | exited _ _ quiet => exact once_of_quiet kept.shape once quiet
  | ended _ _ life => exact once_of_quiet kept.shape once (.inl life)
  | closed name _ handled =>
    subst handled
    exact once_closed once input.2 name

private theorem procInit_tidy : Tidy procInit :=
  ⟨⟨Handle.fresh_sound, by decide⟩, ⟨Handle.fresh_sound, by decide⟩, ⟨Handle.fresh_sound, by decide⟩, by decide, by decide,
    by decide, by decide⟩

section connections
variable {env : Env} {sessionId : Nat} {counts : Tally} {fs : FileSystem} {engine : Engine} {start world : World}
  {history : List Upload.Input}

/-- The lifetimes a session can start with. -/
inductive StartLife (env : Env) (life : Life) : Prop where
  | live (running : life = ⟨Handle.fresh.init, Handle.fresh.init, true, false, 1⟩)
  | timerless (closed : life = ⟨Handle.fresh.init.close true, .fresh, false, true, 1⟩)
  | failed (accepted : env.accept = 0) (inited : env.timerInit = 0) (failed : env.timerStart ≠ 0)
      (closed : life = ⟨Handle.fresh.init.close true, (Handle.fresh.init.close true).close true, false, true, 2⟩)
  | unread (closed : life = ⟨Handle.fresh.init.close true, Handle.fresh.init.close true, false, true, 2⟩)

theorem connected_life (connected : onNewConnection env sessionId counts fs engine = some start) :
    StartLife env start.link.life ∧ start.proc = procInit ∧ start.reading = false ∧ start.released = 0 := by
  unfold onNewConnection at connected
  split at connected
  · cases connected
  · simp only at connected
    split at connected
    · cases connected
      exact ⟨.timerless rfl, rfl, rfl, rfl⟩
    next accepted =>
      unfold sessionStartTimers at connected
      split at connected
      · cases connected
        exact ⟨.timerless rfl, rfl, rfl, rfl⟩
      next inited =>
        by_cases timer : env.timerStart = 0
        case neg =>
          simp only [timer, ne_eq, not_false_eq_true, if_true] at connected
          cases connected
          exact ⟨.failed (by simpa using accepted) (by simpa using inited) timer rfl, rfl, rfl, rfl⟩
        case pos =>
          simp only [timer, ne_eq, not_true_eq_false, if_false] at connected
          split at connected
          · cases connected
            exact ⟨.unread rfl, rfl, rfl, rfl⟩
          · cases connected
            exact ⟨.live rfl, rfl, rfl, rfl⟩

theorem StartLife.kept {life : Life} (starts : StartLife env life) :
    LifeShape life ∧ life.closeRefs = ownRefs life + childRefs procInit := by
  rcases starts with rfl | rfl | ⟨_, _, _, rfl⟩ | rfl
  · exact ⟨.live rfl rfl rfl rfl, by decide⟩
  · exact ⟨.closed rfl (.inl rfl) (.inl rfl), by decide⟩
  · exact ⟨.closed rfl (.inl rfl) (.inr (.inl rfl)), by decide⟩
  · exact ⟨.closed rfl (.inl rfl) (.inr (.inl rfl)), by decide⟩

theorem connected_kept (connected : onNewConnection env sessionId counts fs engine = some start) : OrderlyWorld start := by
  obtain ⟨starts, proc, reading, released⟩ := connected_life connected
  obtain ⟨shape, refs⟩ := starts.kept
  refine ⟨shape, proc ▸ procInit_tidy, proc ▸ refs, fun reads => ?_, .inl released⟩
  rw [reading] at reads
  cases reads

/-- The timer is started when it can be initialised. -/
def TimerStarts (env : Env) : Prop := env.accept = 0 → env.timerInit = 0 → env.timerStart = 0

private theorem connected_once (connected : onNewConnection env sessionId counts fs engine = some start)
    (starts : TimerStarts env) : Once start.link.life := by
  rcases (connected_life connected).1 with life | life | ⟨accepted, inited, failed, _⟩ | life
  · rw [life]; exact ⟨rfl, rfl⟩
  · rw [life]; exact ⟨rfl, rfl⟩
  · exact absurd (starts accepted inited) failed
  · rw [life]; exact ⟨rfl, rfl⟩

private theorem orderly_kept (connected : onNewConnection env sessionId counts fs engine = some start)
    (orderly : agent.Conforms Orderly start history) (executed : agent.run start history = some world) : OrderlyWorld world :=
  agent.conforming_induction (fun _ => OrderlyWorld) (connected_kept connected)
    (fun _ _ _ _ reached kept allowed stepped =>
      kept_step (Upload.run_tracked connected reached).download kept allowed stepped) orderly executed

private theorem orderly_once (connected : onNewConnection env sessionId counts fs engine = some start)
    (starts : TimerStarts env)
    (orderly : agent.Conforms Orderly start history) (executed : agent.run start history = some world) :
    OrderlyWorld world ∧ Once world.link.life :=
  agent.conforming_induction (fun _ world => OrderlyWorld world ∧ Once world.link.life)
    ⟨connected_kept connected, connected_once connected starts⟩
    (fun _ _ _ _ reached state allowed stepped =>
      have idle := (Upload.run_tracked connected reached).download
      ⟨kept_step idle state.1 allowed stepped, once_step idle state.1 state.2 stepped⟩) orderly executed

/-- No premature reuse: when every spawn request finds the references of earlier
children gone and does not fail half way, no handle of the process slot is ever
initialised while the loop still knows it. -/
theorem child_handles_not_reused (connected : onNewConnection env sessionId counts fs engine = some start)
    (orderly : agent.Conforms Orderly start history) (executed : agent.run start history = some world) :
    world.proc.process.reused = false ∧ world.proc.stdoutPipe.reused = false ∧ world.proc.stderrPipe.reused = false := by
  have slot := (orderly_kept connected orderly executed).slot
  exact ⟨slot.process.sound.once, slot.stdoutPipe.sound.once, slot.stderrPipe.sound.once⟩

/-- Release discipline: in such a run, when the timer starts, the session is
released at most once, only when all its handles are closed or were never
initialised, and no handle is closed twice. -/
theorem session_released_last (connected : onNewConnection env sessionId counts fs engine = some start)
    (starts : TimerStarts env) (orderly : agent.Conforms Orderly start history)
    (executed : agent.run start history = some world) :
    world.released ≤ 1 ∧ (0 < world.released → ∀ name, (world.handle name).idle = true) ∧
      ∀ name, (world.handle name).closedTwice = false := by
  obtain ⟨kept, once⟩ := orderly_once connected starts orderly executed
  refine ⟨?_, fun released => ?_, fun name => ?_⟩
  · rcases kept.released with zero | ⟨last, _⟩ <;> omega
  · rcases kept.released with zero | ⟨_, none⟩
    · omega
    · exact (kept.unreferenced none).2
  · cases name with
    | tcp => exact once.1
    | heartbeatTimer => exact once.2
    | process => exact kept.slot.process.sound.closedOnce
    | stdoutPipe => exact kept.slot.stdoutPipe.sound.closedOnce
    | stderrPipe => exact kept.slot.stderrPipe.sound.closedOnce

end connections

def spawnRequest : Event := Upload.spawnX

/-- The client spawns again as soon as it has seen the child's exit. -/
def respawn : List Upload.Input := [(spawnRequest, {}), (.exited 0, {}), (spawnRequest, {})]

def respawned : World := (agent.run Upload.freshSession respawn).get (by decide +kernel)

theorem respawn_reuses_handles :
    agent.run Upload.freshSession respawn = some respawned ∧ respawned.proc.process.reused = true ∧
      respawned.proc.stdoutPipe.reused = true ∧ respawned.proc.stderrPipe.reused = true :=
  ⟨(Option.some_get (by decide +kernel)).symm, by decide +kernel, by decide +kernel, by decide +kernel⟩

private theorem orderly_of_settled {world : World} {event : Event}
    (settled : world.link.life.closeRefs = if world.link.life.closed then 2 else 1) : Orderly world (event, {}) where
  settled _ _ _ _ := settled
  works _ _ _ _ := ⟨rfl, rfl, rfl, rfl⟩

/-- What follows in a child's life after its start. -/
def childEnds : List Upload.Input :=
  [(.exited 0, {}), (.ended .stdout, {}), (.ended .stderr, {}), (.closed .process, {}), (.closed .stdoutPipe, {}),
    (.closed .stderrPipe, {})]

/-- One child after the other. -/
def childLife : List Upload.Input :=
  let again : List Upload.Input := [(spawnRequest, {})]
  (spawnRequest, {}) :: (childEnds ++ again)

def spawnedTwice : World := (agent.run Upload.freshSession childLife).get (by decide +kernel)

private theorem orderly_of_callback {world : World} {event : Event} {env : Env}
    (callback : ∀ action, event ≠ .read action) :
    Orderly world (event, env) where
  settled _ frame := absurd frame (callback _)
  works _ frame := absurd frame (callback _)

private theorem conforms_callbacks {later : List Upload.Input} : ∀ {callbacks : List Upload.Input} {world : World},
    (∀ input ∈ callbacks, ∀ action, input.1 ≠ .read action) →
    (∀ next, agent.run world callbacks = some next → agent.Conforms Orderly next later) →
    agent.Conforms Orderly world (callbacks ++ later)
  | [], world, _, rest => rest world rfl
  | input :: callbacks, world, others, rest => by
    refine ⟨orderly_of_callback (others input List.mem_cons_self), fun next stepped => ?_⟩
    refine conforms_callbacks (fun other member => others other (List.mem_cons_of_mem _ member)) fun final executed => ?_
    exact rest final (by rw [Machine.run, stepped]; exact executed)

private theorem settled_childEnds {started gone : World}
    (spawned : agent.step Upload.freshSession (spawnRequest, {}) = some started)
    (ended : agent.run started childEnds = some gone) :
    gone.link.life.closeRefs = if gone.link.life.closed then 2 else 1 := by
  have executed : agent.run Upload.freshSession ((spawnRequest, {}) :: childEnds) = some gone := by
    rw [Machine.run, spawned]
    exact ended
  have settled : ((agent.run Upload.freshSession ((spawnRequest, {}) :: childEnds)).all fun gone =>
      gone.link.life.closeRefs = if gone.link.life.closed then 2 else 1) = true := by decide +kernel
  rw [executed] at settled
  simpa using settled

theorem child_handles_not_reused_twice :
    spawnedTwice.proc.spawned = 2 ∧ spawnedTwice.proc.process.reused = false ∧
      spawnedTwice.proc.stdoutPipe.reused = false ∧ spawnedTwice.proc.stderrPipe.reused = false := by
  have connected : onNewConnection {} 1 {} .empty portfwdEngineInit = some Upload.freshSession :=
    (Option.some_get (by decide)).symm
  have executed : agent.run Upload.freshSession childLife = some spawnedTwice := (Option.some_get (by decide +kernel)).symm
  refine ⟨by decide +kernel, child_handles_not_reused connected ?_ executed⟩
  refine ⟨orderly_of_settled (by decide), fun started spawned => ?_⟩
  apply @conforms_callbacks [(spawnRequest, {})] childEnds _ (by simp [childEnds])
  exact fun gone ended => ⟨orderly_of_settled (settled_childEnds spawned ended), fun _ _ => trivial⟩

/-- A spawn that fails leaves the process handle open and the pipes closing
without a callback; the session goes away all the same. -/
def failedSpawn : List Upload.Input :=
  [(spawnRequest, { spawn := -2 }), (.read .hangup, {}), (.closed .heartbeatTimer, {}), (.closed .tcp, {})]

def releasedEarly : World := (agent.run Upload.freshSession failedSpawn).get (by decide +kernel)

/-- A connection whose timer cannot be started. -/
def timerFailed : World := (onNewConnection { timerStart := -1 } 1 {} .empty portfwdEngineInit).get (by decide)

theorem release_leaves_handles :
    (agent.run Upload.freshSession failedSpawn = some releasedEarly ∧ releasedEarly.released = 1 ∧
      releasedEarly.proc.process.phase = .open ∧ releasedEarly.proc.stdoutPipe.phase = .closing false) ∧
    (onNewConnection { timerStart := -1 } 1 {} .empty portfwdEngineInit = some timerFailed ∧
      timerFailed.link.life.heartbeatTimer.closedTwice = true) :=
  ⟨⟨(Option.some_get (by decide +kernel)).symm, by decide +kernel, by decide +kernel, by decide +kernel⟩,
   (Option.some_get (by decide)).symm, by decide⟩

/-- A child comes and goes, and the client disconnects. -/
def childThenHangup : List Upload.Input :=
  let disconnect : List Upload.Input := [(.read .hangup, {}), (.closed .heartbeatTimer, {}), (.closed .tcp, {})]
  (spawnRequest, {}) :: (childEnds ++ disconnect)

def released : World := (agent.run Upload.freshSession childThenHangup).get (by decide +kernel)

theorem session_released_last_child :
    released.released = 1 ∧ (∀ name, (released.handle name).idle = true) ∧
      ∀ name, (released.handle name).closedTwice = false := by
  have connected : onNewConnection {} 1 {} .empty portfwdEngineInit = some Upload.freshSession :=
    (Option.some_get (by decide)).symm
  have executed : agent.run Upload.freshSession childThenHangup = some released := (Option.some_get (by decide +kernel)).symm
  have once : released.released = 1 := by decide +kernel
  have orderly : agent.Conforms Orderly Upload.freshSession childThenHangup := by
    refine ⟨orderly_of_settled (by decide), fun started spawned => ?_⟩
    refine conforms_callbacks (by simp [childEnds]) fun gone ended => ?_
    refine ⟨orderly_of_settled (settled_childEnds spawned ended), fun _ _ => ?_⟩
    exact @conforms_callbacks [] [(.closed .heartbeatTimer, {}), (.closed .tcp, {})] _ (by simp) fun _ _ => trivial
  obtain ⟨_, idle, twice⟩ := session_released_last connected (fun _ _ => rfl) orderly executed
  exact ⟨once, idle (by rw [once]; decide), twice⟩

end Luagent.Proofs.Lifecycle
