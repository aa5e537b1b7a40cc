/-! The life of an event-loop handle that is embedded in a program's own memory:
it is initialised, handed to the loop's close operation, and closed for good once
the loop has processed that request. Misuse is recorded, not prevented. -/

namespace Foundation

inductive Phase where
  | uninit
  | open
  /-- close was requested; `notify` says whether a callback was given -/
  | closing (notify : Bool)
  | closed
deriving DecidableEq, Repr

structure Handle where
  phase : Phase
  /-- initialised again while the loop still knew it -/
  reused : Bool
  /-- passed to close again before a new initialisation -/
  closedTwice : Bool
deriving DecidableEq, Repr

namespace Handle

def fresh : Handle := ⟨.uninit, false, false⟩

/-- The loop does not know the handle: it was never initialised or it is closed. -/
def idle (handle : Handle) : Bool := handle.phase == .uninit || handle.phase == .closed

/-- Waiting for the loop to process its close request. -/
def isClosing (handle : Handle) : Bool := handle.phase == .closing true || handle.phase == .closing false

def init (handle : Handle) : Handle :=
  { handle with phase := .open, reused := handle.reused || !handle.idle }

def close (handle : Handle) (notify : Bool) : Handle :=
  { handle with
    phase := .closing notify
    closedTwice := handle.closedTwice || handle.isClosing || handle.phase == .closed }

/-- The loop has processed the close request. -/
def finish (handle : Handle) : Handle := { handle with phase := .closed }

/-- Never misused so far. -/
structure Sound (handle : Handle) : Prop where
  once : handle.reused = false
  closedOnce : handle.closedTwice = false

theorem fresh_sound : fresh.Sound := ⟨rfl, rfl⟩

@[simp] theorem init_phase (handle : Handle) : handle.init.phase = .open := rfl
@[simp] theorem close_phase (handle : Handle) (notify : Bool) : (handle.close notify).phase = .closing notify := rfl
@[simp] theorem finish_phase (handle : Handle) : handle.finish.phase = .closed := rfl

theorem idle_iff (handle : Handle) : handle.idle = true ↔ handle.phase = .uninit ∨ handle.phase = .closed := by
  simp [idle]

theorem init_sound {handle : Handle} (sound : handle.Sound) (idle : handle.idle = true) : handle.init.Sound :=
  ⟨by simp [init, sound.once, idle], sound.closedOnce⟩

theorem close_sound {handle : Handle} (sound : handle.Sound) (opened : handle.phase = .open) (notify : Bool) :
    (handle.close notify).Sound :=
  ⟨sound.once, by simp [close, isClosing, sound.closedOnce, opened]⟩

theorem finish_sound {handle : Handle} (sound : handle.Sound) : handle.finish.Sound :=
  ⟨sound.once, sound.closedOnce⟩

end Handle
end Foundation
