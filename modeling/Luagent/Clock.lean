import Luagent.Server

/-! A session in discrete time. Its timer fires every second, and the client
answers every PING within a second; nothing else is known of when things happen. -/

namespace Luagent
open Foundation

/-- The period given to `uv_timer_start`. -/
def heartbeatTimerMs : Nat := 1000

/-- How long a client takes at most to answer a PING. -/
def answerMs : Nat := 1000

/-- A session with a clock. -/
structure Clocked where
  world : World
  /-- the time of the last callback -/
  now : Nat
  /-- when the timer fires next -/
  dueMs : Nat

/-- Every reading of the clock within a callback gives the same time. -/
def Env.at (env : Env) (time : Nat) : Env := { env with now := time, sentAt := fun _ => time }

/-- Time does not go back, and does not pass the next tick of an open session. -/
def Clocked.passes (state : Clocked) (event : Event) (time : Nat) : Bool :=
  state.now ≤ time && (event != .tick || time == state.dueMs) && (state.world.link.life.closed || time ≤ state.dueMs)

def clocked : Machine Clocked (Event × Nat × Env) where
  step state input :=
    if state.passes input.1 input.2.1 then
      (agent.step state.world (input.1, input.2.2.at input.2.1)).map fun next =>
        { world := next
          now := input.2.1
          dueMs := if input.1 = .tick then state.dueMs + heartbeatTimerMs else state.dueMs }
    else none

/-- A session at the time of its connection. -/
def Clocked.start (world : World) (time : Nat) : Clocked := ⟨world, time, time + heartbeatTimerMs⟩

structure Timed extends Clocked where
  /-- when the PINGs were sent after which nothing was received -/
  unanswered : List Nat

/-- Whether a PING was queued between two states. -/
def pinged (before after : World) : Bool :=
  (framesSince before.link after.link).any fun frame => frame.type == FrameType.ping.code

/-- Time does not pass that by which the client of an open session answers. -/
def Timed.answers (state : Timed) (time : Nat) : Bool :=
  state.world.link.life.closed || state.unanswered.all fun sent => time ≤ sent + answerMs

def timedAgent : Machine Timed (Event × Nat × Env) where
  step state input :=
    if state.answers input.2.1 then
      (clocked.step state.toClocked input).map fun next =>
        { next with
          unanswered := (if input.1 = .read .received then [] else state.unanswered) ++
            if pinged state.world next.world then [next.now] else [] }
    else none

def Timed.start (world : World) (time : Nat) : Timed := ⟨.start world time, []⟩

end Luagent
