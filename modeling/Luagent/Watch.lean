import Luagent.Clock

/-! A session and the reader thread of the client daemon in discrete time. What the
agent sends arrives at once, and the reader gives up when nothing arrives for as
long as its socket waits. -/

namespace Luagent
open Foundation

/-- What `create_connection` is given. The socket keeps it for every `recv`. -/
def recvTimeoutMs : Nat := 5000

structure Watch extends Clocked where
  /-- when the last frame arrived -/
  heardMs : Nat
  running : Bool

/-- A callback has left this session. A `recv` that has waited for too long by then
has raised. -/
def Watch.advance (state : Watch) (next : Clocked) : Watch :=
  { next with
    heardMs := if (framesSince state.world.link next.world.link).isEmpty then state.heardMs else next.now
    running := state.running && next.now < state.heardMs + recvTimeoutMs }

def watch : Machine Watch (Event × Nat × Env) where
  step state input := (clocked.step state.toClocked input).map state.advance

/-- The agent has nothing to send but heartbeats. -/
def OnlyHeartbeats (state : Watch) (input : Event × Nat × Env) : Prop :=
  ∀ next, watch.step state input = some next →
    ∀ frame ∈ framesSince state.world.link next.world.link, frame.type = FrameType.ping.code

instance (state : Watch) (input : Event × Nat × Env) : Decidable (OnlyHeartbeats state input) :=
  inferInstanceAs (Decidable (∀ next ∈ watch.step state input,
    ∀ frame ∈ framesSince state.world.link next.world.link, frame.type = FrameType.ping.code))

end Luagent
