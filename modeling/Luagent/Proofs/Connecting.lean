import Luagent.Proofs.Counters

/-! The session that a new connection brings: whatever fails after the socket is
there, all of it but its lifetime is as `session_init` left it. -/

namespace Luagent.Proofs
open Foundation

structure Fresh (env : Env) (number : Nat) (counts : Tally) (files : FileSystem) (relays : Engine) (start : World) :
    Prop where
  sessionId : start.sessionId = number := by rfl
  upload : start.upload = transferInit := by rfl
  download : start.download = transferInit := by rfl
  proc : start.proc = procInit := by rfl
  lastRxMs : start.lastRxMs = env.now := by rfl
  nextReqId : start.nextReqId = 1 := by rfl
  nextProcId : start.nextProcId = 1 := by rfl
  released : start.released = 0 := by rfl
  fs : start.fs = files := by rfl
  engine : start.engine = relays := by rfl
  reading : start.reading = false := by rfl
  pending : start.link.pendingWriteBytes = 0 := by rfl
  lastTxMs : start.link.lastTxMs = env.now := by rfl
  sends : start.link.sends = 0 := by rfl
  writes : start.link.writes = [] := by rfl
  queued : start.link.queued = [] := by rfl
  counted : Counts (sessionInit env number counts).link [] start.link

section fresh
variable {env : Env} {sessionId : Nat} {counts : Tally} {fs : FileSystem} {engine : Engine} {start : World}

theorem Fresh.setLife (fresh : Fresh env sessionId counts fs engine start) (life : Life) :
    Fresh env sessionId counts fs engine (start.setLife life) :=
  { fresh with counted := fresh.counted.quiet_last (.of_tally rfl) }

theorem Fresh.close (fresh : Fresh env sessionId counts fs engine start) :
    Fresh env sessionId counts fs engine start.close := by
  have counted := fresh.counted.quiet_last (sessionClose_counts start.link)
  have same : ∃ life tally, sessionClose start.link = { start.link with life, tally } := by
    unfold sessionClose
    split
    · exact ⟨_, _, rfl⟩
    · exact ⟨_, _, rfl⟩
  obtain ⟨life, tally, same⟩ := same
  rw [same] at counted
  unfold World.close
  rw [same]
  exact { fresh with counted }

theorem connected_fresh (connected : onNewConnection env sessionId counts fs engine = some start) :
    Fresh env sessionId counts fs engine start := by
  have initially : Fresh env sessionId counts fs engine
      { sessionInit env sessionId counts with fs, engine, reading := false } := { counted := .refl _ }
  unfold onNewConnection at connected
  simp only [Option.ite_none_left_eq_some] at connected
  obtain ⟨_, connected⟩ := connected
  have opened := initially.setLife { (sessionInit env sessionId counts).link.life with tcp := Handle.fresh.init }
  split at connected
  · cases connected
    exact opened.close
  · have timed := opened.setLife (sessionStartTimers env ⟨Handle.fresh.init, .fresh, false, false, 0⟩).1
    split at connected
    · cases connected
      exact timed.close
    · split at connected
      · cases connected
        exact timed.close
      · cases connected
        exact timed

end fresh

end Luagent.Proofs
