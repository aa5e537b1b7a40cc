import Luagent.Proofs.ChildSteps

/-! The output of a child: whose frames carry it, and that it comes before the
frame that announces the exit. -/

namespace Luagent.Proofs.ProcessOutput
open Foundation

/-- The slot holds the child it held before, with what was recorded of it, or
none, or one started since. -/
structure SameChild (before after : ProcState) : Prop where
  spawned : before.spawned ≤ after.spawned
  kept : after.spawned = before.spawned → after.active = true →
    before.active = true ∧ after.procId = before.procId ∧ after.startedMs = before.startedMs ∧
      after.timeoutMs = before.timeoutMs ∧ after.idleTimeoutMs = before.idleTimeoutMs

theorem SameChild.of_inactive {before after : ProcState} (spawned : after.spawned = before.spawned)
    (inactive : after.active = false) : SameChild before after := by
  refine ⟨spawned.ge, ?_⟩
  intro _ active
  rw [inactive] at active
  cases active

theorem SameChild.of_change {env : Env} {world next : World} {event : Event} (change : AgentChange env world event next) :
    SameChild world.proc next.proc := by
  have kept (record : SameRecord world.proc next.proc) : next.proc.procId = world.proc.procId ∧
      next.proc.startedMs = world.proc.startedMs ∧ next.proc.timeoutMs = world.proc.timeoutMs ∧
      next.proc.idleTimeoutMs = world.proc.idleTimeoutMs :=
    ⟨record.procId, record.startedMs, record.timeoutMs, record.idleTimeoutMs⟩
  cases change with
  | exited _ _ _ isOver spawned => exact .of_inactive spawned isOver
  | other _ change =>
    cases change with
    | kept same =>
      refine ⟨same.spawned.ge, fun _ active => ?_⟩
      have running := same.active.symm.trans active
      exact ⟨running, kept (same.record running).1⟩
    | killed _ _ running _ spawned _ record => exact ⟨spawned.ge, fun _ _ => ⟨running, kept record⟩⟩
    | failed _ still spawned => exact .of_inactive spawned still
    | started _ _ spawned => exact ⟨by omega, fun same => by omega⟩

theorem closed_stays {env : Env} {world : World} {event : Event}
    (live : (callback env world event).link.life.closed = false) :
    world.link.life.closed = false := by
  by_cases written : ∃ write, event = .written write
  · obtain ⟨write, rfl⟩ := written
    exact live
  · obtain ⟨_, speaks, _⟩ := callback_speech env world (not_exists.mp written)
    exact speaks.live live

def isOutput (frame : Sent) : Bool := frame.type == FrameType.stdout.code || frame.type == FrameType.stderr.code

private theorem spoken_output {env : Env} {world : World} {event : Event} {frame : Sent}
    (spoken : Spoken env world event frame)
    (other : ∀ pipe bytes, event ≠ .output pipe bytes) : isOutput frame = false := by
  have absent (pipe : Pipe) : pipe.frameType ∉ Event.frameTypes event := by
    cases event with
    | output pipe bytes => exact absurd rfl (other pipe bytes)
    | read action => cases action <;> cases pipe <;> simp [Event.frameTypes, Pipe.frameType]
    | _ => cases pipe <;> simp [Event.frameTypes, Pipe.frameType]
  simp only [isOutput, Bool.or_eq_false_iff, beq_eq_false_iff_ne]
  exact ⟨fun same => absent .stdout (spoken.of_type same), fun same => absent .stderr (spoken.of_type same)⟩

private theorem output_not_exit (pipe : Pipe) : pipe.frameType.code ≠ FrameType.exit.code := by cases pipe <;> decide

theorem spoken_exit {env : Env} {world : World} {event : Event} {frame : Sent} (spoken : Spoken env world event frame)
    (exit : frame.type = FrameType.exit.code) : ∃ status, event = .exited status := by
  have member := spoken.of_type exit
  cases event with
  | exited status => exact ⟨status, rfl⟩
  | read action => cases action <;> simp [Event.frameTypes] at member
  | output pipe => cases pipe <;> simp [Event.frameTypes, Pipe.frameType] at member
  | _ => simp [Event.frameTypes] at member

/-- What is read from the pipes of a child, in order. -/
def outputs (inputs : List Upload.Input) : List (Pipe × Bytes) :=
  inputs.filterMap fun input => match input.1 with
    | .output pipe bytes => some (pipe, bytes)
    | _ => none

def outputFrame (procId : UInt32) (output : Pipe × Bytes) : Sent := ⟨output.1.frameType.code, procId, output.2⟩

/-- Every read of a child's output is a frame with its number, in order, and none
of these frames follows the one that announces the exit. -/
structure OutputAttributed (procId : UInt32) (read : List (Pipe × Bytes)) (frames : List Sent) : Prop where
  complete : frames.filter isOutput = read.map (outputFrame procId)
  exitLast : frames.Pairwise fun earlier later => ¬ (earlier.type = FrameType.exit.code ∧ isOutput later = true)

/-- What is assumed of memory and of libuv where output is read. -/
structure Delivers (world : World) (input : Upload.Input) : Prop where
  bounded : ∀ pipe bytes, input.1 = .output pipe bytes → bytes.length ≤ maxFramePayload
  request : input.2.alloc (.writeReq world.link.sends) = true
  buffer : input.2.alloc (.writeBuf world.link.sends) = true
  write : input.2.uvWrite world.link.sends = 0

/-- Output is read before the exit is notified. -/
def BeforeExit (world : World) (input : Upload.Input) : Prop :=
  ∀ pipe bytes, input.1 = .output pipe bytes → world.proc.active = true

/-- What a run says about a child started at its beginning, as long as there is
no other child and the session is open. -/
structure Follows (born : World) (history : List Upload.Input) (world : World) : Prop where
  spawned : born.proc.spawned ≤ world.proc.spawned
  said : world.proc.spawned = born.proc.spawned → world.link.life.closed = false →
    ∃ frames, world.link.queued = born.link.queued ++ frames ∧
      OutputAttributed born.proc.procId (outputs history) frames ∧
      (world.proc.active = true → world.proc.procId = born.proc.procId ∧
        ∀ frame ∈ frames, frame.type ≠ FrameType.exit.code)

theorem OutputAttributed.quiet {procId : UInt32} {read : List (Pipe × Bytes)} {frames more : List Sent}
    (attributed : OutputAttributed procId read frames) (quiet : ∀ frame ∈ more, isOutput frame = false) :
    OutputAttributed procId read (frames ++ more) where
  complete := by
    rw [List.filter_append, attributed.complete, List.filter_eq_nil_iff.mpr (by simpa using quiet), List.append_nil]
  exitLast := by
    refine List.pairwise_append.mpr ⟨attributed.exitLast, ?_, ?_⟩
    · apply List.pairwise_of_forall_mem_list
      intro earlier _ later member both
      rw [quiet later member] at both
      cases both.2
    · intro earlier _ later member both
      rw [quiet later member] at both
      cases both.2

theorem OutputAttributed.output {procId : UInt32} {read : List (Pipe × Bytes)} {frames : List Sent}
    (attributed : OutputAttributed procId read frames) (running : ∀ frame ∈ frames, frame.type ≠ FrameType.exit.code)
    (pipe : Pipe) (bytes : Bytes) :
    OutputAttributed procId (read ++ [(pipe, bytes)]) (frames ++ [outputFrame procId (pipe, bytes)]) where
  complete := by
    have output : isOutput (outputFrame procId (pipe, bytes)) = true := by cases pipe <;> rfl
    rw [List.filter_append, attributed.complete, List.map_append, List.filter_singleton, output]
    rfl
  exitLast := by
    refine List.pairwise_append.mpr ⟨attributed.exitLast, List.pairwise_singleton .., ?_⟩
    intro earlier member later _ both
    exact running earlier member both.1

private theorem quiet_callback {env : Env} {world : World} {event : Event}
    (other : ∀ pipe bytes, event ≠ .output pipe bytes) :
    ∃ frames, (callback env world event).link.queued = world.link.queued ++ frames ∧
      (∀ frame ∈ frames, isOutput frame = false) ∧
      ((callback env world event).proc.active = true → ∀ frame ∈ frames, frame.type ≠ FrameType.exit.code) := by
  by_cases written : ∃ write, event = .written write
  · obtain ⟨write, rfl⟩ := written
    exact ⟨[], by simp [callback, onWriteDone, Link.uvWritten], by simp, by simp⟩
  · obtain ⟨frames, speaks, spoken⟩ := callback_speech env world (not_exists.mp written)
    refine ⟨frames, speaks.queued, fun frame member => spoken_output (spoken frame member) other, ?_⟩
    intro active frame member exit
    obtain ⟨status, rfl⟩ := spoken_exit (spoken frame member) exit
    have inactive : (procExitCb env world status).proc.active = false := by
      unfold procExitCb procMaybeFinalize
      simp only
      split <;> rfl
    rw [callback, inactive] at active
    cases active

private theorem outputs_append (history : List Upload.Input) (input : Upload.Input) :
    outputs (history ++ [input]) = outputs history ++ outputs [input] := List.filterMap_append ..

private theorem outputs_quiet {input : Upload.Input} (other : ∀ pipe bytes, input.1 ≠ .output pipe bytes) :
    outputs [input] = [] := by
  obtain ⟨event, env⟩ := input
  cases event with
  | output pipe bytes => exact absurd rfl (other pipe bytes)
  | _ => rfl

private theorem follows_step {born world next : World} {history : List Upload.Input} {input : Upload.Input}
    (follows : Follows born history world) (change : AgentChange input.2 world input.1 next)
    (allowed : Delivers world input ∧ BeforeExit world input) (stepped : agent.step world input = some next) :
    Follows born (history ++ [input]) next := by
  obtain ⟨event, env⟩ := input
  obtain ⟨_, rfl⟩ := agent_step stepped
  have child := SameChild.of_change change
  simp only at child
  refine ⟨follows.spawned.trans child.spawned, ?_⟩
  intro same live
  have grown := child.spawned
  have earlier : world.proc.spawned = born.proc.spawned := by
    have := follows.spawned
    simp only at same
    omega
  obtain ⟨frames, queued, attributed, running⟩ := follows.said earlier (closed_stays live)
  rw [outputs_append]
  by_cases output : ∃ pipe bytes, event = .output pipe bytes
  · obtain ⟨pipe, bytes, rfl⟩ := output
    obtain ⟨procId, unexited⟩ := running (allowed.2 pipe bytes rfl)
    obtain ⟨before, room⟩ := sendFrame_room live
    have sent := sendFrame_queues world.proc.procId (code_ne_zero pipe.frameType) (allowed.1.bounded pipe bytes rfl)
      ⟨before, room, allowed.1.request, allowed.1.buffer, allowed.1.write⟩
    refine ⟨frames ++ [outputFrame born.proc.procId (pipe, bytes)], ?_, attributed.output unexited pipe bytes, ?_⟩
    · rw [← List.append_assoc, ← queued, ← procId]
      exact sent.queued
    · intro _
      refine ⟨procId, ?_⟩
      intro frame member
      rcases List.mem_append.mp member with member | member
      · exact unexited frame member
      · rw [List.mem_singleton.mp member]
        exact output_not_exit pipe
  · have other : ∀ pipe bytes, event ≠ .output pipe bytes := fun pipe bytes same => output ⟨pipe, bytes, same⟩
    obtain ⟨more, added, quiet, exits⟩ := @quiet_callback env world event other
    rw [outputs_quiet other, List.append_nil]
    refine ⟨frames ++ more, ?_, attributed.quiet quiet, ?_⟩
    · rw [← List.append_assoc, ← queued]
      exact added
    · intro active
      obtain ⟨held, procId, _⟩ := child.kept (same.trans earlier.symm) active
      obtain ⟨named, unexited⟩ := running held
      refine ⟨procId.trans named, ?_⟩
      intro frame member
      rcases List.mem_append.mp member with member | member
      · exact unexited frame member
      · exact exits active frame member

/-- From the state in which a child was started, while there is no other child and
the session stays open: all output that is read before the exit is notified
reaches the client under the child's number, in order, and before the exit. -/
theorem output_attributed {connectEnv : Env} {sessionId : Nat} {counts : Tally} {fs : FileSystem} {engine : Engine}
    {start born final : World} {history later : List Upload.Input}
    (connected : onNewConnection connectEnv sessionId counts fs engine = some start)
    (started : agent.run start history = some born)
    (delivers : agent.Conforms (fun world input => Delivers world input ∧ BeforeExit world input) born later)
    (executed : agent.run born later = some final) (same : final.proc.spawned = born.proc.spawned)
    (live : final.link.life.closed = false) :
    OutputAttributed born.proc.procId (outputs later) (framesSince born.link final.link) := by
  have follows : Follows born later final := by
    refine agent.conforming_induction (Follows born) ⟨Nat.le_refl _, fun _ _ => ?_⟩ ?_ delivers executed
    · exact ⟨[], by simp, ⟨rfl, List.Pairwise.nil⟩, fun _ => ⟨rfl, by simp⟩⟩
    · intro past middle event next arrived follows allowed moved
      have whole : agent.run start (history ++ past) = some middle := by
        rw [agent.run_append, started]
        exact arrived
      exact follows_step follows (run_change connected whole moved) allowed moved
  obtain ⟨frames, queued, attributed, _⟩ := follows.said same live
  rw [framesSince, queued, List.drop_left]
  exact attributed

def spawnChild : Upload.Input := (Upload.spawnX, {})

def childBorn : World := (agent.step Upload.freshSession spawnChild).get (by decide)

/-- The exit of a child is notified before its last output is read. -/
def lateOutput : List Upload.Input := [(.exited 0, {}), (.output .stdout (ascii "hi"), {})]

def lateRead : World := (agent.run childBorn lateOutput).get (by decide)

theorem late_output_follows_exit :
    agent.step Upload.freshSession spawnChild = some childBorn ∧ childBorn.proc.spawned = 1 ∧
    agent.run childBorn lateOutput = some lateRead ∧ lateRead.proc.spawned = 1 ∧
    lateRead.link.life.closed = false ∧ agent.Conforms Delivers childBorn lateOutput ∧
    (framesSince childBorn.link lateRead.link).map (fun frame => (frame.type, frame.reqId)) =
      [(FrameType.exit.code, 1), (FrameType.stdout.code, 1)] ∧
    ¬ OutputAttributed childBorn.proc.procId (outputs lateOutput) (framesSince childBorn.link lateRead.link) := by
  refine ⟨(Option.some_get (by decide)).symm, by decide, (Option.some_get (by decide)).symm, by decide,
    by decide +kernel, ?_,
    by decide +kernel, ?_⟩
  · apply agent.conforms_of_forall
    intro input member world
    rcases List.mem_cons.mp member with rfl | member
    · exact ⟨by simp, rfl, rfl, rfl⟩
    · rw [List.mem_singleton.mp member]
      refine ⟨?_, rfl, rfl, rfl⟩
      rintro _ _ ⟨rfl, rfl⟩
      decide
  · intro attributed
    have ordered : (framesSince childBorn.link lateRead.link).map (fun frame => (frame.type, isOutput frame)) =
        [(FrameType.exit.code, false), (FrameType.stdout.code, true)] := by decide +kernel
    obtain ⟨exit, rest, frames, kind, others⟩ := List.map_eq_cons_iff.mp ordered
    obtain ⟨output, _, rfl, read, _⟩ := List.map_eq_cons_iff.mp others
    have last := attributed.exitLast
    rw [frames] at last
    refine (List.pairwise_cons.mp last).1 output (by simp) ⟨?_, ?_⟩
    · exact congrArg Prod.fst kind
    · exact congrArg Prod.snd read

/-- A child whose output is read before its exit. -/
def orderlyChild : List Upload.Input :=
  [(.output .stdout (ascii "hi"), {}), (.output .stderr (ascii "no"), {}), (.exited 0, {}), (.ended .stdout, {})]

def orderlyRead : World := (agent.run childBorn orderlyChild).get (by decide)

theorem output_attributed_orderly :
    OutputAttributed 1 [(.stdout, ascii "hi"), (.stderr, ascii "no")] (framesSince childBorn.link orderlyRead.link) := by
  have connected : onNewConnection {} 1 {} .empty portfwdEngineInit = some Upload.freshSession :=
    (Option.some_get (by decide)).symm
  have assumed (world : World) (event : Event)
      (bounded : ∀ pipe bytes, event = .output pipe bytes → bytes.length ≤ maxFramePayload) : Delivers world (event, {}) :=
    ⟨bounded, rfl, rfl, rfl⟩
  refine @output_attributed _ _ _ _ _ _ childBorn _ [spawnChild] orderlyChild connected (Option.some_get (by decide)).symm
    ?_ (Option.some_get (by decide)).symm (by decide) (by decide +kernel)
  refine ⟨⟨assumed _ _ ?_, fun _ _ _ => by decide⟩, ?_⟩
  · rintro _ _ ⟨rfl, rfl⟩
    decide
  rintro _ ⟨rfl⟩
  refine ⟨⟨assumed _ _ ?_, fun _ _ _ => by decide⟩, ?_⟩
  · rintro _ _ ⟨rfl, rfl⟩
    decide
  rintro _ ⟨rfl⟩
  exact ⟨⟨assumed _ _ (by simp), by simp [BeforeExit]⟩, fun _ _ => ⟨⟨assumed _ _ (by simp), by simp [BeforeExit]⟩, fun _ _ => trivial⟩⟩

end Luagent.Proofs.ProcessOutput
