import Luagent.Proofs.ProcessOutput

/-! The children of a session, one after the other: each keeps its record until
its exit is notified, and each exit is announced once. -/

namespace Luagent.Proofs.ChildLifetime
open Foundation ProcessOutput

def isExit (frame : Sent) : Bool := frame.type == FrameType.exit.code

/-- The number of the child that a step started. -/
def births (world : World) (_ : Upload.Input) (next : World) : List UInt32 :=
  if next.proc.spawned = world.proc.spawned then [] else [next.proc.procId]

/-- A step notifies an exit. -/
def exits (input : Upload.Input) : Bool := match input.1 with
  | .exited _ => true
  | _ => false

private theorem exits_iff {input : Upload.Input} : exits input = true ↔ ∃ status, input.1 = .exited status := by
  obtain ⟨event, env⟩ := input
  cases event <;> simp [exits]

/-- Where an exit is notified, with a status of 64 bits, its frame is accepted. -/
def ExitAccepted (world : World) (input : Upload.Input) : Prop :=
  ∀ status, input.1 = .exited status → (-2 ^ 63 ≤ status ∧ status < 2 ^ 63) ∧
    CanSend input.2 world.link (exitReply world.proc.procId status world.proc.killReason).length

private theorem signedDecimal_length {value : Int} (low : -2 ^ 63 ≤ value) (high : value < 2 ^ 63) :
    (signedDecimal value).length ≤ 20 := by
  cases value with
  | ofNat size =>
    have digits : (decimal size).length ≤ 19 := decimal_length_le (by decide) (by norm_num at high ⊢; omega)
    exact digits.trans (by decide)
  | negSucc size =>
    have digits : (decimal (size + 1)).length ≤ 19 := decimal_length_le (by decide) (by norm_num at low ⊢; omega)
    have sign : (ascii "-").length = 1 := by decide
    simp only [signedDecimal, List.length_append]
    omega

private theorem exitReply_fits (procId : UInt32) {status : Int} (low : -2 ^ 63 ≤ status) (high : status < 2 ^ 63)
    (reason : KillReason) : (exitReply procId status reason).length < 256 := by
  have number : (decimal procId.toNat).length ≤ 10 :=
    decimal_length_le (by decide) (procId.toNat_lt.trans (by norm_num))
  have code := signedDecimal_length low high
  have name : (ascii (killReasonName reason)).length ≤ 12 := by cases reason <;> decide
  have texts : (ascii "status=ok\nproc_id=").length = 18 ∧ (ascii "\nexit_code=").length = 11 ∧
      (ascii "\nreason=").length = 8 := by decide
  simp only [exitReply, List.length_append]
  omega

/-- What a run says about the children that it started and those whose exit was
notified. -/
structure ChildrenCounted (born : List UInt32) (exited : Nat) (world : World) : Prop where
  one : born.length = exited + if world.proc.active = true then 1 else 0
  current : world.proc.active = true → born.getLast? = some world.proc.procId
  next : world.nextProcId.toNat = (world.link.tally.session .processSpawns + 1) % 2 ^ 32
  distinct : world.link.tally.session .processSpawns < 2 ^ 32 →
    born.Nodup ∧ ∀ procId ∈ born, procId.toNat ≤ world.link.tally.session .processSpawns

private theorem accounted_start {env : Env} {sessionId : Nat} {counts : Tally} {fs : FileSystem} {engine : Engine}
    {start : World}
    (connected : onNewConnection env sessionId counts fs engine = some start) : ChildrenCounted [] 0 start := by
  have fresh := connected_fresh connected
  have inactive : start.proc.active = false := by
    rw [fresh.proc]
    rfl
  have uncounted : start.link.tally.session .processSpawns = 0 := fresh.counted.session .processSpawns rfl
  refine ⟨?_, ?_, ?_, fun _ => ⟨List.nodup_nil, by simp⟩⟩
  · rw [inactive]
    rfl
  · rw [inactive]
    nofun
  · rw [fresh.nextProcId, uncounted]
    rfl

/-- A step that neither starts a child nor ends one. -/
theorem ChildrenCounted.same {born : List UInt32} {exited : Nat} {world next : World}
    (accounted : ChildrenCounted born exited world)
    (active : next.proc.active = world.proc.active)
    (procId : world.proc.active = true → next.proc.procId = world.proc.procId)
    (nextProcId : next.nextProcId = world.nextProcId)
    (spawns : next.link.tally.session .processSpawns = world.link.tally.session .processSpawns) :
    ChildrenCounted born exited next := by
  refine ⟨?_, ?_, ?_, ?_⟩
  · rw [active]
    exact accounted.one
  · intro running
    have running := active.symm.trans running
    rw [procId running]
    exact accounted.current running
  · rw [nextProcId, spawns]
    exact accounted.next
  · rw [spawns]
    exact accounted.distinct

private theorem nextProcId_succ {procId : UInt32} {attempts : Nat} (same : procId.toNat = (attempts + 1) % 2 ^ 32) :
    (procId + 1).toNat = (attempts + 1 + 1) % 2 ^ 32 := by
  rw [UInt32.toNat_add, same, UInt32.toNat_one]
  omega

private theorem accounted_change {env : Env} {world next : World} {born : List UInt32} {exited : Nat}
    (accounted : ChildrenCounted born exited world) (change : ChildChange env world next) (input : Upload.Input) :
    ChildrenCounted (born ++ births world input next) exited next := by
  cases change with
  | kept same =>
    rw [births, if_pos same.spawned, List.append_nil]
    exact accounted.same same.active (fun running => (same.record running).1.procId) same.nextProcId same.counts.spawns
  | killed _ _ active still spawned _ record _ nextProcId counts =>
    rw [births, if_pos spawned, List.append_nil]
    exact accounted.same (still.trans active.symm) (fun _ => record.procId) nextProcId counts.spawns
  | failed inactive still spawned _ nextProcId counts =>
    rw [births, if_pos spawned, List.append_nil]
    have one := accounted.one
    rw [inactive] at one
    refine ⟨?_, ?_, ?_, ?_⟩
    · rw [still]
      exact one
    · rw [still]
      nofun
    · rw [nextProcId, counts.spawns]
      exact nextProcId_succ accounted.next
    · rw [counts.spawns]
      intro few
      obtain ⟨distinct, below⟩ := accounted.distinct (by omega)
      exact ⟨distinct, fun procId member => (below procId member).trans (Nat.le_succ _)⟩
  | started inactive active spawned _ procId _ nextProcId counts =>
    rw [births, if_neg (by omega)]
    have one := accounted.one
    rw [inactive] at one
    refine ⟨?_, ?_, ?_, ?_⟩
    · rw [active, List.length_append, one]
      rfl
    · intro _
      rw [List.getLast?_append, List.getLast?_singleton]
      rfl
    · rw [nextProcId, counts.spawns]
      exact nextProcId_succ accounted.next
    · rw [counts.spawns]
      intro few
      -- the number of this child is one more than all attempts before it
      have number : next.proc.procId.toNat = world.link.tally.session .processSpawns + 1 := by
        rw [procId, accounted.next]
        exact Nat.mod_eq_of_lt few
      obtain ⟨distinct, below⟩ := accounted.distinct (by omega)
      constructor
      · refine List.nodup_append.mpr ⟨distinct, List.nodup_singleton _, ?_⟩
        intro earlier member other last
        rw [List.mem_singleton.mp last]
        rintro rfl
        have := below _ member
        omega
      · intro other member
        rcases List.mem_append.mp member with member | member
        · exact (below other member).trans (Nat.le_succ _)
        · rw [List.mem_singleton.mp member, number]

private theorem accounted_step {world next : World} {born : List UInt32} {past : List Upload.Input} {input : Upload.Input}
    (accounted : ChildrenCounted born (past.countP exits) world) (change : AgentChange input.2 world input.1 next) :
    ChildrenCounted (born ++ births world input next) ((past ++ [input]).countP exits) next := by
  rw [List.countP_append, List.countP_singleton]
  cases change with
  | other unexited change =>
    have quiet : ¬ exits input = true := fun exit => (exits_iff.mp exit).elim unexited
    rw [if_neg quiet, Nat.add_zero]
    exact accounted_change accounted change input
  | exited status isExit active isOver spawned _ nextProcId counts =>
    rw [if_pos (exits_iff.mpr ⟨status, isExit⟩), births, if_pos spawned, List.append_nil]
    have one := accounted.one
    rw [active] at one
    refine ⟨?_, ?_, ?_, ?_⟩
    · rw [isOver]
      exact one
    · rw [isOver]
      nofun
    · rw [nextProcId, counts.spawns]
      exact accounted.next
    · rw [counts.spawns]
      exact accounted.distinct

/-- The frames that announce the exits. -/
structure Announced (born : List UInt32) (exited : Nat) (frames : List Sent) : Prop where
  numbers : (frames.filter isExit).map Sent.reqId = born.take exited
  texts : ∀ frame ∈ frames.filter isExit, ∃ status reason, frame.payload = exitReply frame.reqId status reason

private theorem unexited_frames {env : Env} {world : World} {event : Event} (unexited : ∀ status, event ≠ .exited status) :
    (callback env world event).link.queued.filter isExit = world.link.queued.filter isExit := by
  by_cases written : ∃ write, event = .written write
  · obtain ⟨write, rfl⟩ := written
    rfl
  · obtain ⟨frames, speaks, spoken⟩ := callback_speech env world (not_exists.mp written)
    have none : frames.filter isExit = [] := by
      refine List.filter_eq_nil_iff.mpr fun frame member exit => ?_
      obtain ⟨status, same⟩ := spoken_exit (spoken frame member) (by simpa [isExit] using exit)
      exact unexited status same
    rw [speaks.queued, List.filter_append, none, List.append_nil]

private theorem exit_frames {env : Env} {world : World} {status : Int}
    (accepted : ExitAccepted world (.exited status, env)) :
    (procExitCb env world status).link.queued = world.link.queued ++
      [⟨FrameType.exit.code, world.proc.procId, exitReply world.proc.procId status world.proc.killReason⟩] := by
  obtain ⟨⟨low, high⟩, can⟩ := accepted status rfl
  have fits := exitReply_fits world.proc.procId low high world.proc.killReason
  have sends : CanSend env (diagCountProcessExit world.link)
      (exitReply world.proc.procId status world.proc.killReason).length :=
    can.counted _
  rw [exitCb_link, utilSnprintf, if_pos fits]
  exact (sendFrame_queues world.proc.procId (code_ne_zero .exit) (by unfold maxFramePayload; omega) sends).queued

private theorem announced_step {world next : World} {born : List UInt32} {past : List Upload.Input} {input : Upload.Input}
    (accounted : ChildrenCounted born (past.countP exits) world) (announced : Announced born (past.countP exits) world.link.queued)
    (accepted : ExitAccepted world input) (change : AgentChange input.2 world input.1 next)
    (stepped : agent.step world input = some next) :
    Announced (born ++ births world input next) ((past ++ [input]).countP exits) next.link.queued := by
  obtain ⟨event, env⟩ := input
  have one := accounted.one
  obtain ⟨_, rfl⟩ := agent_step stepped
  rw [List.countP_append, List.countP_singleton]
  cases change with
  | other unexited change =>
    have quiet : ¬ exits (event, env) = true := fun exit => (exits_iff.mp exit).elim unexited
    have frames := @unexited_frames env world event unexited
    rw [if_neg quiet, Nat.add_zero]
    constructor
    · rw [frames, announced.numbers, List.take_append_of_le_length (by omega)]
    · rw [frames]
      exact announced.texts
  | exited status isExit active isOver spawned =>
    cases isExit
    rw [if_pos (exits_iff.mpr ⟨status, rfl⟩), births, if_pos spawned, List.append_nil]
    have frames : (procExitCb env world status).link.queued.filter ChildLifetime.isExit =
        world.link.queued.filter ChildLifetime.isExit ++
          [⟨FrameType.exit.code, world.proc.procId, exitReply world.proc.procId status world.proc.killReason⟩] := by
      rw [exit_frames accepted, List.filter_append]
      rfl
    have current := accounted.current active
    rw [active, if_pos rfl] at one
    obtain ⟨rest, rfl⟩ : ∃ rest, born = rest ++ [world.proc.procId] := List.getLast?_eq_some_iff.mp current
    simp only [List.length_append, List.length_singleton] at one
    constructor
    · have numbers := announced.numbers
      rw [List.take_append_of_le_length (by omega), List.take_of_length_le (by omega)] at numbers
      rw [callback, frames, List.map_append, numbers, List.take_of_length_le (by simp; omega)]
      rfl
    · rw [callback, frames]
      intro frame member
      rcases List.mem_append.mp member with member | member
      · exact announced.texts frame member
      · rw [List.mem_singleton.mp member]
        exact ⟨status, world.proc.killReason, rfl⟩

private theorem record_kept {start born world : World} {past later : List Upload.Input}
    (changes : ∀ history state input next, agent.run start history = some state → agent.step state input = some next →
      AgentChange input.2 state input.1 next)
    (reached : agent.run start past = some born) (active : born.proc.active = true)
    (unexited : ∀ input ∈ later, exits input = false) (lived : agent.run born later = some world) :
    world.proc.active = true ∧ SameRecord born.proc world.proc := by
  refine agent.run_induction (fun history state => (∀ input ∈ history, exits input = false) →
    state.proc.active = true ∧ SameRecord born.proc state.proc) (fun _ => ⟨active, {}⟩) ?_ lived unexited
  intro history state input next continued kept stepped unexited
  obtain ⟨running, record⟩ := kept fun other member => unexited other (List.mem_append_left _ member)
  have whole : agent.run start (past ++ history) = some state := by
    rw [agent.run_append, reached]
    exact continued
  cases changes _ _ _ _ whole stepped with
  | exited status isExit =>
    have quiet := unexited input (by simp)
    rw [exits_iff.mpr ⟨status, isExit⟩] at quiet
    cases quiet
  | other _ change =>
    cases change with
    | kept same => exact ⟨same.active.trans running, record.trans (same.record running).1⟩
    | killed _ _ _ still _ _ kept => exact ⟨still, record.trans kept⟩
    | failed inactive => rw [running] at inactive; cases inactive
    | started inactive => rw [running] at inactive; cases inactive

/-- The children of a session over a whole run. -/
structure OneExitEach (start : World) (history : List Upload.Input) (world : World) : Prop where
  kept : ∀ past later born, history = past ++ later → agent.run start past = some born → born.proc.active = true →
    (∀ input ∈ later, exits input = false) → world.proc.active = true ∧ SameRecord born.proc world.proc
  one : (agent.gather births start history).length = history.countP exits + if world.proc.active = true then 1 else 0
  announced : agent.Conforms ExitAccepted start history →
    Announced (agent.gather births start history) (history.countP exits) world.link.queued
  distinct : world.link.tally.session .processSpawns < 2 ^ 32 → (agent.gather births start history).Nodup

/-- In every run of a session a child keeps its number, its start and its timeouts
until its exit is notified, no two children run at a time, the exits are announced
under the numbers of the children in the order in which they were started, and
these numbers differ. -/
theorem one_exit_per_child {env : Env} {sessionId : Nat} {counts : Tally} {fs : FileSystem} {engine : Engine}
    {start world : World} {history : List Upload.Input}
    (connected : onNewConnection env sessionId counts fs engine = some start)
    (executed : agent.run start history = some world) : OneExitEach start history world := by
  have changes : ∀ past state input next, agent.run start past = some state → agent.step state input = some next →
      AgentChange input.2 state input.1 next := fun _ _ _ _ reached stepped => run_change connected reached stepped
  have accounted : ∀ past state, agent.run start past = some state →
      ChildrenCounted (agent.gather births start past) (past.countP exits) state := by
    intro past state reached
    refine agent.run_induction (fun past state => ChildrenCounted (agent.gather births start past) (past.countP exits) state)
      (accounted_start connected) ?_ reached
    intro past state input next reached accounted stepped
    rw [agent.gather_step births reached stepped]
    exact accounted_step accounted (changes past state input next reached stepped)
  refine ⟨?_, (accounted history world executed).one, ?_, fun few => ((accounted history world executed).distinct few).1⟩
  · rintro past later born rfl reached active unexited
    obtain ⟨middle, first, lived⟩ := agent.run_append_some executed
    cases reached.symm.trans first
    exact record_kept changes reached active unexited lived
  · intro conforms
    refine agent.conforming_induction
      (fun past state => Announced (agent.gather births start past) (past.countP exits) state.link.queued) ?_ ?_
      conforms executed
    · rw [(connected_fresh connected).queued]
      exact ⟨rfl, by simp⟩
    · intro past state input next reached announced accepted stepped
      rw [agent.gather_step births reached stepped]
      exact announced_step (accounted past state reached) announced accepted (changes past state input next reached stepped)
        stepped

private theorem accepted_of_quiet {world : World} {input : Upload.Input} (quiet : exits input = false) :
    ExitAccepted world input := by
  intro status isExit
  rw [exits_iff.mpr ⟨status, isExit⟩] at quiet
  cases quiet

private theorem accepted_default {world : World} (live : world.link.life.closed = false)
    (empty : world.link.pendingWriteBytes ≤ 1000) :
    ExitAccepted world (.exited 0, {}) := by
  rintro _ ⟨rfl⟩
  have fits := @exitReply_fits world.proc.procId 0 (by decide) (by decide) world.proc.killReason
  refine ⟨by decide, live, ?_, rfl, rfl, rfl⟩
  simp only [frameHeaderSize, maxWriteQueueBytes]
  omega

/-- One child after the other. -/
def twoChildren : List Upload.Input :=
  [spawnChild, (.exited 0, {}), (.ended .stdout, {}), (.ended .stderr, {}), spawnChild, (.exited 0, {})]

def twoExited : World := (agent.run Upload.freshSession twoChildren).get (by decide +kernel)

theorem one_exit_per_child_two :
    (twoExited.link.queued.filter isExit).map Sent.reqId = [1, 2] ∧ [(1 : UInt32), 2].Nodup := by
  have connected : onNewConnection {} 1 {} .empty portfwdEngineInit = some Upload.freshSession :=
    (Option.some_get (by decide)).symm
  have each : OneExitEach Upload.freshSession twoChildren twoExited :=
    one_exit_per_child connected (Option.some_get (by decide +kernel)).symm
  have born : agent.gather births Upload.freshSession twoChildren = [1, 2] := by decide +kernel
  have announced := each.announced ?_
  · have numbers := announced.numbers
    have distinct := each.distinct (by decide +kernel)
    rw [born] at numbers distinct
    exact ⟨numbers, distinct⟩
  · refine agent.conforms_cons (accepted_of_quiet rfl) rfl ?_
    refine agent.conforms_cons (accepted_default (by decide +kernel) (by decide +kernel))
      (Option.some_get (by decide +kernel)).symm ?_
    refine agent.conforms_cons (accepted_of_quiet rfl) (Option.some_get (by decide +kernel)).symm ?_
    refine agent.conforms_cons (accepted_of_quiet rfl) (Option.some_get (by decide +kernel)).symm ?_
    refine agent.conforms_cons (accepted_of_quiet rfl) (Option.some_get (by decide +kernel)).symm ?_
    exact ⟨accepted_default (by decide +kernel) (by decide +kernel), fun _ _ => trivial⟩

end Luagent.Proofs.ChildLifetime
