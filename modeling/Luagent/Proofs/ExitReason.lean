import Luagent.Proofs.ChildSteps

/-! The reason a child's EXIT frame gives, against the kills that were sent to
the child and what became of them. -/

namespace Luagent.Proofs.ExitReason
open Foundation

/-- Why a callback calls `uv_process_kill`, if it does. -/
def killTried (env : Env) (world : World) : Event → Option KillReason
  | .read (.dispatch message) =>
    if FrameType.ofCode message.type = some .kill ∧ env.alloc .payloadCopy = true ∧ world.proc.active = true ∧
        kvU32 (cstr message.payload) (ascii "proc_id") = some world.proc.procId then some .requested
    else none
  | .tick =>
    if world.link.life.closed = true ∨ world.idlesOut env.now then none
    else timedOut env.now world.proc
  | .closed name =>
    if (world.handle name).phase = .closing true ∧ world.link.life.closeRefs ≤ 1 ∧ world.proc.active = true then
      some .requested
    else none
  | _ => none

def logged (env : Env) (proc : ProcState) (reason : Option KillReason) : List Kill :=
  reason.toList.map fun reason => ⟨proc.spawned, reason, env.kill⟩

private theorem handleKill_kills (env : Env) (world : World) (reqId : UInt32) (payload : Bytes) :
    (procHandleKill env world reqId payload).1.proc.kills = world.proc.kills ++
      logged env world.proc (if world.proc.active = true ∧ kvU32 payload (ascii "proc_id") = some world.proc.procId then
        some .requested else none) := by
  have ending := handleKill_ending env world reqId payload
  generalize procHandleKill env world reqId payload = result at ending ⊢
  cases ending with
  | missing missing => simp [missing, logged, World.sendError]
  | unknown _ other =>
    rw [if_neg (show ¬ (_ ∧ _) from other)]
    simp [logged, World.sendError]
  | failed matching | killed matching =>
    rw [if_pos (show _ ∧ _ from matching)]
    rfl

private theorem spawn_kills (env : Env) (world : World) (reqId : UInt32) (path : Bytes) (args : List Bytes)
    (timeoutMs idleTimeoutMs : Nat) (sendAck : Bool) :
    (procSpawnCommon env world reqId path args timeoutMs idleTimeoutMs sendAck).1.proc.kills = world.proc.kills := by
  cases spawn_effect env world reqId path args timeoutMs idleTimeoutMs sendAck with
  | refused _ _ same => rw [same]
  | failed _ _ emptied => exact emptied.kills
  | broken _ _ _ _ _ kills => exact kills
  | started _ _ started => exact started.kills

private theorem text_kills {env : Env} {world after : World} {type : Option FrameType} {reqId : UInt32} {payload : Bytes}
    (idle : world.download = transferInit) (other : type ≠ some .kill)
    (effect : TextEffect env world type reqId payload after) : after.proc.kills = world.proc.kills := by
  cases effect with
  | talked talks => rw [talks.same]
  | operated _ _ effect talks =>
    rw [talks.same]
    cases effect with
    | nothing => rfl
    | opened => rfl
    | closed relayId =>
      have ending := portClose_ending world relayId
      generalize portfwdClose world relayId = result at ending ⊢
      cases ending <;> rfl
    | spawned => exact spawn_kills ..
  | began => rw [(putBegin_sameRest ..).proc]
  | downloaded => rw [(getBegin_effect env world reqId _ idle).2.proc]
  | spawned => exact spawn_kills ..
  | killed isKill => exact absurd isKill other

private theorem control_kills (env : Env) {world : World} (message : Message) (idle : world.download = transferInit) :
    (protocolHandleControl env world message).1.proc.kills = world.proc.kills ++
      logged env world.proc (if FrameType.ofCode message.type = some .kill ∧ env.alloc .payloadCopy = true ∧
        world.proc.active = true ∧ kvU32 (cstr message.payload) (ascii "proc_id") = some world.proc.procId then
        some .requested else none) := by
  by_cases isKill : FrameType.ofCode message.type = some .kill
  · rw [control_text (ofCode_some isKill).symm (by decide) (by decide)]
    simp only [isKill, true_and]
    cases copied : env.alloc .payloadCopy with
    | false => simp [logged, World.sendError]
    | true =>
      simp only [if_true, true_and]
      exact handleKill_kills ..
  · have effect := control_effect env world message
    generalize protocolHandleControl env world message = result at effect
    simp only [isKill, false_and, if_false, logged, Option.toList_none, List.map_nil, List.append_nil]
    cases effect with
    | chunk => rw [(putChunk_sameRest ..).proc]
    | ended => rw [(putEnd_sameRest ..).proc]
    | text _ effect => exact text_kills idle isKill effect

private theorem checkTimeouts_kills (env : Env) (world : World) : (procCheckTimeouts env world).proc.kills =
    world.proc.kills ++ logged env world.proc (timedOut env.now world.proc) := by
  have ending := checkTimeouts_ending env world
  generalize procCheckTimeouts env world = next at ending ⊢
  cases ending with
  | still inTime => simp [inTime, logged]
  | killed timed =>
    rw [timed]
    rfl

private theorem tick_kills (env : Env) {world : World} (idle : world.download = transferInit) :
    (heartbeatCb env world).proc.kills = world.proc.kills ++ logged env world.proc (killTried env world .tick) := by
  cases tick_step env idle with
  | closed closed same => simp [same, killTried, closed, logged]
  | idle live late shut => simp [shut, killTried, late, logged, World.close]
  | checked live early middle _ rest timed =>
    have tried : killTried env world .tick = timedOut env.now world.proc :=
      if_neg (by simp only [live, Bool.false_eq_true, false_or]; exact early)
    rw [timed, checkTimeouts_kills, rest.proc, tried]

private theorem close_kills (env : Env) (world : World) (name : SessionHandle) : (closeCb env world name).proc.kills =
    world.proc.kills ++ logged env world.proc (killTried env world (.closed name)) := by
  have ending := closeCb_ending env world name
  generalize closeCb env world name = next at ending ⊢
  cases ending with
  | plain _ shut other =>
    cases shut
    simp [killTried, other, logged]
  | dropped _ shut _ more =>
    cases shut
    simp [killTried, Int.not_le.mpr more, logged, unreferenced, World.setLife]
  | released _ shut closing last =>
    cases shut
    simp only [killTried, closing, last, true_and, releasedWorld, procAbort]
    split
    · rfl
    · simp [procReset, logged]

/-- Every callback kills where it is said to, and nowhere else. -/
theorem callback_kills (env : Env) {world : World} (event : Event) (idle : world.download = transferInit) :
    (callback env world event).proc.kills = world.proc.kills ++ logged env world.proc (killTried env world event) := by
  have quiet : world.proc.kills = world.proc.kills ++ logged env world.proc none := by simp [logged]
  cases event with
  | read action =>
    cases action with
    | dispatch message => exact @control_kills env (world.countFrame message) message idle
    | received | badHeader | overflow | hangup => exact quiet
  | tick => exact tick_kills env idle
  | written => exact quiet
  | exited status => exact (maybeFinalize_over rfl).2.2.trans quiet
  | output => exact quiet
  | ended pipe => exact (readEnd_undisturbed world pipe).kills.trans quiet
  | closed name => exact close_kills env world name

/-- A call of `uv_process_kill`: why it was made, and its result. -/
abbrev Attempt := KillReason × Int

/-- The calls a step makes. -/
def attempts (world : World) (input : Upload.Input) (_ : World) : List Attempt :=
  (killTried input.2 world input.1).toList.map fun reason => (reason, input.2.kill)

/-- The cause of the first kill that succeeded. -/
def firstCause (tries : List Attempt) : KillReason :=
  ((tries.find? fun attempt => attempt.2 = 0).map Prod.fst).getD .none

/-- The cause of the last kill that was tried. -/
def lastCause (tries : List Attempt) : KillReason := (tries.getLast?.map Prod.fst).getD .none

/-- How many of them a timeout caused. -/
def timeouts (tries : List Attempt) : Nat := tries.countP fun attempt => attempt.1 != .requested

private theorem lastCause_append (tries : List Attempt) (attempt : Attempt) :
    lastCause (tries ++ [attempt]) = attempt.1 := by
  simp [lastCause]

/-- What a run says about the child it begins with, as long as that child runs. -/
structure Reasoned (born : World) (tries : List Attempt) (world : World) : Prop where
  spawned : born.proc.spawned ≤ world.proc.spawned
  held : world.proc.spawned = born.proc.spawned → world.proc.active = true →
    world.proc.procId = born.proc.procId ∧ world.proc.killReason = lastCause tries ∧
      world.link.tally.session .processTimeouts = born.link.tally.session .processTimeouts + timeouts tries

private theorem reasoned_step {born world next : World} {tries : List Attempt} {input : Upload.Input}
    (reasoned : Reasoned born tries world) (idle : world.download = transferInit)
    (change : AgentChange input.2 world input.1 next) (stepped : agent.step world input = some next) :
    Reasoned born (tries ++ attempts world input next) next := by
  obtain ⟨event, env⟩ := input
  have kills : next.proc.kills = world.proc.kills ++ logged env world.proc (killTried env world event) := by
    obtain ⟨_, rfl⟩ := agent_step stepped
    exact callback_kills env event idle
  cases change with
  | exited _ _ _ isOver spawned =>
    refine ⟨reasoned.spawned.trans spawned.ge, fun _ active => ?_⟩
    rw [isOver] at active
    cases active
  | other _ change =>
    cases change with
    | kept same =>
      have untried : killTried env world event = none := by
        rw [same.kills] at kills
        simpa [logged] using kills
      refine ⟨reasoned.spawned.trans same.spawned.ge, fun spawned active => ?_⟩
      have running := same.active.symm.trans active
      obtain ⟨procId, killReason, counted⟩ := reasoned.held (same.spawned.symm.trans spawned) running
      obtain ⟨record, unnamed⟩ := same.record running
      simp only [attempts, untried, Option.toList_none, List.map_nil, List.append_nil]
      exact ⟨record.procId.trans procId, unnamed.trans killReason, same.counts.timeouts.trans counted⟩
    | killed reason _ running _ spawned log record killReason _ counts =>
      have tried : killTried env world event = some reason := by
        rw [log] at kills
        have same := List.append_cancel_left kills
        unfold logged at same
        cases found : killTried env world event with
        | none => simp [found] at same
        | some other =>
          simp [found] at same
          rw [same]
      refine ⟨reasoned.spawned.trans spawned.ge, fun same _ => ?_⟩
      obtain ⟨procId, _, counted⟩ := reasoned.held (spawned.symm.trans same) running
      simp only [attempts, tried, Option.toList_some, List.map_cons, List.map_nil]
      refine ⟨record.procId.trans procId, ?_, ?_⟩
      · rw [killReason, lastCause_append]
      · rw [counts.timeouts, counted, Nat.add_assoc, timeouts, timeouts, List.countP_append, List.countP_singleton]
        by_cases asked : reason = .requested <;> simp [asked]
    | failed _ still spawned =>
      refine ⟨reasoned.spawned.trans spawned.ge, fun _ active => ?_⟩
      rw [still] at active
      cases active
    | started _ _ spawned =>
      have earlier := reasoned.spawned
      exact ⟨by omega, fun same _ => by omega⟩

private theorem killReasonName_injective {left right : KillReason}
    (same : ascii (killReasonName left) = ascii (killReasonName right)) : left = right := by
  cases left <;> cases right <;> first | rfl | exact absurd same (by decide)

private theorem exitReply_reason {procId : UInt32} {status : Int} {left right : KillReason}
    (same : exitReply procId status left = exitReply procId status right) : left = right :=
  killReasonName_injective (List.append_cancel_left same)

private theorem exitCb_frames {env : Env} {world : World} {status : Int} {frame : Sent}
    (said : frame ∈ framesSince world.link (procExitCb env world status).link) :
    frame = ⟨FrameType.exit.code, world.proc.procId, exitReply world.proc.procId status world.proc.killReason⟩ := by
  rw [exitCb_link] at said
  split at said
  · simp [framesSince, diagCountProcessExit, Link.count] at said
  next payload formatted =>
    have queued := sendFrame_queued env (diagCountProcessExit world.link) FrameType.exit.code world.proc.procId payload
    rw [framesSince, sessionSendText, queued, diagCountProcessExit, Link.count, List.drop_left] at said
    split at said
    · rw [List.mem_singleton.mp said, (utilSnprintf_some formatted).1]
    · cases said

/-- The frame that announces the exit of a child gives the cause of the first kill
that succeeded, and at most one timeout was counted for the child, exactly when
the kill that was tried last has that cause and one heartbeat at most found the
child past a timeout. -/
theorem exit_truthful_iff {connectEnv env : Env} {sessionId : Nat} {counts : Tally} {fs : FileSystem} {engine : Engine}
    {start before born world final : World} {history later : List Upload.Input} {spawn : Upload.Input} {status : Int}
    {frame : Sent} (connected : onNewConnection connectEnv sessionId counts fs engine = some start)
    (begun : agent.run start history = some before) (spawns : agent.step before spawn = some born)
    (started : born.proc.spawned = before.proc.spawned + 1) (lived : agent.run born later = some world)
    (same : world.proc.spawned = born.proc.spawned) (exits : agent.step world (.exited status, env) = some final)
    (said : frame ∈ framesSince world.link final.link) :
    (frame = ⟨FrameType.exit.code, born.proc.procId,
        exitReply born.proc.procId status (firstCause (agent.gather attempts born later))⟩ ∧
      final.link.tally.session .processTimeouts ≤ born.link.tally.session .processTimeouts + 1) ↔
    lastCause (agent.gather attempts born later) = firstCause (agent.gather attempts born later) ∧
      timeouts (agent.gather attempts born later) ≤ 1 := by
  have arrived : agent.run start (history ++ [spawn]) = some born := by
    rw [agent.run_append, begun]
    exact (agent.run_singleton before spawn).trans spawns
  have unnamed : born.proc.killReason = .none := by
    cases run_change connected begun spawns with
    | exited _ _ _ _ spawned => omega
    | other _ change =>
      cases change with
      | kept same =>
        have := same.spawned
        omega
      | killed _ _ _ _ spawned => omega
      | failed _ _ spawned => omega
      | started _ _ _ _ _ killReason => exact killReason
  have reasoned : Reasoned born (agent.gather attempts born later) world := by
    refine agent.run_induction (fun past state => Reasoned born (agent.gather attempts born past) state)
      ⟨Nat.le_refl _, fun _ _ => ⟨rfl, unnamed, rfl⟩⟩ ?_ lived
    intro past middle input next reached reasoned stepped
    have whole : agent.run start ((history ++ [spawn]) ++ past) = some middle := by
      rw [agent.run_append, arrived]
      exact reached
    rw [agent.gather_step attempts reached stepped]
    exact reasoned_step reasoned (Upload.run_tracked connected whole).download (run_change connected whole stepped) stepped
  obtain ⟨enabled, rfl⟩ := agent_step exits
  simp only [Luagent.enabled, Bool.and_eq_true] at enabled
  obtain ⟨procId, killReason, counted⟩ := reasoned.held same enabled.1
  have counts := (ProcessCounts.of_counts (exitCb_counts env world status)).timeouts
  have final : (procExitCb env world status).link.tally.session .processTimeouts =
      born.link.tally.session .processTimeouts + timeouts (agent.gather attempts born later) := counts.trans counted
  rw [exitCb_frames said, procId, killReason]
  simp only [callback, final, Sent.mk.injEq, true_and]
  constructor
  · rintro ⟨reply, few⟩
    exact ⟨exitReply_reason reply, by omega⟩
  · rintro ⟨cause, few⟩
    exact ⟨by rw [cause], by omega⟩

def spawnBrief : Upload.Input := (Upload.request .procSpawn 7 (ascii "path=x\ntimeout_ms=1000"), {})

def briefBorn : World := (agent.step Upload.freshSession spawnBrief).get (by decide)

/-- Two heartbeats kill the child for its timeout, and a client's request to kill
it fails, all before the exit is notified. -/
def killedThrice : List Upload.Input :=
  [(.tick, { now := 2000 }), (.tick, { now := 3000 }), (Upload.request .kill 9 (ascii "proc_id=1"), { kill := -3 })]

def killedLate : World := (agent.run briefBorn killedThrice).get (by decide +kernel)

def exitedLate : World := (agent.step killedLate (.exited 0, {})).get (by decide +kernel)

theorem failed_kill_named :
    agent.step Upload.freshSession spawnBrief = some briefBorn ∧ agent.run briefBorn killedThrice = some killedLate ∧
    agent.step killedLate (.exited 0, {}) = some exitedLate ∧
    agent.gather attempts briefBorn killedThrice = [(.timeout, 0), (.timeout, 0), (.requested, -3)] ∧
    framesSince killedLate.link exitedLate.link = [⟨FrameType.exit.code, 1, exitReply 1 0 .requested⟩] ∧
    firstCause (agent.gather attempts briefBorn killedThrice) = .timeout ∧
    briefBorn.link.tally.session .processTimeouts = 0 ∧ exitedLate.link.tally.session .processTimeouts = 2 :=
  ⟨(Option.some_get (by decide)).symm, (Option.some_get (by decide +kernel)).symm,
   (Option.some_get (by decide +kernel)).symm,
    by decide +kernel, by decide +kernel, by decide +kernel, by decide +kernel, by decide +kernel⟩

/-- One request to kill the child, which succeeds. -/
def killedOnce : List Upload.Input := [(.tick, { now := 500 }), (Upload.request .kill 9 (ascii "proc_id=1"), {})]

def killedSoon : World := (agent.run briefBorn killedOnce).get (by decide +kernel)

def exitedSoon : World := (agent.step killedSoon (.exited 0, {})).get (by decide +kernel)

theorem exit_truthful_killed :
    (⟨FrameType.exit.code, 1, exitReply 1 0 .requested⟩ : Sent) =
        ⟨FrameType.exit.code, briefBorn.proc.procId,
          exitReply briefBorn.proc.procId 0 (firstCause (agent.gather attempts briefBorn killedOnce))⟩ ∧
      exitedSoon.link.tally.session .processTimeouts ≤ briefBorn.link.tally.session .processTimeouts + 1 := by
  have connected : onNewConnection {} 1 {} .empty portfwdEngineInit = some Upload.freshSession :=
    (Option.some_get (by decide)).symm
  exact (@exit_truthful_iff _ _ _ _ _ _ _ _ briefBorn killedSoon exitedSoon [] killedOnce spawnBrief 0 _ connected rfl
    (Option.some_get (by decide)).symm (by decide) (Option.some_get (by decide +kernel)).symm (by decide +kernel)
    (Option.some_get (by decide +kernel)).symm (by decide +kernel)).mpr ⟨by decide +kernel, by decide +kernel⟩

end Luagent.Proofs.ExitReason
