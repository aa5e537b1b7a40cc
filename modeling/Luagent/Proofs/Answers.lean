import Luagent.Proofs.Speech
import Luagent.Proofs.UploadSoundness

/-! One answer per request. The exception is the operation `tool.run`: a spawn
that fails reports its error itself, under request number 0, and then fails
upwards, where it is reported again. -/

namespace Luagent.Proofs.Answers
open Foundation

/-- The answers queued between two states. -/
def answersSince (before after : Link) : List Sent := (framesSince before after).filter isAnswer

/-- The frames that ask for one answer: all but the chunks of an upload and the
requests for a file. -/
def callsForAnswer (message : Message) : Bool :=
  message.type != FrameType.putChunk.code && message.type != FrameType.getBegin.code

/-- A `tool.run` that gets as far as `proc_spawn_common` and fails there. -/
def failingRun (env : Env) (world : World) (message : Message) : Bool :=
  message.type == FrameType.op.code && env.alloc .payloadCopy &&
    runFails env world.proc (parseKv (cstr message.payload)) (requestedOp (cstr message.payload))

private theorem answersSince_speaks {env : Env} {before after : Link} {frames : List Sent}
    (speaks : Speaks env before frames after) (answers : ∀ frame ∈ frames, isAnswer frame = true) :
    answersSince before after = frames := by
  unfold answersSince
  rw [speaks.since]
  exact List.filter_eq_self.mpr answers

private theorem answersSince_replies {env : Env} {reqId : UInt32} {before after : Link} (serves : Serves env)
    (live : after.life.closed = false) (replies : Replies env reqId before after) :
    ∃ frame, answersSince before after = [frame] ∧ frame.reqId = reqId := by
  obtain ⟨frames, speaks, answers, one⟩ := replies
  obtain ⟨frame, rfl⟩ := List.length_eq_one_iff.mp (one serves live)
  refine ⟨frame, ?_, (answers frame (by simp)).2⟩
  exact answersSince_speaks speaks fun other member => (answers other member).1

section control
variable (env : Env) (world : World) (message : Message)

private theorem handleText_replies {type : Option FrameType} {reqId : UInt32} {payload : Bytes}
    (file : type ≠ some .getBegin)
    (works : type = some .op → runFails env world.proc (parseKv payload) (requestedOp payload) = false) :
    Replies env reqId world.link (handleText env world type reqId payload).1.link := by
  unfold handleText
  split
  · exact .sendFrame world.link .ack _ (by rfl) (by decide)
  · exact .sendFrame world.link .pong _ (by rfl) (by decide)
  · obtain ⟨middle, said, replies⟩ := handleOp_speech env world reqId payload
    cases said with
    | nothing _ silent => exact replies.silent_first silent
    | failed failed => rw [works rfl] at failed; cases failed
  · exact putBegin_replies ..
  · exact absurd rfl file
  · exact handleSpawn_replies ..
  · exact handleKill_replies ..
  · exact .silent_first (by exact {}) (.sendConstant (diagCountProtocolError world.link) _ _)

private theorem control_replies (calls : callsForAnswer message = true) (works : failingRun env world message = false) :
    Replies env message.reqId world.link (protocolHandleControl env world message).1.link := by
  simp only [callsForAnswer, Bool.and_eq_true, bne_iff_ne, ne_eq] at calls
  have ending := control_ending env world message
  generalize protocolHandleControl env world message = result at ending ⊢
  cases ending with
  | chunk found => exact absurd (ofCode_some found).symm calls.1
  | ended => exact putEnd_replies ..
  | uncopied => exact .sendConstant world.link _ _
  | text _ _ copied =>
    refine handleText_replies env world ?_ ?_
    · intro found
      exact calls.2 (ofCode_some found).symm
    · intro found
      simpa [failingRun, copied, ← ofCode_some found] using works

/-- Short of a failing spawn, all that is said belongs to the request. -/
theorem control_serving (works : failingRun env world message = false) :
    Serving env message.reqId world.link (protocolHandleControl env world message).1.link := by
  by_cases calls : callsForAnswer message = true
  · exact .of_replies (control_replies env world message calls works)
  · by_cases chunk : message.type = FrameType.putChunk.code
    · rw [control_chunk chunk]
      exact putChunk_serving ..
    · have file : message.type = FrameType.getBegin.code := by
        by_contra other
        exact calls (by simp [callsForAnswer, chunk, other])
      rw [control_text file (by decide) (by decide)]
      split
      · exact getBegin_serving ..
      · exact .sendError ..

private theorem control_repeats (fails : failingRun env world message = true) : ∃ middle, Replies env 0 world.link middle ∧
    Replies env message.reqId middle (protocolHandleControl env world message).1.link := by
  simp only [failingRun, Bool.and_eq_true, beq_iff_eq] at fails
  obtain ⟨⟨isOp, copied⟩, fails⟩ := fails
  obtain ⟨middle, said, replies⟩ := handleOp_speech env world message.reqId (cstr message.payload)
  refine ⟨middle, ?_, ?_⟩
  · cases said with
    | nothing works => rw [fails] at works; cases works
    | failed _ first => exact first
  · rw [control_text isOp (by decide) (by decide), if_pos copied]
    exact replies

end control

/-- Handling a request queues one answer, with the request's number, unless it is
a `tool.run` whose spawn fails. -/
theorem one_answer_iff {env : Env} {world next : World} {message : Message}
    (executed : agent.step world (.read (.dispatch message), env) = some next) (serves : Serves env)
    (calls : callsForAnswer message = true) (live : next.link.life.closed = false) :
    (∃ frame, answersSince world.link next.link = [frame] ∧ frame.reqId = message.reqId) ↔
      failingRun env world message = false := by
  obtain ⟨_, rfl⟩ := agent_step executed
  have counted : Silent world.link (world.countFrame message).link := {}
  have same : failingRun env (world.countFrame message) message = failingRun env world message := rfl
  constructor
  · rintro ⟨frame, only, _⟩
    apply Bool.eq_false_of_not_eq_true
    intro fails
    obtain ⟨middle, first, second⟩ := control_repeats env (world.countFrame message) message (same.trans fails)
    obtain ⟨later, speaksLater, answersLater, oneLater⟩ := second
    obtain ⟨earlier, speaks, answers, one⟩ := first.silent_first counted
    have both := answersSince_speaks (speaks.trans speaksLater) (by
      intro sent member
      rcases List.mem_append.mp member with member | member
      · exact (answers sent member).1
      · exact (answersLater sent member).1)
    have two : (earlier ++ later).length = 2 := by
      rw [List.length_append, one serves (speaksLater.live live), oneLater serves live]
    have single : (earlier ++ later).length = 1 := by
      rw [← both]
      exact congrArg List.length only
    omega
  · intro works
    exact answersSince_replies serves live ((control_replies env _ message calls (same.trans works)).silent_first counted)

/-- A client asks for a child twice, first with a frame of its own. -/
def runTwice : List Upload.Input := [(Upload.spawnX, {})]

def running : World := (agent.run Upload.freshSession runTwice).get (by decide)

def toolRun : Message := ⟨FrameType.op.code, 8, ascii "name=tool.run\npath=x", by decide⟩

def refusedRun : World := (agent.step running (.read (.dispatch toolRun), {})).get (by decide +kernel)

theorem failed_run_answered_twice :
    agent.run Upload.freshSession runTwice = some running ∧
    agent.step running (.read (.dispatch toolRun), {}) = some refusedRun ∧ Serves {} ∧
    refusedRun.link.life.closed = false ∧ callsForAnswer toolRun = true ∧
    (answersSince running.link refusedRun.link).map (fun frame => (frame.type, frame.reqId)) =
      [(FrameType.error.code, 0), (FrameType.error.code, 8)] ∧
    ¬ ∃ frame, answersSince running.link refusedRun.link = [frame] ∧ frame.reqId = toolRun.reqId := by
  have answers : (answersSince running.link refusedRun.link).map (fun frame => (frame.type, frame.reqId)) =
      [(FrameType.error.code, 0), (FrameType.error.code, 8)] := by decide +kernel
  refine ⟨(Option.some_get (by decide)).symm, (Option.some_get (by decide +kernel)).symm, serves_default,
    by decide +kernel, by decide,
    answers, ?_⟩
  rintro ⟨frame, only, _⟩
  rw [only] at answers
  simp at answers

def startedRun : World := (agent.step Upload.freshSession (.read (.dispatch toolRun), {})).get (by decide)

theorem one_answer_iff_run :
    ∃ frame, answersSince Upload.freshSession.link startedRun.link = [frame] ∧ frame.reqId = toolRun.reqId :=
  (one_answer_iff (Option.some_get (by decide)).symm serves_default (by decide) (by decide +kernel)).mpr (by decide)

end Luagent.Proofs.Answers
