import Luagent.Dialogue
import Luagent.Foundation.Lookup
import Luagent.Proofs.Answers
import Luagent.Proofs.IdleClient

/-! Which frames of the agent the client's calls return. Agent and client number
their frames in one space, each on its own: the agent its PINGs from 1, the client
its requests from 1000. The agent answers a PONG with an error, under the number of
the PING. -/

namespace Luagent.Proofs.Correlation
open Foundation Client

/-- The tick sends a PING, if memory and libuv let it. -/
def pings (env : Env) (world : World) : Bool :=
  !world.link.life.closed && !decide (world.idlesOut env.now) &&
    decide (heartbeatIdleMs ≤ elapsedMs env.now world.link.lastTxMs)

/-- The frames of one callback. A PING is sent by a tick and has the next number. -/
theorem step_frames {env : Env} {world next : World} {event : Event}
    (stepped : agent.step world (event, env) = some next) :
    ∃ frames, next.link.queued = world.link.queued ++ frames ∧ ∀ frame ∈ frames, Spoken env world event frame ∧
      (frame.type = FrameType.ping.code → event = .tick ∧ pings env world = true ∧ frame.reqId = world.nextReqId) := by
  obtain ⟨_, rfl⟩ := agent_step stepped
  by_cases written : ∃ write, event = .written write
  · obtain ⟨write, rfl⟩ := written
    exact ⟨[], by simp [callback, onWriteDone, Link.uvWritten], by simp⟩
  · obtain ⟨frames, speaks, spoken⟩ := callback_speech env world (not_exists.mp written)
    refine ⟨frames, speaks.queued, fun frame member => ⟨spoken frame member, fun ping => ?_⟩⟩
    have said := spoken frame member
    have tick := Heartbeat.spoken_ping said ping
    subst tick
    refine ⟨rfl, ?_, ?_⟩
    · by_contra quiet
      have early : heartbeatIdleMs ≤ elapsedMs env.now world.link.lastTxMs →
          world.link.life.closed = true ∨ world.idlesOut env.now := by
        simp only [pings, Bool.and_eq_true, Bool.not_eq_true', decide_eq_false_iff_not, decide_eq_true_eq] at quiet
        grind
      obtain ⟨errors, queued, all⟩ := Heartbeat.tick_complains early
      have same := List.append_cancel_left (speaks.queued.symm.trans queued)
      rw [all frame (same ▸ member)] at ping
      exact absurd ping (by decide)
    · cases said with
      | ping => rfl
      | stalled => exact absurd (show FrameType.error.code = FrameType.ping.code from ping) (by decide)

private theorem dispatch_belongs {env : Env} {world next : World} {message : Message}
    (stepped : agent.step world (.read (.dispatch message), env) = some next)
    (works : Answers.failingRun env world message = false) {frames : List Sent}
    (queued : next.link.queued = world.link.queued ++ frames) : ∀ frame ∈ frames, frame.reqId = message.reqId := by
  obtain ⟨_, rfl⟩ := agent_step stepped
  obtain ⟨said, speaks, belong⟩ := Answers.control_serving env (world.countFrame message) message works
  have same : said = frames := List.append_cancel_left (speaks.queued.symm.trans queued)
  intro frame member
  exact (belong frame (same ▸ member)).1

private theorem upload_origin {start world next : World} {history : List Upload.Input} {event : Event} {env : Env}
    (tracked : Upload.Tracked start history world) (stepped : agent.step world (event, env) = some next)
    (active : next.upload.active = true) :
    world.upload.active = true ∧ next.upload.reqId = world.upload.reqId ∨
      world.upload.active = false ∧ ∃ message, event = .read (.dispatch message) ∧ next.upload.reqId = message.reqId := by
  have gone : next.upload ≠ transferInit := fun none => by
    rw [none] at active
    cases active
  rcases tracked.upload with idle | ⟨path, fd, file, received, progress⟩
  · cases (idle_step tracked.download idle stepped).2 with
    | idle upload => exact absurd upload gone
    | failed _ _ _ _ _ upload => exact absurd upload gone
    | opened message path size isFrame _ _ _ upload => exact .inr ⟨by rw [idle]; rfl, message, isFrame, by rw [upload]; rfl⟩
  · have uploading := progress.uploading
    cases (upload_step tracked.download uploading stepped).2 with
    | kept _ upload => exact .inl ⟨uploading.active, by rw [upload]⟩
    | stored _ _ _ _ upload => exact .inl ⟨uploading.active, by rw [upload]⟩
    | dropped upload => exact absurd upload gone
    | unmoved _ _ _ _ _ _ _ upload => exact absurd upload gone
    | finished _ _ _ _ _ _ upload => exact absurd upload gone

def isFiled (frame : Sent) : Bool := !(frame.type == FrameType.ping.code) && !isStream frame.type

/-- Every frame the reader files answers a frame that the client sent, under the
number of that frame or under 0. -/
structure Attributed (start : World) (state : Dialogue) : Prop where
  reached : ∃ history, agent.run start history = some state.world
  aligned : state.causes.length = state.world.link.queued.length
  answers : ∀ (place : Nat) (frame : Sent), state.world.link.queued[place]? = some frame → isFiled frame = true →
    ∃ (cause : Nat) (request : Sent), state.causes[place]? = some (some cause) ∧ state.client.sent[cause]? = some request ∧
      (frame.reqId = request.reqId ∨ frame.reqId = 0)
  filed : ∀ reqId filed, state.client.pending reqId = some filed →
    ∃ frame, state.world.link.queued[filed.place]? = some frame ∧ isFiled frame = true ∧ frame.reqId.toNat = reqId ∧
      frame.type = filed.type ∧ frame.payload = filed.payload
  upload : state.world.upload.active = true →
    ∃ (cause : Nat) (request : Sent), state.began = some cause ∧ state.client.sent[cause]? = some request ∧
      request.reqId = state.world.upload.reqId

def Handles (state : Dialogue) (event : Event) : Prop :=
  ∀ message, event = .read (.dispatch message) →
    state.client.sent[state.handled]? = some ⟨message.type, message.reqId, message.payload⟩

namespace Attributed
variable {start : World} {state : Dialogue}

/-- What a frame that will be filed answers. -/
theorem cause_of_spoken (attributed : Attributed start state) {env : Env} {event : Event} {frame : Sent}
    (idle : state.world.download = transferInit) (handles : Handles state event)
    (spoken : Spoken env state.world event frame) (isFiled : isFiled frame = true) :
    ∃ (cause : Nat) (request : Sent), state.cause event frame = some cause ∧ state.client.sent[cause]? = some request ∧
      (frame.reqId = request.reqId ∨ frame.reqId = 0 ∧ ∃ message, event = .read (.dispatch message)) := by
  cases spoken with
  | @served message _ belongs => exact ⟨state.handled, _, rfl, handles message rfl, .inl belongs.1⟩
  | @unlabelled message _ _ _ _ zero => exact ⟨state.handled, _, rfl, handles message rfl, .inr ⟨zero, message, rfl⟩⟩
  | ping => cases isFiled
  | stalled slot stalled payload =>
    rcases slot with rfl | rfl
    · have active : state.world.upload.active = true := by
        simp only [transferStalled, Bool.and_eq_true] at stalled
        exact stalled.1.1
      obtain ⟨cause, request, began, sent, same⟩ := attributed.upload active
      exact ⟨cause, request, began, sent, .inl same.symm⟩
    · simp [transferStalled, idle, transferInit] at stalled
  | exit => cases isFiled
  | output pipe => cases pipe <;> cases isFiled

theorem advance (attributed : Attributed start state) {connectEnv : Env} {sessionId : Nat} {counts : Tally}
    {fs : FileSystem} {engine : Engine} (connected : onNewConnection connectEnv sessionId counts fs engine = some start)
    {event : Event} {env : Env} {world : World} (stepped : agent.step state.world (event, env) = some world)
    (handles : Handles state event) (handled : Nat) :
    Attributed start { state.advance event world with handled } := by
  obtain ⟨history, executed⟩ := attributed.reached
  have tracked := Upload.run_tracked connected executed
  obtain ⟨frames, queued, spoken⟩ := step_frames stepped
  refine ⟨⟨history ++ [(event, env)], ?_⟩, ?_, ?_, ?_, ?_⟩
  · rw [agent.run_append, executed, Option.bind_some, agent.run_singleton]
    exact stepped
  · simp only [Dialogue.advance, framesSince, queued, List.drop_left, List.length_append, List.length_map, attributed.aligned]
  · intro place frame found isFiled
    simp only [Dialogue.advance, framesSince, queued, List.drop_left] at found ⊢
    rcases getElem?_append_cases (state.cause event) attributed.aligned found with old | ⟨member, cause⟩
    · obtain ⟨cause, request, known, rest⟩ := attributed.answers place frame old isFiled
      exact ⟨cause, request, getElem?_append_some known _, rest⟩
    · obtain ⟨origin, request, same, sent, number⟩ :=
        attributed.cause_of_spoken tracked.download handles (spoken frame member).1 isFiled
      exact ⟨origin, request, cause.trans (by rw [same]), sent, number.imp_right (·.1)⟩
  · intro reqId filed held
    obtain ⟨frame, found, rest⟩ := attributed.filed reqId filed held
    refine ⟨frame, ?_, rest⟩
    simp only [Dialogue.advance, queued]
    exact getElem?_append_some found frames
  · intro active
    rcases upload_origin tracked stepped active with ⟨before, same⟩ | ⟨before, message, isFrame, same⟩
    · obtain ⟨cause, request, began, rest⟩ := attributed.upload before
      refine ⟨cause, request, ?_, rest.1, rest.2.trans same.symm⟩
      simp only [Dialogue.advance, before, Bool.not_true, Bool.and_false, Bool.false_eq_true, if_false, began]
    · refine ⟨state.handled, _, ?_, handles message isFrame, same.symm⟩
      have active : world.upload.active = true := active
      simp only [Dialogue.advance, active, before, Bool.not_false, Bool.and_self, if_true]

/-- The client sends more or files what it read. -/
theorem withClient (attributed : Attributed start state) {client : Connection} (more : List Sent)
    (sent : client.sent = state.client.sent ++ more)
    (filed : ∀ reqId filed, client.pending reqId = some filed → state.client.pending reqId = some filed ∨
      ∃ frame, state.world.link.queued[filed.place]? = some frame ∧ isFiled frame = true ∧ frame.reqId.toNat = reqId ∧
        frame.type = filed.type ∧ frame.payload = filed.payload) : Attributed start { state with client } := by
  refine ⟨attributed.reached, attributed.aligned, ?_, ?_, ?_⟩
  · intro place frame found isFiled
    obtain ⟨cause, request, known, was, rest⟩ := attributed.answers place frame found isFiled
    exact ⟨cause, request, known, by simp only [sent, getElem?_append_some was], rest⟩
  · intro reqId entry held
    rcases filed reqId entry held with old | new
    · exact attributed.filed reqId entry old
    · exact new
  · intro active
    obtain ⟨cause, request, began, was, rest⟩ := attributed.upload active
    exact ⟨cause, request, began, by simp only [sent, getElem?_append_some was], rest⟩

theorem read (attributed : Attributed start state) {frame : Sent} (arriving : state.arriving = some frame) :
    Attributed start { state with client := state.client.read frame } := by
  unfold Connection.read
  simp only
  split
  next => exact attributed.withClient [pongFrame frame.reqId] rfl fun _ _ held => .inl held
  next other =>
    split
    next => exact attributed.withClient [] (List.append_nil _).symm fun _ _ held => .inl held
    next unstreamed =>
      refine attributed.withClient [] (List.append_nil _).symm fun reqId filed held => ?_
      rcases update_eq_some held with ⟨rfl, rfl⟩ | ⟨_, held⟩
      · exact .inr ⟨frame, arriving, by simp [isFiled, other, unstreamed], rfl, rfl, rfl⟩
      · exact .inl held

end Attributed

/-- What one move does. -/
inductive MoveEffect (state : Dialogue) (move : Move) (next : Dialogue) : Prop where
  | advanced (event : Event) (env : Env) (world : World) (handled : Nat)
      (stepped : agent.step state.world (event, env) = some world)
      (same : next = { state.advance event world with handled }) (handles : Handles state event)
      (tick : event = .tick → move = .callback .tick env)
      (frame : ∀ message, event = .read (.dispatch message) → move = .dispatch env)
  | greeted (same : next = { state with
      client := { state.client with greeted := true, received := state.client.received + 1 } })
  | read (frame : Sent) (arriving : state.arriving = some frame)
      (same : next = { state with client := state.client.read frame })
  | numbered (type : UInt8) (payload : Bytes) (same : next = { state with client := state.client.number type payload })
  | transmitted (reqId : Nat) (type : UInt8) (payload : Bytes)
      (call : state.client.calls reqId = some (.numbered type payload)) (small : reqId < 2 ^ 32)
      (same : next = { state with client := { state.client with
        sent := state.client.sent ++ [⟨type, reqId.toUInt32, payload⟩]
        calls := Function.update state.client.calls reqId (some (.waiting state.client.sent.length)) } })
  | returned (reqId place : Nat) (filed : Filed) (call : state.client.calls reqId = some (.waiting place))
      (held : state.client.pending reqId = some filed)
      (same : next = { state with client := { state.client with
        pending := Function.update state.client.pending reqId none
        calls := Function.update state.client.calls reqId (some .over)
        returned := state.client.returned ++ [⟨reqId, place, filed⟩] } })
  | gaveUp (reqId : Nat) (call : Call) (found : state.client.calls reqId = some call)
      (same : next = { state with client := { state.client with
        calls := Function.update state.client.calls reqId (some .over) } })

private theorem dispatch_effect {state next : Dialogue} {env : Env} (moved : state.dispatch env = some next) :
    MoveEffect state (.dispatch env) next := by
  unfold Dialogue.dispatch at moved
  split at moved
  · cases moved
  next frame sent =>
    split at moved
    · split at moved
      · cases moved
      · obtain ⟨world, stepped, rfl⟩ := Option.map_eq_some_iff.mp moved
        refine .advanced _ env world (state.handled + 1) stepped rfl ?_ (by nofun) fun _ _ => rfl
        rintro _ ⟨rfl⟩
        exact sent
    · cases moved

private theorem callback_effect {state next : Dialogue} {event : Event} {env : Env}
    (moved : state.move (.callback event env) = some next) : MoveEffect state (.callback event env) next := by
  have other : ∀ message, event ≠ .read (.dispatch message) := by
    rintro message rfl
    cases moved
  have same : state.move (.callback event env) = (agent.step state.world (event, env)).map (state.advance event) := by
    unfold Dialogue.move
    split
    next isFrame =>
      cases isFrame
      exact absurd rfl (other _)
    next isCallback =>
      cases isCallback
      rfl
    all_goals contradiction
  rw [same] at moved
  obtain ⟨world, stepped, rfl⟩ := Option.map_eq_some_iff.mp moved
  refine .advanced event env world state.handled stepped rfl (fun message frame => absurd frame (other message)) ?_ ?_
  · rintro rfl
    rfl
  · exact fun message frame => absurd frame (other message)

private theorem move_effect {state next : Dialogue} {move : Move} (moved : dialogue.step state move = some next) :
    MoveEffect state move next := by
  have moved : state.move move = some next := moved
  cases move with
  | callback event env => exact callback_effect moved
  | dispatch env => exact dispatch_effect moved
  | greet =>
    simp only [Dialogue.move] at moved
    split at moved
    · cases moved
    · split at moved
      · exact .greeted (Option.some.inj moved).symm
      · cases moved
  | read =>
    simp only [Dialogue.move] at moved
    split at moved
    · cases moved
    next frame arriving =>
      split at moved
      · exact .read frame arriving (Option.some.inj moved).symm
      · cases moved
  | number type payload =>
    simp only [Dialogue.move] at moved
    split at moved
    · exact .numbered type payload (Option.some.inj moved).symm
    · cases moved
  | transmit reqId =>
    obtain ⟨client, sent, rfl⟩ := Option.map_eq_some_iff.mp moved
    unfold Connection.transmit at sent
    split at sent
    next type payload call =>
      split at sent
      next small =>
        cases sent
        exact .transmitted reqId type payload call small rfl
      next => cases sent
    · cases sent
  | poll reqId =>
    obtain ⟨client, polled, rfl⟩ := Option.map_eq_some_iff.mp moved
    unfold Connection.poll at polled
    split at polled
    next place filed call held =>
      cases polled
      exact .returned reqId place filed call held rfl
    · cases polled
  | giveUp reqId =>
    obtain ⟨client, ended, rfl⟩ := Option.map_eq_some_iff.mp moved
    unfold Connection.giveUp at ended
    split at ended
    next isOpen =>
      cases ended
      obtain ⟨call, found, _⟩ := (Option.any_eq_true _ _).mp isOpen
      exact .gaveUp reqId call found rfl
    · cases ended

theorem Attributed.moved {start : World} {state next : Dialogue} {move : Move} {connectEnv : Env} {sessionId : Nat}
    {counts : Tally} {fs : FileSystem} {engine : Engine}
    (connected : onNewConnection connectEnv sessionId counts fs engine = some start) (attributed : Attributed start state)
    (effect : MoveEffect state move next) : Attributed start next := by
  have unsent : state.client.sent = state.client.sent ++ [] := (List.append_nil _).symm
  cases effect with
  | advanced event env world handled stepped same handles =>
    rw [same]
    exact attributed.advance connected stepped handles handled
  | greeted same =>
    rw [same]
    exact attributed.withClient [] unsent fun _ _ held => .inl held
  | read frame arriving same =>
    rw [same]
    exact attributed.read arriving
  | numbered type payload same =>
    rw [same]
    exact attributed.withClient [] unsent fun _ _ held => .inl held
  | transmitted reqId type payload _ _ same =>
    rw [same]
    exact attributed.withClient _ rfl fun _ _ held => .inl held
  | returned reqId place filed _ _ same =>
    rw [same]
    refine attributed.withClient [] unsent fun other entry held => .inl ?_
    by_cases equal : other = reqId
    · subst equal
      simp only [Function.update_self] at held
      cases held
    · simpa only [Function.update_of_ne equal] using held
  | gaveUp reqId _ _ same =>
    rw [same]
    exact attributed.withClient [] unsent fun _ _ held => .inl held

/-- What a call returned is the agent's answer to the frame of this very call. -/
structure Correlated (state : Dialogue) (returned : Returned) : Prop where
  request : ∃ type payload, state.client.sent[returned.place]? = some ⟨type, returned.reqId.toUInt32, payload⟩
  answer : state.world.link.queued[returned.filed.place]? =
    some ⟨returned.filed.type, returned.reqId.toUInt32, returned.filed.payload⟩
  cause : state.causes[returned.filed.place]? = some (some returned.place)

/-- No open call shares its number with another frame that the client sent or is
about to send. -/
structure Distinct (state : Dialogue) : Prop where
  first : 1000 ≤ state.client.nextReqId
  numbers : ∀ {place : Nat} {frame : Sent}, state.client.sent[place]? = some frame →
    frame.reqId.toNat < state.client.nextReqId
  calls : ∀ {reqId call}, state.client.calls reqId = some call → 1000 ≤ reqId ∧ reqId < state.client.nextReqId
  unsent : ∀ {reqId type payload}, state.client.calls reqId = some (.numbered type payload) →
    ∀ {place : Nat} {frame : Sent}, state.client.sent[place]? = some frame → frame.reqId.toNat ≠ reqId
  request : ∀ {reqId place}, state.client.calls reqId = some (.waiting place) →
    ∃ type payload, state.client.sent[place]? = some ⟨type, reqId.toUInt32, payload⟩
  alone : ∀ {reqId place}, state.client.calls reqId = some (.waiting place) →
    ∀ {other : Nat} {frame : Sent}, state.client.sent[other]? = some frame → frame.reqId.toNat = reqId → other = place
  pings : ∀ frame ∈ state.world.link.queued, frame.type = FrameType.ping.code →
    frame.reqId.toNat < state.client.nextReqId ∧
      ∀ call, state.client.calls frame.reqId.toNat = some call → call.isOpen = false
  returned : ∀ returned ∈ state.client.returned, Correlated state returned

/-- The number of the PING that a tick is about to send belongs to no call that is
open or still to come. -/
def PingsApart (state : Dialogue) (move : Move) : Prop :=
  ∀ env, move = .callback .tick env → pings env state.world = true →
    state.world.nextReqId.toNat < state.client.nextReqId ∧
      ∀ call, state.client.calls state.world.nextReqId.toNat = some call → call.isOpen = false

private theorem distinct_start (world : World) (silent : world.link.queued = []) : Distinct (.start world) where
  first := Nat.le_refl _
  numbers := by
    intro place frame found
    match place with
    | 0 =>
      cases found
      exact (by decide : helloFrame.reqId.toNat < Connection.start.nextReqId)
    | _ + 1 => cases found
  calls := nofun
  unsent := nofun
  request := nofun
  alone := nofun
  pings := by
    intro frame member
    rw [Dialogue.start, silent] at member
    cases member
  returned := nofun

theorem Correlated.grows {state next : Dialogue} {returned : Returned} (correlated : Correlated state returned)
    {sent queued : List Sent} {causes : List (Option Nat)} (moreSent : next.client.sent = state.client.sent ++ sent)
    (moreQueued : next.world.link.queued = state.world.link.queued ++ queued)
    (moreCauses : next.causes = state.causes ++ causes) : Correlated next returned := by
  obtain ⟨type, payload, found⟩ := correlated.request
  refine ⟨⟨type, payload, ?_⟩, ?_, ?_⟩
  · rw [moreSent]
    exact getElem?_append_some found sent
  · rw [moreQueued]
    exact getElem?_append_some correlated.answer queued
  · rw [moreCauses]
    exact getElem?_append_some correlated.cause causes

theorem toUInt32_toNat {reqId : Nat} (small : reqId < 2 ^ 32) : reqId.toUInt32.toNat = reqId := by
  simp only [Nat.toUInt32, UInt32.toNat_ofNat']
  exact Nat.mod_eq_of_lt small

namespace Distinct
variable {state : Dialogue}

theorem advance (distinct : Distinct state) {event : Event} {env : Env} {world : World} {move : Move}
    (stepped : agent.step state.world (event, env) = some world)
    (tick : event = .tick → move = .callback .tick env) (apart : PingsApart state move) (handled : Nat) :
    Distinct { state.advance event world with handled } := by
  obtain ⟨frames, queued, spoken⟩ := step_frames stepped
  refine ⟨distinct.first, distinct.numbers, distinct.calls, distinct.unsent, distinct.request, distinct.alone, ?_, ?_⟩
  · intro frame member ping
    have member : frame ∈ state.world.link.queued ++ frames := queued ▸ member
    rcases List.mem_append.mp member with old | new
    · exact distinct.pings frame old ping
    · obtain ⟨isTick, due, number⟩ := (spoken frame new).2 ping
      rw [number]
      exact apart env (tick isTick) due
  · intro returned member
    exact (distinct.returned returned member).grows (List.append_nil _).symm queued rfl

/-- The client sends frames whose numbers belong to no call that is open or still to come. -/
theorem withClient (distinct : Distinct state) {client : Connection} (more : List Sent)
    (sent : client.sent = state.client.sent ++ more)
    (apart : ∀ frame ∈ more, frame.reqId.toNat < state.client.nextReqId ∧
      ∀ call, state.client.calls frame.reqId.toNat = some call → call.isOpen = false)
    (same : client.nextReqId = state.client.nextReqId) (calls : client.calls = state.client.calls)
    (returned : client.returned = state.client.returned) : Distinct { state with client } := by
  refine ⟨same ▸ distinct.first, ?_, ?_, ?_, ?_, ?_, ?_, ?_⟩
  · intro place frame found
    simp only [sent, same] at found ⊢
    rcases mem_of_getElem?_append found with old | new
    · exact distinct.numbers old
    · exact (apart frame new).1
  · intro reqId call held
    simp only [calls, same] at held ⊢
    exact distinct.calls held
  · intro reqId type payload held place frame found
    simp only [calls, sent] at held found
    rcases mem_of_getElem?_append found with old | new
    · exact distinct.unsent held old
    · rintro rfl
      cases (apart frame new).2 _ held
  · intro reqId place held
    simp only [calls] at held
    obtain ⟨type, payload, found⟩ := distinct.request held
    exact ⟨type, payload, by simp only [sent, getElem?_append_some found]⟩
  · intro reqId place held other frame found number
    simp only [calls, sent] at held found
    rcases mem_of_getElem?_append found with old | new
    · exact distinct.alone held old number
    · subst number
      cases (apart frame new).2 _ held
  · intro frame member ping
    simp only [calls, same]
    exact distinct.pings frame member ping
  · intro entry member
    simp only [returned] at member
    exact (distinct.returned entry member).grows sent (List.append_nil _).symm (List.append_nil _).symm

theorem read (distinct : Distinct state) {frame : Sent} (arriving : state.arriving = some frame) :
    Distinct { state with client := state.client.read frame } := by
  unfold Connection.read
  simp only
  split
  next ping =>
    refine distinct.withClient [pongFrame frame.reqId] rfl ?_ rfl rfl rfl
    intro pong member
    rw [List.mem_singleton.mp member]
    exact distinct.pings frame (List.mem_of_getElem? arriving) ping
  next => split <;> exact distinct.withClient [] (List.append_nil _).symm (by simp) rfl rfl rfl

/-- A call takes the next number. -/
theorem number (distinct : Distinct state) (type : UInt8) (payload : Bytes) :
    Distinct { state with client := state.client.number type payload } := by
  refine ⟨Nat.le_succ_of_le distinct.first, fun found => Nat.lt_succ_of_lt (distinct.numbers found), ?_, ?_, ?_, ?_, ?_, ?_⟩
  · intro reqId call held
    rcases update_eq_some held with ⟨rfl, _⟩ | ⟨_, held⟩
    · exact ⟨distinct.first, Nat.lt_succ_self _⟩
    · exact (distinct.calls held).imp_right Nat.lt_succ_of_lt
  · intro reqId _ _ held place frame found
    rcases update_eq_some held with ⟨rfl, _⟩ | ⟨_, held⟩
    · exact Nat.ne_of_lt (distinct.numbers found)
    · exact distinct.unsent held found
  · intro reqId place held
    rcases update_eq_some held with ⟨_, isCall⟩ | ⟨_, held⟩
    · cases isCall
    · exact distinct.request held
  · intro reqId place held other frame found number
    rcases update_eq_some held with ⟨_, isCall⟩ | ⟨_, held⟩
    · cases isCall
    · exact distinct.alone held found number
  · intro frame member ping
    obtain ⟨below, closed⟩ := distinct.pings frame member ping
    refine ⟨Nat.lt_succ_of_lt below, fun call held => ?_⟩
    rcases update_eq_some held with ⟨same, _⟩ | ⟨_, held⟩
    · exact absurd same (Nat.ne_of_lt below)
    · exact closed call held
  · intro entry member
    exact (distinct.returned entry member).grows (List.append_nil _).symm (List.append_nil _).symm (List.append_nil _).symm

theorem transmit (distinct : Distinct state) {reqId : Nat} {type : UInt8} {payload : Bytes}
    (call : state.client.calls reqId = some (.numbered type payload)) (small : reqId < 2 ^ 32) :
    Distinct { state with client := { state.client with
      sent := state.client.sent ++ [⟨type, reqId.toUInt32, payload⟩]
      calls := Function.update state.client.calls reqId (some (.waiting state.client.sent.length)) } } := by
  refine ⟨distinct.first, ?_, ?_, ?_, ?_, ?_, ?_, ?_⟩
  · intro place frame found
    rcases getElem?_concat_cases found with old | ⟨_, rfl⟩
    · exact distinct.numbers old
    · simp only [toUInt32_toNat small]
      exact (distinct.calls call).2
  · intro other _ held
    rcases update_eq_some held with ⟨rfl, _⟩ | ⟨_, held⟩
    · exact distinct.calls call
    · exact distinct.calls held
  · intro other _ _ held place frame found
    rcases update_eq_some held with ⟨_, isCall⟩ | ⟨different, held⟩
    · cases isCall
    · rcases getElem?_concat_cases found with old | ⟨_, rfl⟩
      · exact distinct.unsent held old
      · simp only [toUInt32_toNat small]
        exact different.symm
  · intro other place held
    rcases update_eq_some held with ⟨rfl, isCall⟩ | ⟨_, held⟩
    · cases isCall
      exact ⟨type, payload, List.getElem?_concat_length⟩
    · obtain ⟨otherType, otherPayload, found⟩ := distinct.request held
      exact ⟨otherType, otherPayload, getElem?_append_some found _⟩
  · intro waiting place held other frame found number
    rcases update_eq_some held with ⟨rfl, isCall⟩ | ⟨different, held⟩
    · cases isCall
      rcases getElem?_concat_cases found with old | ⟨same, _⟩
      · exact absurd number (distinct.unsent call old)
      · exact same
    · rcases getElem?_concat_cases found with old | ⟨_, rfl⟩
      · exact distinct.alone held old number
      · simp only [toUInt32_toNat small] at number
        exact absurd number.symm different
  · intro frame member ping
    obtain ⟨below, closed⟩ := distinct.pings frame member ping
    refine ⟨below, fun current held => ?_⟩
    rcases update_eq_some held with ⟨same, _⟩ | ⟨_, held⟩
    · cases closed _ (same ▸ call)
    · exact closed current held
  · intro entry member
    exact (distinct.returned entry member).grows rfl (List.append_nil _).symm (List.append_nil _).symm

/-- A call ends. -/
theorem settle (distinct : Distinct state) {reqId : Nat} {call : Call} (found : state.client.calls reqId = some call)
    (pending : Nat → Option Filed) {returned : List Returned}
    (correlated : ∀ entry ∈ returned, Correlated state entry) :
    Distinct { state with client := { state.client with
      pending, returned, calls := Function.update state.client.calls reqId (some .over) } } := by
  refine ⟨distinct.first, distinct.numbers, ?_, ?_, ?_, ?_, ?_, ?_⟩
  · intro other _ held
    rcases update_eq_some held with ⟨rfl, _⟩ | ⟨_, held⟩
    · exact distinct.calls found
    · exact distinct.calls held
  · intro other _ _ held place frame sent
    rcases update_eq_some held with ⟨_, isCall⟩ | ⟨_, held⟩
    · cases isCall
    · exact distinct.unsent held sent
  · intro other place held
    rcases update_eq_some held with ⟨_, isCall⟩ | ⟨_, held⟩
    · cases isCall
    · exact distinct.request held
  · intro waiting place held other frame sent number
    rcases update_eq_some held with ⟨_, isCall⟩ | ⟨_, held⟩
    · cases isCall
    · exact distinct.alone held sent number
  · intro frame member ping
    obtain ⟨below, closed⟩ := distinct.pings frame member ping
    refine ⟨below, fun current held => ?_⟩
    rcases update_eq_some held with ⟨_, rfl⟩ | ⟨_, held⟩
    · rfl
    · exact closed current held
  · intro entry member
    exact ⟨(correlated entry member).request, (correlated entry member).answer, (correlated entry member).cause⟩

/-- A call returns what it finds under its number: the answer to its own frame. -/
theorem correlates (distinct : Distinct state) {start : World} (attributed : Attributed start state) {reqId place : Nat}
    {filed : Filed} (call : state.client.calls reqId = some (.waiting place))
    (held : state.client.pending reqId = some filed) : Correlated state ⟨reqId, place, filed⟩ := by
  obtain ⟨frame, found, isFiled, number, type, payload⟩ := attributed.filed reqId filed held
  obtain ⟨cause, request, known, sent, same⟩ := attributed.answers filed.place frame found isFiled
  have large := (distinct.calls call).1
  have nonzero : frame.reqId ≠ 0 := fun zero => by
    rw [zero] at number
    rw [← number] at large
    exact absurd large (by decide)
  have origin : cause = place := by
    refine distinct.alone call sent ?_
    rw [← same.resolve_right nonzero]
    exact number
  have label : frame.reqId = reqId.toUInt32 := by
    rw [← number]
    exact (UInt32.ofNat_toNat).symm
  refine ⟨distinct.request call, ?_, origin ▸ known⟩
  rw [found, ← type, ← payload, ← label]

theorem moved (distinct : Distinct state) {start : World} (attributed : Attributed start state)
    {move : Move} {next : Dialogue} (apart : PingsApart state move) (effect : MoveEffect state move next) : Distinct next := by
  cases effect with
  | advanced event env world handled stepped same _ tick =>
    rw [same]
    exact distinct.advance stepped tick apart handled
  | greeted same =>
    rw [same]
    exact distinct.withClient [] (List.append_nil _).symm (by simp) rfl rfl rfl
  | read frame arriving same =>
    rw [same]
    exact distinct.read arriving
  | numbered type payload same =>
    rw [same]
    exact distinct.number type payload
  | transmitted reqId type payload call small same =>
    rw [same]
    exact distinct.transmit call small
  | returned reqId place filed call held same =>
    rw [same]
    refine distinct.settle call _ fun entry member => ?_
    rcases List.mem_append.mp member with old | new
    · exact distinct.returned entry old
    · rw [List.mem_singleton.mp new]
      exact distinct.correlates attributed call held
  | gaveUp reqId call found same =>
    rw [same]
    exact distinct.settle found _ distinct.returned

end Distinct

/-- The client has used this number: for its HELLO or for a call. -/
def Used (client : Connection) (reqId : Nat) : Prop := reqId = 1 ∨ 1000 ≤ reqId ∧ reqId < client.nextReqId

/-- The client has used the number of every PING that it is sent, and no spawn that
an operation asks for fails. -/
def Familiar (state : Dialogue) (move : Move) : Prop :=
  (∀ env, move = .callback .tick env → pings env state.world = true → Used state.client state.world.nextReqId.toNat) ∧
    ∀ env message, move = .dispatch env →
      state.client.sent[state.handled]? = some ⟨message.type, message.reqId, message.payload⟩ →
        Answers.failingRun env state.world message = false

/-- Every number that goes to and fro is one that the client has used. -/
structure KnownNumbers (state : Dialogue) : Prop where
  first : 1000 ≤ state.client.nextReqId
  calls : ∀ {reqId call}, state.client.calls reqId = some call → 1000 ≤ reqId ∧ reqId < state.client.nextReqId
  sent : ∀ frame ∈ state.client.sent, Used state.client frame.reqId.toNat
  queued : ∀ frame ∈ state.world.link.queued, isStream frame.type = false → Used state.client frame.reqId.toNat
  pending : ∀ {reqId filed}, state.client.pending reqId = some filed → Used state.client reqId

private theorem known_start (world : World) (silent : world.link.queued = []) : KnownNumbers (.start world) where
  first := Nat.le_refl _
  calls := nofun
  sent := by
    intro frame member
    rw [List.mem_singleton.mp member]
    exact .inl rfl
  queued := by
    intro frame member
    rw [Dialogue.start, silent] at member
    cases member
  pending := nofun

namespace KnownNumbers
variable {state : Dialogue}

theorem advance (known : KnownNumbers state) {start : World} (attributed : Attributed start state)
    (idle : state.world.download = transferInit) {event : Event} {env : Env} {world : World} {move : Move}
    (stepped : agent.step state.world (event, env) = some world) (handles : Handles state event)
    (tick : event = .tick → move = .callback .tick env)
    (isFrame : ∀ message, event = .read (.dispatch message) → move = .dispatch env) (familiar : Familiar state move)
    (handled : Nat) : KnownNumbers { state.advance event world with handled } := by
  obtain ⟨frames, queued, spoken⟩ := step_frames stepped
  refine ⟨known.first, known.calls, known.sent, ?_, known.pending⟩
  intro frame member unstreamed
  have member : frame ∈ state.world.link.queued ++ frames := queued ▸ member
  rcases List.mem_append.mp member with old | new
  · exact known.queued frame old unstreamed
  · by_cases isPing : frame.type = FrameType.ping.code
    · obtain ⟨isTick, due, number⟩ := (spoken frame new).2 isPing
      rw [number]
      exact familiar.1 env (tick isTick) due
    · have isFiled : isFiled frame = true := by simp [isFiled, isPing, unstreamed]
      obtain ⟨_, request, _, sent, same | ⟨_, message, isDispatch⟩⟩ :=
        attributed.cause_of_spoken idle handles (spoken frame new).1 isFiled
      · rw [same]
        exact known.sent request (List.mem_of_getElem? sent)
      · -- the only answer under another number would be that of a failing spawn
        have works := familiar.2 env message (isFrame message isDispatch) (handles message isDispatch)
        subst isDispatch
        rw [dispatch_belongs stepped works queued frame new]
        exact known.sent _ (List.mem_of_getElem? (handles message rfl))

/-- The client sends or files what has numbers that it knows. -/
theorem withClient (known : KnownNumbers state) {client : Connection} (number : state.client.nextReqId ≤ client.nextReqId)
    (calls : ∀ {reqId call}, client.calls reqId = some call → 1000 ≤ reqId ∧ reqId < client.nextReqId)
    (sent : ∀ frame ∈ client.sent, frame ∈ state.client.sent ∨ Used client frame.reqId.toNat)
    (pending : ∀ {reqId filed}, client.pending reqId = some filed →
      (∃ filed, state.client.pending reqId = some filed) ∨ Used client reqId) : KnownNumbers { state with client } := by
  have used : ∀ {reqId}, Used state.client reqId → Used client reqId := by
    rintro reqId (hello | ⟨large, below⟩)
    · exact .inl hello
    · exact .inr ⟨large, Nat.lt_of_lt_of_le below number⟩
  refine ⟨Nat.le_trans known.first number, calls, ?_, fun frame member plain => used (known.queued frame member plain), ?_⟩
  · intro frame member
    rcases sent frame member with old | new
    · exact used (known.sent frame old)
    · exact new
  · intro reqId filed held
    rcases pending held with ⟨_, old⟩ | new
    · exact used (known.pending old)
    · exact new

theorem read (known : KnownNumbers state) {frame : Sent} (arriving : state.arriving = some frame) :
    KnownNumbers { state with client := state.client.read frame } := by
  have arrived := known.queued frame (List.mem_of_getElem? arriving)
  unfold Connection.read
  simp only
  split
  next ping =>
    refine known.withClient (Nat.le_refl _) known.calls ?_ fun held => .inl ⟨_, held⟩
    intro sent member
    rcases List.mem_append.mp member with old | new
    · exact .inl old
    · rw [List.mem_singleton.mp new]
      exact .inr (arrived (by rw [ping]; decide))
  next =>
    split
    next => exact known.withClient (Nat.le_refl _) known.calls (fun _ member => .inl member) fun held => .inl ⟨_, held⟩
    next plain =>
      refine known.withClient (Nat.le_refl _) known.calls (fun _ member => .inl member) ?_
      intro reqId filed held
      rcases update_eq_some held with ⟨rfl, _⟩ | ⟨_, held⟩
      · exact .inr (arrived (eq_false_of_ne_true plain))
      · exact .inl ⟨filed, held⟩

theorem moved (known : KnownNumbers state) {start : World} (attributed : Attributed start state)
    (idle : state.world.download = transferInit) {move : Move} {next : Dialogue} (familiar : Familiar state move)
    (effect : MoveEffect state move next) : KnownNumbers next := by
  have ends {reqId : Nat} {call : Call} (found : state.client.calls reqId = some call) (later : Call) :
      ∀ {other current}, Function.update state.client.calls reqId (some later) other = some current →
        1000 ≤ other ∧ other < state.client.nextReqId := by
    intro other current held
    rcases update_eq_some held with ⟨rfl, _⟩ | ⟨_, held⟩
    · exact known.calls found
    · exact known.calls held
  cases effect with
  | advanced event env world handled stepped same handles tick isFrame =>
    rw [same]
    exact known.advance attributed idle stepped handles tick isFrame familiar handled
  | greeted same =>
    rw [same]
    exact known.withClient (Nat.le_refl _) known.calls (fun _ member => .inl member) fun held => .inl ⟨_, held⟩
  | read frame arriving same =>
    rw [same]
    exact known.read arriving
  | numbered type payload same =>
    rw [same]
    refine known.withClient (Nat.le_succ _) ?_ (fun _ member => .inl member) fun held => .inl ⟨_, held⟩
    intro reqId call held
    rcases update_eq_some held with ⟨rfl, _⟩ | ⟨_, held⟩
    · exact ⟨known.first, Nat.lt_succ_self _⟩
    · exact (known.calls held).imp_right Nat.lt_succ_of_lt
  | transmitted reqId type payload call small same =>
    rw [same]
    refine known.withClient (Nat.le_refl _) (ends call _) ?_ fun held => .inl ⟨_, held⟩
    intro frame member
    rcases List.mem_append.mp member with old | new
    · exact .inl old
    · rw [List.mem_singleton.mp new]
      refine .inr (.inr ?_)
      rw [toUInt32_toNat small]
      exact known.calls call
  | returned reqId place filed call held same =>
    rw [same]
    refine known.withClient (Nat.le_refl _) (ends call _) (fun _ member => .inl member) ?_
    intro other entry found
    by_cases equal : other = reqId
    · subst equal
      exact .inl ⟨filed, held⟩
    · simp only [Function.update_of_ne equal] at found
      exact .inl ⟨entry, found⟩
  | gaveUp reqId call found same =>
    rw [same]
    exact known.withClient (Nat.le_refl _) (ends found _) (fun _ member => .inl member) fun held => .inl ⟨_, held⟩

end KnownNumbers

section runs
variable {connectEnv : Env} {sessionId : Nat} {counts : Tally} {fs : FileSystem} {engine : Engine} {world : World}
  {moves : List Move} {final : Dialogue}

private theorem attributed_run (connected : onNewConnection connectEnv sessionId counts fs engine = some world)
    (executed : dialogue.run (.start world) moves = some final) : Attributed world final := by
  have inactive : world.upload.active = false := by
    rw [(connected_fresh connected).upload]
    rfl
  have silent := (connected_fresh connected).queued
  have initially : Attributed world (.start world) := by
    refine ⟨⟨[], rfl⟩, ?_, ?_, nofun, ?_⟩
    · simp [Dialogue.start, silent]
    · simp [Dialogue.start, silent]
    · simp [Dialogue.start, inactive]
  exact dialogue.run_invariant (fun _ _ _ attributed stepped => attributed.moved connected (move_effect stepped))
    initially executed

private theorem download_idle (connected : onNewConnection connectEnv sessionId counts fs engine = some world)
    {state : Dialogue} (attributed : Attributed world state) : state.world.download = transferInit := by
  obtain ⟨history, executed⟩ := attributed.reached
  exact (Upload.run_tracked connected executed).download

/-- As long as no PING has the number of a call that is open or still to come, every
call returns the answer to its own frame. As long as the client knows the number of
every PING and no spawn that an operation asks for fails, no answer is filed under a
number that the client has not used. -/
theorem answers_correlated (connected : onNewConnection connectEnv sessionId counts fs engine = some world)
    (executed : dialogue.run (.start world) moves = some final) :
    (dialogue.Conforms PingsApart (.start world) moves → ∀ returned ∈ final.client.returned, Correlated final returned) ∧
      (dialogue.Conforms Familiar (.start world) moves →
        ∀ reqId filed, final.client.pending reqId = some filed → Used final.client reqId) := by
  have silent := (connected_fresh connected).queued
  constructor
  · intro apart
    refine (dialogue.conforming_induction (fun _ state => Distinct state) (distinct_start world silent) ?_ apart executed).returned
    intro _ _ _ _ reached distinct allowed stepped
    have attributed := attributed_run connected reached
    exact distinct.moved attributed allowed (move_effect stepped)
  · intro familiar reqId filed held
    refine (dialogue.conforming_induction (fun _ state => KnownNumbers state) (known_start world silent) ?_ familiar executed).pending held
    intro _ _ _ _ reached known allowed stepped
    have attributed := attributed_run connected reached
    exact known.moved attributed (download_idle connected attributed) allowed (move_effect stepped)

private theorem familiar_dispatch {state : Dialogue} {frame : Sent} (next : state.client.sent[state.handled]? = some frame)
    (other : frame.type ≠ FrameType.op.code) (env : Env) : Familiar state (.dispatch env) := by
  constructor
  · intro _ same
    cases same
  · intro used message _ found
    cases next.symm.trans found
    simp [Answers.failingRun, other]

private theorem familiar_client (state : Dialogue) {move : Move}
    (other : move matches .greet | .read | .number .. | .transmit _ | .poll _) : Familiar state move := by
  constructor
  · rintro env rfl
    cases other
  · rintro env message rfl
    cases other

/-- A client greets the agent and sends it one PING. -/
def pingCall : List Move :=
  [.dispatch {}, .greet, .number FrameType.ping.code [], .transmit 1000, .dispatch {}, .read, .poll 1000]

def pingAnswered : Dialogue := (dialogue.run (.start Upload.freshSession) pingCall).get (by decide +kernel)

theorem answers_correlated_ping : pingAnswered.client.returned.length = 1 ∧
    (∀ returned ∈ pingAnswered.client.returned, Correlated pingAnswered returned) ∧
      ∀ reqId filed, pingAnswered.client.pending reqId = some filed → Used pingAnswered.client reqId := by
  have connected : onNewConnection {} 1 {} .empty portfwdEngineInit = some Upload.freshSession :=
    (Option.some_get (by decide)).symm
  have executed : dialogue.run (.start Upload.freshSession) pingCall = some pingAnswered :=
    (Option.some_get (by decide +kernel)).symm
  obtain ⟨correlated, used⟩ := answers_correlated connected executed
  refine ⟨by decide +kernel, correlated ?_, used ?_⟩
  · apply dialogue.conforms_of_forall
    intro move member state env same
    subst same
    simp [pingCall] at member
  · apply dialogue.conforms_cons (familiar_dispatch rfl (by decide) {}) (Option.some_get (by decide)).symm
    apply dialogue.conforms_cons (familiar_client _ rfl) (Option.some_get (by decide +kernel)).symm
    apply dialogue.conforms_cons (familiar_client _ rfl) (Option.some_get (by decide +kernel)).symm
    apply dialogue.conforms_cons (familiar_client _ rfl) (Option.some_get (by decide +kernel)).symm
    apply dialogue.conforms_cons (@familiar_dispatch _ ⟨FrameType.ping.code, 1000, []⟩ (by decide +kernel) (by decide) {})
      (Option.some_get (by decide +kernel)).symm
    apply dialogue.conforms_of_forall
    intro move member state
    simp only [List.mem_cons, List.not_mem_nil, or_false] at member
    obtain rfl | rfl := member <;> exact familiar_client state rfl

end runs

private theorem call_returns {state : Dialogue} (greeted : state.client.greeted = true) {filed : Filed}
    (held : state.client.pending state.client.nextReqId = some filed) (small : state.client.nextReqId < 2 ^ 32)
    (type : UInt8) (payload : Bytes) :
    ∃ final, dialogue.run state
        [.number type payload, .transmit state.client.nextReqId, .poll state.client.nextReqId] = some final ∧
      ⟨state.client.nextReqId, state.client.sent.length, filed⟩ ∈ final.client.returned ∧ final.causes = state.causes ∧
      final.client.nextReqId = state.client.nextReqId + 1 ∧
      ∀ other, other ≠ state.client.nextReqId → final.client.pending other = state.client.pending other := by
  have numbered : dialogue.step state (.number type payload) =
      some { state with client := state.client.number type payload } := by
    simp only [dialogue, Dialogue.move, greeted, if_true]
  have call : (state.client.number type payload).calls state.client.nextReqId = some (.numbered type payload) := by
    simp only [Connection.number, Function.update_self]
  obtain ⟨waiting, sent, waits, pending, returned, next⟩ : ∃ client : Connection,
      (state.client.number type payload).transmit state.client.nextReqId = some client ∧
      client.calls state.client.nextReqId = some (.waiting state.client.sent.length) ∧
      client.pending = state.client.pending ∧ client.returned = state.client.returned ∧
      client.nextReqId = state.client.nextReqId + 1 := by
    simp only [Connection.transmit, call, if_pos small]
    refine ⟨_, rfl, ?_, rfl, rfl, rfl⟩
    simp only [Function.update_self]
    rfl
  have transmitted : dialogue.step { state with client := state.client.number type payload }
      (.transmit state.client.nextReqId) = some { state with client := waiting } := by
    simp only [dialogue, Dialogue.move, sent, Option.map_some]
  obtain ⟨later, polled, pops, returns, same⟩ : ∃ client : Connection,
      waiting.poll state.client.nextReqId = some client ∧
      client.pending = Function.update waiting.pending state.client.nextReqId none ∧
      client.returned = waiting.returned ++ [⟨state.client.nextReqId, state.client.sent.length, filed⟩] ∧
      client.nextReqId = waiting.nextReqId := by
    simp only [Connection.poll, waits, pending, held]
    exact ⟨_, rfl, rfl, rfl, rfl⟩
  have returned : dialogue.step { state with client := waiting } (.poll state.client.nextReqId) =
      some { state with client := later } := by
    simp only [dialogue, Dialogue.move, polled, Option.map_some]
  refine ⟨{ state with client := later }, ?_, ?_, rfl, same.trans next, ?_⟩
  · simp only [Machine.run, numbered, transmitted, returned, Option.bind_some]
  · simp only [returns, List.mem_append, List.mem_singleton, or_true]
  · intro other different
    simp only [pops, Function.update_of_ne different, pending]

/-- A client asks for a `tool.run` whose `uv_spawn` fails, and reads both answers. -/
def failedRun : List Move :=
  [.dispatch {}, .greet, .number FrameType.op.code (ascii "name=tool.run\npath=x"), .transmit 1000, .dispatch { spawn := -2 },
    .read, .read]

def failedRunRead : Dialogue := (dialogue.run (.start Upload.freshSession) failedRun).get (by decide +kernel)

/-- After a thousand PINGs the next number of the client is one that the agent has
used. The first call returns the error about the PONG with its number. A failed
`tool.run` leaves an entry under 0 in `pending` at once. -/
theorem counters_meet : (∃ moves final, dialogue.run (.start Upload.freshSession) moves = some final ∧
    (∃ returned ∈ final.client.returned, ¬ Correlated final returned) ∧
      ∃ reqId filed, final.client.pending reqId = some filed ∧ ¬ Used final.client reqId) ∧
    dialogue.run (.start Upload.freshSession) failedRun = some failedRunRead ∧
      (failedRunRead.client.pending 0).isSome = true ∧ ¬ Used failedRunRead.client 0 := by
  have connected : onNewConnection {} 1 {} .empty portfwdEngineInit = some Upload.freshSession :=
    (Option.some_get (by decide)).symm
  have started : dialogue.run (.start Upload.freshSession) IdleClient.greeting = some IdleClient.greeted :=
    (Option.some_get (by decide +kernel)).symm
  obtain ⟨beats, idle, beaten, calm, pending⟩ := IdleClient.rounds IdleClient.greeted_calm 1000 (by decide) (by decide)
  have reached : dialogue.run (.start Upload.freshSession) (IdleClient.greeting ++ beats) = some idle := by
    rw [dialogue.run_append, started, Option.bind_some, beaten]
  obtain ⟨filed, held⟩ := pending 1000 (by decide) (by decide)
  obtain ⟨early, kept⟩ := pending 2 (by decide) (by decide)
  obtain ⟨final, called, returned, causes, next, others⟩ := call_returns calm.greeted (calm.next ▸ held)
    (by rw [calm.next]; decide) FrameType.ping.code []
  have attributed := attributed_run connected reached
  -- what was filed answers a frame that was sent before the call
  obtain ⟨frame, found, isFiled, _⟩ := attributed.filed 1000 filed held
  obtain ⟨cause, request, known, sent, _⟩ := attributed.answers filed.place frame found isFiled
  refine ⟨?_, (Option.some_get (by decide +kernel)).symm, by decide +kernel, by unfold Used; decide⟩
  refine ⟨IdleClient.greeting ++ beats ++ [.number FrameType.ping.code [], .transmit idle.client.nextReqId,
    .poll idle.client.nextReqId], final, ?_, ⟨_, returned, fun correlated => ?_⟩, 2, early, ?_, ?_⟩
  · rw [dialogue.run_append, reached, Option.bind_some, called]
  · have same := correlated.cause
    rw [causes] at same
    cases known.symm.trans same
    exact absurd (List.getElem?_eq_some_iff.mp sent).1 (Nat.lt_irrefl _)
  · rw [others 2 (by rw [calm.next]; decide), kept]
  · rintro (hello | ⟨large, _⟩)
    · exact absurd hello (by decide)
    · exact absurd large (by decide)

end Luagent.Proofs.Correlation
