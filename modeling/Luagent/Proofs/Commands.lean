import Luagent.Control
import Luagent.Proofs.Correlation
import Luagent.Proofs.PutFile

/-! Runs of the daemon's threads against a session: what one step does, what the agent
was given to handle, and which frames belong to which command. -/

namespace Luagent.Proofs.Commands
open Foundation Client Correlation
open PutFile (arrived)

def dispatchedFrame : Event → Option Sent
  | .read (.dispatch message) => some (arrived message)
  | _ => none

def handed (history : List Upload.Input) : List Sent := history.filterMap fun input => dispatchedFrame input.1

/-- The callback that a move makes. -/
def inputs (state : Control) (move : ControlMove) (_ : Control) : List Upload.Input :=
  match move with
  | .dialogue (.callback event env) => [(event, env)]
  | .dialogue (.dispatch env) =>
    match state.client.sent[state.dialogue.handled]? with
    | some frame =>
      if bounded : frame.payload.length ≤ maxFramePayload then
        [(.read (.dispatch ⟨frame.type, frame.reqId, frame.payload, bounded⟩), env)]
      else []
    | none => []
  | _ => []

def agentStep (state : Control) (event : Event) (world : World) : Control :=
  { state with
    dialogue := { state.dialogue.advance event world with
      handled := state.dialogue.handled + (dispatchedFrame event).toList.length } }

/-- What one step does. -/
inductive StepEffect (state : Control) (move : ControlMove) : Control → Prop where
  | agent {event : Event} {env : Env} {world : World} (stepped : agent.step state.world (event, env) = some world)
      (handles : Handles state.dialogue event) (input : inputs state move (agentStep state event world) = [(event, env)]) :
      StepEffect state move (agentStep state event world)
  | greeted (isGreet : move = .dialogue .greet) (arrived : ∃ frame, state.dialogue.arriving = some frame ∧ frame.type = FrameType.ack.code) :
      StepEffect state move
        (state.withClient { state.client with greeted := true, received := state.client.received + 1 })
  | read {frame : Sent} (isRead : move = .dialogue .read) (arriving : state.dialogue.arriving = some frame) :
      StepEffect state move (state.withClient (state.client.read frame))
  | transmitted {reqId : Nat} {type : UInt8} {payload : Bytes} (isTransmit : move = .dialogue (.transmit reqId))
      (call : state.client.calls reqId = some (.numbered type payload)) (small : reqId < 2 ^ 32) :
      StepEffect state move (state.withClient { state.client with
        sent := state.client.sent ++ [⟨type, reqId.toUInt32, payload⟩]
        calls := Function.update state.client.calls reqId (some (.waiting state.client.sent.length)) })
  | asked {request : Request} (isAsk : move = .ask request) :
      StepEffect state move { state.withClient (state.client.number request.type.code request.payload) with
        threads := state.threads ++ [.asking request state.client.nextReqId] }
  | settled {index reqId place : Nat} {request : Request} {filed : Filed} (isSettle : move = .settle index)
      (thread : state.threads[index]? = some (.asking request reqId))
      (call : state.client.calls reqId = some (.waiting place)) (held : state.client.pending reqId = some filed) :
      StepEffect state move ((state.withClient { state.client with
        pending := Function.update state.client.pending reqId none
        calls := Function.update state.client.calls reqId (some .over)
        returned := state.client.returned ++ [⟨reqId, place, filed⟩] }).withThread index
          (request.settled reqId filed.type filed.payload))
  | fed {index count reqId : Nat} {data remotePath : Bytes} (isFeed : move = .feed index count)
      (thread : state.threads[index]? = some (.sending data remotePath reqId)) :
      StepEffect state move ((state.withClient { state.client with
        sent := state.client.sent ++ (putRest reqId.toUInt32 data).take count }).withThread index
          (if count < (putRest reqId.toUInt32 data).length then .raised else .ending data remotePath reqId))
  | confirmed {index reqId : Nat} {data remotePath : Bytes} {filed : Filed} (isConfirm : move = .confirm index)
      (thread : state.threads[index]? = some (.ending data remotePath reqId))
      (held : state.client.pending reqId = some filed) :
      StepEffect state move ((state.withClient { state.client with
        pending := Function.update state.client.pending reqId none }).withThread index
          (.returned (.stored data remotePath reqId filed.type (Daemon.parseKv filed.payload))))
  | waits {procId : Nat} (isWait : move = .wait procId) :
      StepEffect state move { state with threads := state.threads ++ [.collecting procId [] []] }
  | fetched {index reqId : Nat} {remotePath out : Bytes} {item : UInt8 × Bytes} {rest : List (UInt8 × Bytes)}
      (isTake : move = .take index) (thread : state.threads[index]? = some (.fetching remotePath reqId out))
      (first : state.client.streams reqId = item :: rest) :
      StepEffect state move ((state.withClient { state.client with
        streams := Function.update state.client.streams reqId rest }).withThread index (fetchItem remotePath reqId out item))
  | collected {index procId : Nat} {stdout stderr : Bytes} {item : UInt8 × Bytes} {rest : List (UInt8 × Bytes)}
      (isTake : move = .take index) (thread : state.threads[index]? = some (.collecting procId stdout stderr))
      (first : state.client.streams procId = item :: rest) :
      StepEffect state move ((state.withClient { state.client with
        streams := Function.update state.client.streams procId rest }).withThread index (collectItem procId stdout stderr item))
  | abandoned {index reqId : Nat} {request : Request} (isGiveUp : move = .giveUp index)
      (thread : state.threads[index]? = some (.asking request reqId)) :
      StepEffect state move ((state.withClient { state.client with
        calls := Function.update state.client.calls reqId (some .over) }).withThread index .raised)
  | raised {index : Nat} {thread : Thread} (isGiveUp : move = .giveUp index) (found : state.threads[index]? = some thread)
      (loops : (∃ data remotePath reqId, thread = .ending data remotePath reqId) ∨
        ∃ remotePath reqId out, thread = .fetching remotePath reqId out) :
      StepEffect state move (state.withThread index .raised)
  | expired {index procId : Nat} {stdout stderr : Bytes} (isGiveUp : move = .giveUp index)
      (thread : state.threads[index]? = some (.collecting procId stdout stderr)) :
      StepEffect state move (state.withThread index (Client.collected procId stdout stderr none))

section effects
variable {state next : Control}

private theorem dispatch_effect {env : Env} {dialogue : Dialogue} (moved : state.dialogue.dispatch env = some dialogue) :
    StepEffect state (.dialogue (.dispatch env)) { state with dialogue } := by
  unfold Dialogue.dispatch at moved
  split at moved
  · cases moved
  next frame sent =>
    split at moved
    next bounded =>
      split at moved
      · cases moved
      · obtain ⟨world, stepped, rfl⟩ := Option.map_eq_some_iff.mp moved
        have found : state.client.sent[state.dialogue.handled]? = some frame := sent
        refine .agent stepped ?_ (by simp only [inputs, found, bounded, dite_true])
        rintro _ ⟨rfl⟩
        exact sent
    next => cases moved

/-- A callback that hands the agent a frame is made by `dispatch` only. -/
theorem callback_moved {before after : Dialogue} {event : Event} {env : Env}
    (moved : before.move (.callback event env) = some after) : dispatchedFrame event = none ∧
      ∃ world, agent.step before.world (event, env) = some world ∧ after = before.advance event world := by
  unfold Dialogue.move at moved
  split at moved
  · cases moved
  next other isCallback =>
    cases isCallback
    obtain ⟨world, stepped, rfl⟩ := Option.map_eq_some_iff.mp moved
    refine ⟨?_, world, stepped, rfl⟩
    unfold dispatchedFrame
    split
    next message => exact (other message rfl).elim
    next => rfl
  all_goals contradiction

private theorem dialogue_effect {move : Move} {dialogue : Dialogue} (others : Control.isOthers move = true)
    (moved : state.dialogue.move move = some dialogue) : StepEffect state (.dialogue move) { state with dialogue } := by
  cases move with
  | number | poll | giveUp => cases others
  | dispatch env => exact dispatch_effect moved
  | callback event env =>
    obtain ⟨unframed, world, stepped, rfl⟩ := callback_moved moved
    have same : { state with dialogue := state.dialogue.advance event world } = agentStep state event world := by
      simp only [agentStep, unframed, Option.toList_none, List.length_nil, Nat.add_zero]
      rfl
    rw [same]
    refine .agent stepped ?_ rfl
    rintro message rfl
    cases unframed
  | greet =>
    simp only [Dialogue.move] at moved
    split at moved
    · cases moved
    next frame arriving =>
      split at moved
      next checked =>
        cases moved
        simp only [Bool.and_eq_true, beq_iff_eq] at checked
        exact .greeted rfl ⟨frame, arriving, checked.1.2⟩
      next => cases moved
  | read =>
    simp only [Dialogue.move] at moved
    split at moved
    · cases moved
    next frame arriving =>
      split at moved
      · cases moved
        exact .read rfl arriving
      · cases moved
  | transmit reqId =>
    obtain ⟨client, sent, rfl⟩ := Option.map_eq_some_iff.mp moved
    unfold Connection.transmit at sent
    split at sent
    next type payload call =>
      split at sent
      next small =>
        cases sent
        exact .transmitted rfl call small
      next => cases sent
    · cases sent

private theorem settle_effect {index : Nat} (moved : state.settle index = some next) :
    StepEffect state (.settle index) next := by
  unfold Control.settle at moved
  split at moved
  next request reqId thread =>
    split at moved
    · cases moved
    next filed held =>
      obtain ⟨client, polled, rfl⟩ := Option.map_eq_some_iff.mp moved
      unfold Connection.poll at polled
      split at polled
      next place found call here =>
        cases held.symm.trans here
        cases polled
        exact .settled rfl thread call held
      · cases polled
  · cases moved

private theorem feed_effect {index count : Nat} (moved : state.feed index count = some next) :
    StepEffect state (.feed index count) next := by
  unfold Control.feed at moved
  split at moved
  next thread =>
    cases moved
    exact .fed rfl thread
  · cases moved

private theorem confirm_effect {index : Nat} (moved : state.confirm index = some next) :
    StepEffect state (.confirm index) next := by
  unfold Control.confirm at moved
  split at moved
  next thread =>
    split at moved
    · cases moved
    next held =>
      cases moved
      exact .confirmed rfl thread held
  · cases moved

private theorem take_effect {index : Nat} (moved : state.take index = some next) : StepEffect state (.take index) next := by
  unfold Control.take at moved
  split at moved
  next thread =>
    unfold Control.takeFrom at moved
    split at moved
    · cases moved
    next first =>
      cases moved
      exact .fetched rfl thread first
  next thread =>
    unfold Control.takeFrom at moved
    split at moved
    · cases moved
    next first =>
      cases moved
      exact .collected rfl thread first
  · cases moved

private theorem giveUp_effect {index : Nat} (moved : state.giveUp index = some next) :
    StepEffect state (.giveUp index) next := by
  unfold Control.giveUp at moved
  split at moved
  next thread =>
    obtain ⟨client, ended, rfl⟩ := Option.map_eq_some_iff.mp moved
    unfold Connection.giveUp at ended
    split at ended
    · cases ended
      exact .abandoned rfl thread
    · cases ended
  next thread =>
    cases moved
    exact .raised rfl thread (.inl ⟨_, _, _, rfl⟩)
  next thread =>
    cases moved
    exact .raised rfl thread (.inr ⟨_, _, _, rfl⟩)
  next thread =>
    cases moved
    exact .expired rfl thread
  · cases moved

theorem step_effect {move : ControlMove} (stepped : control.step state move = some next) : StepEffect state move next := by
  have moved : state.move move = some next := stepped
  cases move with
  | dialogue move =>
    simp only [Control.move] at moved
    split at moved
    next others =>
      obtain ⟨dialogue, found, rfl⟩ := Option.map_eq_some_iff.mp moved
      exact dialogue_effect others found
    next => cases moved
  | ask request =>
    simp only [Control.move, Dialogue.move] at moved
    obtain ⟨dialogue, found, rfl⟩ := Option.map_eq_some_iff.mp moved
    split at found
    · cases found
      exact .asked rfl
    · cases found
  | settle index => exact settle_effect moved
  | feed index count => exact feed_effect moved
  | confirm index => exact confirm_effect moved
  | wait procId =>
    simp only [Control.move] at moved
    split at moved
    · cases moved
      exact .waits rfl
    · cases moved
  | take index => exact take_effect moved
  | giveUp index => exact giveUp_effect moved

end effects

/-- All but the agent's callbacks change no more of the dialogue than the client, and
frames that were sent stay so. -/
private theorem step_cases {state next : Control} {move : ControlMove} (effect : StepEffect state move next) :
    (∃ event env world, agent.step state.world (event, env) = some world ∧ Handles state.dialogue event ∧
      inputs state move next = [(event, env)] ∧ next = agentStep state event world) ∨
    (inputs state move next = [] ∧ next.dialogue = { state.dialogue with client := next.client } ∧
      ∃ more, next.client.sent = state.client.sent ++ more) := by
  have unsent : state.client.sent = state.client.sent ++ [] := (List.append_nil _).symm
  cases effect with
  | agent stepped handles input => exact .inl ⟨_, _, _, stepped, handles, input, rfl⟩
  | greeted isMove | asked isMove | settled isMove | confirmed isMove | waits isMove | fetched isMove | collected isMove
  | abandoned isMove | raised isMove | expired isMove =>
    subst isMove
    exact .inr ⟨rfl, rfl, [], unsent⟩
  | @read frame isMove =>
    subst isMove
    refine .inr ⟨rfl, rfl, ?_⟩
    simp only [Control.client, Control.withClient, Connection.read]
    split
    · exact ⟨_, rfl⟩
    · split <;> exact ⟨[], unsent⟩
  | transmitted isMove | fed isMove =>
    subst isMove
    exact .inr ⟨rfl, rfl, _, rfl⟩

structure Served (start : World) (history : List Upload.Input) (state : Control) : Prop where
  executed : agent.run start history = some state.world
  handled : handed history = state.client.sent.take state.dialogue.handled
  bounded : state.dialogue.handled ≤ state.client.sent.length

theorem handed_append (first later : List Upload.Input) :
    handed (first ++ later) = handed first ++ handed later := List.filterMap_append

private theorem handed_one (event : Event) (env : Env) : handed [(event, env)] = (dispatchedFrame event).toList := by
  simp only [handed, List.filterMap_cons, List.filterMap_nil]
  cases dispatchedFrame event <;> rfl

private theorem handled_step {state : Control} {event : Event} (handles : Handles state.dialogue event)
    (bounded : state.dialogue.handled ≤ state.client.sent.length) :
    state.client.sent.take (state.dialogue.handled + (dispatchedFrame event).toList.length) =
        state.client.sent.take state.dialogue.handled ++ (dispatchedFrame event).toList ∧
      state.dialogue.handled + (dispatchedFrame event).toList.length ≤ state.client.sent.length := by
  cases framed : dispatchedFrame event with
  | none => exact ⟨(List.append_nil _).symm, bounded⟩
  | some frame =>
    obtain ⟨message, rfl⟩ : ∃ message, event = .read (.dispatch message) := by
      unfold dispatchedFrame at framed
      split at framed
      · exact ⟨_, rfl⟩
      · cases framed
    cases framed
    have found : state.client.sent[state.dialogue.handled]? = some ⟨message.type, message.reqId, message.payload⟩ :=
      handles message rfl
    refine ⟨?_, (List.getElem?_eq_some_iff.mp found).1⟩
    rw [Option.toList_some, List.length_singleton, List.take_add_one, found]
    rfl

theorem Served.step {start : World} {history : List Upload.Input} {state next : Control} {move : ControlMove}
    (served : Served start history state) (effect : StepEffect state move next) :
    Served start (history ++ inputs state move next) next := by
  rcases step_cases effect with ⟨event, env, world, stepped, handles, input, rfl⟩ | ⟨none, same, more, sent⟩
  · obtain ⟨taken, bounded⟩ := handled_step handles served.bounded
    rw [input]
    refine ⟨?_, ?_, bounded⟩
    · rw [agent.run_append, served.executed, Option.bind_some, agent.run_singleton]
      exact stepped
    · rw [handed_append, handed_one, served.handled]
      exact taken.symm
  · rw [none, List.append_nil]
    have world : next.world = state.world := by rw [Control.world, same]; rfl
    have handled : next.dialogue.handled = state.dialogue.handled := by rw [same]
    refine ⟨world ▸ served.executed, ?_, ?_⟩
    · rw [served.handled, handled, sent, List.take_append_of_le_length served.bounded]
    · rw [handled, sent, List.length_append]
      exact served.bounded.trans (Nat.le_add_right _ _)

def history (start : World) (moves : List ControlMove) : List Upload.Input := control.gather inputs (.start start) moves

theorem served_run {start : World} {moves : List ControlMove} {state : Control}
    (executed : control.run (.start start) moves = some state) : Served start (history start moves) state := by
  refine control.run_induction (fun moves state => Served start (history start moves) state) ?_ ?_ executed
  · exact ⟨rfl, rfl, Nat.zero_le _⟩
  · intro moves state move next reached served stepped
    have grown := served.step (step_effect stepped)
    rwa [history, control.gather_step inputs reached stepped]

/-- A frame was handed to the agent by one of the moves. -/
theorem history_split {start : World} {moves : List ControlMove} {before after : List Upload.Input} {message : Message}
    {env : Env}
    (split : history start moves = before ++ (.read (.dispatch message), env) :: after) :
    ∃ first later middle next, moves = first ++ .dialogue (.dispatch env) :: later ∧
      control.run (.start start) first = some middle ∧ control.step middle (.dialogue (.dispatch env)) = some next ∧
      before = history start first ∧ agent.step middle.world (.read (.dispatch message), env) = some next.world ∧
      middle.client.sent[middle.dialogue.handled]? = some (arrived message) := by
  obtain ⟨first, move, later, middle, next, early, late, rfl, reached, stepped, past, now⟩ := control.gather_split inputs split
  rcases step_cases (step_effect stepped) with ⟨event, sameEnv, world, moved, handles, input, rfl⟩ | ⟨none, _⟩
  · rw [input] at now
    obtain ⟨rfl, same⟩ : early = [] ∧ (event, sameEnv) = (.read (.dispatch message), env) := by
      cases early with
      | nil => exact ⟨rfl, (List.cons.inj now).1⟩
      | cons => simp at now
    cases same
    have isDispatch : move = .dialogue (.dispatch env) := by
      unfold inputs at input
      split at input
      next =>
        cases input
        cases stepped
      next =>
        split at input
        · split at input
          · cases input
            rfl
          · cases input
        · cases input
      next => cases input
    subst isDispatch
    exact ⟨first, later, middle, _, rfl, reached, stepped, by rw [past, List.append_nil]; rfl, moved, handles message rfl⟩
  · rw [none] at now
    simp at now

def said (before : World) (_ : Upload.Input) (after : World) : List Sent := framesSince before.link after.link

theorem said_of_queued {before after : World} {input : Upload.Input} {frames : List Sent}
    (queued : after.link.queued = before.link.queued ++ frames) : said before input after = frames := by
  rw [said, framesSince, queued, List.drop_left]

theorem not_complains {before after : Link} {frame : Sent} (member : frame ∈ framesSince before after)
    (fine : frame.type ≠ FrameType.error.code) : ¬ Complains before after := by
  rintro ⟨frames, queued, errors⟩
  rw [framesSince, queued, List.drop_left] at member
  exact fine (errors frame member)

theorem said_step {before after : World} {input : Upload.Input} (stepped : agent.step before input = some after) :
    after.link.queued = before.link.queued ++ said before input after ∧
      ∀ frame ∈ said before input after, Spoken input.2 before input.1 frame := by
  obtain ⟨frames, queued, spoken⟩ := step_frames stepped
  rw [said_of_queued queued]
  exact ⟨queued, fun frame member => (spoken frame member).1⟩

theorem queued_said {start world : World} {history : List Upload.Input} (fresh : start.link.queued = [])
    (executed : agent.run start history = some world) : world.link.queued = agent.gather said start history := by
  refine agent.run_induction (fun history world => world.link.queued = agent.gather said start history) fresh ?_ executed
  intro history before input after reached queued stepped
  rw [agent.gather_step said reached stepped, ← queued]
  exact (said_step stepped).1

theorem control_pong {env : Env} {world : World} {message : Message} (isPong : message.type = FrameType.pong.code) :
    Complains world.link (protocolHandleControl env world message).1.link := by
  rw [control_text isPong (by decide) (by decide)]
  split
  · exact sendError_complains env (diagCountProtocolError world.link) ..
  · exact sendError_complains env world.link ..

def number : Thread → Option Nat
  | .asking _ reqId | .sending _ _ reqId | .ending _ _ reqId | .fetching _ reqId _ => some reqId
  | .returned (.stored _ _ reqId _ _) | .returned (.fetched _ reqId _) => some reqId
  | _ => none

def own (reqId : Nat) (sent : List Sent) : List Sent :=
  sent.filter fun frame => frame.reqId.toNat == reqId && frame.type != FrameType.pong.code

def requestFrame (request : Request) (reqId : Nat) : Sent := ⟨request.type.code, reqId.toUInt32, request.payload⟩

/-- The frames that a thread has sent whose request was answered. -/
def script : Thread → Option (Nat × List Sent)
  | .sending data remotePath reqId => some (reqId, [requestFrame (.put data remotePath) reqId])
  | .ending data remotePath reqId | .returned (.stored data remotePath reqId _ _) =>
    some (reqId, requestFrame (.put data remotePath) reqId :: putRest reqId.toUInt32 data)
  | .fetching remotePath reqId _ | .returned (.fetched remotePath reqId _) =>
    some (reqId, [requestFrame (.get remotePath) reqId])
  | _ => none

/-- What a thread has sent is all that was sent under its number. -/
inductive Wrote (client : Connection) : Thread → Prop where
  | numbered {request : Request} {reqId : Nat}
      (call : client.calls reqId = some (.numbered request.type.code request.payload)) (none : own reqId client.sent = []) :
      Wrote client (.asking request reqId)
  | waiting {request : Request} {reqId place : Nat} (small : reqId < 2 ^ 32)
      (call : client.calls reqId = some (.waiting place)) (one : own reqId client.sent = [requestFrame request reqId]) :
      Wrote client (.asking request reqId)
  | later {thread : Thread} {reqId : Nat} {frames : List Sent} (script : script thread = some (reqId, frames))
      (small : reqId < 2 ^ 32) (past : client.calls reqId = some .over) (all : own reqId client.sent = frames) :
      Wrote client thread
  | unnumbered {thread : Thread} (none : number thread = none) : Wrote client thread

structure SameFor (reqId : Nat) (before after : Connection) : Prop where
  calls : after.calls reqId = before.calls reqId := by rfl
  sent : own reqId after.sent = own reqId before.sent := by rfl

private theorem script_number {thread : Thread} {reqId : Nat} {frames : List Sent}
    (known : script thread = some (reqId, frames)) :
    number thread = some reqId := by
  unfold script at known
  split at known
  all_goals first | cases known; rfl | cases known

theorem Wrote.same {before after : Connection} {thread : Thread}
    (same : ∀ reqId, number thread = some reqId → SameFor reqId before after) (wrote : Wrote before thread) :
    Wrote after thread := by
  cases wrote with
  | numbered call none => exact .numbered ((same _ rfl).calls.trans call) ((same _ rfl).sent.trans none)
  | waiting small call one => exact .waiting small ((same _ rfl).calls.trans call) ((same _ rfl).sent.trans one)
  | later known small past all =>
    have kept := same _ (script_number known)
    exact .later known small (kept.calls.trans past) (kept.sent.trans all)
  | unnumbered none => exact .unnumbered none

/-- Every thread has a number of its own, and what was sent under it is its own. -/
structure Numbered (state : Control) : Prop where
  first : 1000 ≤ state.client.nextReqId
  sent : ∀ frame ∈ state.client.sent, frame.type ≠ FrameType.pong.code → frame.reqId.toNat < state.client.nextReqId
  calls : ∀ reqId, (state.client.calls reqId).isSome = true → reqId < state.client.nextReqId
  threads : ∀ {index : Nat} {thread : Thread} {reqId : Nat}, state.threads[index]? = some thread →
    number thread = some reqId → 1000 ≤ reqId ∧ reqId < state.client.nextReqId
  distinct : ∀ {index other : Nat} {thread another : Thread} {reqId : Nat}, state.threads[index]? = some thread →
    state.threads[other]? = some another → number thread = some reqId → number another = some reqId → index = other
  wrote : ∀ {index : Nat} {thread : Thread}, state.threads[index]? = some thread → Wrote state.client thread

private theorem own_append (reqId : Nat) (sent more : List Sent) :
    own reqId (sent ++ more) = own reqId sent ++ own reqId more :=
  List.filter_append ..

theorem own_handed {reqId : Nat} {before after : List Upload.Input} {message : Message} {env : Env}
    (number : message.reqId.toNat = reqId)
    (unpong : message.type ≠ FrameType.pong.code) :
    own reqId (handed (before ++ (.read (.dispatch message), env) :: after)) =
      own reqId (handed before) ++ arrived message :: own reqId (handed after) := by
  rw [handed_append, own_append]
  congr 1
  exact List.filter_cons_of_pos (by simp [arrived, number, unpong])

private theorem own_append_others {reqId : Nat} {more : List Sent} (others : ∀ frame ∈ more, frame.reqId.toNat ≠ reqId)
    (sent : List Sent) : own reqId (sent ++ more) = own reqId sent := by
  have none : own reqId more = [] := List.filter_eq_nil_iff.mpr fun frame member => by simp [others frame member]
  rw [own_append, none, List.append_nil]

private theorem own_all {reqId : Nat} {frames : List Sent}
    (all : ∀ frame ∈ frames, frame.reqId.toNat = reqId ∧ frame.type ≠ FrameType.pong.code) : own reqId frames = frames := by
  refine List.filter_eq_self.mpr fun frame member => ?_
  simp [all frame member]

private theorem request_unpong (request : Request) : request.type.code ≠ FrameType.pong.code := by
  intro same
  have typed := code_injective same
  cases request <;> cases typed

private theorem putRest_number {reqId : Nat} (small : reqId < 2 ^ 32) {data : Bytes} {frame : Sent}
    (member : frame ∈ putRest reqId.toUInt32 data) :
    frame.reqId.toNat = reqId ∧ frame.type ≠ FrameType.pong.code := by
  have number := toUInt32_toNat small
  rcases List.mem_append.mp member with chunk | last
  · obtain ⟨slice, _, rfl⟩ := List.mem_map.mp chunk
    exact ⟨number, (by decide : FrameType.putChunk.code ≠ FrameType.pong.code)⟩
  · rw [List.mem_singleton.mp last]
    exact ⟨number, (by decide : FrameType.putEnd.code ≠ FrameType.pong.code)⟩

namespace Numbered
variable {state : Control}

/-- The client goes on without a thread. -/
theorem withClient (numbered : Numbered state) {client : Connection} (next : client.nextReqId = state.client.nextReqId)
    (sent : ∀ frame ∈ client.sent, frame.type ≠ FrameType.pong.code → frame.reqId.toNat < client.nextReqId)
    (same : ∀ reqId, SameFor reqId state.client client) : Numbered (state.withClient client) where
  first := next ▸ numbered.first
  sent := sent
  calls reqId known := by
    rw [Control.client_withClient, (same reqId).calls] at known
    exact (numbered.calls reqId known).trans_eq next.symm
  threads found known := by
    simp only [Control.client, Control.withClient, next]
    exact numbered.threads found known
  distinct := numbered.distinct
  wrote found := (numbered.wrote found).same fun reqId _ => same reqId

/-- A thread goes on. -/
theorem replace (numbered : Numbered state) {client : Connection} {index : Nat} {old thread : Thread}
    (found : state.threads[index]? = some old) (next : client.nextReqId = state.client.nextReqId)
    (sent : ∀ frame ∈ client.sent, frame.type ≠ FrameType.pong.code → frame.reqId.toNat < client.nextReqId)
    (same : ∀ reqId, number old ≠ some reqId → SameFor reqId state.client client)
    (kept : ∀ reqId, number thread = some reqId → number old = some reqId) (wrote : Wrote client thread) :
    Numbered ((state.withClient client).withThread index thread) where
  first := next ▸ numbered.first
  sent := sent
  calls reqId known := by
    change reqId < client.nextReqId
    rw [next]
    by_cases mine : number old = some reqId
    · exact (numbered.threads found mine).2
    · exact numbered.calls reqId ((congrArg Option.isSome (same reqId mine).calls).symm.trans known)
  threads := by
    intro place other reqId held known
    simp only [Control.client, Control.withThread, Control.withClient, next]
    rcases getElem?_set_cases held with ⟨rfl, rfl⟩ | ⟨_, held⟩
    · exact numbered.threads found (kept reqId known)
    · exact numbered.threads held known
  distinct := by
    intro place another thread other reqId held seen known also
    rcases getElem?_set_cases held with ⟨rfl, rfl⟩ | ⟨_, here⟩ <;> rcases getElem?_set_cases seen with ⟨rfl, rfl⟩ | ⟨_, there⟩
    · rfl
    · exact numbered.distinct found there (kept reqId known) also
    · exact numbered.distinct here found known (kept reqId also)
    · exact numbered.distinct here there known also
  wrote := by
    intro place other held
    rcases getElem?_set_cases held with ⟨rfl, rfl⟩ | ⟨apart, held⟩
    · exact wrote
    · refine (numbered.wrote held).same fun reqId known => same reqId fun taken => apart ?_
      exact numbered.distinct held found known taken

/-- A thread begins. -/
theorem append (numbered : Numbered state) {client : Connection} {thread : Thread}
    (later : state.client.nextReqId ≤ client.nextReqId) (sent : client.sent = state.client.sent)
    (calls : ∀ reqId, reqId < state.client.nextReqId → client.calls reqId = state.client.calls reqId)
    (numbers : ∀ reqId, (client.calls reqId).isSome = true → reqId < client.nextReqId)
    (fresh : ∀ reqId, number thread = some reqId → state.client.nextReqId ≤ reqId ∧ reqId < client.nextReqId)
    (wrote : Wrote client thread) : Numbered { state.withClient client with threads := state.threads ++ [thread] } where
  calls := numbers
  first := numbered.first.trans later
  sent := by
    intro frame member other
    simp only [Control.client, Control.withClient, sent] at member
    exact (numbered.sent frame member other).trans_le later
  threads := by
    intro index other reqId held known
    rcases getElem?_concat_cases held with held | ⟨_, rfl⟩
    · exact (numbered.threads held known).imp_right fun below => below.trans_le later
    · exact ⟨numbered.first.trans (fresh reqId known).1, (fresh reqId known).2⟩
  distinct := by
    intro index other here there reqId held seen known same
    rcases getElem?_concat_cases held with old | ⟨rfl, rfl⟩ <;> rcases getElem?_concat_cases seen with also | ⟨rfl, rfl⟩
    · exact numbered.distinct old also known same
    · exact absurd (numbered.threads old known).2 (Nat.not_lt.mpr (fresh reqId same).1)
    · exact absurd (numbered.threads also same).2 (Nat.not_lt.mpr (fresh reqId known).1)
    · rfl
  wrote := by
    intro index other held
    rcases getElem?_concat_cases held with held | ⟨_, rfl⟩
    · refine (numbered.wrote held).same fun reqId known => ⟨calls reqId (numbered.threads held known).2, ?_⟩
      exact congrArg (own reqId) sent
    · exact wrote

theorem read (numbered : Numbered state) (frame : Sent) : Numbered (state.withClient (state.client.read frame)) := by
  unfold Connection.read
  simp only
  split
  · refine numbered.withClient rfl ?_ fun reqId => ⟨rfl, ?_⟩
    · intro sent member other
      rcases List.mem_append.mp member with old | pong
      · exact numbered.sent sent old other
      · rw [List.mem_singleton.mp pong] at other
        exact absurd rfl other
    · simp [own, pongFrame]
  · split <;> exact numbered.withClient rfl numbered.sent fun reqId => {}

theorem transmit (numbered : Numbered state) {reqId : Nat} {type : UInt8} {payload : Bytes}
    (call : state.client.calls reqId = some (.numbered type payload)) (small : reqId < 2 ^ 32) :
    Numbered (state.withClient { state.client with
      sent := state.client.sent ++ [⟨type, reqId.toUInt32, payload⟩]
      calls := Function.update state.client.calls reqId (some (.waiting state.client.sent.length)) }) := by
  have label := toUInt32_toNat small
  have below := numbered.calls reqId (by rw [call]; rfl)
  refine ⟨numbered.first, ?_, ?_, numbered.threads, numbered.distinct, ?_⟩
  · intro frame member other
    rcases List.mem_append.mp member with old | new
    · exact numbered.sent frame old other
    · rw [List.mem_singleton.mp new]
      exact label.trans_lt below
  · intro other known
    by_cases mine : other = reqId
    · exact mine ▸ below
    · refine numbered.calls other ?_
      simpa only [Control.client_withClient, Function.update_of_ne mine] using known
  · intro index thread found
    by_cases mine : number thread = some reqId
    · cases numbered.wrote found with
      | @numbered request _ held none =>
        cases mine
        cases call.symm.trans held
        refine .waiting small (Function.update_self ..) ?_
        rw [Control.client_withClient, own_append, none, own_all]
        · rfl
        · intro frame member
          rw [List.mem_singleton.mp member]
          exact ⟨label, request_unpong request⟩
      | waiting _ held =>
        cases mine
        cases call.symm.trans held
      | later known _ past =>
        cases (script_number known).symm.trans mine
        cases call.symm.trans past
      | unnumbered none => exact .unnumbered none
    · refine (numbered.wrote found).same fun other known => ?_
      have apart : other ≠ reqId := fun same => mine (same ▸ known)
      refine ⟨Function.update_of_ne apart .., ?_⟩
      refine own_append_others (fun frame member => ?_) _
      rw [List.mem_singleton.mp member]
      exact fun same => apart (same.symm.trans label)

theorem sameFor_update {client : Connection} {reqId other : Nat} (apart : other ≠ reqId) (pending : Nat → Option Filed)
    (returned : List Returned) :
    SameFor other client { client with pending, returned, calls := Function.update client.calls reqId (some .over) } :=
  ⟨Function.update_of_ne apart .., rfl⟩

/-- What becomes of a request whose answer was found. -/
theorem settled_number {request : Request} {reqId other : Nat} {type : UInt8} {payload : Bytes}
    (known : number (request.settled reqId type payload) = some other) :
    other = reqId ∧ script (request.settled reqId type payload) = some (reqId, [requestFrame request reqId]) := by
  unfold Request.settled at known ⊢
  cases request with
  | op => cases known
  | put | get =>
    simp only at known ⊢
    split at known
    · cases known
    next fine =>
      cases known
      rw [if_neg fine]
      exact ⟨rfl, rfl⟩
  | spawn | kill =>
    simp only at known
    split at known <;> cases known

theorem settle (numbered : Numbered state) {index reqId place : Nat} {request : Request} {filed : Filed}
    (thread : state.threads[index]? = some (.asking request reqId))
    (call : state.client.calls reqId = some (.waiting place)) (pending : Nat → Option Filed) (returned : List Returned) :
    Numbered ((state.withClient { state.client with
      pending, returned, calls := Function.update state.client.calls reqId (some .over) }).withThread index
        (request.settled reqId filed.type filed.payload)) := by
  refine numbered.replace thread rfl numbered.sent ?_ ?_ ?_
  · intro other apart
    exact sameFor_update (fun same => apart (congrArg some same.symm)) ..
  · intro other known
    rw [(settled_number known).1]
    rfl
  · cases numbered.wrote thread with
    | numbered held =>
      cases call.symm.trans held
    | waiting small _ one =>
      cases known : number (request.settled reqId filed.type filed.payload) with
      | none => exact .unnumbered known
      | some other => exact .later (settled_number known).2 small (Function.update_self ..) one
    | later known => cases known
    | unnumbered none => cases none

theorem feed (numbered : Numbered state) {index count reqId : Nat} {data remotePath : Bytes}
    (thread : state.threads[index]? = some (.sending data remotePath reqId)) :
    Numbered ((state.withClient { state.client with
      sent := state.client.sent ++ (putRest reqId.toUInt32 data).take count }).withThread index
        (if count < (putRest reqId.toUInt32 data).length then .raised else .ending data remotePath reqId)) := by
  obtain ⟨small, past, one⟩ : reqId < 2 ^ 32 ∧ state.client.calls reqId = some .over ∧
      own reqId state.client.sent = [requestFrame (.put data remotePath) reqId] := by
    cases numbered.wrote thread with
    | later known small past all =>
      cases known
      exact ⟨small, past, all⟩
    | unnumbered none => cases none
  have mine : ∀ frame ∈ (putRest reqId.toUInt32 data).take count,
      frame.reqId.toNat = reqId ∧ frame.type ≠ FrameType.pong.code :=
    fun frame member => putRest_number small (List.mem_of_mem_take member)
  refine numbered.replace thread rfl ?_ ?_ ?_ ?_
  · intro frame member other
    rcases List.mem_append.mp member with old | new
    · exact numbered.sent frame old other
    · exact (mine frame new).1.trans_lt (numbered.threads thread rfl).2
  · intro other apart
    refine ⟨rfl, own_append_others (fun frame member same => ?_) _⟩
    exact apart (congrArg some ((mine frame member).1.symm.trans same))
  · intro other known
    split at known
    · cases known
    · exact known
  · split
    · exact .unnumbered rfl
    next whole =>
      refine .later rfl small past ?_
      rw [List.take_of_length_le (Nat.le_of_not_lt whole), own_append, one, own_all fun frame member => putRest_number small member]
      rfl

/-- A thread goes on with the frames it has sent, or is at its end. -/
theorem proceed (numbered : Numbered state) {client : Connection} {index : Nat} {old thread : Thread}
    (found : state.threads[index]? = some old) (next : client.nextReqId = state.client.nextReqId)
    (sent : client.sent = state.client.sent) (calls : client.calls = state.client.calls)
    (same : number thread = none ∨ script thread = script old ∧ (script old).isSome = true) :
    Numbered ((state.withClient client).withThread index thread) := by
  have kept : ∀ reqId, SameFor reqId state.client client := fun reqId =>
    ⟨congrFun calls reqId, congrArg (own reqId) sent⟩
  refine numbered.replace found next ?_ (fun reqId _ => kept reqId) ?_ ?_
  · intro frame member other
    rw [sent] at member
    rw [next]
    exact numbered.sent frame member other
  · intro reqId known
    rcases same with none | ⟨same, scripted⟩
    · rw [none] at known
      cases known
    · obtain ⟨⟨other, frames⟩, held⟩ := Option.isSome_iff_exists.mp scripted
      cases (script_number (same.trans held)).symm.trans known
      exact script_number held
  · rcases same with none | ⟨same, scripted⟩
    · exact .unnumbered none
    · obtain ⟨⟨other, frames⟩, held⟩ := Option.isSome_iff_exists.mp scripted
      cases numbered.wrote found with
      | later known small past all =>
        exact .later (same.trans known) small ((kept _).calls.trans past) ((kept _).sent.trans all)
      | numbered | waiting => cases held
      | unnumbered none => cases (script_number held).symm.trans none

theorem step (numbered : Numbered state) {move : ControlMove} {next : Control} (effect : StepEffect state move next) :
    Numbered next := by
  cases effect with
  | agent => exact ⟨numbered.first, numbered.sent, numbered.calls, numbered.threads, numbered.distinct, numbered.wrote⟩
  | greeted => exact numbered.withClient rfl numbered.sent fun reqId => {}
  | @read frame => exact numbered.read frame
  | transmitted _ call small => exact numbered.transmit call small
  | @asked request =>
    refine numbered.append (Nat.le_succ _) rfl ?_ ?_ ?_ ?_
    · exact fun reqId below => Function.update_of_ne (Nat.ne_of_lt below) ..
    · intro reqId known
      by_cases mine : reqId = state.client.nextReqId
      · exact mine ▸ Nat.lt_succ_self _
      · refine Nat.lt_succ_of_lt (numbered.calls reqId ?_)
        simpa only [Connection.number, Function.update_of_ne mine] using known
    · intro reqId known
      cases known
      exact ⟨Nat.le_refl _, Nat.lt_succ_self _⟩
    · refine .numbered (Function.update_self ..) (List.filter_eq_nil_iff.mpr fun frame member => ?_)
      simp only [Bool.and_eq_true, beq_iff_eq, bne_iff_ne, ne_eq, not_and]
      intro same other
      exact absurd same (Nat.ne_of_lt (numbered.sent frame member other))
  | settled _ thread call => exact numbered.settle thread call ..
  | fed _ thread => exact numbered.feed thread
  | confirmed _ thread => exact numbered.proceed thread rfl rfl rfl (.inr ⟨rfl, rfl⟩)
  | waits =>
    exact numbered.append (Nat.le_refl _) rfl (fun _ _ => rfl) numbered.calls (fun _ known => by cases known)
      (.unnumbered rfl)
  | fetched _ thread =>
    refine numbered.proceed thread rfl rfl rfl ?_
    unfold fetchItem
    split
    · exact .inr ⟨rfl, rfl⟩
    · split <;> exact .inr ⟨rfl, rfl⟩
  | collected _ thread =>
    refine numbered.proceed thread rfl rfl rfl (.inl ?_)
    unfold collectItem
    split
    · rfl
    · split
      · rfl
      · split <;> rfl
  | @abandoned index reqId request _ thread =>
    refine numbered.replace thread rfl numbered.sent ?_ (fun _ known => by cases known) (.unnumbered rfl)
    intro other apart
    exact sameFor_update (fun same => apart (congrArg some same.symm)) ..
  | raised _ found => exact numbered.proceed found rfl rfl rfl (.inl rfl)
  | expired _ found => exact numbered.proceed found rfl rfl rfl (.inl rfl)

end Numbered

theorem numbered_run {start : World} {moves : List ControlMove} {state : Control}
    (executed : control.run (.start start) moves = some state) : Numbered state := by
  refine control.run_invariant (fun state move next numbered stepped => numbered.step (step_effect stepped)) ?_ executed
  refine ⟨Nat.le_refl _, ?_, nofun, nofun, nofun, nofun⟩
  intro frame member _
  rw [List.mem_singleton.mp member]
  exact (by decide : helloFrame.reqId.toNat < Connection.start.nextReqId)

end Luagent.Proofs.Commands
