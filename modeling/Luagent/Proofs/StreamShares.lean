import Luagent.Proofs.Commands

/-! The daemon's streams. What the reader adds to a stream is taken out of it by the
loops of `get_file` and `collect_stream`, an item at a time, by whichever thread comes
first. Nothing is lost, taken twice or put in another order, and what a thread returns
is made of what it took. -/

namespace Luagent.Proofs.StreamShares
open Foundation Client Correlation Commands

/-- An item that a thread took out of a stream. -/
structure Take where
  thread : Nat
  key : Nat
  item : UInt8 × Bytes

/-- The stream that a thread reads. -/
def readsFrom : Thread → Option Nat
  | .fetching _ reqId _ => some reqId
  | .collecting procId _ _ => some procId
  | _ => none

/-- What a move takes. -/
def takes (state : Control) (move : ControlMove) (_ : Control) : List Take :=
  match move with
  | .take index =>
    match state.threads[index]?.bind readsFrom with
    | some key => ((state.client.streams key).take 1).map (Take.mk index key)
    | none => []
  | _ => []

/-- All that was taken along a run. -/
def consumed (start : World) (moves : List ControlMove) : List Take := control.gather takes (.start start) moves

/-- What was taken from one stream, in order. -/
def onKey (key : Nat) (taken : List Take) : List (UInt8 × Bytes) := (taken.filter (·.key == key)).map Take.item

/-- What one thread took, in order. -/
def byThread (index : Nat) (taken : List Take) : List Take := taken.filter (·.thread == index)

/-- The items of a stream among these frames. -/
def arrivals (key : Nat) (frames : List Sent) : List (UInt8 × Bytes) :=
  (frames.filter fun frame => isStream frame.type && frame.reqId.toNat == key).map fun frame => (frame.type, frame.payload)

/-- The content of the items of one type. -/
def content (type : FrameType) (items : List (UInt8 × Bytes)) : Bytes :=
  (items.filter (·.1 == type.code)).flatMap Prod.snd

structure Loops (key : Nat) (last : FrameType) (mine : List Take) : Prop where
  keys : ∀ take ∈ mine, take.key = key
  unended : ∀ take ∈ mine, take.item.1 ≠ last.code

def abstains : Thread → Bool
  | .asking .. | .sending .. | .ending .. | .returned (.answered ..) | .returned (.stored ..) => true
  | _ => false

/-- How what a thread has or returned follows from what it took. -/
inductive Account (mine : List Take) : Thread → Prop where
  | nothing {thread : Thread} (abstains : abstains thread = true) (none : mine = []) : Account mine thread
  | fetching {remotePath : Bytes} {reqId : Nat} (loops : Loops reqId .getEnd mine) :
      Account mine (.fetching remotePath reqId (content .getChunk (mine.map Take.item)))
  | fetched {remotePath : Bytes} {reqId : Nat} {begun : List Take} {last : Take} (all : mine = begun ++ [last])
      (loops : Loops reqId .getEnd begun) (key : last.key = reqId) (ended : last.item.1 = FrameType.getEnd.code) :
      Account mine (.returned (.fetched remotePath reqId (content .getChunk (begun.map Take.item))))
  | collecting {procId : Nat} (loops : Loops procId .exit mine) :
      Account mine (.collecting procId (content .stdout (mine.map Take.item)) (content .stderr (mine.map Take.item)))
  | expired {procId : Nat} (loops : Loops procId .exit mine) :
      Account mine (Client.collected procId (content .stdout (mine.map Take.item)) (content .stderr (mine.map Take.item)) none)
  | exited {procId : Nat} {begun : List Take} {last : Take} (all : mine = begun ++ [last]) (loops : Loops procId .exit begun)
      (key : last.key = procId) (ended : last.item.1 = FrameType.exit.code) :
      Account mine (Client.collected procId (content .stdout (begun.map Take.item)) (content .stderr (begun.map Take.item))
        (some (Daemon.parseKv last.item.2)))
  | raised : Account mine .raised

/-- What arrived, what was taken and what the threads made of it. -/
structure Books (taken : List Take) (state : Control) : Prop where
  bounded : state.client.received ≤ state.world.link.queued.length
  conserved : ∀ key, arrivals key (state.world.link.queued.take state.client.received) =
    onKey key taken ++ state.client.streams key
  known : ∀ take ∈ taken, take.thread < state.threads.length
  accounts : ∀ {index : Nat} {thread : Thread}, state.threads[index]? = some thread → Account (byThread index taken) thread

theorem arrivals_append (key : Nat) (first later : List Sent) :
    arrivals key (first ++ later) = arrivals key first ++ arrivals key later := by
  rw [arrivals, List.filter_append, List.map_append]
  rfl

private theorem arrivals_skip {key : Nat} {frame : Sent} (other : isStream frame.type = false) :
    arrivals key [frame] = [] := by
  simp [arrivals, other]

private theorem content_concat (type : FrameType) (items : List (UInt8 × Bytes)) (item : UInt8 × Bytes) :
    content type (items ++ [item]) = content type items ++ (if item.1 = type.code then item.2 else []) := by
  simp only [content, List.filter_append, List.flatMap_append]
  by_cases same : item.1 = type.code <;> simp [same]

private theorem arrivals_next {state : Control} {frame : Sent} (arriving : state.dialogue.arriving = some frame)
    (key : Nat) :
    arrivals key (state.world.link.queued.take (state.client.received + 1)) =
      arrivals key (state.world.link.queued.take state.client.received) ++ arrivals key [frame] := by
  have found : state.world.link.queued[state.client.received]? = some frame := arriving
  rw [List.take_add_one, found, arrivals_append]
  rfl

private theorem arriving_bounded {state : Control} {frame : Sent} (arriving : state.dialogue.arriving = some frame) :
    state.client.received + 1 ≤ state.world.link.queued.length := (List.getElem?_eq_some_iff.mp arriving).1

theorem Loops.keys_concat {key : Nat} {last : FrameType} {mine : List Take} (loops : Loops key last mine) {take : Take}
    (same : take.key = key) : ∀ entry ∈ mine ++ [take], entry.key = key := by
  intro entry member
  rcases List.mem_append.mp member with old | new
  · exact loops.keys entry old
  · rw [List.mem_singleton.mp new, same]

theorem Loops.concat {key : Nat} {last : FrameType} {mine : List Take} (loops : Loops key last mine) {take : Take}
    (same : take.key = key) (other : take.item.1 ≠ last.code) : Loops key last (mine ++ [take]) where
  keys := loops.keys_concat same
  unended := by
    intro entry member
    rcases List.mem_append.mp member with old | new
    · exact loops.unended entry old
    · rwa [List.mem_singleton.mp new]

section accounts
variable {mine : List Take} {take : Take} {remotePath out stdout stderr : Bytes}

private theorem content_take (type : FrameType) (mine : List Take) (take : Take) :
    content type ((mine ++ [take]).map Take.item) =
      content type (mine.map Take.item) ++ (if take.item.1 = type.code then take.item.2 else []) := by
  rw [List.map_append, List.map_singleton, content_concat]

private theorem account_fetch (account : Account mine (.fetching remotePath take.key out)) :
    Account (mine ++ [take]) (fetchItem remotePath take.key out take.item) := by
  cases account with
  | nothing abstains => cases abstains
  | fetching loops =>
    have grown := content_take .getChunk mine take
    unfold fetchItem
    split
    next chunk =>
      rw [if_pos chunk] at grown
      rw [← grown]
      refine .fetching (loops.concat rfl ?_)
      rw [chunk]
      decide
    next other =>
      split
      next ended => exact .fetched rfl loops rfl ended
      next unended =>
        rw [if_neg other, List.append_nil] at grown
        rw [← grown]
        exact .fetching (loops.concat rfl unended)

private theorem account_collect (account : Account mine (.collecting take.key stdout stderr)) :
    Account (mine ++ [take]) (collectItem take.key stdout stderr take.item) := by
  cases account with
  | nothing abstains => cases abstains
  | collecting loops =>
    have out := content_take .stdout mine take
    have err := content_take .stderr mine take
    have goes (other : take.item.1 ≠ FrameType.exit.code) := Account.collecting (loops.concat rfl other)
    rw [out, err] at goes
    unfold collectItem
    split
    next isOut =>
      have codes : FrameType.stdout.code ≠ FrameType.stderr.code ∧ FrameType.stdout.code ≠ FrameType.exit.code := by decide
      rw [if_pos isOut, if_neg (isOut ▸ codes.1), List.append_nil] at goes
      exact goes (isOut ▸ codes.2)
    next notOut =>
      rw [if_neg notOut, List.append_nil] at goes
      split
      next isErr =>
        have codes : FrameType.stderr.code ≠ FrameType.exit.code := by decide
        rw [if_pos isErr] at goes
        exact goes (isErr ▸ codes)
      next notErr =>
        rw [if_neg notErr, List.append_nil] at goes
        split
        next ended => exact .exited rfl loops rfl ended
        next unended => exact goes unended

end accounts

private theorem byThread_append (index : Nat) (first later : List Take) :
    byThread index (first ++ later) = byThread index first ++ byThread index later := List.filter_append ..

private theorem onKey_append (key : Nat) (first later : List Take) :
    onKey key (first ++ later) = onKey key first ++ onKey key later := by
  rw [onKey, List.filter_append, List.map_append]
  rfl

namespace Books
variable {taken : List Take} {state next : Control}

theorem unknown (books : Books taken state) : byThread state.threads.length taken = [] := by
  refine List.filter_eq_nil_iff.mpr fun take member => ?_
  have before := books.known take member
  simp only [beq_iff_eq]
  omega

/-- The reader and the streams stay as they are. -/
theorem arrived (books : Books taken state) (queued : state.world.link.queued <+: next.world.link.queued)
    (received : next.client.received = state.client.received) (streams : next.client.streams = state.client.streams) :
    next.client.received ≤ next.world.link.queued.length ∧
      ∀ key, arrivals key (next.world.link.queued.take next.client.received) = onKey key taken ++ next.client.streams key := by
  rw [received, streams]
  refine ⟨books.bounded.trans queued.length_le, fun key => ?_⟩
  obtain ⟨more, grown⟩ := queued
  rw [← grown, List.take_append_of_le_length books.bounded]
  exact books.conserved key

/-- The client goes on without a thread. -/
theorem same (books : Books taken state) (threads : next.threads = state.threads)
    (bounded : next.client.received ≤ next.world.link.queued.length)
    (conserved : ∀ key, arrivals key (next.world.link.queued.take next.client.received) =
      onKey key taken ++ next.client.streams key) : Books taken next where
  bounded := bounded
  conserved := conserved
  known take member := by
    rw [threads]
    exact books.known take member
  accounts found := books.accounts (threads ▸ found)

/-- A thread goes on and takes nothing. -/
theorem replace (books : Books taken state) {index : Nat} {thread : Thread}
    (threads : next.threads = state.threads.set index thread) (queued : state.world.link.queued <+: next.world.link.queued)
    (received : next.client.received = state.client.received) (streams : next.client.streams = state.client.streams)
    (account : Account (byThread index taken) thread) : Books taken next where
  bounded := (books.arrived queued received streams).1
  conserved := (books.arrived queued received streams).2
  known take member := by
    rw [threads, List.length_set]
    exact books.known take member
  accounts := by
    intro place other found
    rw [threads] at found
    rcases getElem?_set_cases found with ⟨rfl, rfl⟩ | ⟨_, old⟩
    · exact account
    · exact books.accounts old

/-- A thread begins. -/
theorem append (books : Books taken state) {thread : Thread} (threads : next.threads = state.threads ++ [thread])
    (queued : state.world.link.queued <+: next.world.link.queued)
    (received : next.client.received = state.client.received) (streams : next.client.streams = state.client.streams)
    (account : Account [] thread) : Books taken next where
  bounded := (books.arrived queued received streams).1
  conserved := (books.arrived queued received streams).2
  known take member := by
    rw [threads, List.length_append]
    exact Nat.lt_add_right _ (books.known take member)
  accounts := by
    intro place other found
    rw [threads] at found
    rcases getElem?_concat_cases found with old | ⟨rfl, rfl⟩
    · exact books.accounts old
    · rw [books.unknown]
      exact account

/-- A thread takes the first item of its stream. -/
theorem take (books : Books taken state) {take : Take} {thread : Thread} {rest : List (UInt8 × Bytes)}
    (first : state.client.streams take.key = take.item :: rest) (exists_ : take.thread < state.threads.length)
    (account : Account (byThread take.thread taken ++ [take]) thread) :
    Books (taken ++ [take]) ((state.withClient { state.client with
      streams := Function.update state.client.streams take.key rest }).withThread take.thread thread) where
  bounded := books.bounded
  conserved key := by
    have before := books.conserved key
    rw [Control.world_withThread, Control.world_withClient, Control.client_withThread, Control.client_withClient]
    by_cases mine : key = take.key
    · subst mine
      rw [first] at before
      simp only [Function.update_self, onKey_append]
      rw [before, List.append_assoc]
      simp [onKey]
    · simp only [Function.update_of_ne mine, onKey_append]
      rw [before]
      simp [onKey, Ne.symm mine]
  known entry member := by
    rw [Control.withThread, List.length_set]
    rcases List.mem_append.mp member with old | new
    · exact books.known entry old
    · rw [List.mem_singleton.mp new]
      exact exists_
  accounts := by
    intro place other found
    rw [byThread_append]
    rcases getElem?_set_cases found with ⟨rfl, rfl⟩ | ⟨different, old⟩
    · simpa [byThread] using account
    · have others : byThread place [take] = [] := by simp [byThread, Ne.symm different]
      rw [others, List.append_nil]
      exact books.accounts old

theorem greets (books : Books taken state) {frame : Sent} (arriving : state.dialogue.arriving = some frame)
    (isAck : frame.type = FrameType.ack.code) :
    Books taken (state.withClient { state.client with greeted := true, received := state.client.received + 1 }) := by
  have other : isStream frame.type = false := by
    rw [isAck]
    decide
  refine books.same rfl (arriving_bounded arriving) fun key => (arrivals_next arriving key).trans ?_
  rw [arrivals_skip other, List.append_nil]
  exact books.conserved key

theorem read (books : Books taken state) {frame : Sent} (arriving : state.dialogue.arriving = some frame) :
    Books taken (state.withClient (state.client.read frame)) := by
  have bounded := arriving_bounded arriving
  have next (key : Nat) := (arrivals_next arriving key).trans (by rw [books.conserved key])
  unfold Connection.read
  simp only
  split
  next ping =>
    refine books.same rfl bounded fun key => (next key).trans ?_
    have other : isStream frame.type = false := by
      rw [ping]
      decide
    rw [arrivals_skip other, List.append_nil]
    rfl
  next =>
    split
    next stream =>
      refine books.same rfl bounded fun key => (next key).trans ?_
      rw [Control.client_withClient, List.append_assoc]
      congr 1
      by_cases mine : key = frame.reqId.toNat
      · subst mine
        simp [arrivals, stream]
      · simp only [Function.update_of_ne mine]
        simp [arrivals, Ne.symm mine]
    next other =>
      refine books.same rfl bounded fun key => (next key).trans ?_
      rw [arrivals_skip (eq_false_of_ne_true other), List.append_nil]
      rfl

end Books

private theorem takes_of_input {state next : Control} {move : ControlMove} {input : Upload.Input}
    (made : inputs state move next = [input]) : takes state move next = [] := by
  cases move with
  | take => cases made
  | _ => rfl

private theorem takes_of_thread {state next : Control} {index key : Nat} {thread : Thread} {item : UInt8 × Bytes}
    {rest : List (UInt8 × Bytes)} (found : state.threads[index]? = some thread) (reads : readsFrom thread = some key)
    (first : state.client.streams key = item :: rest) : takes state (.take index) next = [⟨index, key, item⟩] := by
  simp [takes, found, reads, first]

private theorem account_none {mine : List Take} {thread : Thread} (account : Account mine thread)
    (idle : abstains thread = true) :
    mine = [] := by
  cases account with
  | nothing _ none => exact none
  | _ => cases idle

private theorem account_settled {mine : List Take} {request : Request} {reqId : Nat}
    (account : Account mine (.asking request reqId))
    (type : UInt8) (payload : Bytes) : Account mine (request.settled reqId type payload) := by
  have none := account_none account rfl
  subst none
  unfold Request.settled
  cases request with
  | op => exact .nothing rfl rfl
  | put =>
    simp only
    split
    · exact .raised
    · exact .nothing rfl rfl
  | get =>
    simp only
    split
    · exact .raised
    · exact .fetching ⟨nofun, nofun⟩
  | spawn | kill =>
    simp only
    split
    · exact .raised
    · exact .nothing rfl rfl

private theorem account_expired {mine : List Take} {procId : Nat} {stdout stderr : Bytes}
    (account : Account mine (.collecting procId stdout stderr)) : Account mine (Client.collected procId stdout stderr none) := by
  cases account with
  | nothing abstains => cases abstains
  | collecting loops => exact .expired loops

namespace Books
variable {taken : List Take} {state next : Control}

theorem quiet {move : ControlMove} (none : takes state move next = []) (books : Books taken next) :
    Books (taken ++ takes state move next) next := by
  rwa [none, List.append_nil]

theorem step (books : Books taken state) {move : ControlMove} (effect : StepEffect state move next) :
    Books (taken ++ takes state move next) next := by
  have unchanged := List.prefix_refl state.world.link.queued
  cases effect with
  | @agent event _ world stepped _ input =>
    obtain ⟨frames, queued, _⟩ := step_frames stepped
    obtain ⟨bounded, conserved⟩ := @arrived _ _ (agentStep state event world) books ⟨frames, queued.symm⟩ rfl rfl
    exact quiet (takes_of_input input) (books.same rfl bounded conserved)
  | greeted isMove arrived =>
    obtain ⟨frame, arriving, isAck⟩ := arrived
    subst isMove
    exact quiet rfl (books.greets arriving isAck)
  | read isMove arriving =>
    subst isMove
    exact quiet rfl (books.read arriving)
  | transmitted isMove =>
    subst isMove
    exact quiet rfl (books.same rfl books.bounded books.conserved)
  | asked isMove =>
    subst isMove
    exact quiet rfl (books.append rfl unchanged rfl rfl (.nothing rfl rfl))
  | waits isMove =>
    subst isMove
    exact quiet rfl (books.append rfl unchanged rfl rfl (.collecting ⟨nofun, nofun⟩))
  | settled isMove thread =>
    subst isMove
    exact quiet rfl (books.replace rfl unchanged rfl rfl (account_settled (books.accounts thread) _ _))
  | fed isMove thread =>
    have none := account_none (books.accounts thread) rfl
    subst isMove
    refine quiet rfl ?_
    refine books.replace rfl unchanged rfl rfl ?_
    split
    · exact .raised
    · exact .nothing rfl none
  | confirmed isMove thread =>
    have none := account_none (books.accounts thread) rfl
    subst isMove
    exact quiet rfl (books.replace rfl unchanged rfl rfl (.nothing rfl none))
  | abandoned isMove | raised isMove =>
    subst isMove
    exact quiet rfl (books.replace rfl unchanged rfl rfl .raised)
  | expired isMove thread =>
    subst isMove
    exact quiet rfl (books.replace rfl unchanged rfl rfl (account_expired (books.accounts thread)))
  | fetched isMove thread first =>
    subst isMove
    rw [takes_of_thread thread rfl first]
    exact books.take first (List.getElem?_eq_some_iff.mp thread).1 (account_fetch (books.accounts thread))
  | collected isMove thread first =>
    subst isMove
    rw [takes_of_thread thread rfl first]
    exact books.take first (List.getElem?_eq_some_iff.mp thread).1 (account_collect (books.accounts thread))

end Books

theorem books_run {start : World} {moves : List ControlMove} {state : Control}
    (executed : control.run (.start start) moves = some state) : Books (consumed start moves) state := by
  refine control.run_induction (fun moves state => Books (consumed start moves) state) ?_ ?_ executed
  · exact ⟨Nat.zero_le _, fun key => rfl, nofun, fun found => by cases found⟩
  · intro moves state move next reached books stepped
    have grown := books.step (step_effect stepped)
    rwa [consumed, control.gather_step takes reached stepped]

private theorem content_last {type last : FrameType} (other : last ≠ type) (begun : List Take) {take : Take}
    (ended : take.item.1 = last.code) :
    content type ((begun ++ [take]).map Take.item) = content type (begun.map Take.item) := by
  rw [content_take, if_neg, List.append_nil]
  intro same
  exact other (code_injective (ended.symm.trans same))

private theorem find_unended {last : FrameType} {mine : List Take} (unended : ∀ take ∈ mine, take.item.1 ≠ last.code) :
    mine.find? (fun take => take.item.1 == last.code) = none :=
  List.find?_eq_none.mpr fun take member => by simp [unended take member]

/-- What a `collect_stream` returned is what it took itself: its share of the stream of
that process, with the status of the EXIT it found. -/
private theorem collected_share {mine : List Take} {procId : Nat} {stdout stderr : List Char} {exitInfo : Option Info}
    (account : Account mine (.returned (.collected procId stdout stderr exitInfo))) :
    (∀ take ∈ mine, take.key = procId) ∧ stdout = decodeReplacing (content .stdout (mine.map Take.item)) ∧
      stderr = decodeReplacing (content .stderr (mine.map Take.item)) ∧
      exitInfo = (mine.find? fun take => take.item.1 == FrameType.exit.code).map fun take => Daemon.parseKv take.item.2 := by
  generalize same : Thread.returned (.collected procId stdout stderr exitInfo) = thread at account
  cases account with
  | nothing abstains =>
    subst same
    cases abstains
  | expired loops =>
    cases same
    rw [find_unended loops.unended]
    exact ⟨loops.keys, rfl, rfl, rfl⟩
  | exited all loops key ended =>
    cases same
    subst all
    rw [content_last (by decide) _ ended, content_last (by decide) _ ended, List.find?_append, find_unended loops.unended]
    refine ⟨loops.keys_concat key, rfl, rfl, ?_⟩
    simp [ended]
  | _ => cases same

/-- Streams are shared without loss. In every run and for every stream: what has
arrived is what all threads took of it, in the order in which they took it, and then
what is left. Every `collect_stream` has returned its own share of that. -/
theorem streams_conserved {start : World} {moves : List ControlMove} {state : Control}
    (executed : control.run (.start start) moves = some state) :
    (∀ key, arrivals key (state.world.link.queued.take state.client.received) =
      onKey key (consumed start moves) ++ state.client.streams key) ∧
    ∀ (index procId : Nat) (stdout stderr : List Char) (exitInfo : Option Info),
      state.threads[index]? = some (.returned (.collected procId stdout stderr exitInfo)) →
      (∀ take ∈ byThread index (consumed start moves), take.key = procId) ∧
      stdout = decodeReplacing (content .stdout ((byThread index (consumed start moves)).map Take.item)) ∧
      stderr = decodeReplacing (content .stderr ((byThread index (consumed start moves)).map Take.item)) ∧
      exitInfo = ((byThread index (consumed start moves)).find? fun take => take.item.1 == FrameType.exit.code).map
        fun take => Daemon.parseKv take.item.2 := by
  have books := books_run executed
  exact ⟨books.conserved, fun _ _ _ _ _ returned => collected_share (books.accounts returned)⟩

/-- The daemon starts a child. -/
def startMoves : List ControlMove :=
  [.dialogue (.dispatch {}), .dialogue .greet, .ask (.spawn (ascii "x") [] 60000 10000), .dialogue (.transmit 1000),
    .dialogue (.dispatch {}), .dialogue .read, .settle 0]

/-- Two threads wait for it. -/
def sharedMoves : List ControlMove :=
  startMoves ++ [.wait 1, .wait 1, .dialogue (.callback (.output .stdout (ascii "h")) {}),
    .dialogue (.callback (.output .stdout (ascii "i")) {}), .dialogue (.callback (.exited 0) {}), .dialogue .read,
    .dialogue .read, .dialogue .read, .take 1, .take 2, .take 1, .giveUp 2]

def shared : Control := (control.run (.start Upload.freshSession) sharedMoves).get (by decide +kernel)

theorem streams_conserved_two :
    (∃ exitInfo, shared.threads[1]? = some (.returned (.collected 1 ['h'] [] (some exitInfo)))) ∧
    shared.threads[2]? = some (.returned (.collected 1 ['i'] [] none)) ∧
    arrivals 1 (shared.world.link.queued.take shared.client.received) =
      onKey 1 (consumed Upload.freshSession sharedMoves) ++ shared.client.streams 1 := by
  have first : shared.threads[1]? = some (.returned (.collected 1 ['h'] []
      (some (Daemon.parseKv (ascii "status=ok\nproc_id=1\nexit_code=0\nreason=exit"))))) := by decide +kernel
  refine ⟨⟨_, first⟩, by decide +kernel, ?_⟩
  exact (streams_conserved (Option.some_get (by decide +kernel)).symm).1 1

/-- Somebody waits for a process. -/
def waitsFor (procId : Nat) : ControlMove → Bool
  | .wait other => other == procId
  | _ => false

def begins (key : Nat) (state : Control) (move : ControlMove) (_ : Control) : List Nat :=
  if waitsFor key move then [state.threads.length] else []

def collectors (key : Nat) (start : World) (moves : List ControlMove) : List Nat :=
  control.gather (begins key) (.start start) moves

theorem collectors_length {key : Nat} {start : World} {moves : List ControlMove} {state : Control}
    (executed : control.run (.start start) moves = some state) :
    (collectors key start moves).length = (moves.filter (waitsFor key)).length := by
  refine control.run_induction (fun moves _ => (collectors key start moves).length = (moves.filter (waitsFor key)).length)
    rfl ?_ executed
  intro moves state move next reached same stepped
  rw [collectors, control.gather_step _ reached stepped, List.length_append, List.filter_append, List.length_append, ← same]
  congr 1
  cases waits : waitsFor key move <;> simp [begins, waits]

private theorem number_step {state next : Control} {move : ControlMove} (effect : StepEffect state move next)
    {index reqId : Nat}
    {thread : Thread} (found : next.threads[index]? = some thread) (known : number thread = some reqId) :
    (∃ old, state.threads[index]? = some old ∧ number old = some reqId) ∨ reqId = state.client.nextReqId := by
  have kept {place : Nat} {old new : Thread} (there : state.threads[place]? = some old)
      (set : (state.threads.set place new)[index]? = some thread)
      (same : ∀ reqId, number new = some reqId → number old = some reqId) :
      ∃ old, state.threads[index]? = some old ∧ number old = some reqId := by
    rcases getElem?_set_cases set with ⟨rfl, rfl⟩ | ⟨_, held⟩
    · exact ⟨old, there, same reqId known⟩
    · exact ⟨thread, held, known⟩
  cases effect with
  | agent | greeted | read | transmitted => exact .inl ⟨thread, found, known⟩
  | asked =>
    rcases getElem?_concat_cases found with held | ⟨_, rfl⟩
    · exact .inl ⟨thread, held, known⟩
    · exact .inr (Option.some.inj known).symm
  | waits =>
    rcases getElem?_concat_cases found with held | ⟨_, rfl⟩
    · exact .inl ⟨thread, held, known⟩
    · cases known
  | settled _ there =>
    refine .inl (kept there found fun reqId known => ?_)
    rw [(Numbered.settled_number known).1]
    rfl
  | fed _ there =>
    refine .inl (kept there found fun reqId known => ?_)
    split at known
    · cases known
    · exact known
  | confirmed _ there => exact .inl (kept there found fun reqId known => known)
  | fetched _ there =>
    refine .inl (kept there found fun reqId known => ?_)
    unfold fetchItem at known
    split at known
    · exact known
    · split at known <;> exact known
  | collected _ there =>
    refine .inl (kept there found fun reqId known => ?_)
    unfold collectItem at known
    repeat' split at known
    all_goals cases known
  | abandoned _ there | raised _ there | expired _ there => exact .inl (kept there found fun reqId known => by cases known)

private theorem nextReqId_step {state next : Control} {move : ControlMove} (effect : StepEffect state move next) :
    state.client.nextReqId ≤ next.client.nextReqId := by
  cases effect with
  | asked => exact Nat.le_succ _
  | @read frame =>
    rw [Control.client_withClient]
    unfold Connection.read
    simp only
    split
    · exact Nat.le_refl _
    · split <;> exact Nat.le_refl _
  | _ => exact Nat.le_refl _

private theorem collecting_step {state next : Control} {move : ControlMove} (effect : StepEffect state move next)
    {index key : Nat}
    {stdout stderr : Bytes} (found : next.threads[index]? = some (.collecting key stdout stderr)) :
    (∃ stdout stderr, state.threads[index]? = some (.collecting key stdout stderr)) ∨ index ∈ begins key state move next := by
  have other {place : Nat} {new : Thread} (set : (state.threads.set place new)[index]? = some (.collecting key stdout stderr))
      (different : ∀ stdout stderr, new ≠ .collecting key stdout stderr) :
      ∃ stdout stderr, state.threads[index]? = some (.collecting key stdout stderr) := by
    rcases getElem?_set_cases set with ⟨_, same⟩ | ⟨_, held⟩
    · exact absurd same.symm (different _ _)
    · exact ⟨_, _, held⟩
  cases effect with
  | agent | greeted | read | transmitted => exact .inl ⟨_, _, found⟩
  | asked =>
    rcases getElem?_concat_cases found with held | ⟨_, same⟩
    · exact .inl ⟨_, _, held⟩
    · cases same
  | waits isMove =>
    rcases getElem?_concat_cases found with held | ⟨rfl, same⟩
    · exact .inl ⟨_, _, held⟩
    · cases same
      subst isMove
      exact .inr (by simp [begins, waitsFor])
  | @settled _ _ _ request =>
    refine .inl (other found fun _ _ same => ?_)
    cases request <;> simp only [Request.settled] at same
    · cases same
    all_goals split at same <;> cases same
  | fed =>
    refine .inl (other found fun _ _ same => ?_)
    split at same <;> cases same
  | fetched =>
    refine .inl (other found fun _ _ same => ?_)
    unfold fetchItem at same
    split at same
    · cases same
    · split at same <;> cases same
  | @collected place procId out err item _ _ there =>
    rcases getElem?_set_cases found with ⟨rfl, same⟩ | ⟨_, held⟩
    · have procs : procId = key := by
        unfold collectItem at same
        repeat' split at same
        all_goals cases same
        all_goals rfl
      exact .inl ⟨out, err, procs ▸ there⟩
    · exact .inl ⟨_, _, held⟩
  | confirmed | abandoned | raised | expired => exact .inl (other found fun _ _ => nofun)

private theorem takes_origin {state next : Control} {move : ControlMove} {take : Take}
    (member : take ∈ takes state move next) :
    ∃ thread, state.threads[take.thread]? = some thread ∧ readsFrom thread = some take.key := by
  unfold takes at member
  split at member
  next index =>
    split at member
    next key found =>
      obtain ⟨item, _, rfl⟩ := List.mem_map.mp member
      exact Option.bind_eq_some_iff.mp found
    next => cases member
  next => cases member

/-- Who takes from a stream: a `collect_stream` that was begun for it, or the one
thread with that number. -/
structure Takers (key : Nat) (collectors : List Nat) (taken : List Take) (state : Control) : Prop where
  collecting : ∀ {index : Nat} {stdout stderr : Bytes}, state.threads[index]? = some (.collecting key stdout stderr) →
    index ∈ collectors
  takers : ∀ take ∈ taken, take.key = key → take.thread ∈ collectors ∨
    1000 ≤ key ∧ key < state.client.nextReqId ∧ ∀ {index : Nat} {thread : Thread}, state.threads[index]? = some thread →
      number thread = some key → index = take.thread

theorem Takers.step {key : Nat} {collectors : List Nat} {taken : List Take} {state next : Control} {move : ControlMove}
    (takers : Takers key collectors taken state) (numbered : Numbered state) (effect : StepEffect state move next) :
    Takers key (collectors ++ begins key state move next) (taken ++ takes state move next) next where
  collecting found := by
    rcases collecting_step effect found with ⟨_, _, old⟩ | new
    · exact List.mem_append_left _ (takers.collecting old)
    · exact List.mem_append_right _ new
  takers := by
    have later {owner : Nat} (below : key < state.client.nextReqId)
        (sole : ∀ {index : Nat} {thread : Thread}, state.threads[index]? = some thread → number thread = some key → index = owner)
        {index : Nat} {thread : Thread} (found : next.threads[index]? = some thread) (known : number thread = some key) :
        index = owner := by
      rcases number_step effect found known with ⟨old, held, same⟩ | fresh
      · exact sole held same
      · exact absurd fresh (Nat.ne_of_lt below)
    intro take member same
    rcases List.mem_append.mp member with old | new
    · rcases takers.takers take old same with collects | ⟨large, below, sole⟩
      · exact .inl (List.mem_append_left _ collects)
      · exact .inr ⟨large, below.trans_le (nextReqId_step effect), later below sole⟩
    · obtain ⟨thread, found, reads⟩ := takes_origin new
      rw [same] at reads
      cases thread with
      | fetching remotePath reqId out =>
        cases reads
        obtain ⟨large, below⟩ := numbered.threads found rfl
        refine .inr ⟨large, below.trans_le (nextReqId_step effect), later below fun held known => ?_⟩
        exact numbered.distinct held found known rfl
      | collecting procId stdout stderr =>
        cases reads
        exact .inl (List.mem_append_left _ (takers.collecting found))
      | _ => cases reads

theorem takers_run (key : Nat) {start : World} {moves : List ControlMove} {state : Control}
    (executed : control.run (.start start) moves = some state) :
    Takers key (collectors key start moves) (consumed start moves) state := by
  refine control.run_induction (fun moves state => Takers key (collectors key start moves) (consumed start moves) state) ?_ ?_
    executed
  · refine ⟨fun found => ?_, nofun⟩
    cases found
  · intro moves state move next reached takers stepped
    have grown := takers.step (numbered_run reached) (step_effect stepped)
    rwa [collectors, consumed, control.gather_step _ reached stepped, control.gather_step _ reached stepped]

/-- Where one thread takes all items of a stream and no others, its share is the
stream. -/
theorem onKey_sole {key index : Nat} {taken : List Take} (sole : ∀ take ∈ taken, take.key = key → take.thread = index)
    (keys : ∀ take ∈ byThread index taken, take.key = key) : onKey key taken = (byThread index taken).map Take.item := by
  rw [onKey, byThread]
  congr 1
  refine List.filter_congr fun take member => ?_
  by_cases mine : take.thread = index
  · have same := keys take (List.mem_filter.mpr ⟨member, by simp [mine]⟩)
    simp [mine, same]
  · have other : take.key ≠ key := fun same => mine (sole take member same)
    simp [mine, other]

end Luagent.Proofs.StreamShares
