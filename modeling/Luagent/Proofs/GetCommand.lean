import Luagent.Proofs.DownloadSoundness
import Luagent.Proofs.KeyValues
import Luagent.Proofs.StreamShares

/-! `get_file` and `collect_stream` against a session: what they return is what the
agent read of the file, or sent of the child's output before its end. -/

namespace Luagent.Proofs.GetCommand
open Foundation Client Correlation Commands StreamShares Download
open PutFile (arrived)

def isPiece (reqId : Nat) (frame : Sent) : Bool :=
  frame.reqId.toNat == reqId && (frame.type == FrameType.getChunk.code || frame.type == FrameType.getEnd.code)

def pieces (items : List (UInt8 × Bytes)) : List (UInt8 × Bytes) :=
  items.filter fun item => item.1 == FrameType.getChunk.code || item.1 == FrameType.getEnd.code

section agent
open Upload
variable {reqId : Nat} {remotePath : Bytes}

/-- The pieces of a file are sent while a frame of that number is handled that is not a
PONG. -/
private theorem piece_origin {before after : World} {input : Input} {frame : Sent}
    (stepped : agent.step before input = some after)
    (member : frame ∈ said before input after) (piece : isPiece reqId frame = true) :
    ∃ message, input.1 = .read (.dispatch message) ∧ message.reqId.toNat = reqId ∧ message.type ≠ FrameType.pong.code := by
  simp only [isPiece, Bool.and_eq_true, Bool.or_eq_true, beq_iff_eq] at piece
  obtain ⟨number, typed⟩ := piece
  obtain ⟨event, env⟩ := input
  have link : after.link = (callback env before event).link := by rw [(agent_step stepped).2]
  have listed : FrameType.getChunk ∈ Event.frameTypes event ∨ FrameType.getEnd ∈ Event.frameTypes event :=
    typed.imp ((said_step stepped).2 frame member).of_type ((said_step stepped).2 frame member).of_type
  cases (said_step stepped).2 frame member with
  | @served message frame belongs =>
    refine ⟨message, rfl, belongs.1 ▸ number, fun isPong => ?_⟩
    obtain ⟨frames, complaint, errors⟩ := @control_pong env (before.countFrame message) message isPong
    rw [said_of_queued (link ▸ complaint)] at member
    have isError := errors frame member
    rcases typed with same | same <;> exact absurd (code_injective (same.symm.trans isError)) nofun
  | unlabelled _ _ answer =>
    obtain ⟨type, member, same⟩ := isAnswer_type answer
    simp only [List.mem_cons, List.not_mem_nil, or_false] at member
    rcases typed with isPiece | isPiece <;> rcases member with rfl | rfl | rfl | rfl <;>
      exact absurd (code_injective (isPiece.symm.trans same)) nofun
  | ping | stalled | exit => simp [Event.frameTypes] at listed
  | output pipe => cases pipe <;> simp [Event.frameTypes, Pipe.frameType] at listed

private theorem no_pieces {start : World} {history : List Input} (none : own reqId (handed history) = []) :
    (agent.gather said start history).filter (isPiece reqId) = [] := by
  refine List.filter_eq_nil_iff.mpr fun frame member piece => ?_
  obtain ⟨front, back, parts⟩ := List.append_of_mem member
  obtain ⟨first, ⟨event, env⟩, later, before, after, early, late, rfl, _, stepped, _, seen⟩ := agent.gather_split said parts
  obtain ⟨message, isFrame, number, unpong⟩ :=
    piece_origin stepped (seen ▸ List.mem_append_right early List.mem_cons_self) piece
  cases isFrame
  rw [own_handed number unpong] at none
  simp at none

private theorem get_reply {before after : World} {env : Env} {message : Message}
    (stepped : agent.step before (.read (.dispatch message), env) = some after)
    (isGet : message.type = FrameType.getBegin.code) {frame : Sent}
    (member : frame ∈ said before (.read (.dispatch message), env) after) (last : frame.type = FrameType.getEnd.code) :
    ∃ path content chunks, kvCopy 512 (cstr message.payload) (ascii "path") = some path ∧
      before.fs.read path = some content ∧ chunks.flatten = content ∧
      said before (.read (.dispatch message), env) after = wholeReply message.reqId path content chunks := by
  have link : after.link = (protocolHandleControl env (before.countFrame message) message).1.link := by
    rw [(agent_step stepped).2]
    rfl
  rw [control_text isGet (by decide) (by decide)] at link
  split at link
  case isFalse =>
    -- the payload could not be copied
    have complains : Complains before.link after.link := by
      rw [link]
      exact sendError_complains env (before.countFrame message).link ..
    exact absurd complains (not_complains member (by rw [last]; decide))
  case isTrue =>
    obtain ⟨frames, queued, answer⟩ := getBegin_answer env (before.countFrame message) message.reqId (cstr message.payload)
    have same : said before (.read (.dispatch message), env) after = frames :=
      said_of_queued ((congrArg Link.queued link).trans queued)
    rw [same] at member ⊢
    obtain ⟨replies, errors, parts, error, none | ⟨path, content, chunks, named, found, cut, _, whole⟩⟩ := answer.sound
    · rw [none, List.nil_append] at parts
      rcases error with none | ⟨text, one⟩
      · rw [parts, none] at member
        cases member
      · rw [parts, one, List.mem_singleton] at member
        rw [member] at last
        exact absurd (show FrameType.error.code = FrameType.getEnd.code from last) (by decide)
    · exact ⟨path, content, chunks, named, found, cut.whole, whole ⟨frame, member, last⟩⟩

private theorem pieces_whole {start world : World} {history : List Input} (fresh : start.link.queued = [])
    (executed : agent.run start history = some world)
    (handled : own reqId (handed history) <+: [requestFrame (.get remotePath) reqId]) {frame : Sent}
    (member : frame ∈ world.link.queued) (piece : isPiece reqId frame = true) (last : frame.type = FrameType.getEnd.code) :
    ∃ before message env after middle next path content, ∃ chunks : List Bytes,
      history = before ++ (.read (.dispatch message), env) :: after ∧ agent.run start before = some middle ∧
      agent.step middle (.read (.dispatch message), env) = some next ∧
      arrived message = requestFrame (.get remotePath) reqId ∧
      kvCopy 512 (cstr message.payload) (ascii "path") = some path ∧ middle.fs.read path = some content ∧
      chunks.flatten = content ∧
      world.link.queued.filter (isPiece reqId) = chunks.map (getChunk message.reqId) ++ [getEnd message.reqId] := by
  have queued := queued_said fresh executed
  obtain ⟨front, back, parts⟩ := List.append_of_mem (queued ▸ member)
  obtain ⟨before, ⟨event, env⟩, after, middle, next, early, late, rfl, reached, stepped, _, seen⟩ :=
    agent.gather_split said parts
  have among : frame ∈ said middle (event, env) next := seen ▸ List.mem_append_right early List.mem_cons_self
  obtain ⟨message, isFrame, number, unpong⟩ := piece_origin stepped among piece
  cases isFrame
  -- This is the only frame of the number, so no other callback sends a piece.
  obtain ⟨more, whole⟩ := handled
  rw [own_handed number unpong, List.append_assoc, List.cons_append] at whole
  obtain ⟨earlier, same, rest⟩ := split_at_first whole.symm List.not_mem_nil
  obtain ⟨later, _⟩ := List.append_eq_nil_iff.mp rest
  have isGet : message.type = FrameType.getBegin.code := congrArg Sent.type same
  obtain ⟨path, content, chunks, named, found, cut, reply⟩ := get_reply stepped isGet among last
  refine ⟨before, message, env, after, middle, next, path, content, chunks, rfl, reached, stepped, same, named, found, cut, ?_⟩
  have all : agent.gather said start (before ++ (.read (.dispatch message), env) :: after) =
      agent.gather said start before ++ (wholeReply message.reqId path content chunks ++ agent.gather said next after) := by
    rw [agent.gather_append said reached]
    simp only [Machine.gather, stepped, reply]
  rw [queued, all, List.filter_append, List.filter_append, no_pieces earlier, no_pieces later, List.nil_append, List.append_nil]
  have ack : isPiece reqId (getAck message.reqId path content.length) = false := by
    have types : FrameType.ack.code ≠ FrameType.getChunk.code ∧ FrameType.ack.code ≠ FrameType.getEnd.code := by decide
    simp [isPiece, getAck, types]
  rw [wholeReply, List.filter_cons_of_neg (by simp [ack])]
  refine List.filter_eq_self.mpr fun frame member => ?_
  rcases List.mem_append.mp member with chunk | last
  · obtain ⟨bytes, _, rfl⟩ := List.mem_map.mp chunk
    simp [isPiece, getChunk, number]
  · rw [List.mem_singleton.mp last]
    simp [isPiece, getEnd, number]

private theorem asks_get (clean : Clean remotePath) (text : 0 ∉ remotePath) {path : Path}
    (asks : kvCopy 512 (cstr (Request.get remotePath).payload) (ascii "path") = some path) : path = remotePath := by
  have plain : ∀ item ∈ [(ascii "path", remotePath), (ascii "chunk_size", ascii "4096")], Plain item := by
    intro item member
    simp only [List.mem_cons, List.not_mem_nil, or_false] at member
    rcases member with rfl | rfl
    · exact .of_clean (by decide) clean
    · exact .of_clean (by decide) ⟨by decide, by decide⟩
  have whole : cstr (Request.get remotePath).payload = (Request.get remotePath).payload := by
    apply cstr_of_notMem
    apply notMem_encodeKv (by decide) (by decide)
    intro item member
    simp only [List.mem_cons, List.not_mem_nil, or_false] at member
    rcases member with rfl | rfl
    · exact ⟨(by decide : 0 ∉ ascii "path"), text⟩
    · exact ⟨by decide, by decide⟩
  rw [whole, Request.payload, kvCopy_encodeKv plain (by decide)] at asks
  obtain ⟨bound, _⟩ := Option.filter_eq_some_iff.mp asks
  by_cases empty : remotePath = []
  · rw [firstBound_cons_unbound (by simp [empty]), firstBound_skip (by decide)] at bound
    cases bound
  · rw [firstBound_cons_bound (by simp [empty])] at bound
    exact (Option.some.inj bound).symm

end agent

private theorem pieces_append (first later : List (UInt8 × Bytes)) :
    pieces (first ++ later) = pieces first ++ pieces later :=
  List.filter_append ..

private theorem pieces_arrivals (reqId : Nat) (frames : List Sent) :
    pieces (arrivals reqId frames) = (frames.filter (isPiece reqId)).map fun frame => (frame.type, frame.payload) := by
  rw [pieces, arrivals, List.filter_map, List.filter_filter]
  congr 1
  refine List.filter_congr fun frame _ => ?_
  simp only [isPiece, Function.comp_apply]
  by_cases chunk : frame.type = FrameType.getChunk.code
  · have stream : isStream FrameType.getChunk.code = true := by decide
    simp [chunk, stream]
  · by_cases last : frame.type = FrameType.getEnd.code
    · have stream : isStream FrameType.getEnd.code = true := by decide
      simp [last, stream]
    · rw [beq_false_of_ne chunk, beq_false_of_ne last, Bool.or_false, Bool.and_false, Bool.false_and]

private theorem content_pieces (items : List (UInt8 × Bytes)) :
    content .getChunk (pieces items) = content .getChunk items := by
  rw [content, pieces, List.filter_filter, content]
  congr 1
  refine List.filter_congr fun item _ => ?_
  by_cases chunk : item.1 = FrameType.getChunk.code <;> simp [chunk]

private theorem content_chunks (reqId : UInt32) (chunks : List Bytes) :
    content .getChunk ((chunks.map (getChunk reqId)).map fun frame => (frame.type, frame.payload)) = chunks.flatten := by
  induction chunks with
  | nil => rfl
  | cons chunk chunks ih =>
    rw [List.flatten_cons, ← ih]
    simp [content, getChunk]

private theorem taken_whole {reqId : Nat} {number : UInt32} {frames read : List Sent} {chunks : List Bytes}
    {begun rest : List (UInt8 × Bytes)} {last : UInt8 × Bytes} (begins : read <+: frames)
    (whole : frames.filter (isPiece reqId) = chunks.map (getChunk number) ++ [getEnd number])
    (conserved : arrivals reqId read = begun ++ last :: rest) (ended : last.1 = FrameType.getEnd.code) :
    content .getChunk begun = chunks.flatten := by
  obtain ⟨more, rfl⟩ := begins
  have split : (chunks.map (getChunk number)).map (fun frame => (frame.type, frame.payload)) ++
      [(FrameType.getEnd.code, endText)] =
      pieces begun ++ last :: (pieces rest ++ pieces (arrivals reqId more)) := by
    have isLast : pieces [last] = [last] := by simp [pieces, ended]
    have all := pieces_arrivals reqId (read ++ more)
    rw [whole, arrivals_append, conserved, pieces_append, pieces_append, show last :: rest = [last] ++ rest from rfl,
      pieces_append, isLast] at all
    rw [List.map_append] at all
    simpa [getEnd] using all.symm
  have others : last ∉ (chunks.map (getChunk number)).map fun frame => (frame.type, frame.payload) := by
    intro member
    obtain ⟨frame, chunk, same⟩ := List.mem_map.mp member
    obtain ⟨bytes, _, rfl⟩ := List.mem_map.mp chunk
    rw [← same] at ended
    exact absurd (code_injective (show FrameType.getChunk.code = FrameType.getEnd.code from ended)) nofun
  obtain ⟨all, _⟩ := split_at_last split others
  rw [← content_pieces, all, content_chunks]

private theorem fetched_arrivals {start : World} {moves : List ControlMove} {state : Control} {index reqId : Nat}
    {remotePath out : Bytes} (executed : control.run (.start start) moves = some state)
    (returned : state.threads[index]? = some (.returned (.fetched remotePath reqId out)))
    (alone : ∀ move ∈ moves, waitsFor reqId move = false) :
    ∃ begun last rest, arrivals reqId (state.world.link.queued.take state.client.received) = begun ++ last :: rest ∧
      last.1 = FrameType.getEnd.code ∧ out = content .getChunk begun := by
  have books := books_run executed
  have nobody : collectors reqId start moves = [] := by
    rw [← List.length_eq_zero_iff, collectors_length executed, List.length_eq_zero_iff, List.filter_eq_nil_iff]
    exact fun move member => by simp [alone move member]
  have sole : ∀ take ∈ consumed start moves, take.key = reqId → take.thread = index := by
    intro take member same
    rcases (takers_run reqId executed).takers take member same with collects | ⟨_, _, owner⟩
    · rw [nobody] at collects
      cases collects
    · exact (owner returned rfl).symm
  cases books.accounts returned with
  | nothing abstains => cases abstains
  | @fetched _ _ begun last all loops key ended =>
    refine ⟨begun.map Take.item, last.item, state.client.streams reqId, ?_, ended, rfl⟩
    rw [books.conserved, onKey_sole sole (all ▸ loops.keys_concat key), all, List.map_append, List.append_assoc]
    rfl

private theorem arrivals_mem {reqId : Nat} {frames : List Sent} {item : UInt8 × Bytes}
    (member : item ∈ arrivals reqId frames) :
    ∃ frame ∈ frames, frame.reqId.toNat = reqId ∧ frame.type = item.1 := by
  obtain ⟨frame, found, rfl⟩ := List.mem_map.mp member
  obtain ⟨inside, kept⟩ := List.mem_filter.mp found
  simp only [Bool.and_eq_true, beq_iff_eq] at kept
  exact ⟨frame, inside, kept.2, rfl⟩

/-- `get_file` is right about what it writes. In every run, when nobody waits for a
process of its number: the agent has handled its request, and then the file at that
path held these bytes. -/
theorem get_file_sound {connectEnv : Env} {sessionId : Nat} {counts : Tally} {fs : FileSystem} {engine : Engine}
    {start : World} {moves : List ControlMove} {state : Control} {index reqId : Nat} {remotePath out : Bytes}
    (connected : onNewConnection connectEnv sessionId counts fs engine = some start)
    (executed : control.run (.start start) moves = some state)
    (returned : state.threads[index]? = some (.returned (.fetched remotePath reqId out)))
    (alone : ∀ move ∈ moves, waitsFor reqId move = false) (clean : Clean remotePath) (text : 0 ∉ remotePath) :
    ∃ before env after middle next, moves = before ++ .dialogue (.dispatch env) :: after ∧
      control.run (.start start) before = some middle ∧ control.step middle (.dialogue (.dispatch env)) = some next ∧
      middle.client.sent[middle.dialogue.handled]? = some (requestFrame (.get remotePath) reqId) ∧
      middle.world.fs.read remotePath = some out := by
  have served := served_run executed
  have sent : own reqId state.client.sent = [requestFrame (.get remotePath) reqId] := by
    cases (numbered_run executed).wrote returned with
    | later known _ _ all =>
      cases known
      exact all
    | unnumbered none => cases none
  have handled : own reqId (handed (history start moves)) <+: [requestFrame (.get remotePath) reqId] := by
    rw [served.handled, ← sent]
    exact (List.take_prefix ..).filter _
  obtain ⟨begun, last, rest, conserved, ended, rfl⟩ := fetched_arrivals executed returned alone
  obtain ⟨frame, member, number, type⟩ :=
    arrivals_mem (conserved ▸ List.mem_append_right begun List.mem_cons_self)
  have isLast : frame.type = FrameType.getEnd.code := type.trans ended
  obtain ⟨before, message, env, after, world, final, path, content, chunks, split, reached, _, request, named, found, cut,
    whole⟩ := pieces_whole (connected_fresh connected).queued served.executed handled (List.mem_of_mem_take member)
      (by simp [isPiece, number, isLast]) isLast
  obtain ⟨first, later, middle, next, rfl, run, moved, rfl, _, sending⟩ := history_split split
  cases reached.symm.trans (served_run run).executed
  have payload : message.payload = (Request.get remotePath).payload := congrArg Sent.payload request
  rw [payload] at named
  obtain rfl := asks_get clean text named
  refine ⟨first, env, later, middle, next, rfl, run, moved, sending.trans (congrArg some request), ?_⟩
  rw [taken_whole (List.take_prefix ..) whole conserved ended, cut]
  exact found

/-- The daemon fetches a file of two bytes. -/
def getHiMoves : List ControlMove :=
  [.dialogue (.dispatch {}), .dialogue .greet, .ask (.get (ascii "a")), .dialogue (.transmit 1000), .dialogue (.dispatch {}),
    .dialogue .read, .settle 0, .dialogue .read, .take 0, .dialogue .read, .take 0]

def getHi : Control := (control.run (.start (sessionWith (ascii "hi"))) getHiMoves).get (by decide +kernel)

theorem get_file_sound_hi :
    getHi.threads[0]? = some (.returned (.fetched (ascii "a") 1000 (ascii "hi"))) ∧
    ∃ before env after middle next, getHiMoves = before ++ .dialogue (.dispatch env) :: after ∧
      control.run (.start (sessionWith (ascii "hi"))) before = some middle ∧
      control.step middle (.dialogue (.dispatch env)) = some next ∧
      middle.client.sent[middle.dialogue.handled]? = some (requestFrame (.get (ascii "a")) 1000) ∧
      middle.world.fs.read (ascii "a") = some (ascii "hi") := by
  have returned : getHi.threads[0]? = some (.returned (.fetched (ascii "a") 1000 (ascii "hi"))) := by decide +kernel
  refine ⟨returned, ?_⟩
  exact get_file_sound (Option.some_get (by rfl)).symm (Option.some_get (by decide +kernel)).symm returned (by decide)
    ⟨by decide, by decide⟩ (by decide)

/-- `collect_stream` returns all there was before the end. In every run, when it is the
only one to wait for that process: what it returned with an exit status is what the
agent has sent of the child's output before the first EXIT, and the status is that of
this EXIT. -/
theorem wait_proc_sound {start : World} {moves : List ControlMove} {state : Control} {index procId : Nat}
    {stdout stderr : List Char} {exitInfo : Info} (executed : control.run (.start start) moves = some state)
    (returned : state.threads[index]? = some (.returned (.collected procId stdout stderr (some exitInfo))))
    (small : procId < 1000) (alone : (moves.filter (waitsFor procId)).length ≤ 1) :
    ∃ before payload after, arrivals procId state.world.link.queued = before ++ (FrameType.exit.code, payload) :: after ∧
      (∀ item ∈ before, item.1 ≠ FrameType.exit.code) ∧ stdout = decodeReplacing (content .stdout before) ∧
      stderr = decodeReplacing (content .stderr before) ∧ exitInfo = Daemon.parseKv payload := by
  have books := books_run executed
  have takers := takers_run procId executed
  have collects : ∀ take ∈ consumed start moves, take.key = procId → take.thread ∈ collectors procId start moves := by
    intro take member same
    rcases takers.takers take member same with collects | ⟨large, _⟩
    · exact collects
    · omega
  have account := books.accounts returned
  generalize same : Thread.returned (.collected procId stdout stderr (some exitInfo)) = thread at account
  cases account with
  | nothing abstains =>
    subst same
    cases abstains
  | @exited _ begun last all loops key ended =>
    cases same
    -- There is one collector, and this thread is one.
    have mine : last.thread = index ∧ last ∈ consumed start moves := by
      have member : last ∈ byThread index (consumed start moves) := all ▸ List.mem_append_right begun (List.mem_singleton_self _)
      obtain ⟨inside, same⟩ := List.mem_filter.mp member
      exact ⟨by simpa using same, inside⟩
    have sole : ∀ take ∈ consumed start moves, take.key = procId → take.thread = index := by
      intro take member same
      rw [← mine.1]
      rw [← collectors_length executed] at alone
      exact eq_of_mem_short alone (collects take member same) (collects last mine.2 key)
    have arrived := books.conserved procId
    rw [onKey_sole sole (all ▸ loops.keys_concat key), all, List.map_append, List.append_assoc] at arrived
    have whole : arrivals procId state.world.link.queued = begun.map Take.item ++ (FrameType.exit.code, last.item.2) ::
        (state.client.streams procId ++ arrivals procId (state.world.link.queued.drop state.client.received)) := by
      rw [← List.take_append_drop state.client.received state.world.link.queued, arrivals_append, arrived,
        List.take_append_drop, ← ended]
      simp
    refine ⟨_, _, _, whole, fun item member => ?_, rfl, rfl, rfl⟩
    obtain ⟨take, inside, rfl⟩ := List.mem_map.mp member
    exact loops.unended take inside
  | _ => cases same

/-- The daemon starts a child and waits for its end. -/
def waitHiMoves : List ControlMove :=
  startMoves ++ [.wait 1, .dialogue (.callback (.output .stdout (ascii "hi")) {}), .dialogue (.callback (.exited 0) {}),
    .dialogue .read, .dialogue .read, .take 1, .take 1]

def waitHi : Control := (control.run (.start Upload.freshSession) waitHiMoves).get (by decide +kernel)

theorem wait_proc_sound_hi :
    ∃ exitInfo, waitHi.threads[1]? = some (.returned (.collected 1 ['h', 'i'] [] (some exitInfo))) ∧
    ∃ before payload after, arrivals 1 waitHi.world.link.queued = before ++ (FrameType.exit.code, payload) :: after ∧
      (∀ item ∈ before, item.1 ≠ FrameType.exit.code) ∧ ['h', 'i'] = decodeReplacing (content .stdout before) ∧
      [] = decodeReplacing (content .stderr before) ∧ exitInfo = Daemon.parseKv payload := by
  have returned : waitHi.threads[1]? = some (.returned (.collected 1 ['h', 'i'] []
      (some (Daemon.parseKv (ascii "status=ok\nproc_id=1\nexit_code=0\nreason=exit"))))) := by decide +kernel
  exact ⟨_, returned, wait_proc_sound (Option.some_get (by decide +kernel)).symm returned (by decide) (by decide)⟩

end Luagent.Proofs.GetCommand
