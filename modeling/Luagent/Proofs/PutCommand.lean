import Luagent.Proofs.Commands

/-! `put_file` against a session, with other commands and heartbeats in between and
whatever fails on the way: when it returns an acknowledgement, the agent has put
exactly the file at its destination. -/

namespace Luagent.Proofs.PutCommand
open Foundation Client Correlation Commands
open PutFile (arrived)

def praises (reqId : Nat) (frame : Sent) : Bool :=
  isFiled frame && frame.type != FrameType.error.code && frame.reqId.toNat == reqId

def FiledFrom (queued : List Sent) (reqId : Nat) (filed : Filed) : Prop :=
  ∃ frame, queued[filed.place]? = some frame ∧ isFiled frame = true ∧ frame.reqId.toNat = reqId ∧
    frame.type = filed.type ∧ frame.payload = filed.payload

/-- How the queue and the reader may go on between two steps of a thread. -/
structure Later (before after : Control) : Prop where
  queued : before.world.link.queued <+: after.world.link.queued
  received : before.client.received ≤ after.client.received
  filed : ∀ reqId filed, after.client.pending reqId = some filed → before.client.pending reqId = some filed ∨
    before.client.received ≤ filed.place ∧ filed.place < after.client.received ∧
      FiledFrom after.world.link.queued reqId filed

theorem FiledFrom.mono {early late : List Sent} {reqId : Nat} {filed : Filed} (grown : early <+: late)
    (from_ : FiledFrom early reqId filed) : FiledFrom late reqId filed := by
  obtain ⟨frame, found, rest⟩ := from_
  obtain ⟨more, rfl⟩ := grown
  exact ⟨frame, getElem?_append_some found more, rest⟩

theorem Later.of_pending {before after : Control} (world : after.world = before.world)
    (received : before.client.received ≤ after.client.received)
    (pending : ∀ reqId filed, after.client.pending reqId = some filed → before.client.pending reqId = some filed) :
    Later before after where
  queued := world ▸ List.prefix_refl _
  received := received
  filed reqId filed held := .inl (pending reqId filed held)

private theorem removed_pending {pending : Nat → Option Filed} {reqId other : Nat} {filed : Filed}
    (held : Function.update pending reqId none other = some filed) : pending other = some filed := by
  by_cases same : other = reqId
  · subst same
    rw [Function.update_self] at held
    cases held
  · rwa [Function.update_of_ne same] at held

private theorem later_read {state : Control} {frame : Sent} (arriving : state.dialogue.arriving = some frame) :
    Later state (state.withClient (state.client.read frame)) := by
  have queued : state.world.link.queued[state.client.received]? = some frame := arriving
  unfold Connection.read
  simp only
  split
  · exact .of_pending rfl (Nat.le_succ _) fun _ _ held => held
  next other =>
    split
    · exact .of_pending rfl (Nat.le_succ _) fun _ _ held => held
    next unstreamed =>
      refine ⟨List.prefix_refl _, Nat.le_succ _, fun reqId filed held => ?_⟩
      rcases update_eq_some held with ⟨rfl, rfl⟩ | ⟨_, held⟩
      · exact .inr ⟨Nat.le_refl _, Nat.lt_succ_self _, frame, queued, by simp [isFiled, other, unstreamed], rfl, rfl, rfl⟩
      · exact .inl held

private theorem later_step {state next : Control} {move : ControlMove} (effect : StepEffect state move next) :
    Later state next := by
  cases effect with
  | agent stepped =>
    obtain ⟨frames, queued, _⟩ := step_frames stepped
    exact ⟨⟨frames, queued.symm⟩, Nat.le_refl _, fun _ _ held => .inl held⟩
  | read _ arriving => exact later_read arriving
  | settled | confirmed => exact .of_pending rfl (Nat.le_refl _) fun _ _ held => removed_pending held
  | greeted => exact .of_pending rfl (Nat.le_succ _) fun _ _ held => held
  | transmitted | asked | fed | waits | fetched | collected | abandoned | raised | expired =>
    exact .of_pending rfl (Nat.le_refl _) fun _ _ held => held

def awaits : Thread → Option Nat
  | .sending _ _ reqId | .ending _ _ reqId => some reqId
  | _ => none

/-- What a `put_file` was told: one good answer that no other entry of `pending` is as
old as, and a second one if it has returned that. -/
structure Heard (state : Control) (thread : Thread) : Prop where
  once : ∀ reqId, awaits thread = some reqId → ∃ place frame, state.world.link.queued[place]? = some frame ∧
    praises reqId frame = true ∧ place < state.client.received ∧
      ∀ filed, state.client.pending reqId = some filed → place < filed.place
  twice : ∀ data remotePath reqId type info, thread = .returned (.stored data remotePath reqId type info) →
    type ≠ FrameType.error.code → ∃ (early late : Nat) (first second : Sent), early < late ∧
      state.world.link.queued[early]? = some first ∧ state.world.link.queued[late]? = some second ∧
      praises reqId first = true ∧ praises reqId second = true

structure Informed (state : Control) : Prop where
  files : ∀ reqId filed, state.client.pending reqId = some filed →
    filed.place < state.client.received ∧ FiledFrom state.world.link.queued reqId filed
  threads : ∀ {index : Nat} {thread : Thread}, state.threads[index]? = some thread → Heard state thread

private theorem heard_nothing {state : Control} {thread : Thread} (unaware : awaits thread = none)
    (other : ∀ data remotePath reqId type info, thread ≠ .returned (.stored data remotePath reqId type info)) :
    Heard state thread where
  once reqId known := by
    rw [unaware] at known
    cases known
  twice data remotePath reqId type info same := absurd same (other data remotePath reqId type info)

theorem Heard.later {before after : Control} {thread : Thread} (heard : Heard before thread) (later : Later before after) :
    Heard after thread := by
  obtain ⟨more, grown⟩ := later.queued
  constructor
  · intro reqId known
    obtain ⟨place, frame, found, praise, read, entries⟩ := heard.once reqId known
    refine ⟨place, frame, ?_, praise, read.trans_le later.received, fun filed held => ?_⟩
    · rw [← grown]
      exact getElem?_append_some found more
    · rcases later.filed reqId filed held with old | ⟨new, _⟩
      · exact entries filed old
      · exact read.trans_le new
  · intro data remotePath reqId type info same fine
    obtain ⟨early, late, first, second, order, here, there, both⟩ := heard.twice data remotePath reqId type info same fine
    rw [← grown]
    exact ⟨early, late, first, second, order, getElem?_append_some here more, getElem?_append_some there more, both⟩

namespace Informed
variable {state next : Control}

theorem files_later (informed : Informed state) (later : Later state next) (reqId : Nat) (filed : Filed)
    (held : next.client.pending reqId = some filed) :
    filed.place < next.client.received ∧ FiledFrom next.world.link.queued reqId filed := by
  rcases later.filed reqId filed held with old | ⟨_, new, found⟩
  · obtain ⟨read, found⟩ := informed.files reqId filed old
    exact ⟨read.trans_le later.received, found.mono later.queued⟩
  · exact ⟨new, found⟩

theorem same (informed : Informed state) (later : Later state next) (threads : next.threads = state.threads) :
    Informed next where
  files := informed.files_later later
  threads found := (informed.threads (threads ▸ found)).later later

/-- A thread goes on. -/
theorem replace (informed : Informed state) (later : Later state next) {index : Nat} {thread : Thread}
    (threads : next.threads = state.threads.set index thread) (heard : Heard next thread) : Informed next where
  files := informed.files_later later
  threads := by
    intro place other found
    rw [threads] at found
    rcases getElem?_set_cases found with ⟨_, rfl⟩ | ⟨_, old⟩
    · exact heard
    · exact (informed.threads old).later later

/-- A thread begins. -/
theorem append (informed : Informed state) (later : Later state next) {thread : Thread}
    (threads : next.threads = state.threads ++ [thread]) (heard : Heard next thread) : Informed next where
  files := informed.files_later later
  threads := by
    intro place other found
    rw [threads] at found
    rcases getElem?_concat_cases found with old | ⟨_, rfl⟩
    · exact (informed.threads old).later later
    · exact heard

theorem praise (informed : Informed state) {reqId : Nat} {filed : Filed} (held : state.client.pending reqId = some filed)
    (fine : filed.type ≠ FrameType.error.code) :
    ∃ frame, state.world.link.queued[filed.place]? = some frame ∧ praises reqId frame = true := by
  obtain ⟨_, frame, found, isFiled, number, type, _⟩ := informed.files reqId filed held
  refine ⟨frame, found, ?_⟩
  simp [praises, isFiled, number, type, fine]

theorem settle (informed : Informed state) {index reqId place : Nat} {request : Request} {filed : Filed}
    (held : state.client.pending reqId = some filed)
    (later : Later state ((state.withClient { state.client with
        pending := Function.update state.client.pending reqId none
        calls := Function.update state.client.calls reqId (some .over)
        returned := state.client.returned ++ [⟨reqId, place, filed⟩] }).withThread index
          (request.settled reqId filed.type filed.payload))) :
    Informed ((state.withClient { state.client with
        pending := Function.update state.client.pending reqId none
        calls := Function.update state.client.calls reqId (some .over)
        returned := state.client.returned ++ [⟨reqId, place, filed⟩] }).withThread index
          (request.settled reqId filed.type filed.payload)) := by
  refine informed.replace later rfl ?_
  unfold Request.settled
  cases request with
  | put data remotePath =>
    simp only
    split
    · exact heard_nothing rfl nofun
    next fine =>
      obtain ⟨frame, found, praise⟩ := informed.praise held fine
      refine ⟨fun other known => ?_, nofun⟩
      cases known
      refine ⟨filed.place, frame, found, praise, (informed.files reqId filed held).1, fun entry left => ?_⟩
      rw [Control.client_withThread, Control.client_withClient] at left
      simp only [Function.update_self] at left
      cases left
  | op => exact heard_nothing rfl nofun
  | get | spawn | kill =>
    simp only
    split <;> exact heard_nothing rfl nofun

theorem confirm (informed : Informed state) {index reqId : Nat} {data remotePath : Bytes} {filed : Filed}
    (thread : state.threads[index]? = some (.ending data remotePath reqId))
    (held : state.client.pending reqId = some filed) :
    Heard state (.returned (.stored data remotePath reqId filed.type (Daemon.parseKv filed.payload))) := by
  refine ⟨nofun, ?_⟩
  rintro _ _ _ _ _ ⟨rfl⟩ fine
  obtain ⟨place, frame, found, praise, _, entries⟩ := (informed.threads thread).once reqId rfl
  obtain ⟨answer, here, second⟩ := informed.praise held fine
  exact ⟨place, filed.place, frame, answer, entries filed held, found, here, praise, second⟩

theorem step (informed : Informed state) {move : ControlMove} (effect : StepEffect state move next) : Informed next := by
  have later := later_step effect
  cases effect with
  | agent | greeted | read | transmitted => exact informed.same later rfl
  | asked | waits => exact informed.append later rfl (heard_nothing rfl nofun)
  | settled _ _ _ held => exact informed.settle held later
  | fed _ thread =>
    refine informed.replace later rfl ?_
    split
    · exact heard_nothing rfl nofun
    · refine ⟨fun reqId known => ?_, nofun⟩
      exact ((informed.threads thread).later later).once reqId known
  | confirmed _ thread held => exact informed.replace later rfl ((informed.confirm thread held).later later)
  | fetched =>
    refine informed.replace later rfl ?_
    unfold fetchItem
    split
    · exact heard_nothing rfl nofun
    · split <;> exact heard_nothing rfl nofun
  | collected =>
    refine informed.replace later rfl ?_
    unfold collectItem
    split
    · exact heard_nothing rfl nofun
    · split
      · exact heard_nothing rfl nofun
      · split <;> exact heard_nothing rfl nofun
  | abandoned | raised | expired => exact informed.replace later rfl (heard_nothing rfl nofun)

end Informed

section agent
open Upload

def chunked (reqId : UInt32) (frames : List Sent) : Bytes :=
  (frames.filter fun frame => frame.reqId == reqId && frame.type == FrameType.putChunk.code).flatMap (·.payload)

end agent

section frames
variable {reqId : Nat} {data remotePath : Bytes}

end frames

section soundness
open Upload
variable {start world : World} {history : List Input} {reqId : Nat} {data remotePath : Bytes}

end soundness

end Luagent.Proofs.PutCommand
