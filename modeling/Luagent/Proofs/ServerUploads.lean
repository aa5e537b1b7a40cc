import Luagent.Proofs.ServerDescriptors

/-! Uploads of several sessions at once. They share one file system; as long as no two of
them use the same names, each stores what its own client sent, in whatever order the
callbacks of the sessions come and whichever calls fail. -/

namespace Luagent.Proofs.ServerUploads
open Foundation FileSystem Upload ServerDescriptors

/-- The path a begin request names. -/
def beginPath : Event → Option Path
  | .read (.dispatch message) =>
    if message.type = FrameType.putBegin.code then kvCopy 512 (cstr message.payload) (ascii "path") else none
  | _ => none

private theorem beginPath_of {event : Event} {message : Message} {path : Path} (isFrame : event = .read (.dispatch message))
    (isBegin : message.type = FrameType.putBegin.code) (named : kvCopy 512 (cstr message.payload) (ascii "path") = some path) :
    beginPath event = some path := by
  rw [isFrame, beginPath, if_pos isBegin, named]

/-- The names of an upload to a path. -/
def Uses (path name : Path) : Prop := name = path ∨ name = partPath path

/-- Uploads to both paths can go on at once. -/
def Separated (path other : Path) : Prop := ∀ name, Uses path name → ¬ Uses other name

instance (path name : Path) : Decidable (Uses path name) := inferInstanceAs (Decidable (_ ∨ _))

private theorem separated_iff (path other : Path) :
    Separated path other ↔ ¬ Uses other path ∧ ¬ Uses other (partPath path) := by
  constructor
  · intro separated
    exact ⟨separated path (.inl rfl), separated (partPath path) (.inr rfl)⟩
  · rintro ⟨destination, part⟩ name (rfl | rfl)
    · exact destination
    · exact part

instance (path other : Path) : Decidable (Separated path other) := decidable_of_iff _ (separated_iff path other).symm

def Touches (upload : TransferState) (event : Event) (name : Path) : Prop :=
  ∃ path, (upload.path = some path ∨ beginPath event = some path) ∧ Uses path name

section footprint
variable {world next : World} {input : Input}

private theorem cleared_spares (env : Env) (fs : FileSystem) (fd : Nat) (overwrite : Bool) (path : Path) :
    Spares path fs (cleared env (fs.close fd) overwrite path) := by
  have closed := Spares.close fs path fd
  unfold cleared uvFsUnlink
  repeat' split
  · exact closed
  · exact closed.trans (.unlink ..)
  · exact closed

private theorem step_confined (download : world.download = transferInit) (shape : UploadShape world)
    (stepped : agent.step world input = some next) : Confined (Touches world.upload input.1) world.fs next.fs := by
  rcases shape with idle | ⟨path, fd, file, uploading⟩
  · cases (idle_step download idle stepped).2 with
    | idle _ fs => exact .of_preserves fs
    | failed message path isFrame isBegin named _ fs =>
      exact .of_spares ⟨path, .inr (beginPath_of isFrame isBegin named), .inr rfl⟩ fs
    | opened message path size isFrame isBegin asks _ _ fs =>
      rw [fs]
      exact .of_spares ⟨path, .inr (beginPath_of isFrame isBegin asks.path), .inr rfl⟩ (.create ..)
  · have destination : Touches world.upload input.1 path := ⟨path, .inl uploading.destination, .inl rfl⟩
    have part : Touches world.upload input.1 (partPath path) := ⟨path, .inl uploading.destination, .inr rfl⟩
    cases (upload_step download uploading stepped).2 with
    | kept _ _ fs => exact .of_preserves fs
    | stored message _ _ _ _ fs =>
      rw [fs]
      exact .of_spares part (.pwrite uploading.described uploading.named ..)
    | dropped _ fs => exact .of_spares part fs
    | unmoved _ _ _ _ _ _ _ _ fs =>
      exact (Confined.of_spares destination (cleared_spares ..)).trans (.of_spares part fs)
    | finished _ _ _ _ _ _ _ fs =>
      rw [fs]
      exact (Confined.of_spares destination (cleared_spares ..)).trans (.rename _ part destination)

/-- The path of an upload after a callback was its path before, or the one that a begin
request named. -/
private theorem step_path (download : world.download = transferInit) (shape : UploadShape world)
    (stepped : agent.step world input = some next) {path : Path} (known : next.upload.path = some path) :
    world.upload.path = some path ∨ beginPath input.1 = some path := by
  have none : next.upload ≠ transferInit := by
    intro idle
    rw [idle] at known
    cases known
  rcases shape with idle | ⟨destination, fd, file, uploading⟩
  · cases (idle_step download idle stepped).2 with
    | idle upload | failed _ _ _ _ _ upload => exact absurd upload none
    | opened message asked size isFrame isBegin asks _ upload =>
      rw [upload] at known
      cases known
      exact .inr (beginPath_of isFrame isBegin asks.path)
  · cases (upload_step download uploading stepped).2 with
    | kept _ upload => exact .inl (upload ▸ known)
    | stored message _ _ _ upload =>
      rw [upload] at known
      exact .inl known
    | dropped upload | unmoved _ _ _ _ _ _ _ upload | finished _ _ _ _ _ _ upload => exact absurd upload none

end footprint

/-- What a step of the agent adds to an upload of a session. -/
def adds (id : Nat) (reqId : UInt32) (state : ServerState) (event : ServerEvent) (_ : ServerState) : Bytes :=
  match event with
  | .session other event env =>
    if other = id then
      ((state.session id).map fun session => contribution reqId (state.world id session) (event, env)).getD []
    else []
  | _ => []

def IsOpen (state : ServerState) (id : Nat) : Prop :=
  ∃ session, state.session id = some session ∧ session.upload.active = true

/-- The begin request that opened the upload of a session, and what was accepted for it
since, among all that the sessions did. The upload has been open ever since. -/
structure Begun (start : ServerState) (history : List ServerEvent) (id : Nat) (reqId : UInt32) (path : Path) (size : Nat)
    (received : Bytes) where
  before : List ServerEvent
  message : Message
  env : Env
  later : List ServerEvent
  idle : ServerState
  opened : ServerState
  split : history = before ++ .session id (.read (.dispatch message)) env :: later
  isBegin : message.type = FrameType.putBegin.code
  request : message.reqId = reqId
  asks : Asks (cstr message.payload) path size
  reached : server.run start before = some idle
  inactive : ¬ IsOpen idle id
  opens : server.step idle (.session id (.read (.dispatch message)) env) = some opened
  unbroken : ∀ sofar state, sofar <+: later → server.run opened sofar = some state → IsOpen state id
  accepted : received = server.gather (adds id reqId) opened later

section histories
variable {start state next : ServerState} {history : List ServerEvent} {event : ServerEvent} {id : Nat} {reqId : UInt32}
  {path : Path} {size : Nat} {received : Bytes}

theorem Begun.run (begun : Begun start history id reqId path size received)
    (executed : server.run start history = some state) : server.run begun.opened begun.later = some state := by
  rw [begun.split] at executed
  obtain ⟨idle, reached, continued⟩ := server.run_append_some executed
  cases begun.reached.symm.trans reached
  obtain ⟨opened, opens, continued⟩ := server.run_cons_some continued
  cases begun.opens.symm.trans opens
  exact continued

/-- A step that leaves the upload open extends its history. -/
def Begun.extend (begun : Begun start history id reqId path size received)
    (executed : server.run start history = some state) (stepped : server.step state event = some next)
    (isOpen : IsOpen next id) :
    Begun start (history ++ [event]) id reqId path size (received ++ adds id reqId state event next) where
  __ := begun
  later := begun.later ++ [event]
  split := by simp [begun.split]
  unbroken sofar middle isPrefix reached := by
    rcases List.prefix_concat_iff.mp isPrefix with whole | shorter
    · have last : server.run begun.opened (begun.later ++ [event]) = some next := by
        rw [Machine.run_append, begun.run executed]
        exact (server.run_singleton state event).trans stepped
      rw [whole, last] at reached
      cases reached
      exact isOpen
    · exact begun.unbroken sofar middle shorter reached
  accepted := by
    rw [server.gather_step _ (begun.run executed) stepped, ← begun.accepted]

end histories

/-- Where the upload of a session stands after a run of the agent. -/
structure Going (start : ServerState) (history : List ServerEvent) (state : ServerState) (id : Nat) (session : Session)
    (path : Path) (fd file : Nat) (received : Bytes) : Prop where
  uploading : Uploading (state.world id session) path fd file
  begun : Nonempty (Begun start history id session.upload.reqId path session.upload.totalSize received)
  stored : session.upload.totalSize < 2 ^ 63 → Stored (state.world id session) file received

def KnownUpload (start : ServerState) (history : List ServerEvent) (state : ServerState) (id : Nat)
    (session : Session) : Prop :=
  session.upload = transferInit ∨ ∃ path fd file received, Going start history state id session path fd file received

/-- All uploads of the agent, no two of which use the same names. -/
structure Uploads (start : ServerState) (history : List ServerEvent) (state : ServerState) : Prop where
  unaliased : state.fs.Unaliased
  known : ∀ id session, state.session id = some session → KnownUpload start history state id session
  separated : ∀ id other session theirs path destination, id ≠ other → state.session id = some session →
    state.session other = some theirs → session.upload.path = some path → theirs.upload.path = some destination →
    Separated path destination

/-- A begin request names no path that uses names of an upload of another session. -/
def Separate (state : ServerState) : ServerEvent → Prop
  | .session id event _ => ∀ path ∈ beginPath event, ∀ other < state.nextSessionId, other ≠ id →
      ∀ theirs ∈ state.session other, ∀ destination ∈ theirs.upload.path, Separated path destination
  | _ => True

instance (state : ServerState) : (event : ServerEvent) → Decidable (Separate state event)
  | .session id event _ => inferInstanceAs (Decidable (∀ path ∈ beginPath event, ∀ other < state.nextSessionId, other ≠ id →
      ∀ theirs ∈ state.session other, ∀ destination ∈ theirs.upload.path, Separated path destination))
  | .connect _ | .relay .. => isTrue trivial

theorem Separate.apart {state : ServerState} {id other : Nat} {happened : Event} {env : Env} {theirs : Session}
    {path destination : Path} (kept : Balance.Kept state) (separate : Separate state (.session id happened env))
    (asked : beginPath happened = some path) (different : other ≠ id) (there : state.session other = some theirs)
    (known : theirs.upload.path = some destination) : Separated path destination := by
  refine separate path asked other ?_ different theirs there destination known
  by_contra late
  rw [kept.numbered other (Nat.not_lt.mp late)] at there
  cases there

section steps
variable {start state next : ServerState} {history : List ServerEvent} {event : ServerEvent} {id : Nat}

theorem KnownUpload.shape {session : Session} (known : KnownUpload start history state id session) :
    UploadShape (state.world id session) :=
  known.imp (fun idle => idle) fun ⟨path, fd, file, _, going⟩ => ⟨path, fd, file, going.uploading⟩

/-- An upload goes on while somebody else is served. -/
theorem Going.waits {session current : Session} {path : Path} {fd file : Nat} {received : Bytes}
    (going : Going start history state id session path fd file received) (executed : server.run start history = some state)
    (stepped : server.step state event = some next) (there : next.session id = some current)
    (same : current.upload = session.upload) (silent : adds id session.upload.reqId state event next = [])
    (described : next.fs.fds fd = some file) (named : next.fs.names (partPath path) = some file)
    (content : next.fs.data file = state.fs.data file) :
    Going start (history ++ [event]) next id current path fd file received := by
  have old := going.uploading
  have uploading : Uploading (next.world id current) path fd file :=
    ⟨same ▸ old.active, same ▸ old.mode, same ▸ old.destination, same ▸ old.temporary, same ▸ old.descriptor, described,
      named, same ▸ old.inside, same ▸ old.bounded, same ▸ old.fits⟩
  refine ⟨uploading, ?_, ?_⟩
  · obtain ⟨begun⟩ := going.begun
    have extended := begun.extend executed stepped ⟨current, there, uploading.active⟩
    rw [silent, List.append_nil] at extended
    rw [same]
    exact ⟨extended⟩
  · rw [same]
    intro small
    have stored := going.stored small
    exact ⟨content.trans stored.content, same ▸ stored.offset⟩

private theorem adds_own {session : Session} {input : Input} (found : state.session id = some session) (reqId : UInt32) :
    adds id reqId state (.session id input.1 input.2) next = contribution reqId (state.world id session) input := by
  simp only [adds, if_pos, found, Option.map_some, Option.getD_some]

private theorem adds_other {other : Nat} {happened : Event} {env : Env} (different : other ≠ id) (reqId : UInt32) :
    adds id reqId state (.session other happened env) next = [] := by
  simp only [adds, if_neg different]

section served
variable {session : Session} {input : Input} {after : World}

private theorem server_moves (found : state.session id = some session)
    (stepped : agent.step (state.world id session) input = some after) :
    server.step state (.session id input.1 input.2) = some (state.after id after) := by
  simp only [server, found, Option.bind_some]
  exact congrArg (Option.map (state.after id)) stepped

private theorem after_own (live : after.released = 0) : (state.after id after).session id = some after.toSession := by
  simp only [ServerState.after, World.survivor, if_pos, live]

/-- The history of an upload that has just been opened. -/
theorem begun_first {message : Message} {env : Env} {path : Path} {size : Nat} (executed : server.run start history = some state)
    (inactive : ¬ IsOpen state id) (isBegin : message.type = FrameType.putBegin.code) (asks : Asks (cstr message.payload) path size)
    (stepped : server.step state (.session id (.read (.dispatch message)) env) = some next) (isOpen : IsOpen next id) :
    Nonempty (Begun start (history ++ [.session id (.read (.dispatch message)) env]) id message.reqId path size []) := by
  refine ⟨⟨history, message, env, [], state, next, rfl, isBegin, rfl, asks, executed, inactive, stepped, ?_, rfl⟩⟩
  intro sofar last isPrefix reached
  rw [List.prefix_nil.mp isPrefix] at reached
  cases reached
  exact isOpen

/-- An upload goes on when its session is served, with what the callback adds to it. -/
theorem Going.goesOn {path : Path} {fd file : Nat} {received chunk : Bytes}
    (going : Going start history state id session path fd file received) (executed : server.run start history = some state)
    (found : state.session id = some session) (stepped : agent.step (state.world id session) input = some after)
    (live : after.released = 0) (adds : contribution session.upload.reqId (state.world id session) input = chunk)
    (uploading : Uploading after path fd file) (request : after.upload.reqId = session.upload.reqId)
    (size : after.upload.totalSize = session.upload.totalSize)
    (stored : session.upload.totalSize < 2 ^ 63 → Stored after file (received ++ chunk)) :
    Going start (history ++ [.session id input.1 input.2]) (state.after id after) id after.toSession path fd file
      (received ++ chunk) := by
  subst adds
  refine ⟨uploading.preserved rfl (.refl _), ?_, ?_⟩
  · obtain ⟨begun⟩ := going.begun
    rw [request, size, ← @adds_own state (state.after id after) id session input found]
    exact ⟨begun.extend executed (server_moves found stepped) ⟨after.toSession, after_own live, uploading.active⟩⟩
  · rw [size]
    exact fun small => ⟨(stored small).content, (stored small).offset⟩

/-- The upload of the session that is served. -/
theorem KnownUpload.served (known : KnownUpload start history state id session)
    (executed : server.run start history = some state) (found : state.session id = some session)
    (download : session.download = transferInit)
    (stepped : agent.step (state.world id session) input = some after) (live : after.released = 0) :
    KnownUpload start (history ++ [.session id input.1 input.2]) (state.after id after) id after.toSession := by
  rcases known with idle | ⟨path, fd, file, received, going⟩
  · cases (idle_step download idle stepped).2 with
    | idle upload | failed _ _ _ _ _ upload => exact .inl upload
    | opened message path size isFrame isBegin asks fits upload fs =>
      obtain ⟨uploading, stored⟩ := uploading_of_opened asks fits upload fs
      have inactive : ¬ IsOpen state id := by
        rintro ⟨other, same, active⟩
        cases found.symm.trans same
        rw [idle] at active
        cases active
      have moved := server_moves found stepped
      rw [isFrame] at moved ⊢
      have begun := begun_first executed inactive isBegin asks moved ⟨after.toSession, after_own live, uploading.active⟩
      refine .inr ⟨path, _, _, [], uploading.preserved rfl (.refl _), ?_, fun _ => ⟨stored.content, stored.offset⟩⟩
      rw [upload]
      exact begun
  · cases (upload_step download going.uploading stepped).2 with
    | kept unaccepted upload fs =>
      refine .inr ⟨path, fd, file, received ++ [], going.goesOn executed found stepped live (contribution_of_none unaccepted _)
        (going.uploading.preserved upload fs) (by rw [upload]; rfl) (by rw [upload]; rfl) fun small => ?_⟩
      rw [List.append_nil]
      exact (going.stored small).preserved upload fs
    | stored message accepted same within upload fs =>
      have grows : contribution session.upload.reqId (state.world id session) input = message.payload := by
        rw [show session.upload.reqId = message.reqId from same]
        exact contribution_of_accepted accepted
      refine .inr ⟨path, fd, file, received ++ message.payload, going.goesOn executed found stepped live grows
        (uploading_of_stored going.uploading within upload fs) (by rw [upload]; rfl) (by rw [upload]; rfl) fun small => ?_⟩
      exact stored_append going.uploading (going.stored small) small message.bounded upload fs
    | dropped upload | unmoved _ _ _ _ _ _ _ upload | finished _ _ _ _ _ _ upload => exact .inl upload

end served

theorem Uploads.untouched (uploads : Uploads start history state) (kept : Balance.Kept state) {other : Nat}
    {session theirs : Session} {happened : Event}
    {env : Env} (separate : Separate state (.session id happened env)) (different : other ≠ id)
    (found : state.session id = some session) (there : state.session other = some theirs) {path name : Path}
    (destination : theirs.upload.path = some path) (uses : Uses path name) : ¬ Touches session.upload happened name := by
  rintro ⟨mine, own | asked, also⟩
  · exact uploads.separated id other session theirs mine path different.symm found there own destination name also uses
  · exact separate.apart kept asked different there destination name also uses

end steps

section runs
variable {fs : FileSystem} {state next : ServerState} {history : List ServerEvent} {event : ServerEvent}

/-- A connection, or what the loop does for a relay, leaves all uploads as they are. -/
theorem Uploads.beside (uploads : Uploads (.start fs) history state)
    (executed : server.run (.start fs) history = some state)
    (stepped : server.step state event = some next) (apart : ∀ id happened env, event ≠ .session id happened env)
    (same : next.fs = state.fs) (new : ∀ id session, next.session id = some session →
      state.session id = some session ∨ session.upload = transferInit) :
    Uploads (.start fs) (history ++ [event]) next := by
  have silent : ∀ id reqId, adds id reqId state event next = [] := by
    intro id reqId
    cases event with
    | session other happened env => exact absurd rfl (apart other happened env)
    | connect | relay => rfl
  have old {id : Nat} {session : Session} {path : Path} (found : next.session id = some session)
      (known : session.upload.path = some path) : state.session id = some session := by
    refine (new id session found).resolve_right fun idle => ?_
    rw [idle] at known
    cases known
  refine ⟨same ▸ uploads.unaliased, fun id session found => ?_, ?_⟩
  · rcases new id session found with there | fresh
    · refine (uploads.known id session there).imp (fun idle => idle) ?_
      rintro ⟨path, fd, file, received, going⟩
      exact ⟨path, fd, file, received, going.waits executed stepped found rfl (silent id _)
        (same ▸ going.uploading.described) (same ▸ going.uploading.named) (same ▸ rfl)⟩
    · exact .inl fresh
  · intro id other session theirs path destination different here there mine yours
    exact uploads.separated id other session theirs path destination different (old here mine) (old there yours) mine yours

section served
variable {id : Nat} {session : Session} {input : Input} {after : World}

/-- The uploads of the sessions that are not served go on. -/
theorem Uploads.waits (uploads : Uploads (.start fs) history state) (executed : server.run (.start fs) history = some state)
    (separate : Separate state (.session id input.1 input.2)) (found : state.session id = some session)
    (moved : agent.step (state.world id session) input = some after)
    {other : Nat} (different : other ≠ id) {theirs current : Session} (before : state.session other = some theirs)
    (there : (state.after id after).session other = some current) (upload : current.upload = theirs.upload) :
    KnownUpload (.start fs) (history ++ [.session id input.1 input.2]) (state.after id after) other current := by
  have kept := (Balance.followed_of_run executed).kept
  have out := shared_of_run executed
  have confined := step_confined (kept.sound id session found).1.download (uploads.known id session found).shape moved
  refine (uploads.known other theirs before).imp upload.trans ?_
  rintro ⟨path, fd, file, received, going⟩
  have uploading := going.uploading
  have foreign := uploads.untouched kept separate different found before uploading.destination (.inr rfl)
  obtain ⟨named, content⟩ := confined.foreign uploads.unaliased foreign uploading.named
  refine ⟨path, fd, file, received, going.waits executed (server_moves found moved) there upload
    (adds_other different.symm _) ?_ named content⟩
  -- the session that is served does not have this descriptor
  have owned : held state other = some fd := (held_of_found before).trans uploading.descriptor
  have exchanged := (out.served kept found moved).2.1
  have same := (exchanged.others fd (state.fs.numbered uploading.described) fun mine =>
    different (out.shared.distinct owned mine)).1
  exact same.trans uploading.described

/-- The path of an upload is an old one, or was asked for just now. -/
theorem Uploads.origin (uploads : Uploads (.start fs) history state)
    (executed : server.run (.start fs) history = some state)
    (found : state.session id = some session) (moved : agent.step (state.world id session) input = some after)
    {other : Nat} {current : Session} {path : Path} (there : (state.after id after).session other = some current)
    (known : current.upload.path = some path) :
    (∃ earlier, state.session other = some earlier ∧ earlier.upload.path = some path) ∨
      other = id ∧ beginPath input.1 = some path := by
  have sound := ((Balance.followed_of_run executed).kept.sound id session found).1
  rcases Balance.after_session there with ⟨rfl, _, rfl⟩ | ⟨_, earlier, before, rfl⟩
  · rcases step_path sound.download (uploads.known other session found).shape moved known with old | asked
    · exact .inl ⟨session, found, old⟩
    · exact .inr ⟨rfl, asked⟩
  · exact .inl ⟨earlier, before, known⟩

theorem Uploads.served (uploads : Uploads (.start fs) history state)
    (executed : server.run (.start fs) history = some state)
    (separate : Separate state (.session id input.1 input.2)) (found : state.session id = some session)
    (moved : agent.step (state.world id session) input = some after) :
    Uploads (.start fs) (history ++ [.session id input.1 input.2]) (state.after id after) := by
  have kept := (Balance.followed_of_run executed).kept
  obtain ⟨sound, _⟩ := kept.sound id session found
  have confined := step_confined sound.download (uploads.known id session found).shape moved
  refine ⟨confined.unaliased uploads.unaliased, fun other current there => ?_, ?_⟩
  · rcases Balance.after_session there with ⟨rfl, live, rfl⟩ | ⟨different, earlier, before, rfl⟩
    · exact (uploads.known other session found).served executed found sound.download moved live
    · exact uploads.waits executed separate found moved different before there rfl
  · intro first second mine theirs path destination different here there known also
    rcases uploads.origin executed found moved here known with ⟨own, before, old⟩ | ⟨rfl, asked⟩ <;>
      rcases uploads.origin executed found moved there also with ⟨others, earlier, older⟩ | ⟨same, wanted⟩
    · exact uploads.separated first second own others path destination different before earlier old older
    · subst same
      have apart := separate.apart kept wanted different before old
      exact fun name uses used => apart name used uses
    · exact separate.apart kept asked different.symm earlier older
    · exact absurd same.symm different

end served

theorem Uploads.step (uploads : Uploads (.start fs) history state) (executed : server.run (.start fs) history = some state)
    (separate : Separate state event) (stepped : server.step state event = some next) :
    Uploads (.start fs) (history ++ [event]) next := by
  cases server_serves (Balance.followed_of_run executed).kept stepped with
  | beside apart same _ new =>
    exact uploads.beside executed stepped apart same fun id session found => (new id session found).imp_right (·.2)
  | served id session input after isSession found moved result =>
    subst isSession result
    exact uploads.served executed separate found moved

private theorem uploads_of_run (unaliased : fs.Unaliased) (separate : server.Conforms Separate (.start fs) history)
    (executed : server.run (.start fs) history = some state) : Uploads (.start fs) history state := by
  refine server.conforming_induction (Uploads (.start fs)) ?_ ?_ separate executed
  · refine ⟨unaliased, ?_, ?_⟩
    · intro _ _ found
      cases found
    · intro _ _ _ _ _ _ _ found
      cases found
  · exact fun _ _ _ _ reached uploads allowed stepped => uploads.step reached allowed stepped

private theorem unacknowledged {world next : World} {env : Env} {message : Message} {reqId : UInt32} {path : Path}
    {size : Nat}
    (idle : world.upload = transferInit) (stepped : agent.step world (.read (.dispatch message), env) = some next)
    (isEnd : message.type = FrameType.putEnd.code)
    (acked : next.link.queued = world.link.queued ++ [⟨FrameType.ack.code, reqId, putEndReply path size⟩]) : False := by
  obtain ⟨_, rfl⟩ := agent_step stepped
  have inactive : (world.countFrame message).upload.active = false := by
    rw [show (world.countFrame message).upload = transferInit from idle]
    rfl
  simp only [callback, perform, control_end isEnd, putEnd_idle inactive] at acked
  exact not_complains_ack (sendError_complains env (world.countFrame message).link _ _ _) acked

/-- An end request that is acknowledged has moved the file of the upload to its destination. -/
theorem acknowledged {world next : World} {env : Env} {message : Message} {reqId : UInt32} {path destination : Path}
    {size fd file : Nat} (uploading : Uploading world destination fd file)
    (stepped : agent.step world (.read (.dispatch message), env) = some next)
    (isEnd : message.type = FrameType.putEnd.code)
    (acked : next.link.queued = world.link.queued ++ [⟨FrameType.ack.code, reqId, putEndReply path size⟩]) :
    path = destination ∧ size = world.upload.totalSize ∧ reqId = world.upload.reqId ∧
      world.upload.offset = world.upload.totalSize ∧ next.fs.read destination = some (world.fs.data file) := by
  obtain ⟨_, rfl⟩ := agent_step stepped
  simp only [callback, perform, control_end isEnd] at acked ⊢
  have effect := putEnd_effect env (uploading.counted message) message.reqId
  generalize transferHandlePutEnd env (world.countFrame message) message.reqId = result at acked effect
  cases effect with
  | refused _ _ _ _ reply | dropped _ _ _ _ _ _ reply | unmoved _ _ _ _ _ _ _ reply =>
    exact (not_complains_ack reply acked).elim
  | finished same complete _ _ _ _ fs reply =>
    rw [reply] at acked
    obtain ⟨request, text⟩ := sendText_acked acked
    obtain ⟨rfl, total⟩ := putEndReply_injective text
    refine ⟨rfl, total.symm, (same.trans request).symm, complete, ?_⟩
    rw [fs]
    exact uploading.read_renamed env _

/-- Whatever other sessions do meanwhile: when the agent acknowledges the end of an upload
with a path and a size, a begin request of the same session opened it with these, and the
destination holds exactly the chunks accepted from that session since, which are `size` bytes. -/
theorem concurrent_uploads_sound {id : Nat} {session after : Session} {message : Message} {env : Env} {reqId : UInt32}
    {path : Path} {size : Nat} (unaliased : fs.Unaliased) (executed : server.run (.start fs) history = some state)
    (separate : server.Conforms Separate (.start fs) history) (found : state.session id = some session)
    (stepped : server.step state (.session id (.read (.dispatch message)) env) = some next)
    (isEnd : message.type = FrameType.putEnd.code) (there : next.session id = some after)
    (acked : after.link.queued = session.link.queued ++ [⟨FrameType.ack.code, reqId, putEndReply path size⟩])
    (small : size < 2 ^ 63) :
    ∃ content, Nonempty (Begun (.start fs) history id reqId path size content) ∧
      next.fs.read path = some content ∧ content.length = size := by
  have uploads := uploads_of_run unaliased separate executed
  have kept := (Balance.followed_of_run executed).kept
  obtain ⟨other, same, moved⟩ := Option.bind_eq_some_iff.mp stepped
  cases found.symm.trans same
  obtain ⟨world, served, rfl⟩ := Option.map_eq_some_iff.mp moved
  obtain ⟨_, _, rfl⟩ : id = id ∧ world.released = 0 ∧ after = world.toSession :=
    (Balance.after_session there).resolve_right fun others => others.1 rfl
  rcases uploads.known id session found with idle | ⟨destination, fd, file, received, going⟩
  · exact (unacknowledged idle served isEnd acked).elim
  · obtain ⟨rfl, rfl, rfl, complete, stored⟩ := acknowledged going.uploading served isEnd acked
    have content := going.stored small
    refine ⟨received, going.begun, ?_, ?_⟩
    · rw [← content.content]
      exact stored
    · rw [← content.offset]
      exact complete

end runs

/-- Two clients send a file each, in turns. -/
def turns : List ServerEvent :=
  twoBegins ++ [.session 2 (request .putChunk 3 (ascii "w")) {}, .session 1 (request .putChunk 7 (ascii "ho")) {},
    .session 2 (request .putEnd 3 [] (Nat.zero_le _)) {}]

def turned : ServerState := (server.run (.start .empty) turns).get (by decide +kernel)

/-- The first of them is done. -/
def lastTurn : ServerEvent := .session 1 (request .putEnd 7 [] (Nat.zero_le _)) {}

def bothStored : ServerState := (server.step turned lastTurn).get (by decide +kernel)

private theorem empty_unaliased : FileSystem.empty.Unaliased := by
  intro _ _ _ found
  cases found

theorem concurrent_uploads_sound_turns : bothStored.fs.read (ascii "b") = some (ascii "w") ∧
    ∃ content, Nonempty (Begun (.start .empty) turns 1 7 (ascii "a") 2 content) ∧
      bothStored.fs.read (ascii "a") = some content ∧ content.length = 2 := by
  refine ⟨by decide +kernel, ?_⟩
  have found : turned.session 1 = some ((turned.session 1).get (by decide +kernel)) := (Option.some_get _).symm
  have there : bothStored.session 1 = some ((bothStored.session 1).get (by decide +kernel)) := (Option.some_get _).symm
  exact concurrent_uploads_sound empty_unaliased (Option.some_get (by decide +kernel)).symm (by decide +kernel) found
    (Option.some_get (by decide +kernel)).symm rfl there (by decide +kernel) (by decide)

/-- Without the condition an acknowledged upload may hold something else. Here a begin
request of another client empties the file before it gets its name. -/
example : (server.run (.start .empty) [.connect {}, .connect {}, .session 1 beginHi {},
    .session 1 (request .putChunk 7 (ascii "hi")) {}, .session 2 (request .putBegin 3 (ascii "size=1\npath=a")) {},
    lastTurn]).map (fun state => state.fs.read (ascii "a")) = some (some []) := by decide +kernel

end Luagent.Proofs.ServerUploads
