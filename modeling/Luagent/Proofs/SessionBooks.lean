import Luagent.Proofs.ChildSteps
import Luagent.Proofs.RelayRegistry
import Luagent.Sessions

/-! One callback of the agent, seen from the counters of the transfers, the processes
and the relays: what it counts, against what is in use before and after it. -/

namespace Luagent.Proofs
open Foundation

/-- What `debug.stats` counts the beginning and the end of. -/
inductive Resource where
  | transfer | process | relay
deriving DecidableEq

namespace Resource

def opened (counters : Counter → Nat) : Resource → Nat
  | .transfer => counters .transferStarts
  | .process => counters .processSpawns
  | .relay => counters .relayOpens

def closed (counters : Counter → Nat) : Resource → Nat
  | .transfer => counters .transferCompletes + counters .transferAborts
  | .process => counters .processExits
  | .relay => counters .relayCloses

/-- How many a session has in use. -/
def heldBy (engine : Engine) (session : Session) : Resource → Nat
  | .transfer => activeTransfers session
  | .process => session.proc.active.toNat
  | .relay => portfwdListed engine session.sessionId

def gap (counters : Counter → Nat) (inUse : Nat) (resource : Resource) : Int :=
  resource.opened counters - resource.closed counters - inUse

section sums
variable {counters early late : Counter → Nat}
  (sum : ∀ counter, isResource counter = true → counters counter = early counter + late counter) (resource : Resource)
include sum

theorem opened_add : resource.opened counters = resource.opened early + resource.opened late := by
  cases resource <;> exact sum _ rfl

theorem closed_add : resource.closed counters = resource.closed early + resource.closed late := by
  cases resource with
  | transfer =>
    simp only [closed, sum .transferCompletes rfl, sum .transferAborts rfl]
    omega
  | process => exact sum _ rfl
  | relay => exact sum _ rfl

end sums

end Resource

def ownUse (world : World) (resource : Resource) : Nat :=
  world.survivor.elim 0 fun session => resource.heldBy world.engine session

def agentUse (world : World) : Resource → Nat
  | .relay => world.engine.relays.length
  | resource => ownUse world resource

/-- The counters of the session and of the agent drift away from what is in use. -/
structure Drift (resource : Resource) (before after : World) (leaked : Nat) : Prop where
  session : resource.gap after.link.tally.session (ownUse after resource) =
    resource.gap before.link.tally.session (ownUse before resource) + leaked
  global : resource.gap after.link.tally.global (agentUse after resource) =
    resource.gap before.link.tally.global (agentUse before resource) + leaked

theorem Drift.trans {resource : Resource} {before middle after : World} {early late : Nat}
    (first : Drift resource before middle early) (second : Drift resource middle after late) :
    Drift resource before after (early + late) := by
  constructor
  · rw [second.session, first.session]
    push_cast
    omega
  · rw [second.global, first.global]
    push_cast
    omega

theorem Counts.total {before after : Link} {counted : List Counter} (counts : Counts before counted after)
    {counter : Counter} (resource : isResource counter = true) :
    after.tally.global counter = before.tally.global counter + counted.count counter := by
  have session := counts.session counter resource
  have both := counts.global counter
  omega

theorem Drift.of_counts {resource : Resource} {before after : World} {counted : List Counter} {leaked : Nat}
    (counts : Counts before.link counted after.link)
    (books : resource.opened counted.count + ownUse before resource =
      resource.closed counted.count + ownUse after resource + leaked)
    (others : agentUse after resource + ownUse before resource = agentUse before resource + ownUse after resource) :
    Drift resource before after leaked := by
  have session : ∀ counter, isResource counter = true → after.link.tally.session counter =
      before.link.tally.session counter + counted.count counter := counts.session
  have global : ∀ counter, isResource counter = true → after.link.tally.global counter =
      before.link.tally.global counter + counted.count counter := fun _ => counts.total
  constructor
  · rw [Resource.gap, Resource.gap, resource.opened_add session, resource.closed_add session]
    push_cast
    omega
  · rw [Resource.gap, Resource.gap, resource.opened_add global, resource.closed_add global]
    push_cast
    omega

/-- The same transfers and the same child. -/
structure SameUse (before after : World) : Prop where
  transfers : activeTransfers after.toSession = activeTransfers before.toSession := by rfl
  process : after.proc.active = before.proc.active := by rfl
  released : after.released = before.released := by rfl
  sessionId : after.sessionId = before.sessionId := by rfl

structure Even (before after : World) : Prop extends SameUse before after where
  engine : after.engine = before.engine := by rfl
  counts : Counts before.link [] after.link

section even
variable {before after : World}

theorem SameUse.own (same : SameUse before after) {resource : Resource} (other : resource ≠ .relay) :
    ownUse after resource = ownUse before resource := by
  unfold ownUse World.survivor
  rw [same.released]
  split
  · cases resource with
    | transfer => exact same.transfers
    | process => simp only [Option.elim_some, Resource.heldBy, same.process]
    | relay => exact absurd rfl other
  · rfl

theorem agentUse_of_ne {world : World} {resource : Resource} (other : resource ≠ .relay) :
    agentUse world resource = ownUse world resource := by
  cases resource with
  | transfer => rfl
  | process => rfl
  | relay => exact absurd rfl other

theorem SameUse.drift (same : SameUse before after) {resource : Resource} (other : resource ≠ .relay)
    {counted : List Counter}
    (counts : Counts before.link counted after.link)
    (unrelated : resource.opened counted.count = 0 ∧ resource.closed counted.count = 0) : Drift resource before after 0 := by
  refine .of_counts counts ?_ ?_
  · rw [same.own other, unrelated.1, unrelated.2]
    rfl
  · rw [agentUse_of_ne other, agentUse_of_ne other, same.own other]

theorem SameUse.uncounted (same : SameUse before after) {resource : Resource} (other : resource ≠ .relay)
    (session : resource.opened after.link.tally.session = resource.opened before.link.tally.session ∧
      resource.closed after.link.tally.session = resource.closed before.link.tally.session)
    (global : resource.opened after.link.tally.global = resource.opened before.link.tally.global ∧
      resource.closed after.link.tally.global = resource.closed before.link.tally.global) : Drift resource before after 0 := by
  constructor
  · rw [Resource.gap, session.1, session.2, same.own other]
    exact (Int.add_zero _).symm
  · rw [Resource.gap, global.1, global.2, agentUse_of_ne other, same.own other, ← agentUse_of_ne other]
    exact (Int.add_zero _).symm

theorem nothing_counted (resource : Resource) :
    resource.opened ([] : List Counter).count = 0 ∧ resource.closed ([] : List Counter).count = 0 := by
  cases resource <;> exact ⟨rfl, rfl⟩

/-- What was counted concerns none of the resources. -/
theorem SameUse.level (same : SameUse before after) (engine : after.engine = before.engine) {counted : List Counter}
    (counts : Counts before.link counted after.link)
    (unrelated : ∀ resource : Resource, resource.opened counted.count = 0 ∧ resource.closed counted.count = 0)
    (resource : Resource) : Drift resource before after 0 := by
  by_cases isRelay : resource = .relay
  · subst isRelay
    have own : ownUse after .relay = ownUse before .relay := by
      unfold ownUse World.survivor
      rw [same.released]
      split
      · simp only [Option.elim_some, Resource.heldBy, engine, same.sessionId]
      · rfl
    refine .of_counts counts ?_ ?_
    · rw [own, (unrelated .relay).1, (unrelated .relay).2]
      rfl
    · simp only [own, agentUse, engine]
  · exact same.drift isRelay counts (unrelated resource)

theorem Even.drift (even : Even before after) (resource : Resource) : Drift resource before after 0 :=
  even.toSameUse.level even.engine even.counts nothing_counted resource

theorem Even.refl (world : World) : Even world world := { counts := .refl _ }

theorem Even.of_link {world : World} {link : Link} (counts : Counts world.link [] link) : Even world { world with link } :=
  { counts }

theorem Even.of_record (op : Op) : Even before (before.recordOp op) := { counts := .refl _ }

theorem Even.of_talks (talks : Talks before after) : Even before after := by
  have counts := talks.counts
  rw [talks.same] at counts ⊢
  exact .of_link counts

end even

structure InOrder (engine : Engine) : Prop where
  registry : Registry engine
  listeners : Listeners engine

/-- A callback for a session closes relays of other sessions at most, and counts
that for these and nothing else. -/
structure Shares (before after : World) : Prop where
  inOrder : InOrder after.engine
  closes : ∀ other, other ≠ before.sessionId →
    after.link.tally.others other .relayCloses + portfwdListed after.engine other =
      before.link.tally.others other .relayCloses + portfwdListed before.engine other
  rest : ∀ other counter, counter ≠ .relayCloses →
    after.link.tally.others other counter = before.link.tally.others other counter

theorem InOrder.same {before after : World} (inOrder : InOrder before.engine) (same : after.engine = before.engine)
    (others : after.link.tally.others = before.link.tally.others) : Shares before after :=
  ⟨same ▸ inOrder, fun _ _ => by rw [same, others], fun _ _ _ => by rw [others]⟩

structure Accounts (lost : Resource → Prop) (before after : World) : Prop where
  drift : ∀ resource, ∃ leaked, Drift resource before after leaked ∧ (leaked = 0 ↔ ¬ lost resource)
  shares : Shares before after
  sessionId : after.sessionId = before.sessionId

namespace Accounts
variable {lost : Resource → Prop} {before middle after : World}

theorem after_even (even : Even before middle) (accounts : Accounts lost middle after) : Accounts lost before after := by
  refine ⟨fun resource => ?_, ?_, accounts.sessionId.trans even.sessionId⟩
  · obtain ⟨leaked, drift, exactly⟩ := accounts.drift resource
    exact ⟨leaked, Nat.zero_add leaked ▸ (even.drift resource).trans drift, exactly⟩
  · obtain ⟨inOrder, closes, rest⟩ := accounts.shares
    rw [even.engine, even.sessionId, even.counts.others] at closes
    rw [even.counts.others] at rest
    exact ⟨inOrder, closes, rest⟩

theorem then_level (accounts : Accounts lost before middle) (level : ∀ resource, Drift resource middle after 0)
    (engine : after.engine = middle.engine) (sessionId : after.sessionId = middle.sessionId)
    (others : after.link.tally.others = middle.link.tally.others) : Accounts lost before after := by
  refine ⟨fun resource => ?_, ?_, sessionId.trans accounts.sessionId⟩
  · obtain ⟨leaked, drift, exactly⟩ := accounts.drift resource
    exact ⟨leaked, drift.trans (level resource), exactly⟩
  · obtain ⟨inOrder, closes, rest⟩ := accounts.shares
    rw [← engine, ← others] at closes
    rw [← others] at rest
    exact ⟨engine ▸ inOrder, closes, rest⟩

theorem then_even (accounts : Accounts lost before middle) (even : Even middle after) : Accounts lost before after :=
  accounts.then_level even.drift even.engine even.sessionId even.counts.others

theorem even (inOrder : InOrder before.engine) (even : Even before after) (kept : ∀ resource, ¬ lost resource) :
    Accounts lost before after where
  drift resource := ⟨0, even.drift resource, by simp [kept]⟩
  shares := inOrder.same even.engine even.counts.others
  sessionId := even.sessionId

end Accounts

section relays
variable {engine : Engine}

/-- The list that `portfwd_push_list` goes through, in terms of the registry. -/
theorem listed_eq (registry : Registry engine) (owner : Nat) :
    portfwdListed engine owner = engine.listings.countP fun listing => listing.owner = owner := by
  unfold portfwdListed
  rw [← registry.listings_relays, List.filter_map, List.length_map, List.countP_eq_length_filter]
  congr 1
  apply List.filter_congr
  intro listing member
  have owned := owned_iff member owner
  by_cases same : listing.owner = owner
  · simp [same, owned.mpr same]
  · simp [same, eq_false_of_ne_true fun held => same (owned.mp held)]

private theorem relays_length (registry : Registry engine) : engine.relays.length = engine.listings.length := by
  rw [← registry.listings_relays, List.length_map]

private theorem destroy_perm (registry : Registry engine) {named : Listing} (member : named ∈ engine.listings) :
    engine.listings.Perm (named :: (relayDestroy engine named.relay).listings) := by
  have distinct : (engine.listings.map Listing.relay).Nodup := by
    rw [registry.listings_relays]
    exact registry.distinct
  have left : (relayDestroy engine named.relay).listings = engine.listings.erase named := by
    rw [listings_filter (.destroy engine named.relay) (registry.destroyed named.relay)
      (destroy_relays registry named.relay), (List.Nodup.of_map _ distinct).erase_eq_filter]
    apply List.filter_congr
    intro listing listed
    have same : listing.relay = named.relay ↔ listing = named :=
      ⟨fun same => List.inj_on_of_nodup_map distinct listed member same, fun same => by rw [same]⟩
    by_cases equal : listing = named <;> simp [same, equal]
  rw [left]
  exact List.perm_cons_erase member

private theorem destroy_listed (registry : Registry engine) {named : Listing} (member : named ∈ engine.listings)
    (owner : Nat) :
    portfwdListed (relayDestroy engine named.relay) owner + (if named.owner = owner then 1 else 0) =
      portfwdListed engine owner := by
  rw [listed_eq registry, listed_eq (registry.destroyed named.relay), (destroy_perm registry member).countP_eq,
    List.countP_cons]
  simp

private theorem destroy_length (registry : Registry engine) {named : Listing} (member : named ∈ engine.listings) :
    (relayDestroy engine named.relay).relays.length + 1 = engine.relays.length := by
  rw [relays_length registry, relays_length (registry.destroyed named.relay), (destroy_perm registry member).length_eq]
  rfl

private theorem closeSession_listed (registry : Registry engine) (sessionId owner : Nat) :
    portfwdListed (portfwdCloseSession engine sessionId) owner =
      if owner = sessionId then 0 else portfwdListed engine owner := by
  rw [listed_eq registry, listed_eq (registry.closedSession sessionId), closeSession_listings registry, List.countP_filter]
  split
  next same =>
    rw [List.countP_eq_zero]
    intro listing _
    simp [same]
  next other =>
    apply List.countP_congr
    intro listing _
    simp only [Bool.and_eq_true, decide_eq_true_eq, and_iff_left_iff_imp]
    rintro rfl
    exact other

private theorem closeSession_length (registry : Registry engine) (sessionId : Nat) :
    (portfwdCloseSession engine sessionId).relays.length + portfwdListed engine sessionId = engine.relays.length := by
  have split := List.length_eq_countP_add_countP (l := engine.listings)
    fun listing => listing.owner = sessionId
  have others : engine.listings.countP (fun listing => decide ¬ decide (listing.owner = sessionId) = true) =
      (portfwdCloseSession engine sessionId).relays.length := by
    rw [relays_length (registry.closedSession sessionId), closeSession_listings registry, List.countP_eq_length_filter]
    simp
  rw [relays_length registry, listed_eq registry, split, others, Nat.add_comm]

end relays

theorem ownUse_live {world : World} (live : world.released = 0) (resource : Resource) :
    ownUse world resource = resource.heldBy world.engine world.toSession := by
  simp [ownUse, World.survivor, live]

theorem Accounts.congr {lost gone : Resource → Prop} {before after : World} (accounts : Accounts lost before after)
    (same : ∀ resource, lost resource ↔ gone resource) : Accounts gone before after := by
  refine ⟨fun resource => ?_, accounts.shares, accounts.sessionId⟩
  obtain ⟨leaked, drift, exactly⟩ := accounts.drift resource
  exact ⟨leaked, drift, exactly.trans (not_congr (same resource))⟩

def OnlyFor (resource : Resource) (counted : List Counter) : Prop :=
  ∀ other : Resource, other ≠ resource → other.opened counted.count = 0 ∧ other.closed counted.count = 0

/-- A session that stays uses more or less of one resource, and the relays are left alone. -/
theorem Accounts.of_counts {resource : Resource} {before after : World} {counted : List Counter} {leaked : Nat}
    {lost : Prop}
    (inOrder : InOrder before.engine) (live : before.released = 0) (isRelay : resource ≠ .relay)
    (counts : Counts before.link counted after.link) (only : OnlyFor resource counted)
    (engine : after.engine = before.engine) (released : after.released = before.released)
    (sessionId : after.sessionId = before.sessionId)
    (others : ∀ other : Resource, other ≠ resource → other ≠ .relay →
      other.heldBy after.engine after.toSession = other.heldBy before.engine before.toSession)
    (books : resource.opened counted.count + resource.heldBy before.engine before.toSession =
      resource.closed counted.count + resource.heldBy after.engine after.toSession + leaked)
    (exactly : leaked = 0 ↔ ¬ lost) : Accounts (fun other => other = resource ∧ lost) before after := by
  have stays := released.trans live
  refine ⟨fun other => ?_, inOrder.same engine counts.others, sessionId⟩
  by_cases same : other = resource
  · subst same
    refine ⟨leaked, .of_counts counts ?_ ?_, by simp [exactly]⟩
    · rw [ownUse_live live, ownUse_live stays]
      exact books
    · rw [agentUse_of_ne isRelay, agentUse_of_ne isRelay, Nat.add_comm]
  · refine ⟨0, .of_counts counts ?_ ?_, by simp [same]⟩
    all_goals
      have held : other.heldBy after.engine after.toSession = other.heldBy before.engine before.toSession := by
        cases other with
        | relay => simp only [Resource.heldBy, engine, sessionId]
        | transfer => exact others .transfer same nofun
        | process => exact others .process same nofun
    · rw [ownUse_live live, ownUse_live stays, held, (only other same).1, (only other same).2]
      rfl
    · rw [ownUse_live live, ownUse_live stays, held]
      cases other with
      | relay => simp only [agentUse, engine]
      | transfer => simp only [agentUse, ownUse_live live, ownUse_live stays, held]
      | process => simp only [agentUse, ownUse_live live, ownUse_live stays, held]

private theorem onlyFor_transfers {counted : List Counter} (only : OnlyTransfers counted) : OnlyFor .transfer counted := by
  have absent : ∀ {counter : Counter}, isTransfer counter = false → counted.count counter = 0 := by
    intro counter other
    refine List.count_eq_zero_of_not_mem fun member => ?_
    rw [only counter member] at other
    cases other
  intro other different
  cases other with
  | transfer => exact absurd rfl different
  | process => exact ⟨absent rfl, absent rfl⟩
  | relay => exact ⟨absent rfl, absent rfl⟩

/-- A spawn that is counted and then fails. -/
def SpawnLost (env : Env) (proc : ProcState) : Prop :=
  proc.active = false ∧ env.alloc .procFile = true ∧ canSpawn env proc = false

/-- What was counted for the child, unless it was lost. -/
def ProcessBooks (before after : World) (lost : Prop) : Prop :=
  ∃ counted leaked, Counts before.link counted after.link ∧ OnlyFor .process counted ∧
    counted.count .processSpawns + before.proc.active.toNat =
      counted.count .processExits + after.proc.active.toNat + leaked ∧
    (leaked = 0 ↔ ¬ lost)

private theorem onlyFor_nil (resource : Resource) : OnlyFor resource [] := fun other _ => nothing_counted other

private theorem onlyFor_one {resource : Resource} {counter : Counter}
    (own : resource.opened [counter].count + resource.closed [counter].count = 1) : OnlyFor resource [counter] := by
  intro other different
  cases counter <;> cases resource <;> cases own
  all_goals
    cases other <;> first | exact absurd rfl different | exact ⟨rfl, rfl⟩

theorem spawn_books (env : Env) (world : World) (reqId : UInt32) (path : Bytes) (args : List Bytes)
    (timeoutMs idleTimeoutMs : Nat) (sendAck : Bool) :
    ProcessBooks world (procSpawnCommon env world reqId path args timeoutMs idleTimeoutMs sendAck).1
      (SpawnLost env world.proc) := by
  have counted : Counts world.link [.processSpawns] (numberedSpawn world).link := .one world.link _
  have born : Counts world.link [.processSpawns] (spawnedChild env world path args timeoutMs idleTimeoutMs).link :=
    counted.quiet_last (.of_tally rfl)
  have started {after : World} (can : canSpawn env world.proc = true) (counts : Counts world.link [.processSpawns] after.link)
      (active : after.proc.active = true) : ProcessBooks world after (SpawnLost env world.proc) :=
    ⟨_, 0, counts, onlyFor_one rfl, by simp [free_of_canSpawn can, active], by simp [SpawnLost, can]⟩
  have ending := spawn_ending env world reqId path args timeoutMs idleTimeoutMs sendAck
  generalize procSpawnCommon env world reqId path args timeoutMs idleTimeoutMs sendAck = after at ending
  cases ending with
  | busy active =>
    refine ⟨[], 0, sendError_counts .., onlyFor_nil _, by simp [World.sendError], ?_⟩
    simp [SpawnLost, active]
  | unnamed free memory =>
    refine ⟨[], 0, sendError_counts env world.link .., onlyFor_nil _, by simp [World.sendError, free, procReset], ?_⟩
    simp [SpawnLost, memory]
  | failed _ _ _ free memory cannot inactive =>
    refine ⟨_, 1, counted.quiet_last (sendError_counts ..), onlyFor_one rfl, ?_, ?_⟩
    · simp [World.sendError, free, inactive]
    · simp [SpawnLost, free, memory, cannot]
  | started can => exact started can born rfl
  | overflowed can => exact started can (born.quiet_last (sendError_counts ..)) rfl
  | acknowledged can => exact started can (born.quiet_last (sendFrame_counts ..)) rfl

/-- Relays are opened or closed, and counted. -/
theorem Accounts.of_relays {before after : World} (live : before.released = 0) (same : SameUse before after)
    (shares : Shares before after) {counted : List Counter}
    (counts : Counts before.link counted after.link) (only : OnlyFor .relay counted)
    (books : counted.count .relayOpens + portfwdListed before.engine before.sessionId =
      counted.count .relayCloses + portfwdListed after.engine before.sessionId)
    (length : after.engine.relays.length + portfwdListed before.engine before.sessionId =
      before.engine.relays.length + portfwdListed after.engine before.sessionId) :
    Accounts (fun _ => False) before after := by
  refine ⟨fun resource => ⟨0, ?_, by simp⟩, shares, same.sessionId⟩
  by_cases isRelay : resource = .relay
  · subst isRelay
    refine .of_counts counts ?_ ?_
    all_goals
      rw [ownUse_live live, ownUse_live (same.released.trans live)]
      simp only [Resource.heldBy, same.sessionId]
    · exact books
    · exact length
  · exact same.drift isRelay counts (only resource isRelay)

section handlers
variable {env : Env} {world : World} (inOrder : InOrder world.engine) (live : world.released = 0)
include inOrder live

theorem TransferBooks.accounts {after : World} {lost : Prop} (books : TransferBooks world after lost)
    (rest : SameRest world after) : Accounts (fun other => other = .transfer ∧ lost) world after := by
  obtain ⟨counted, leaked, counts, only, books, exactly⟩ := books
  refine .of_counts inOrder live nofun counts (onlyFor_transfers only) rest.engine rest.released rest.sessionId ?_ books exactly
  intro other different unlisted
  cases other with
  | transfer => exact absurd rfl different
  | process => simp only [Resource.heldBy, rest.proc]
  | relay => exact absurd rfl unlisted

private theorem spawn_accounts (reqId : UInt32) (path : Bytes) (args : List Bytes) (timeoutMs idleTimeoutMs : Nat)
    (sendAck : Bool) :
    Accounts (fun other => other = .process ∧ SpawnLost env world.proc) world
      (procSpawnCommon env world reqId path args timeoutMs idleTimeoutMs sendAck).1 := by
  obtain ⟨counted, leaked, counts, only, books, exactly⟩ :=
    spawn_books env world reqId path args timeoutMs idleTimeoutMs sendAck
  obtain ⟨released, engine, sessionId⟩ := spawn_rest env world reqId path args timeoutMs idleTimeoutMs sendAck
  have files := spawnCommon_same env world reqId path args timeoutMs idleTimeoutMs sendAck
  refine .of_counts inOrder live nofun counts only engine released sessionId ?_ books exactly
  intro other different unlisted
  cases other with
  | transfer => simp only [Resource.heldBy, activeTransfers, files.upload, files.download]
  | process => exact absurd rfl different
  | relay => exact absurd rfl unlisted

private theorem portfwdOpen_accounts (listenHost : Bytes) (listenPort : UInt16) (targetHost : Bytes) (targetPort : UInt16) :
    Accounts (fun _ => False) world (portfwdOpen env world listenHost listenPort targetHost targetPort).1 := by
  have effect := relayOpen_effect env world.engine world.sessionId listenHost listenPort targetHost targetPort
  have registry := inOrder.registry.opened env world.sessionId listenHost listenPort targetHost targetPort
  have listeners : Listeners (relayOpen env world.engine world.sessionId listenHost listenPort targetHost targetPort).1 :=
    effect.listeners inOrder.listeners
  have listings := effect.listings inOrder.registry
  unfold portfwdOpen
  generalize relayOpen env world.engine world.sessionId listenHost listenPort targetHost targetPort = opened
    at effect registry listeners listings
  have listed : ∀ owner, portfwdListed opened.1 owner = (newListings world.engine world.sessionId opened.2).countP
      (fun listing => listing.owner = owner) + portfwdListed world.engine owner := by
    intro owner
    rw [listed_eq registry, listings, List.countP_append, listed_eq inOrder.registry]
  have length : opened.1.relays.length = (newListings world.engine world.sessionId opened.2).length +
      world.engine.relays.length := by
    rw [relays_length registry, listings, List.length_append, relays_length inOrder.registry]
  obtain ⟨after, result⟩ := opened
  cases result with
  | error code =>
    have same : ∀ owner, portfwdListed after owner = portfwdListed world.engine owner := fun owner =>
      (listed owner).trans (Nat.zero_add _)
    refine .of_relays live ⟨rfl, rfl, rfl, rfl⟩ ⟨⟨registry, listeners⟩, fun other _ => by rw [same], fun _ _ _ => rfl⟩
      (.refl world.link) (onlyFor_nil _) ?_ ?_
    · simp [same]
    · simp [same, length, newListings]
  | ok answer =>
    obtain ⟨relayId, port⟩ := answer
    have own := listed world.sessionId
    simp only [newListings, List.countP_singleton, decide_true, if_true] at own
    refine .of_relays live ⟨rfl, rfl, rfl, rfl⟩ ⟨⟨registry, listeners⟩, fun other different => ?_, fun _ _ _ => rfl⟩
      (.one world.link .relayOpens) (onlyFor_one rfl) ?_ ?_
    · simp [listed other, newListings, different.symm, diagCountRelayOpen, Link.count, Tally.add]
    · simp [own]
    · simp only [length, own, newListings, List.length_singleton]
      omega

private theorem portfwdClose_accounts (relayId : UInt32) :
    Accounts (fun _ => False) world (portfwdClose world relayId).1 := by
  have ending := portClose_ending world relayId
  generalize portfwdClose world relayId = result at ending ⊢
  cases ending with
  | unknown => exact .even inOrder (.refl _) fun _ => id
  | @destroyed ref relay found =>
    have member := (findRelay_some found).1
    have listed := destroy_listed inOrder.registry member
    have length := destroy_length inOrder.registry member
    have destroyed : InOrder (relayDestroy world.engine ref) :=
      ⟨inOrder.registry.destroyed ref, Listeners.destroyed inOrder.listeners ref⟩
    have own := listed world.sessionId
    simp only at own length ⊢
    split
    next mine =>
      rw [if_pos mine] at own
      have shares : Shares world { world with
          link := { world.link with tally := world.link.tally.add .relayCloses 1 }
          engine := relayDestroy world.engine ref } := by
        refine ⟨destroyed, fun other different => ?_, fun _ _ _ => rfl⟩
        have kept := listed other
        rw [if_neg fun same => different (same.symm.trans mine)] at kept
        exact congrArg (world.link.tally.others other .relayCloses + ·) kept
      refine .of_relays live ⟨rfl, rfl, rfl, rfl⟩ shares (.one world.link .relayCloses) (onlyFor_one rfl) ?_ ?_
      · simp
        omega
      · simp
        omega
    next foreign =>
      -- the close is counted for the owner, and here only for the agent
      rw [if_neg foreign] at own
      have shares : Shares world { world with
          link := { world.link with tally := world.link.tally.addFor relay.owner .relayCloses 1 }
          engine := relayDestroy world.engine ref } := by
        refine ⟨destroyed, fun other _ => ?_, fun other counter unrelated => ?_⟩
        · have one := listed other
          by_cases owner : other = relay.owner
          · rw [if_pos owner.symm] at one
            simp only [Tally.addFor, owner, and_self, if_true] at one ⊢
            omega
          · rw [if_neg (Ne.symm owner)] at one
            simp only [Tally.addFor, owner, false_and, if_false] at one ⊢
            omega
        · simp only [Tally.addFor, unrelated, and_false, if_false]
      refine ⟨fun resource => ⟨0, ?_, by simp⟩, shares, rfl⟩
      cases resource with
      | transfer => exact SameUse.uncounted {} nofun ⟨rfl, rfl⟩ ⟨rfl, rfl⟩
      | process => exact SameUse.uncounted {} nofun ⟨rfl, rfl⟩ ⟨rfl, rfl⟩
      | relay =>
        constructor
        · rw [ownUse_live live, ownUse_live (by exact live)]
          simp only [Resource.gap, Resource.opened, Resource.closed, Resource.heldBy, Tally.addFor]
          omega
        · simp [Resource.gap, Resource.opened, Resource.closed, agentUse, Tally.addFor]
          omega

end handlers

def MaySpawn (env : Env) (world : World) (reaches : Bool) (after : World) : Prop :=
  (reaches = false ∧ after = world) ∨ reaches = true ∧ ∃ path args timeoutMs idleTimeoutMs,
    after = (procSpawnCommon env world 0 path args timeoutMs idleTimeoutMs false).1

private theorem spawnBinding_spawns (env : Env) (world : World) (path : Bytes) (argv : List Bytes)
    (timeoutMs idleTimeoutMs : Nat) :
    MaySpawn env world (env.alloc .argv && (procDupArgs env argv).isSome)
      (procSpawnBinding env world path argv timeoutMs idleTimeoutMs).1 := by
  have direct : MaySpawn env world (procDupArgs env argv).isSome
      (procSpawnDirect env world path argv timeoutMs idleTimeoutMs).1 := by
    unfold procSpawnDirect
    split
    next missing => exact .inl ⟨by simp [missing], rfl⟩
    next args found => exact .inr ⟨by simp [found], path, args, timeoutMs, idleTimeoutMs, rfl⟩
  unfold procSpawnBinding
  split
  next failed =>
    have missing : env.alloc .argv = false := by simpa using failed
    exact .inl ⟨by simp [missing], rfl⟩
  next allocated =>
    have present : env.alloc .argv = true := by simpa using allocated
    rw [present, Bool.true_and]
    split <;> next found => rw [found] at direct; exact direct

private theorem toolRun_spawns (env : Env) (world : World) (req : Table) :
    MaySpawn env world (reachesSpawn env req) (Op.toolRun.run env world req).1 := by
  simp only [Op.run, opToolRun, reachesSpawn]
  cases req.get (ascii "path") with
  | none => exact .inl ⟨rfl, rfl⟩
  | some path =>
    simp only
    split
    next missing => exact .inl ⟨by simp [missing], rfl⟩
    next missing => exact .inl ⟨by simp [missing], rfl⟩
    next timeoutMs idleMs timeout idle =>
      have spawns := spawnBinding_spawns env world path (collectArgv req path) (toUInt64 timeoutMs) (toUInt64 idleMs)
      simp only [timeout, idle, Option.isSome_some, Bool.true_and]
      split <;> next found => rw [found] at spawns; exact spawns

/-- A frame that gets as far as `proc_spawn_common`. -/
def asksChild (env : Env) (message : Message) : Bool :=
  let payload := cstr message.payload
  env.alloc .payloadCopy && match FrameType.ofCode message.type with
    | some .procSpawn => (kvCopy 512 payload (ascii "path")).any fun path => (procBuildArgs env payload path).isSome
    | some .op => requestedOp payload == some .toolRun && reachesSpawn env (parseKv payload)
    | _ => false

/-- A frame whose transfer is counted as started and then lost. -/
def losesTransfer (env : Env) (world : World) (message : Message) : Prop :=
  match FrameType.ofCode message.type with
  | some .putBegin => env.alloc .payloadCopy = true ∧ BeginLost env world message.reqId (cstr message.payload)
  | some .getBegin => env.alloc .payloadCopy = true ∧ GetLost env world message.reqId (cstr message.payload)
  | some .putEnd => EndLost env world message.reqId
  | _ => False

/-- What handling a frame loses to the counters. -/
def frameLoses (env : Env) (world : World) (message : Message) : Resource → Prop
  | .transfer => losesTransfer env world message
  | .process => asksChild env message = true ∧ SpawnLost env world.proc
  | .relay => False

private theorem handleKill_even (env : Env) (world : World) (reqId : UInt32) (payload : Bytes) :
    Even world (procHandleKill env world reqId payload).1 := by
  have effect := handleKill_effect env world reqId payload
  generalize (procHandleKill env world reqId payload).1 = after at effect
  cases effect with
  | talked talks => exact .of_talks talks
  | operated isOp | began isOp | downloaded isOp | spawned isOp => cases isOp
  | killed _ active kill talks =>
    subst kill
    obtain ⟨use, engine, counts⟩ := Even.of_talks talks
    exact ⟨⟨use.transfers, use.process, use.released, use.sessionId⟩, engine, counts⟩

section frames
variable {env : Env} {world : World} (inOrder : InOrder world.engine) (live : world.released = 0)
include inOrder live

private theorem op_accounts (req : Table) (op : Op) :
    Accounts (fun other => other = .process ∧ (op = .toolRun ∧ reachesSpawn env req = true) ∧ SpawnLost env world.proc) world
      (op.run env world req).1 := by
  by_cases isRun : op = .toolRun
  · subst isRun
    rcases toolRun_spawns env world req with ⟨ends, same⟩ | ⟨reaches, path, args, timeoutMs, idleTimeoutMs, same⟩
    · rw [same]
      exact .even inOrder (.refl _) fun _ lost => by simp [ends] at lost
    · rw [same]
      exact (spawn_accounts inOrder live 0 path args timeoutMs idleTimeoutMs false).congr fun other => by simp [reaches]
  · have effect := op_effect env world req op
    generalize (op.run env world req).1 = after at effect
    cases effect with
    | nothing => exact .even inOrder (.refl _) fun _ lost => isRun lost.2.1.1
    | opened => exact (portfwdOpen_accounts inOrder live ..).congr fun other => by simp [isRun]
    | closed => exact (portfwdClose_accounts inOrder live _).congr fun other => by simp [isRun]
    | spawned named => exact absurd named isRun

private theorem handleOp_accounts (reqId : UInt32) (payload : Bytes) :
    Accounts (fun other => other = .process ∧
        (requestedOp payload = some .toolRun ∧ reachesSpawn env (parseKv payload) = true) ∧ SpawnLost env world.proc) world
      (handleOp env world reqId payload).1 := by
  cases named : requestedOp payload with
  | none =>
    exact .even inOrder (.of_talks (handleOp_talks (dispatchRequest_unknown env world reqId named))) fun _ lost => by simp at lost
  | some op =>
    have answered := handleOp_talks (dispatchRequest_runs env world reqId named)
    have ran := @op_accounts env world inOrder live (parseKv payload) op
    refine ((ran.then_even (.of_record op)).then_even (.of_talks answered)).congr fun other => ?_
    simp

private theorem handleSpawn_accounts (reqId : UInt32) (payload : Bytes) :
    Accounts (fun other => other = .process ∧ ((kvCopy 512 payload (ascii "path")).any fun path =>
        (procBuildArgs env payload path).isSome) = true ∧ SpawnLost env world.proc) world
      (procHandleSpawn env world reqId payload).1 := by
  have ending := handleSpawn_ending env world reqId payload
  generalize procHandleSpawn env world reqId payload = result at ending ⊢
  cases ending with
  | missing missing => exact .even inOrder (.of_talks (.sendError ..)) fun _ lost => by simp [missing] at lost
  | unbuilt named unbuilt => exact .even inOrder (.of_talks (.sendError ..)) fun _ lost => by simp [named, unbuilt] at lost
  | spawns named built => exact (spawn_accounts inOrder live ..).congr fun other => by simp [named, built]

private theorem handleText_accounts (idle : world.download = transferInit) {message : Message} {type : Option FrameType}
    (found : FrameType.ofCode message.type = type) (memory : env.alloc .payloadCopy = true)
    (notEnd : type ≠ some .putEnd) :
    Accounts (frameLoses env world message) world (handleText env world type message.reqId (cstr message.payload)).1 := by
  subst found
  have quiet : ∀ {after : World}, Even world after → ¬ losesTransfer env world message → asksChild env message = false →
      Accounts (frameLoses env world message) world after := by
    intro after even keeps alone
    refine .even inOrder even fun other => ?_
    cases other with
    | transfer => exact keeps
    | process => simp [frameLoses, alone]
    | relay => exact id
  unfold handleText
  split
  next found => exact quiet (.of_talks (.sendText ..)) (by simp [losesTransfer, found]) (by simp [asksChild, found])
  next found => exact quiet (.of_talks (.sendText ..)) (by simp [losesTransfer, found]) (by simp [asksChild, found])
  next found =>
    refine (handleOp_accounts inOrder live message.reqId (cstr message.payload)).congr fun other => ?_
    cases other <;> simp [frameLoses, losesTransfer, asksChild, found, memory]
  next found =>
    refine ((putBegin_books env world ..).accounts inOrder live (putBegin_sameRest ..)).congr fun other => ?_
    cases other <;> simp [frameLoses, losesTransfer, asksChild, found, memory]
  next found =>
    refine ((getBegin_books env world message.reqId _ idle).accounts inOrder live
      (getBegin_effect env world _ _ idle).2).congr fun other => ?_
    cases other <;> simp [frameLoses, losesTransfer, asksChild, found, memory]
  next found =>
    refine (handleSpawn_accounts inOrder live message.reqId (cstr message.payload)).congr fun other => ?_
    cases other <;> simp [frameLoses, losesTransfer, asksChild, found, memory]
  next found => exact quiet (handleKill_even ..) (by simp [losesTransfer, found]) (by simp [asksChild, found])
  next notHello notPing notOp notBegin notGet notSpawn notKill =>
    refine quiet (.of_talks (.countError ..)) ?_ ?_
    · unfold losesTransfer
      split <;> first | contradiction | exact id
    · unfold asksChild
      simp only [Bool.and_false]

private theorem control_accounts (idle : world.download = transferInit) (slot : UploadSlot world.upload)
    (message : Message) :
    Accounts (frameLoses env world message) world (protocolHandleControl env world message).1 := by
  have ending := control_ending env world message
  generalize protocolHandleControl env world message = result at ending ⊢
  cases ending with
  | chunk found =>
    refine ((putChunk_books env slot ..).1.accounts inOrder live (putChunk_sameRest ..)).congr fun other => ?_
    cases other <;> simp [frameLoses, losesTransfer, asksChild, found]
  | ended found =>
    refine ((putEnd_books env slot ..).1.accounts inOrder live (putEnd_sameRest ..)).congr fun other => ?_
    cases other <;> simp [frameLoses, losesTransfer, asksChild, found]
  | uncopied _ _ missing =>
    refine .even inOrder (.of_talks (.sendError ..)) fun other => ?_
    cases other with
    | transfer =>
      simp only [frameLoses]
      unfold losesTransfer
      split <;> simp_all
    | process => simp [frameLoses, asksChild, missing]
    | relay => exact id
  | text _ notEnd memory => exact handleText_accounts inOrder live idle rfl memory notEnd

end frames

/-- The close callback that drops the last reference. -/
def releases (world : World) (name : SessionHandle) : Prop :=
  (world.handle name).phase = .closing true ∧ world.link.life.closeRefs ≤ 1

/-- What a callback loses to the counters: what a frame loses, and what is still in
use when the session is released. -/
def Loses (env : Env) (world : World) (event : Event) (resource : Resource) : Prop :=
  match event with
  | .read (.dispatch message) => frameLoses env world message resource
  | .closed name => releases world name ∧ 0 < resource.heldBy world.engine world.toSession
  | _ => False

private theorem frameLoses_counted (env : Env) (world : World) (message : Message) (resource : Resource) :
    frameLoses env (world.countFrame message) message resource ↔ frameLoses env world message resource := by
  cases resource with
  | process => exact Iff.rfl
  | relay => exact Iff.rfl
  | transfer =>
    simp only [frameLoses]
    unfold losesTransfer
    split
    · exact and_congr_right fun _ => ⟨fun lost => ⟨lost.idle, lost.memory, lost.fails⟩,
        fun lost => ⟨lost.idle, lost.memory, lost.fails⟩⟩
    · have same : ∀ length, CanSend env (world.countFrame message).link length ↔ CanSend env world.link length := fun length =>
        ⟨fun can => can.counted world.link.tally, fun can => can.counted _⟩
      refine and_congr_right fun _ => ⟨fun lost => ⟨lost.memory, lost.opens, lost.stats, ?_⟩,
        fun lost => ⟨lost.memory, lost.opens, lost.stats, ?_⟩⟩
      · have fails := lost.fails
        simp only [same] at fails
        exact fails
      · have fails := lost.fails
        simp only [same]
        exact fails
    · exact Iff.rfl
    · exact Iff.rfl

/-- A stalled upload is counted when it is given up. -/
theorem checkUpload_books (env : Env) (world : World) :
    TransferBooks world (transferCheckTimeoutUpload env world) False := by
  have counts := checkUpload_counts env world
  have ending := checkUpload_ending env world
  generalize transferCheckTimeoutUpload env world = next at ending counts ⊢
  cases ending with
  | going => exact .quiet (.refl _) rfl id
  | stalled stalled =>
    rw [if_pos stalled] at counts
    have active : world.upload.active = true := by
      simp only [transferStalled, Bool.and_eq_true] at stalled
      exact stalled.1.1
    refine ⟨_, 0, counts, by simp [OnlyTransfers, isTransfer], ?_, by simp⟩
    simp [activeTransfers, active, World.sendError, World.abortUpload, transferAbort, transferReset]

private theorem checkTimeouts_rest (env : Env) (world : World) :
    (procCheckTimeouts env world).engine = world.engine ∧ (procCheckTimeouts env world).sessionId = world.sessionId ∧
      (procCheckTimeouts env world).link.tally.others = world.link.tally.others := by
  have ending := checkTimeouts_ending env world
  generalize procCheckTimeouts env world = next at ending ⊢
  cases ending <;> exact ⟨rfl, rfl, rfl⟩

private theorem checkTimeouts_level (env : Env) (world : World) (resource : Resource) :
    Drift resource world (procCheckTimeouts env world) 0 := by
  have unrelated : ∀ resource : Resource, resource.opened [Counter.processTimeouts].count = 0 ∧
      resource.closed [Counter.processTimeouts].count = 0 := by
    intro resource
    cases resource <;> exact ⟨rfl, rfl⟩
  have ending := checkTimeouts_ending env world
  generalize procCheckTimeouts env world = next at ending ⊢
  cases ending with
  | still => exact (Even.refl world).drift resource
  | killed =>
    have counts : Counts world.link [.processTimeouts] (diagCountProcessTimeout world.link) := .one world.link _
    refine SameUse.level ?_ ?_ counts unrelated resource
    · exact ⟨rfl, rfl, rfl, rfl⟩
    · rfl

section callbacks
variable {env : Env} {world : World} (inOrder : InOrder world.engine) (live : world.released = 0)
include inOrder live

private theorem perform_accounts (idle : world.download = transferInit) (slot : UploadSlot world.upload) (action : Action) :
    Accounts (Loses env world (.read action)) world (perform env world action) := by
  have quiet : ∀ {after : World}, Even world after → Accounts (fun _ => False) world after := fun even =>
    .even inOrder even fun _ => id
  cases action with
  | received => exact quiet ⟨⟨rfl, rfl, rfl, rfl⟩, rfl, .refl _⟩
  | badHeader => exact quiet (.of_link ((parseFailure_counts world.link).quiet_first (sessionClose_counts _)))
  | overflow => exact quiet (.of_link (sessionClose_counts _))
  | hangup => exact quiet (.of_link (sessionClose_counts _))
  | dispatch message =>
    have counted : Even world (world.countFrame message) := .of_link (frameRx_counts world.link _)
    have handled := @control_accounts env (world.countFrame message) inOrder live idle slot message
    exact (handled.after_even counted).congr (frameLoses_counted env world message)

private theorem release_accounts {middle : World} (shut : Rephased world middle) :
    Accounts (fun resource => 0 < resource.heldBy world.engine world.toSession) world (releasedWorld env middle) := by
  have gone (resource : Resource) : ownUse (releasedWorld env middle) resource = 0 := by
    simp [ownUse, World.survivor, releasedWorld]
  have engine : (releasedWorld env middle).engine = portfwdCloseSession world.engine world.sessionId := by cases shut; rfl
  have tally : (releasedWorld env middle).link.tally = world.link.tally := by cases shut; rfl
  refine ⟨fun resource => ⟨resource.heldBy world.engine world.toSession, .of_counts (.of_tally tally) ?_ ?_, ?_⟩, ?_,
    by cases shut; rfl⟩
  · rw [ownUse_live live, gone]
    have none := nothing_counted resource
    omega
  · rw [ownUse_live live, gone]
    by_cases isRelay : resource = .relay
    · subst isRelay
      simp only [agentUse, Resource.heldBy, engine]
      exact closeSession_length inOrder.registry world.sessionId
    · rw [agentUse_of_ne isRelay, agentUse_of_ne isRelay, gone, ownUse_live live]
      exact Nat.add_comm ..
  · simp
  · refine ⟨?_, fun other different => ?_, fun other counter _ => by rw [tally]⟩
    · rw [engine]
      exact ⟨inOrder.registry.closedSession world.sessionId,
        (TidyRegistry.destroyAll (fun engine ref => engine.ownedBy world.sessionId ref) _ _).listeners inOrder.listeners⟩
    · rw [engine, tally, closeSession_listed inOrder.registry, if_neg different]

private theorem close_accounts (name : SessionHandle) :
    Accounts (Loses env world (.closed name)) world (closeCb env world name) := by
  have even {middle : World} (shut : Rephased world middle) : Even world middle := by
    cases shut
    exact ⟨⟨rfl, rfl, rfl, rfl⟩, rfl, .of_tally rfl⟩
  have ending := closeCb_ending env world name
  generalize closeCb env world name = next at ending ⊢
  cases ending with
  | plain _ shut other => exact .even inOrder (even shut) fun _ lost => other lost.1.1
  | dropped _ shut _ more =>
    have level := even shut
    refine .even inOrder ⟨⟨level.transfers, level.process, level.released, level.sessionId⟩, level.engine,
      level.counts.quiet_last (.of_tally rfl)⟩ fun _ lost => ?_
    have last := lost.1.2
    omega
  | released _ shut closing last =>
    have release : releases world name := ⟨closing, last⟩
    exact (release_accounts inOrder live shut).congr fun other => by simp [Loses, release]

private theorem tick_accounts (idle : world.download = transferInit) :
    Accounts (fun _ => False) world (heartbeatCb env world) := by
  cases tick_step env idle with
  | closed _ same =>
    rw [same]
    exact .even inOrder (.refl _) fun _ => id
  | idle _ _ shut =>
    rw [shut]
    exact .even inOrder (.of_link (sessionClose_counts _)) fun _ => id
  | checked _ _ middle reached _ timed =>
    have pinged : Even world (heartbeatPing env world) := by
      have files := heartbeatPing_same env world
      have rest := heartbeatPing_sameRest env world
      refine ⟨⟨?_, by rw [rest.proc], rest.released, rest.sessionId⟩, rest.engine, heartbeatPing_counts env world⟩
      rw [activeTransfers, files.upload, files.download]
      rfl
    have books := checkUpload_books env (heartbeatPing env world)
    have checked := checkUpload_sameRest env (heartbeatPing env world)
    rw [← reached] at books checked
    have inOrder' : InOrder (heartbeatPing env world).engine := by rw [pinged.engine]; exact inOrder
    have accounts := books.accounts inOrder' (pinged.released.trans live) checked
    have kept := checkTimeouts_rest env middle
    rw [timed]
    exact ((accounts.after_even pinged).then_level (checkTimeouts_level env middle) kept.1 kept.2.1 kept.2.2).congr fun other => by simp

private theorem exit_accounts (status : Int) (active : world.proc.active = true) :
    Accounts (fun _ => False) world (procExitCb env world status) := by
  have counts := exitCb_counts env world status
  have isOver : (procExitCb env world status).proc.active = false := (maybeFinalize_over rfl).1
  obtain ⟨link, proc, reached⟩ : ∃ link proc, procExitCb env world status = { world with link, proc } := ⟨_, _, rfl⟩
  rw [reached] at counts isOver ⊢
  have inactive : proc.active = false := isOver
  have accounts : Accounts (fun other => other = .process ∧ False) world { world with link, proc } := by
    refine @Accounts.of_counts .process world _ [.processExits] 0 False inOrder live nofun counts (onlyFor_one rfl) rfl rfl rfl
      ?_ ?_ (by simp)
    · intro other different unlisted
      cases other with
      | transfer => rfl
      | process => exact absurd rfl different
      | relay => exact absurd rfl unlisted
    · simp [Resource.opened, Resource.closed, Resource.heldBy, active, inactive]
  exact accounts.congr fun other => by simp

private theorem callback_accounts (idle : world.download = transferInit) (slot : UploadSlot world.upload) {event : Event}
    (allowed : enabled world event = true) : Accounts (Loses env world event) world (callback env world event) := by
  have quiet : ∀ {after : World}, Even world after → Accounts (fun _ => False) world after := fun even =>
    .even inOrder even fun _ => id
  cases event with
  | read action => exact perform_accounts inOrder live idle slot action
  | tick => exact tick_accounts inOrder live idle
  | written write => exact quiet (.of_link (.of_tally rfl))
  | exited status =>
    simp only [enabled, Bool.and_eq_true] at allowed
    exact exit_accounts inOrder live status allowed.1
  | output pipe bytes => exact quiet ⟨⟨rfl, rfl, rfl, rfl⟩, rfl, sendFrame_counts env world.link ..⟩
  | ended pipe => exact quiet ⟨⟨rfl, (readEnd_undisturbed world pipe).active, rfl, rfl⟩, rfl, .refl _⟩
  | closed name => exact close_accounts inOrder live name

end callbacks

private theorem putBegin_slot (env : Env) {world : World} (slot : UploadSlot world.upload) (reqId : UInt32)
    (payload : Bytes) :
    UploadSlot (transferHandlePutBegin env world reqId payload).1.upload := by
  have effect := putBegin_effect env world reqId payload
  generalize transferHandlePutBegin env world reqId payload = result at effect
  cases effect with
  | refused _ upload => exact upload ▸ slot
  | failed _ _ _ _ upload => exact .inl upload
  | opened path _ _ _ fits upload =>
    rw [upload]
    exact .inr ⟨path, rfl, rfl, rfl, rfl, fits⟩

structure SoundSession (session : Session) : Prop where
  download : session.download = transferInit
  upload : UploadSlot session.upload
  live : session.released = 0

private theorem callback_slots (env : Env) {world : World} (event : Event) (sound : SoundSession world.toSession) :
    (callback env world event).download = transferInit ∧ UploadSlot (callback env world event).upload := by
  cases callback_seen env world event sound.download with
  | kept _ leaves => exact ⟨leaves.download.trans sound.download, leaves.upload ▸ sound.upload⟩
  | began message _ _ download upload =>
    refine ⟨download.trans sound.download, ?_⟩
    rw [upload]
    exact putBegin_slot env (by exact sound.upload) ..
  | chunk message _ _ handled =>
    rw [handled, (putChunk_only ..).download]
    exact ⟨sound.download, (putChunk_books env (by exact sound.upload) ..).2⟩
  | ended message _ _ handled =>
    rw [handled, (putEnd_only ..).download]
    exact ⟨sound.download, (putEnd_books env (by exact sound.upload) ..).2⟩
  | aborted _ download upload => exact ⟨download.trans sound.download, .inl upload⟩

private theorem callback_leaves {env : Env} {world : World} {event : Event} (inOrder : InOrder world.engine)
    (sound : SoundSession world.toSession) (gone : (callback env world event).released ≠ 0) :
    portfwdListed (callback env world event).engine world.sessionId = 0 := by
  cases callback_slot env world event sound.download with
  | talked _ _ released | spawned _ _ _ _ released | exited _ _ _ _ released | ended _ _ _ _ released =>
    rw [released, sound.live] at gone
    exact absurd rfl gone
  | closed name _ handled =>
    rw [handled] at gone ⊢
    have ending := closeCb_ending env world name
    generalize closeCb env world name = next at ending gone ⊢
    cases ending with
    | plain _ shut | dropped _ shut =>
      cases shut
      exact absurd sound.live gone
    | released _ shut =>
      cases shut
      exact (closeSession_listed inOrder.registry world.sessionId world.sessionId).trans (if_pos rfl)

/-- A step of the agent accounts for what it counts, and a session that is left is
sound again. -/
theorem agent_accounts {world next : World} {input : Upload.Input} (sound : SoundSession world.toSession)
    (inOrder : InOrder world.engine) (stepped : agent.step world input = some next) :
    Accounts (Loses input.2 world input.1) world next ∧ (next.released = 0 → SoundSession next.toSession) ∧
      (next.released ≠ 0 → portfwdListed next.engine world.sessionId = 0) := by
  obtain ⟨event, env⟩ := input
  obtain ⟨allowed, rfl⟩ := agent_step stepped
  refine ⟨(callback_accounts inOrder sound.live sound.download sound.upload allowed).then_even ⟨⟨rfl, rfl, rfl, rfl⟩, rfl, .refl _⟩, ?_, ?_⟩
  · intro live
    obtain ⟨download, upload⟩ := callback_slots env event sound
    exact ⟨download, upload, live⟩
  · exact callback_leaves inOrder sound

end Luagent.Proofs
