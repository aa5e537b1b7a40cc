import Luagent.Proofs.RelaySingle
import Luagent.Registrar

/-! The registry of the relays is the list of those that were opened and not closed
since, whatever else the relays and their owners do. -/

namespace Luagent.Proofs
open Foundation

def Listeners (engine : Engine) : Prop := ∀ {ref relay}, engine.relay ref = some relay →
  relay.listener.closedTwice = false ∧ (relay.closing = false → relay.listener.phase = .open)

theorem Listeners.destroyed {engine : Engine} (listeners : Listeners engine) (ref : Nat) :
    Listeners (relayDestroy engine ref) := by
  cases relayDestroy_effect engine ref with
  | nothing _ same =>
    rw [same]
    exact listeners
  | destroyed relay dead found _ closing relays _ _ alive _ listener =>
    intro other current held
    rw [relays] at held
    rcases update_eq_some held with ⟨_, rfl⟩ | ⟨_, held⟩
    · obtain ⟨once, opened⟩ := listeners found
      rw [listener, closing]
      exact ⟨by simp [Handle.close, Handle.isClosing, once, opened alive], nofun⟩
    · exact listeners held

structure TidyRegistry (before after : Engine) : Prop where
  registry : Registry before → Registry after
  listeners : Listeners before → Listeners after
  nextRelayId : after.nextRelayId = before.nextRelayId

theorem TidyRegistry.refl (engine : Engine) : TidyRegistry engine engine := ⟨id, id, rfl⟩

theorem TidyRegistry.trans {before middle after : Engine} (first : TidyRegistry before middle)
    (second : TidyRegistry middle after) :
    TidyRegistry before after where
  registry := second.registry ∘ first.registry
  listeners listens := second.listeners (first.listeners listens)
  nextRelayId := second.nextRelayId.trans first.nextRelayId

theorem TidyRegistry.destroy (engine : Engine) (ref : Nat) : TidyRegistry engine (relayDestroy engine ref) where
  registry registry := registry.destroyed ref
  listeners listeners := listeners.destroyed ref
  nextRelayId := by
    cases relayDestroy_effect engine ref with
    | nothing _ same => rw [same]
    | destroyed _ _ _ _ _ _ _ _ _ _ _ nextRelayId => exact nextRelayId

theorem TidyRegistry.destroyAll (chosen : Engine → Nat → Bool) (refs : List Nat) (engine : Engine) :
    TidyRegistry engine (destroyAll chosen refs engine) :=
  destroyAll_keeps (fun middle ref tidy => tidy.trans (TidyRegistry.destroy middle ref)) chosen refs (.refl engine)

theorem destroy_relays {engine : Engine} (registry : Registry engine) (ref : Nat) :
    (relayDestroy engine ref).relays = engine.relays.filter (· ≠ ref) := by
  cases relayDestroy_effect engine ref with
  | nothing gone same =>
    rw [same, List.filter_eq_self.mpr]
    intro other member
    obtain ⟨relay, found, alive⟩ := registry.usable other member
    have different : other ≠ ref := by
      rintro rfl
      rw [gone relay found] at alive
      cases alive
    simpa using different
  | destroyed _ _ _ _ _ _ list =>
    rw [list, registry.distinct.erase_eq_filter]
    apply List.filter_congr
    intro other _
    by_cases same : other = ref <;> simp [same]

/-- What the loop leaves, when destroying one relay does not change which others
are chosen. -/
private theorem destroyAll_relays {chosen : Engine → Nat → Bool}
    (stable : ∀ engine ref other, chosen (relayDestroy engine ref) other = chosen engine other) (refs : List Nat)
    {engine : Engine} (registry : Registry engine) :
    (destroyAll chosen refs engine).relays = engine.relays.filter fun ref => !(refs.contains ref && chosen engine ref) := by
  unfold destroyAll
  induction refs generalizing engine with
  | nil => simp
  | cons first rest ih =>
    rw [List.foldl_cons]
    split
    next selected =>
      rw [ih (registry.destroyed first), destroy_relays registry, List.filter_filter]
      apply List.filter_congr
      intro ref _
      rw [stable]
      by_cases same : ref = first
      · subst same
        simp [selected]
      · simp [same]
    next kept =>
      rw [ih registry]
      apply List.filter_congr
      intro ref _
      by_cases same : ref = first
      · subst same
        simp [kept]
      · simp [same]

private theorem ownedBy_stable (sessionId : Nat) (engine : Engine) (ref other : Nat) :
    (relayDestroy engine ref).ownedBy sessionId other = engine.ownedBy sessionId other := by
  unfold Engine.ownedBy
  cases relayDestroy_effect engine ref with
  | nothing _ same => rw [same]
  | destroyed relay dead found owner _ relays =>
    rw [relays]
    by_cases same : other = ref
    · rw [same, Function.update_self, found]
      simp [owner]
    · rw [Function.update_of_ne same]

private theorem closeSession_relays {engine : Engine} (registry : Registry engine) (sessionId : Nat) :
    (portfwdCloseSession engine sessionId).relays = engine.relays.filter fun ref => !engine.ownedBy sessionId ref := by
  have left := @destroyAll_relays (fun engine ref => engine.ownedBy sessionId ref) (ownedBy_stable sessionId)
    engine.relays engine registry
  refine left.trans (List.filter_congr fun ref member => ?_)
  simp [member]

private theorem closeEngine_relays {engine : Engine} (registry : Registry engine) :
    (portfwdEngineClose engine).relays = [] := by
  have left := @destroyAll_relays (fun _ _ => true) (fun _ _ _ => rfl) engine.relays engine registry
  simp only [destroyAll, if_true] at left
  refine left.trans (List.filter_eq_nil_iff.mpr fun ref member => ?_)
  simp [member]

section listings
variable {before after engine : Engine}

private theorem listing_some {ref : Nat} {listing : Listing} (found : engine.listing ref = some listing) :
    listing.relay = ref ∧ ∃ relay, engine.relay ref = some relay ∧ listing.relayId = relay.relayId ∧
      listing.owner = relay.owner := by
  obtain ⟨relay, held, rfl⟩ := Option.map_eq_some_iff.mp found
  exact ⟨rfl, relay, held, rfl, rfl⟩

private theorem mem_listings {listing : Listing} : listing ∈ engine.listings ↔
    listing.relay ∈ engine.relays ∧ engine.listing listing.relay = some listing := by
  unfold Engine.listings
  rw [List.mem_filterMap]
  constructor
  · rintro ⟨ref, member, found⟩
    obtain ⟨rfl, _⟩ := listing_some found
    exact ⟨member, found⟩
  · rintro ⟨member, found⟩
    exact ⟨listing.relay, member, found⟩

/-- Every entry of the list is a relay. -/
theorem Registry.listings_relays (registry : Registry engine) : engine.listings.map Listing.relay = engine.relays := by
  have all : ∀ refs : List Nat, (∀ ref ∈ refs, ref ∈ engine.relays) →
      (refs.filterMap engine.listing).map Listing.relay = refs := by
    intro refs inside
    induction refs with
    | nil => rfl
    | cons ref rest ih =>
      obtain ⟨relay, found, _⟩ := registry.usable ref (inside ref List.mem_cons_self)
      have listed : engine.listing ref = some ⟨ref, relay.relayId, relay.owner⟩ := by simp [Engine.listing, found]
      rw [List.filterMap_cons_some listed, List.map_cons, ih fun other member => inside other (List.mem_cons_of_mem _ member)]
  exact all engine.relays fun _ member => member

/-- The relays that stay on the list are listed as before. -/
theorem listings_filter (alive : KeepsAlive before after) (registry : Registry after) {keep : Nat → Bool}
    (list : after.relays = before.relays.filter keep) :
    after.listings = before.listings.filter fun listing => keep listing.relay := by
  unfold Engine.listings
  rw [list, List.filterMap_filter, List.filter_filterMap]
  apply List.filterMap_congr
  intro ref member
  cases kept : keep ref with
  | false =>
    cases found : before.listing ref with
    | none => rfl
    | some listing =>
      obtain ⟨rfl, _⟩ := listing_some found
      simp [Option.filter_some, kept]
  | true =>
    have listed : ref ∈ after.relays := by
      rw [list]
      exact List.mem_filter.mpr ⟨member, kept⟩
    obtain ⟨relay, found, usable⟩ := registry.usable ref listed
    have was := alive.alive found usable
    simp [Engine.listing, Option.filter_some, found, was, kept]

theorem owned_iff {listing : Listing} (member : listing ∈ engine.listings) (sessionId : Nat) :
    engine.ownedBy sessionId listing.relay = true ↔ listing.owner = sessionId := by
  obtain ⟨_, relay, found, _, owner⟩ := listing_some (mem_listings.mp member).2
  simp [Engine.ownedBy, found, owner]

theorem closeSession_listings (registry : Registry engine) (sessionId : Nat) :
    (portfwdCloseSession engine sessionId).listings = engine.listings.filter (·.owner ≠ sessionId) := by
  have alive : KeepsAlive engine (portfwdCloseSession engine sessionId) :=
    .destroyAll (fun engine ref => engine.ownedBy sessionId ref) engine.relays engine
  rw [listings_filter alive (registry.closedSession sessionId) (closeSession_relays registry sessionId)]
  apply List.filter_congr
  intro listing member
  have owned := owned_iff member sessionId
  by_cases same : listing.owner = sessionId
  · simp [same, owned.mpr same]
  · simp [same, eq_false_of_ne_true fun held => same (owned.mp held)]

/-- A relay is found exactly if one is listed with the id. -/
theorem findRelay_some {relayId : UInt32} {ref : Nat} {relay : Relay}
    (found : engine.findRelay relayId = some (ref, relay)) :
    ⟨ref, relayId, relay.owner⟩ ∈ engine.listings ∧ engine.relay ref = some relay := by
  obtain ⟨other, member, held⟩ := List.exists_of_findSome?_eq_some found
  obtain ⟨current, present, chosen⟩ := Option.bind_eq_some_iff.mp held
  split at chosen
  next same =>
    cases chosen
    exact ⟨mem_listings.mpr ⟨member, by simp [Engine.listing, present, same]⟩, present⟩
  next => cases chosen

private theorem findRelay_none {relayId : UInt32} (missing : engine.findRelay relayId = none) :
    ∀ listing ∈ engine.listings, listing.relayId ≠ relayId := by
  intro listing member same
  obtain ⟨listed, found⟩ := mem_listings.mp member
  obtain ⟨_, relay, held, number, _⟩ := listing_some found
  have passed := List.findSome?_eq_none_iff.mp missing listing.relay listed
  simp [held, ← number, same] at passed

private theorem destroy_listings (registry : Registry engine) (distinct : (engine.listings.map Listing.relayId).Nodup)
    {named : Listing} (member : named ∈ engine.listings) :
    (relayDestroy engine named.relay).listings = engine.listings.filter (·.relayId ≠ named.relayId) := by
  rw [listings_filter (.destroy engine named.relay) (registry.destroyed named.relay) (destroy_relays registry named.relay)]
  apply List.filter_congr
  intro listing listed
  have same : listing.relay = named.relay ↔ listing.relayId = named.relayId := by
    constructor
    · intro same
      have found := (mem_listings.mp listed).2
      rw [same, (mem_listings.mp member).2] at found
      rw [Option.some.inj found]
    · intro same
      rw [List.inj_on_of_nodup_map distinct listed member same]
  simp [same]

end listings

/-- What an open does: it takes no number, or it takes one, leaves a relay that is
going, or lists a relay. -/
inductive OpenEffect (engine : Engine) (sessionId : Nat) (after : Engine) (result : Except Int (UInt32 × UInt16)) :
    Prop where
  | nothing (code : Int) (failed : result = .error code) (same : after = engine)
  | numbered (code : Int) (failed : result = .error code)
      (same : after = { engine with nextRelayId := engine.nextRelayId + 1 })
  | refused (code : Int) (relay : Relay) (failed : result = .error code) (closing : relay.closing = true)
      (listener : relay.listener.closedTwice = false)
      (same : after = { engine with
        nextRelayId := engine.nextRelayId + 1
        allocated := engine.allocated + 1
        relay := Function.update engine.relay engine.allocated (some relay) })
  | opened (port : UInt16) (relay : Relay) (answered : result = .ok (engine.nextRelayId, port))
      (owner : relay.owner = sessionId) (relayId : relay.relayId = engine.nextRelayId) (alive : relay.closing = false)
      (listener : relay.listener = Handle.fresh.init)
      (same : after = { engine with
        nextRelayId := engine.nextRelayId + 1
        allocated := engine.allocated + 1
        relay := Function.update engine.relay engine.allocated (some relay)
        relays := engine.allocated :: engine.relays })

theorem relayOpen_effect (env : Env) (engine : Engine) (sessionId : Nat) (listenHost : Bytes) (listenPort : UInt16)
    (targetHost : Bytes) (targetPort : UInt16) :
    OpenEffect engine sessionId (relayOpen env engine sessionId listenHost listenPort targetHost targetPort).1
      (relayOpen env engine sessionId listenHost listenPort targetHost targetPort).2 := by
  unfold relayOpen
  simp only
  split_ifs
  · exact .nothing _ rfl rfl
  · exact .numbered _ rfl rfl
  · exact .numbered _ rfl rfl
  · exact .refused _ _ rfl rfl rfl rfl
  · exact .refused _ _ rfl rfl rfl rfl
  · exact .refused _ _ rfl rfl rfl rfl
  · exact .opened _ _ rfl rfl rfl rfl rfl rfl

/-- A relay is added at the next place. -/
theorem Listeners.added {engine after : Engine} (listeners : Listeners engine) {relay : Relay}
    (relays : after.relay = Function.update engine.relay engine.allocated (some relay))
    (listener : relay.listener.closedTwice = false ∧ (relay.closing = false → relay.listener.phase = .open)) :
    Listeners after := by
  intro ref current held
  rw [relays] at held
  rcases update_eq_some held with ⟨_, rfl⟩ | ⟨_, held⟩
  · exact listener
  · exact listeners held

theorem Registry.added_listings {engine after : Engine} (registry : Registry engine) {relay : Relay}
    (relays : after.relay = Function.update engine.relay engine.allocated (some relay)) :
    engine.relays.filterMap after.listing = engine.listings := by
  apply List.filterMap_congr
  intro ref member
  have different : ref ≠ engine.allocated := by
    rintro rfl
    obtain ⟨_, found, _⟩ := registry.usable _ member
    rw [registry.numbered _ (Nat.le_refl _)] at found
    cases found
  simp only [Engine.listing, relays, Function.update_of_ne different]

def newListings (engine : Engine) (sessionId : Nat) : Except Int (UInt32 × UInt16) → List Listing
  | .ok (relayId, _) => [⟨engine.allocated, relayId, sessionId⟩]
  | .error _ => []

namespace OpenEffect
variable {engine after : Engine} {sessionId : Nat} {result : Except Int (UInt32 × UInt16)}

theorem listeners (effect : OpenEffect engine sessionId after result) (listeners : Listeners engine) :
    Listeners after := by
  cases effect with
  | nothing _ _ same => exact same ▸ listeners
  | numbered _ _ same =>
    subst same
    exact listeners
  | refused _ relay _ closing listener same =>
    exact listeners.added (congrArg Engine.relay same) ⟨listener, by rw [closing]; nofun⟩
  | opened _ relay _ _ _ _ listener same =>
    exact listeners.added (congrArg Engine.relay same) (by rw [listener]; exact ⟨rfl, fun _ => rfl⟩)

/-- The new relay is listed first, unless there is none. -/
theorem listings (effect : OpenEffect engine sessionId after result) (registry : Registry engine) :
    after.listings = newListings engine sessionId result ++ engine.listings := by
  cases effect with
  | nothing _ failed same =>
    rw [failed, same]
    rfl
  | numbered _ failed same =>
    rw [failed, same]
    rfl
  | refused _ _ failed _ _ same =>
    rw [failed, same]
    exact registry.added_listings rfl
  | opened _ _ answered owner relayId _ _ same =>
    rw [answered, same]
    unfold Engine.listings newListings
    rw [List.filterMap_cons_some (b := ⟨engine.allocated, engine.nextRelayId, sessionId⟩)]
    · congr 1
      exact registry.added_listings rfl
    · simp [Engine.listing, Function.update_self, owner, relayId]

end OpenEffect

/-- What traffic leaves of a relay. -/
structure Reworked (relay current : Relay) : Prop where
  relayId : current.relayId = relay.relayId
  owner : current.owner = relay.owner
  closing : current.closing = relay.closing
  listener : current.listener = relay.listener ∨ relay.closing = true ∧ current.listener = relay.listener.finish

/-- Traffic passes through the relays, and the registry stays as it is. -/
structure Traffic (before after : Engine) : Prop where
  relay : ∀ ref, after.relay ref = before.relay ref ∨
    ∃ relay current, before.relay ref = some relay ∧ after.relay ref = some current ∧ Reworked relay current
  relays : after.relays = before.relays
  allocated : before.allocated ≤ after.allocated
  nextRelayId : after.nextRelayId = before.nextRelayId

namespace Traffic
variable {before after : Engine}

theorem of_relay (relay : after.relay = before.relay) (relays : after.relays = before.relays)
    (allocated : before.allocated ≤ after.allocated) (nextRelayId : after.nextRelayId = before.nextRelayId) :
    Traffic before after := ⟨fun _ => .inl (by rw [relay]), relays, allocated, nextRelayId⟩

theorem set {ref : Nat} {relay current : Relay} (found : before.relay ref = some relay)
    (relays : after.relay = Function.update before.relay ref (some current)) (list : after.relays = before.relays)
    (allocated : before.allocated ≤ after.allocated) (nextRelayId : after.nextRelayId = before.nextRelayId)
    (reworked : Reworked relay current) : Traffic before after := by
  refine ⟨fun other => ?_, list, allocated, nextRelayId⟩
  by_cases same : other = ref
  · subst same
    exact .inr ⟨relay, current, found, by rw [relays, Function.update_self], reworked⟩
  · exact .inl (by rw [relays, Function.update_of_ne same])

theorem close (engine : Engine) (ref : Nat) : Traffic engine (relayClose engine ref) := by
  obtain ⟨relay, relays, allocated, nextRelayId⟩ := relayClose_same engine ref
  exact of_relay relay relays (Nat.le_of_eq allocated.symm) nextRelayId

theorem back (traffic : Traffic before after) {ref : Nat} {current : Relay} (held : after.relay ref = some current) :
    ∃ relay, before.relay ref = some relay ∧ Reworked relay current := by
  rcases traffic.relay ref with same | ⟨relay, found, was, now, reworked⟩
  · exact ⟨current, same ▸ held, rfl, rfl, rfl, .inl rfl⟩
  · cases now.symm.trans held
    exact ⟨relay, was, reworked⟩

theorem tidy (traffic : Traffic before after) : TidyRegistry before after where
  registry registry := by
    refine ⟨fun ref current held alive => ?_, fun ref member => ?_, ?_, fun ref fresh => ?_⟩
    · obtain ⟨relay, found, reworked⟩ := traffic.back held
      rw [traffic.relays]
      exact registry.listed ref relay found (reworked.closing ▸ alive)
    · rw [traffic.relays] at member
      obtain ⟨relay, found, alive⟩ := registry.usable ref member
      rcases traffic.relay ref with same | ⟨old, current, was, now, reworked⟩
      · exact ⟨relay, by rw [same, found], alive⟩
      · cases was.symm.trans found
        exact ⟨current, now, by rw [reworked.closing, alive]⟩
    · rw [traffic.relays]
      exact registry.distinct
    · by_contra present
      obtain ⟨current, held⟩ := Option.ne_none_iff_exists'.mp present
      obtain ⟨relay, found, _⟩ := traffic.back held
      rw [registry.numbered ref (Nat.le_trans traffic.allocated fresh)] at found
      cases found
  listeners listeners := by
    intro ref current held
    obtain ⟨relay, found, reworked⟩ := traffic.back held
    obtain ⟨once, opened⟩ := listeners found
    rw [reworked.closing]
    rcases reworked.listener with same | ⟨closing, finished⟩
    · rw [same]
      exact ⟨once, opened⟩
    · rw [finished, closing]
      exact ⟨once, nofun⟩
  nextRelayId := traffic.nextRelayId

theorem listings (traffic : Traffic before after) : after.listings = before.listings := by
  unfold Engine.listings
  rw [traffic.relays]
  congr 1
  funext ref
  unfold Engine.listing
  rcases traffic.relay ref with same | ⟨relay, current, was, now, reworked⟩
  · rw [same]
  · simp [was, now, reworked.relayId, reworked.owner]

end Traffic

private theorem admit_traffic {env : RelayEnv} {state next : Forwarder} {ref : Nat} {relay : Relay}
    (found : state.engine.relay ref = some relay) (effect : AdmitEffect env state ref relay next) :
    Traffic state.engine next.engine := by
  cases effect with
  | nothing same =>
    rw [same]
    exact .of_relay rfl rfl (Nat.le_refl _) rfl
  | freed conn same =>
    rw [same]
    exact .of_relay rfl rfl (Nat.le_succ _) rfl
  | made designated conn flow same =>
    rw [same]
    cases designated with
    | false => exact .of_relay rfl rfl (Nat.le_succ _) rfl
    | true => exact .set found rfl rfl (Nat.le_succ _) rfl ⟨rfl, rfl, rfl, .inl rfl⟩

theorem callback_traffic {state : Forwarder} (listeners : Listeners state.engine) (env : RelayEnv) {event : RelayEvent}
    (passes : event.registers = false) (enabled : state.enabled event = true) :
    Traffic state.engine (state.callback env event).engine := by
  have still : Traffic state.engine state.engine := .of_relay rfl rfl (Nat.le_refl _) rfl
  rcases callback_turn env enabled with ⟨ref, relay, _, found, closing, same⟩ | turn
  · have destroyed : relay.closing = true := by
      by_contra alive
      simp [Handle.isClosing, (listeners found).2 (eq_false_of_ne_true alive)] at closing
    rw [same]
    exact .set found rfl rfl (Nat.le_refl _) rfl ⟨rfl, rfl, rfl, .inr ⟨destroyed, rfl⟩⟩
  generalize state.callback env event = next at turn ⊢
  cases turn with
  | opens registers | destroys registers => exact absurd (passes.symm.trans registers) Bool.false_ne_true
  | accepts _ ending =>
    cases ending with
    | ignored | rejected => exact still
    | admitted found => exact admit_traffic found (relayAdmit_effect env state _ _)
  | @transfers ref _ _ ending =>
    cases ending with
    | flows => exact still
    | closes => exact .close state.engine ref
  | closes _ _ ending =>
    cases ending with
    | held | orphaned => exact .of_relay rfl rfl (Nat.le_refl _) rfl
    | freed _ home => exact .set home rfl rfl (Nat.le_refl _) rfl ⟨rfl, rfl, rfl, .inl rfl⟩
  | forgets => exact still

/-- What holds of the registry after relays were numbered `opens` times. -/
structure Enrolled (state : Registrar) (opens : Nat) : Prop where
  registry : Registry state.engine
  listeners : Listeners state.engine
  nextRelayId : state.engine.nextRelayId.toNat = (opens + 1) % 2 ^ 32
  numbered : opens < 2 ^ 32 → ∀ listing ∈ state.engine.listings, listing.relayId.toNat ≤ opens
  distinct : opens < 2 ^ 32 → (state.engine.listings.map Listing.relayId).Nodup
  owned : ∀ listing ∈ state.engine.listings, state.released listing.owner = false

namespace Enrolled
variable {state next : Registrar} {opens : Nat}

theorem start : Enrolled .start 0 where
  registry := registry_init
  listeners := nofun
  nextRelayId := rfl
  numbered _ := nofun
  distinct _ := List.nodup_nil
  owned := nofun

/-- The list does not grow. -/
theorem tidied (enrolled : Enrolled state opens) (tidy : TidyRegistry state.engine next.engine)
    (fewer : next.engine.listings.Sublist state.engine.listings)
    (owned : ∀ listing ∈ next.engine.listings, next.released listing.owner = false) : Enrolled next opens where
  registry := tidy.registry enrolled.registry
  listeners := tidy.listeners enrolled.listeners
  nextRelayId := by rw [tidy.nextRelayId, enrolled.nextRelayId]
  numbered few listing member := enrolled.numbered few listing (fewer.mem member)
  distinct few := (enrolled.distinct few).sublist (fewer.map _)
  owned := owned

theorem renumbered (enrolled : Enrolled state opens) :
    (state.engine.nextRelayId + 1).toNat = (opens + 1 + 1) % 2 ^ 32 := by
  rw [UInt32.toNat_add, enrolled.nextRelayId]
  simp

/-- An attempt took a number, and the list is as before. -/
theorem attempted (enrolled : Enrolled state opens) (registry : Registry next.engine) (listeners : Listeners next.engine)
    (nextRelayId : next.engine.nextRelayId = state.engine.nextRelayId + 1)
    (same : next.engine.listings = state.engine.listings) (released : next.released = state.released) :
    Enrolled next (opens + 1) where
  registry := registry
  listeners := listeners
  nextRelayId := by rw [nextRelayId, enrolled.renumbered]
  numbered few listing member := by
    have := enrolled.numbered (by omega) listing (same ▸ member)
    omega
  distinct few := same ▸ enrolled.distinct (by omega)
  owned listing member := by
    rw [released]
    exact enrolled.owned listing (same ▸ member)

/-- A relay is listed under the next number. -/
theorem listed (enrolled : Enrolled state opens) (registry : Registry next.engine) (listeners : Listeners next.engine)
    (nextRelayId : next.engine.nextRelayId = state.engine.nextRelayId + 1) {listing : Listing}
    (first : next.engine.listings = listing :: state.engine.listings)
    (relayId : listing.relayId = state.engine.nextRelayId) (released : next.released = state.released)
    (owner : state.released listing.owner = false) : Enrolled next (opens + 1) where
  registry := registry
  listeners := listeners
  nextRelayId := by rw [nextRelayId, enrolled.renumbered]
  numbered few other member := by
    rw [first] at member
    rcases List.mem_cons.mp member with rfl | member
    · rw [relayId, enrolled.nextRelayId]
      exact Nat.mod_le _ _
    · have := enrolled.numbered (by omega) other member
      omega
  distinct few := by
    rw [first, List.map_cons, List.nodup_cons]
    refine ⟨fun member => ?_, enrolled.distinct (by omega)⟩
    obtain ⟨other, earlier, same⟩ := List.mem_map.mp member
    have small := enrolled.numbered (by omega) other earlier
    rw [same, relayId, enrolled.nextRelayId, Nat.mod_eq_of_lt few] at small
    omega
  owned other member := by
    rw [first] at member
    rw [released]
    rcases List.mem_cons.mp member with rfl | member
    · exact owner
    · exact enrolled.owned other member

/-- `portfwd_open`. -/
theorem opened (enrolled : Enrolled state opens) (env : RelayEnv) {sessionId : Nat} (listenHost : Bytes)
    (listenPort : UInt16)
    (targetHost : Bytes) (targetPort : UInt16) (live : state.released sessionId = false) :
    let event : RegistrarEvent := .relay (.open sessionId listenHost listenPort targetHost targetPort)
    ∃ later ≤ opens + 1, Enrolled (state.callback env event) later ∧
      (state.callback env event).engine.listings =
        (state.notices (event, env) (state.callback env event)).foldl Notice.post state.engine.listings := by
  have effect := relayOpen_effect env.setup state.engine sessionId listenHost listenPort targetHost targetPort
  have ordered := enrolled.registry.opened env.setup sessionId listenHost listenPort targetHost targetPort
  have listeners : Listeners (relayOpen env.setup state.engine sessionId listenHost listenPort targetHost targetPort).1 :=
    effect.listeners enrolled.listeners
  have listings := effect.listings enrolled.registry
  simp only [Registrar.notices, Registrar.callback, Forwarder.callback, Registrar.engine] at effect ordered listeners listings ⊢
  generalize relayOpen env.setup state.forwarder.engine sessionId listenHost listenPort targetHost targetPort = result
    at effect ordered listeners listings ⊢
  cases effect with
  | nothing code failed same =>
    refine ⟨opens, by omega, ?_, by rw [failed, same]; rfl⟩
    rw [same]
    exact ⟨enrolled.registry, enrolled.listeners, enrolled.nextRelayId, enrolled.numbered, enrolled.distinct, enrolled.owned⟩
  | numbered code failed same =>
    rw [failed] at listings ⊢
    exact ⟨opens + 1, by omega, enrolled.attempted ordered listeners (congrArg Engine.nextRelayId same) listings rfl, listings⟩
  | refused code relay failed _ _ same =>
    rw [failed] at listings ⊢
    exact ⟨opens + 1, by omega, enrolled.attempted ordered listeners (congrArg Engine.nextRelayId same) listings rfl, listings⟩
  | opened port relay answered _ _ _ _ same =>
    rw [answered] at listings ⊢
    exact ⟨opens + 1, by omega, enrolled.listed ordered listeners (congrArg Engine.nextRelayId same) listings rfl rfl live,
      listings⟩

/-- The relays of a session are closed. -/
theorem closedSession (enrolled : Enrolled state opens) (owner : Nat)
    (closed : next.engine = portfwdCloseSession state.engine owner)
    (released : ∀ other, other ≠ owner → next.released other = state.released other) : Enrolled next opens := by
  have left := closeSession_listings enrolled.registry owner
  rw [← closed] at left
  refine enrolled.tidied ?_ (left ▸ List.filter_sublist) fun listing member => ?_
  · rw [closed]
    exact .destroyAll (fun engine ref => engine.ownedBy owner ref) _ _
  · rw [left, List.mem_filter] at member
    rw [released _ (by simpa using member.2)]
    exact enrolled.owned listing member.1

end Enrolled

private theorem registrar_step {state next : Registrar} {input : RegistrarEvent × RelayEnv}
    (stepped : registrar.step state input = some next) :
    state.enabled input.1 = true ∧ next = state.callback input.2 input.1 := by
  simp only [registrar] at stepped
  split at stepped
  next enabled => exact ⟨enabled, (Option.some.inj stepped).symm⟩
  next => cases stepped

namespace Enrolled
variable {state next : Registrar} {opens : Nat}

theorem passed (enrolled : Enrolled state opens) (env : RelayEnv) {event : RelayEvent} (passes : event.registers = false)
    (enabled : state.enabled (.relay event) = true) :
    Enrolled (state.callback env (.relay event)) opens ∧
      (state.callback env (.relay event)).engine.listings =
        (state.notices (.relay event, env) (state.callback env (.relay event))).foldl Notice.post state.engine.listings := by
  have happens : state.forwarder.enabled event = true := by
    cases event with
    | «open» => cases passes
    | _ => exact enabled
  have silent : state.notices (.relay event, env) (state.callback env (.relay event)) = [] := by
    cases event with
    | «open» | close | closeSession | closeEngine => cases passes
    | _ => rfl
  have traffic : Traffic state.engine (state.callback env (.relay event)).engine :=
    callback_traffic enrolled.listeners env passes happens
  refine ⟨enrolled.tidied traffic.tidy (by rw [traffic.listings]) fun listing member => ?_, by rw [silent]; exact traffic.listings⟩
  rw [traffic.listings] at member
  exact enrolled.owned listing member

theorem closed (enrolled : Enrolled state opens) (env : RelayEnv) (relayId : UInt32) :
    let event : RegistrarEvent := .relay (.close relayId)
    Enrolled (state.callback env event) opens ∧ (opens < 2 ^ 32 →
      (state.callback env event).engine.listings = Notice.post state.engine.listings (.closed relayId)) := by
  simp only [Registrar.callback, Forwarder.callback]
  split
  next missing =>
    refine ⟨⟨enrolled.registry, enrolled.listeners, enrolled.nextRelayId, enrolled.numbered, enrolled.distinct, enrolled.owned⟩, fun _ => ?_⟩
    refine (List.filter_eq_self.mpr fun listing member => ?_).symm
    simpa using findRelay_none missing listing member
  next ref relay found =>
    obtain ⟨listed, _⟩ := findRelay_some found
    have fewer : (relayDestroy state.engine ref).listings.Sublist state.engine.listings := by
      rw [listings_filter (.destroy state.engine ref) (enrolled.registry.destroyed ref) (destroy_relays enrolled.registry ref)]
      exact List.filter_sublist
    refine ⟨enrolled.tidied (.destroy state.engine ref) fewer fun listing member => enrolled.owned listing (fewer.mem member),
      fun few => destroy_listings enrolled.registry (enrolled.distinct few) listed⟩

theorem closedEngine (enrolled : Enrolled state opens) (env : RelayEnv) :
    Enrolled (state.callback env (.relay .closeEngine)) opens ∧
      (state.callback env (.relay .closeEngine)).engine.listings = [] := by
  have empty : (portfwdEngineClose state.engine).listings = [] := by
    unfold Engine.listings
    rw [closeEngine_relays enrolled.registry]
    rfl
  have tidy := TidyRegistry.destroyAll (fun _ _ => true) state.engine.relays state.engine
  simp only [destroyAll, if_true] at tidy
  refine ⟨enrolled.tidied tidy ?_ ?_, empty⟩
  · exact empty ▸ List.nil_sublist _
  · exact empty ▸ nofun

theorem step (enrolled : Enrolled state opens) {input : RegistrarEvent × RelayEnv}
    (stepped : registrar.step state input = some next) :
    ∃ later ≤ opens + if input.1.isOpen then 1 else 0, Enrolled next later ∧ (opens < 2 ^ 32 →
      next.engine.listings = (state.notices input next).foldl Notice.post state.engine.listings) := by
  obtain ⟨event, env⟩ := input
  obtain ⟨enabled, rfl⟩ := registrar_step stepped
  cases event with
  | release owner =>
    refine ⟨opens, Nat.le_refl _, ?_, fun _ => closeSession_listings enrolled.registry owner⟩
    exact enrolled.closedSession owner rfl fun other different => Function.update_of_ne different _ _
  | relay event =>
    cases about : event.registers with
    | false =>
      obtain ⟨kept, same⟩ := enrolled.passed env about enabled
      exact ⟨opens, Nat.le_add_right _ _, kept, fun _ => same⟩
    | true =>
      cases event with
      | «open» sessionId listenHost listenPort targetHost targetPort =>
        have live : state.released sessionId = false := by simpa [Registrar.enabled] using enabled
        obtain ⟨later, few, kept, same⟩ := enrolled.opened env listenHost listenPort targetHost targetPort live
        exact ⟨later, few, kept, fun _ => same⟩
      | close relayId => exact ⟨opens, Nat.le_refl _, enrolled.closed env relayId⟩
      | closeSession owner =>
        refine ⟨opens, Nat.le_refl _, enrolled.closedSession owner rfl fun _ _ => rfl, fun _ => ?_⟩
        exact closeSession_listings enrolled.registry owner
      | closeEngine =>
        obtain ⟨kept, same⟩ := enrolled.closedEngine env
        exact ⟨opens, Nat.le_refl _, kept, fun _ => same⟩
      | _ => cases about

end Enrolled

/-- The registry after a history. -/
structure RegistryKept (history : List (RegistrarEvent × RelayEnv)) (state : Registrar) : Prop where
  /-- what was opened and not closed since, the most recent first -/
  exact : state.engine.listings = (registrar.gather Registrar.notices .start history).foldl Notice.post []
  listed : state.engine.listings.map Listing.relay = state.engine.relays
  once : state.engine.relays.Nodup
  ids : (state.engine.listings.map Listing.relayId).Nodup
  usable : ∀ ref ∈ state.engine.relays, ∃ relay, state.engine.relay ref = some relay ∧ relay.closing = false ∧
    state.released relay.owner = false
  closes : ∀ world relayId, world.engine = state.engine →
    ((portfwdClose world relayId).2 = 0 ↔ ∃ listing ∈ state.engine.listings, listing.relayId = relayId) ∧
      (portfwdClose world relayId).1.engine.listings = state.engine.listings.filter (·.relayId ≠ relayId)
  closesSession : ∀ owner,
    (portfwdCloseSession state.engine owner).listings = state.engine.listings.filter (·.owner ≠ owner)
  listeners : ∀ ref relay, state.engine.relay ref = some relay → relay.listener.closedTwice = false

theorem Enrolled.closes {state : Registrar} {opens : Nat} (enrolled : Enrolled state opens) (few : opens < 2 ^ 32)
    {world : World}
    (same : world.engine = state.engine) (relayId : UInt32) :
    ((portfwdClose world relayId).2 = 0 ↔ ∃ listing ∈ state.engine.listings, listing.relayId = relayId) ∧
      (portfwdClose world relayId).1.engine.listings = state.engine.listings.filter (·.relayId ≠ relayId) := by
  have ending := portClose_ending world relayId
  generalize portfwdClose world relayId = result at ending ⊢
  have registry := enrolled.registry
  have distinct := enrolled.distinct few
  rw [← same] at registry distinct ⊢
  cases ending with
  | unknown missing =>
    have absent := findRelay_none missing
    refine ⟨⟨nofun, fun ⟨listing, member, named⟩ => absurd named (absent listing member)⟩, ?_⟩
    rw [List.filter_eq_self.mpr fun listing member => by simpa using absent listing member]
  | destroyed found =>
    obtain ⟨listed, _⟩ := findRelay_some found
    exact ⟨⟨fun _ => ⟨_, listed, rfl⟩, fun _ => rfl⟩, destroy_listings registry distinct listed⟩

/-- After every run with fewer than 2^32 opens the registry holds the relays that
were opened and not closed since. -/
theorem registry_exact {history : List (RegistrarEvent × RelayEnv)} {state : Registrar}
    (executed : registrar.run .start history = some state) (few : history.countP (·.1.isOpen) < 2 ^ 32) :
    RegistryKept history state := by
  have run := registrar.run_induction
    (fun past state => ∃ opens ≤ past.countP (·.1.isOpen), Enrolled state opens ∧ (past.countP (·.1.isOpen) < 2 ^ 32 →
      state.engine.listings = (registrar.gather Registrar.notices .start past).foldl Notice.post []))
    ⟨0, Nat.zero_le _, .start, fun _ => rfl⟩
    (fun past state input next executed ⟨opens, counted, enrolled, exact⟩ stepped => by
      obtain ⟨later, grown, kept, posted⟩ := enrolled.step stepped
      rw [List.countP_append, List.countP_singleton]
      refine ⟨later, by omega, kept, fun few => ?_⟩
      rw [registrar.gather_step Registrar.notices executed stepped, List.foldl_append, ← exact (by omega)]
      exact posted (by omega))
    executed
  obtain ⟨opens, counted, enrolled, exact⟩ := run
  have small : opens < 2 ^ 32 := Nat.lt_of_le_of_lt counted few
  refine ⟨exact few, enrolled.registry.listings_relays, enrolled.registry.distinct, enrolled.distinct small, fun ref member => ?_,
    fun world relayId same => enrolled.closes small same relayId, closeSession_listings enrolled.registry,
    fun ref relay found => (enrolled.listeners found).1⟩
  obtain ⟨relay, found, alive⟩ := enrolled.registry.usable ref member
  refine ⟨relay, found, alive, enrolled.owned ⟨ref, relay.relayId, relay.owner⟩ (mem_listings.mpr ⟨member, ?_⟩)⟩
  simp [Engine.listing, found]

/-- Two sessions open relays, one open fails, one relay is closed and one session
is released. -/
def leftOne : List (RegistrarEvent × RelayEnv) :=
  let host := ascii "127.0.0.1"
  [(.relay (.open 1 host 0 host 80), {}), (.relay (.open 2 host 0 host 81), {}),
    (.relay (.open 2 host 0 host 82), { setup := { tcpBind := -1 } }), (.relay (.open 1 host 0 host 83), {}),
    (.relay (.close 1), {}), (.release 2, {})]

private theorem leftOne_runs : (registrar.run .start leftOne).isSome = true := by decide +kernel

theorem registry_exact_leftOne : ∃ state, registrar.run .start leftOne = some state ∧
    state.engine.listings = [⟨3, 4, 1⟩] ∧ RegistryKept leftOne state :=
  ⟨(registrar.run .start leftOne).get leftOne_runs, (Option.some_get leftOne_runs).symm, by decide +kernel,
    registry_exact (Option.some_get leftOne_runs).symm (by decide)⟩

end Luagent.Proofs
