import Kaonic.Vpn.Operations

/-!
# Routes and their frames

A route in the table is one of its owner's routes, and these are what the owner's latest frame
said. The watchdog clears the routes of frames that are too old.
-/

namespace Kaonic.Vpn
open Net

namespace VpnRuntime

open RouteFrame (latest)

/-- The registry stands on the frames: remote peers at derived addresses, and every route list that
is not empty is that of the owner's latest frame and expires with it. -/
structure Backed (env : VpnEnv) (rt : VpnRuntime) (frames : List RouteFrame) : Prop where
  created : rt.peers.Created env rt.network
  remote : rt.peers.get rt.destination = none
  routed : ∀ hash peer, rt.peers.get hash = some peer → peer.routes ≠ [] →
    ∃ f, latest frames hash = some f ∧ f.routes = peer.routes ∧
      peer.routeExpiresTs = f.at_ + routeGraceSecs

/-- The table gives out only routes that their owners have. -/
def Owned (rt : VpnRuntime) : Prop :=
  ∀ route owner, (route, owner) ∈ rt.router.subnets →
    ∃ peer, rt.peers.get owner = some peer ∧ route ∈ peer.routes

structure Tracked (env : VpnEnv) (rt : VpnRuntime) (frames : List RouteFrame) : Prop where
  backed : Backed env rt frames
  owned : Owned rt

/-! ### Changes of the registry -/

section Registry

variable {env : VpnEnv} {rt : VpnRuntime} {frames frames' : List RouteFrame} {hash : AddressHash}

theorem latest_concat (f : RouteFrame) (owner : AddressHash) :
    latest (frames ++ [f]) owner = if f.owner = owner then some f else latest frames owner := by
  rw [latest, Register.lastWrite_concat]
  split <;> rfl

theorem latest_concat_self (f : RouteFrame) : latest (frames ++ [f]) f.owner = some f := by
  rw [latest_concat, if_pos rfl]

theorem latest_concat_other (f : RouteFrame) {owner : AddressHash} (other : owner ≠ f.owner) :
    latest (frames ++ [f]) owner = latest frames owner := by
  rw [latest_concat, if_neg other.symm]

theorem ne_destination (remote : rt.peers.get rt.destination = none) {peer : Peer}
    (found : rt.peers.get hash = some peer) : hash ≠ rt.destination := by
  rintro rfl
  rw [remote] at found
  cases found

theorem Backed.ne_destination (backed : Backed env rt frames) {peer : Peer}
    (found : rt.peers.get hash = some peer) : hash ≠ rt.destination :=
  VpnRuntime.ne_destination backed.remote found

theorem updatePeer_eq (rt : VpnRuntime) (hash : AddressHash) (f : Peer → Peer) :
    rt.updatePeer hash f = { rt with peers := (rt.updatePeer hash f).peers } := by
  unfold updatePeer
  split <;> rfl

@[simp] theorem updatePeer_network (f : Peer → Peer) :
    (rt.updatePeer hash f).network = rt.network := by rw [updatePeer_eq]

@[simp] theorem updatePeer_destination (f : Peer → Peer) :
    (rt.updatePeer hash f).destination = rt.destination := by rw [updatePeer_eq]

@[simp] theorem updatePeer_router (f : Peer → Peer) :
    (rt.updatePeer hash f).router = rt.router := by rw [updatePeer_eq]

/-- A change to one peer that keeps its identity, with the frames that explain its routes. -/
theorem Backed.updatePeer (backed : Backed env rt frames) {f : Peer → Peer}
    (identity : ∀ peer, (f peer).hash = peer.hash ∧ (f peer).tunnelIp = peer.tunnelIp)
    (others : ∀ other, other ≠ hash → latest frames' other = latest frames other)
    (routed : ∀ peer, rt.peers.get hash = some peer → (f peer).routes ≠ [] →
      ∃ fr, latest frames' hash = some fr ∧ fr.routes = (f peer).routes ∧
        (f peer).routeExpiresTs = fr.at_ + routeGraceSecs) :
    Backed env (rt.updatePeer hash f) frames' := by
  have cases_ : ∀ other peer, (rt.updatePeer hash f).peers.get other = some peer →
      (other = hash ∧ ∃ old, rt.peers.get hash = some old ∧ peer = f old) ∨
        (other ≠ hash ∧ rt.peers.get other = some peer) := by
    intro other peer found
    rw [get_updatePeer] at found
    split at found
    · rename_i same
      obtain ⟨old, before, rfl⟩ := Option.map_eq_some_iff.mp found
      exact Or.inl ⟨same, old, before, rfl⟩
    · rename_i different
      exact Or.inr ⟨different, found⟩
  refine ⟨⟨?_, ?_⟩, ?_, ?_⟩
  · intro other peer found
    rcases cases_ other peer found with ⟨rfl, old, before, rfl⟩ | ⟨_, before⟩
    · rw [(identity old).1]
      exact backed.created.filed other old before
    · exact backed.created.filed other peer before
  · intro other peer found
    rw [updatePeer_network]
    rcases cases_ other peer found with ⟨rfl, old, before, rfl⟩ | ⟨_, before⟩
    · rw [(identity old).2]
      exact backed.created.derived other old before
    · exact backed.created.derived other peer before
  · rw [updatePeer_destination, get_updatePeer]
    split
    · rename_i same
      rw [← same, backed.remote]
      rfl
    · exact backed.remote
  · intro other peer found some_
    rcases cases_ other peer found with ⟨rfl, old, before, rfl⟩ | ⟨different, before⟩
    · exact routed old before some_
    · rw [others other different]
      exact backed.routed other peer before some_

theorem Backed.insert (backed : Backed env rt frames) {peer : Peer}
    (derived : deriveTunnelIp env rt.network peer.hash = .ok peer.tunnelIp)
    (other : peer.hash ≠ rt.destination) (empty : peer.routes = []) :
    Backed env { rt with peers := rt.peers.insert peer } frames := by
  refine ⟨backed.created.insert derived, ?_, ?_⟩
  · dsimp only
    rw [PeerRegistry.get_insert, if_neg (Ne.symm other)]
    exact backed.remote
  · intro hash found present some_
    rw [PeerRegistry.get_insert] at present
    split at present
    · obtain rfl := Option.some.inj present
      exact (some_ empty).elim
    · exact backed.routed hash found present some_

theorem Backed.mono (backed : Backed env rt frames) {rt' : VpnRuntime}
    (network : rt'.network = rt.network) (destination : rt'.destination = rt.destination)
    (kept : ∀ hash peer, rt'.peers.get hash = some peer → rt.peers.get hash = some peer) :
    Backed env rt' frames := by
  refine ⟨network ▸ backed.created.mono kept, ?_, ?_⟩
  · rw [destination]
    cases found : rt'.peers.get rt.destination with
    | none => rfl
    | some peer =>
      have before := kept _ _ found
      rw [backed.remote] at before
      cases before
  · exact fun hash peer found => backed.routed hash peer (kept hash peer found)

/-- A rebuild from such a registry, and the kernel sync after it. -/
theorem Backed.rebuild (backed : Backed env rt frames) (platform : Platform) (now : Nat)
    (host : Host) :
    Tracked env ((rt.rebuildRouter env now).syncRoutes env platform host).1 frames := by
  obtain ⟨_, _, _, _, same⟩ := syncRoutes_frame env platform (rt.rebuildRouter env now) host
  rw [same]
  refine ⟨⟨backed.created, backed.remote, backed.routed⟩, ?_⟩
  intro route owner listed
  have distinct : ((PeerRegistry.all env.registry rt.peers).map Peer.hash).Nodup :=
    PeerRegistry.all_hashes_nodup backed.created.filed
  have eligible := (RouteTable.mem_subnets_iff env.claimed distinct route owner).mp listed
  obtain ⟨peer, member, rfl, sole⟩ := eligible.sole
  exact ⟨peer, (PeerRegistry.mem_all backed.created.filed).mp member,
    ((sole peer member).mpr rfl).2⟩

/-- A change to one peer that leaves its identity and its routes alone. -/
theorem Tracked.updatePeer (tracked : Tracked env rt frames) {f : Peer → Peer}
    (same : ∀ peer, (f peer).hash = peer.hash ∧ (f peer).tunnelIp = peer.tunnelIp ∧
      (f peer).routes = peer.routes ∧ (f peer).routeExpiresTs = peer.routeExpiresTs) :
    Tracked env (rt.updatePeer hash f) frames := by
  refine ⟨tracked.backed.updatePeer (fun peer => ⟨(same peer).1, (same peer).2.1⟩)
    (fun _ _ => rfl) ?_, ?_⟩
  · intro peer found some_
    obtain ⟨_, _, routes, expires⟩ := same peer
    rw [routes] at some_ ⊢
    rw [expires]
    exact tracked.backed.routed hash peer found some_
  · intro route owner listed
    rw [updatePeer_router] at listed
    obtain ⟨peer, found, member⟩ := tracked.owned route owner listed
    rw [get_updatePeer]
    split
    · rename_i here
      rw [← here, found]
      exact ⟨f peer, rfl, by rw [(same peer).2.2.1]; exact member⟩
    · exact ⟨peer, found, member⟩

end Registry

/-! ### Announces and policy changes -/

section Changes

variable {env : VpnEnv} {rt : VpnRuntime} {frames : List RouteFrame} {platform : Platform}
  {now : Nat} {host : Host}

theorem Backed.getOrCreate (backed : Backed env rt frames) {peer : Peer}
    (derived : deriveTunnelIp env rt.network peer.hash = .ok peer.tunnelIp)
    (other : peer.hash ≠ rt.destination) (empty : peer.routes = []) :
    Backed env { rt with peers := rt.peers.getOrCreate peer } frames := by
  unfold PeerRegistry.getOrCreate
  split
  · exact backed
  · exact backed.insert derived other empty

theorem Tracked.announce (tracked : Tracked env rt frames) (desc : DestinationDesc)
    (routes : List Ipv4Cidr) :
    let r := rt.handlePeerAnnounce env platform now desc routes host
    Tracked env r.1.1
      (frames ++ (if r.2 then some (⟨desc.addressHash, routes, now⟩ : RouteFrame) else none).toList) := by
  unfold handlePeerAnnounce
  dsimp only
  split
  · simpa using tracked
  rename_i remote
  split
  · simpa using tracked
  split
  · simpa using tracked
  · rename_i tunnelIp derived
    have made : Backed env { rt with
        peers := rt.peers.getOrCreate (.new desc.addressHash tunnelIp .discovered) } frames :=
      tracked.backed.getOrCreate derived remote rfl
    refine Backed.rebuild (made.updatePeer ?_ ?_ ?_) platform now host
    · exact fun _ => ⟨rfl, rfl⟩
    · exact fun other different => latest_concat_other _ different
    · intro peer _ _
      exact ⟨_, latest_concat_self _, rfl, rfl⟩

theorem Backed.seedPeers (backed : Backed env rt frames) (hashes : List AddressHash) :
    Backed env { rt with
      peers := (Vpn.seedPeers env rt.network rt.destination hashes rt.peers).1 } frames := by
  induction hashes generalizing rt with
  | nil => exact backed
  | cons hash rest ih =>
    unfold Vpn.seedPeers
    split
    · exact ih backed
    · rename_i fresh
      split
      · exact backed
      · rename_i ip derived
        have inserted : Backed env
            { rt with peers := rt.peers.insert (.new hash ip .configured) } frames :=
          backed.insert derived (fun same => fresh (Or.inl same)) rfl
        exact ih inserted

theorem seedPeers_keeps {network : Ipv4Cidr} {destination hash : AddressHash} {peer : Peer}
    (hashes : List AddressHash) {peers : PeerRegistry} (found : peers.get hash = some peer) :
    (Vpn.seedPeers env network destination hashes peers).1.get hash = some peer := by
  induction hashes generalizing peers with
  | nil => exact found
  | cons next rest ih =>
    unfold Vpn.seedPeers
    split
    · exact ih found
    · rename_i fresh
      split
      · exact found
      · refine ih ?_
        rw [PeerRegistry.get_insert]
        split
        · rename_i same
          obtain rfl : hash = next := same
          exact (fresh (Or.inr (by rw [found]; rfl))).elim
        · exact found

theorem removeUnlisted_get {destination : AddressHash} {allowed : Finset AddressHash}
    {all : List Peer} {peers : PeerRegistry} {outLinks : LinkRegistry} {hash : AddressHash}
    {peer : Peer}
    (found : (removeUnlisted destination allowed all peers outLinks).1.get hash = some peer) :
    peers.get hash = some peer := by
  unfold removeUnlisted at found
  induction all generalizing peers outLinks with
  | nil => exact found
  | cons next rest ih =>
    rw [List.foldl_cons] at found
    dsimp only at found
    by_cases listed : next.hash = destination ∨ next.hash ∈ allowed
    · rw [if_pos listed] at found
      exact ih found
    · rw [if_neg listed] at found
      have kept := ih found
      rw [PeerRegistry.get_remove] at kept
      split at kept
      · cases kept
      · exact kept

theorem Tracked.replacePeerPolicy (tracked : Tracked env rt frames) (hex : Text.Codec AddressHash)
    (allowAllPeers : Bool) (peers : List String) :
    Tracked env (rt.replacePeerPolicy env hex platform now allowAllPeers peers host).1.1 frames := by
  unfold VpnRuntime.replacePeerPolicy
  split
  · exact tracked
  · rename_i hashes _
    have seeded := tracked.backed.seedPeers hashes
    dsimp only
    split
    · rename_i after err outcome
      have same : (Vpn.seedPeers env rt.network rt.destination hashes rt.peers).1 = after :=
        congrArg Prod.fst outcome
      refine ⟨seeded.mono rfl rfl fun hash peer found => by rw [same]; exact found, ?_⟩
      intro route owner listed
      obtain ⟨peer, found, member⟩ := tracked.owned route owner listed
      exact ⟨peer, same ▸ seedPeers_keeps hashes found, member⟩
    · rename_i after _ outcome
      have same : (Vpn.seedPeers env rt.network rt.destination hashes rt.peers).1 = after :=
        congrArg Prod.fst outcome
      refine (seeded.mono ?_ ?_ ?_).rebuild platform now host
      · rfl
      · rfl
      · intro hash peer found
        rw [same]
        dsimp only at found
        split at found
        · exact found
        · exact removeUnlisted_get found

theorem Tracked.congr (tracked : Tracked env rt frames) {rt' : VpnRuntime}
    (network : rt'.network = rt.network) (destination : rt'.destination = rt.destination)
    (peers : rt'.peers = rt.peers) (router : rt'.router = rt.router) : Tracked env rt' frames := by
  refine ⟨tracked.backed.mono network destination fun hash peer found => peers ▸ found, ?_⟩
  unfold Owned
  rw [peers, router]
  exact tracked.owned

theorem Tracked.replaceAdvertisedRoutes (tracked : Tracked env rt frames)
    (ifaces : List Interface) (routes : List Ipv4Cidr) :
    Tracked env (rt.replaceAdvertisedRoutes env platform ifaces routes host).1 frames := by
  unfold VpnRuntime.replaceAdvertisedRoutes
  dsimp only
  obtain ⟨_, _, _, _, same⟩ := syncRoutes_frame env platform { rt with
    advertisedRoutes := routes
    localRoutes := mergeRoutes (discoverLocalRoutes rt.interfaceName ifaces) routes
    lastError := none } host
  rw [same]
  exact tracked.congr rfl rfl rfl rfl

/-! ### Frames from links -/

theorem Backed.acceptRoutes (backed : Backed env rt frames) (hash : AddressHash)
    (routes : List Ipv4Cidr) (now : Nat) :
    Backed env (rt.updatePeer hash fun peer =>
        { peer with lastSeenTs := now, routeExpiresTs := now + routeGraceSecs, routes })
      (frames ++ (if (rt.peers.get hash).isSome then
        some (⟨hash, routes, now⟩ : RouteFrame) else none).toList) := by
  refine backed.updatePeer (fun _ => ⟨rfl, rfl⟩) ?_ ?_
  · intro other different
    split
    · exact latest_concat_other _ different
    · rw [Option.toList_none, List.append_nil]
  · intro peer found _
    rw [found, Option.isSome_some, if_pos rfl]
    exact ⟨_, latest_concat_self _, rfl, rfl⟩

theorem Tracked.handleCtrl (tracked : Tracked env rt frames) (reader : FrameReader)
    (hash : AddressHash) {data : List UInt8} (control : isCtrl data = true) :
    Tracked env (rt.handleCtrl env reader platform now hash data host).1
      (frames ++ (rt.acceptedFrame reader now (some hash) data).toList) := by
  unfold VpnRuntime.handleCtrl acceptedFrame
  rw [if_pos control]
  dsimp only
  cases decoded : decodeCtrl reader.ctrlBody data with
  | error err =>
    rw [Option.toList_none, List.append_nil]
    exact tracked.updatePeer fun _ => ⟨rfl, rfl, rfl, rfl⟩
  | ok ctrl =>
    cases ctrl with
    | hello routes => exact (tracked.backed.acceptRoutes hash _ now).rebuild platform now host
    | routes routes => exact (tracked.backed.acceptRoutes hash _ now).rebuild platform now host
    | ping =>
      rw [Option.toList_none, List.append_nil]
      exact tracked.updatePeer fun _ => ⟨rfl, rfl, rfl, rfl⟩

theorem Tracked.handleLinkData (tracked : Tracked env rt frames) (reader : FrameReader)
    (tunSend : Except String Unit) (senderHint : Option AddressHash) (data : List UInt8) :
    Tracked env (rt.handleLinkData env reader platform tunSend now senderHint data host).1
      (frames ++ (rt.acceptedFrame reader now senderHint data).toList) := by
  unfold VpnRuntime.handleLinkData
  split
  · rename_i control
    cases senderHint with
    | none =>
      unfold acceptedFrame
      rw [if_pos control, Option.toList_none, List.append_nil]
      exact tracked
    | some hash => exact tracked.handleCtrl reader hash control
  · rename_i packet
    unfold acceptedFrame
    rw [if_neg packet, Option.toList_none, List.append_nil]
    dsimp only
    split
    · exact tracked.congr rfl rfl rfl rfl
    · have received : Tracked env { rt with metrics := rt.metrics.recordRx data.length now } frames :=
        tracked.congr rfl rfl rfl rfl
      cases tunSend with
      | error err => exact tracked.congr rfl rfl rfl rfl
      | ok _ =>
        cases rt.credited reader senderHint data with
        | none => exact received
        | some hash => exact received.updatePeer fun _ => ⟨rfl, rfl, rfl, rfl⟩

end Changes

/-! ### The watchdog -/

section Watchdog

variable {env : VpnEnv} {rt : VpnRuntime} {frames : List RouteFrame} {now : Nat}

/-- A peer whose routes the watchdog takes away. -/
def Lapsed (rt : VpnRuntime) (now : Nat) (peer : Peer) : Prop :=
  peer.hash ≠ rt.destination ∧ routesExpired now peer = true

theorem expireStep_lapsed {peer : Peer} (lapsed : Lapsed rt now peer) (changed : Bool) :
    expireStep now (rt, changed) peer =
      (rt.updatePeer peer.hash fun peer => { peer with routes := [] }, true) := by
  rw [expireStep, if_neg lapsed.1, if_pos lapsed.2]

theorem expireStep_kept {peer : Peer} (kept : ¬ Lapsed rt now peer) (changed : Bool) :
    expireStep now (rt, changed) peer = (rt, changed) := by
  by_cases own : peer.hash = rt.destination
  · rw [expireStep, if_pos own]
  · rw [expireStep, if_neg own, if_neg fun expired => kept ⟨own, expired⟩]

theorem expireSteps_quiet {peers : List Peer} (quiet : ∀ peer ∈ peers, ¬ Lapsed rt now peer)
    (changed : Bool) : peers.foldl (expireStep now) (rt, changed) = (rt, changed) := by
  induction peers with
  | nil => rfl
  | cons peer rest ih =>
    rw [List.foldl_cons, expireStep_kept (quiet peer List.mem_cons_self)]
    exact ih fun other member => quiet other (List.mem_cons_of_mem _ member)

theorem expireSteps_changed {peers : List Peer} {changed : Bool}
    (unchanged : (peers.foldl (expireStep now) (rt, changed)).2 = false) :
    changed = false ∧ ∀ peer ∈ peers, ¬ Lapsed rt now peer := by
  induction peers generalizing rt changed with
  | nil => exact ⟨unchanged, fun _ member => by cases member⟩
  | cons peer rest ih =>
    rw [List.foldl_cons] at unchanged
    by_cases lapsed : Lapsed rt now peer
    · rw [expireStep_lapsed lapsed] at unchanged
      cases (ih unchanged).1
    · rw [expireStep_kept lapsed] at unchanged
      obtain ⟨flag, quiet⟩ := ih unchanged
      exact ⟨flag, List.forall_mem_cons.mpr ⟨lapsed, quiet⟩⟩

theorem expireSteps_backed {peers : List Peer} (backed : Backed env rt frames) (changed : Bool) :
    Backed env (peers.foldl (expireStep now) (rt, changed)).1 frames := by
  induction peers generalizing rt changed with
  | nil => exact backed
  | cons peer rest ih =>
    rw [List.foldl_cons]
    by_cases lapsed : Lapsed rt now peer
    · rw [expireStep_lapsed lapsed]
      have cleared : Backed env
          (rt.updatePeer peer.hash fun peer => { peer with routes := [] }) frames :=
        backed.updatePeer (fun _ => ⟨rfl, rfl⟩) (fun _ _ => rfl) fun _ _ some_ => (some_ rfl).elim
      exact ih cleared _
    · rw [expireStep_kept lapsed]
      exact ih backed _

/-- What the registry holds after the loop it held before, with its routes or without them, and
without them if the loop has seen them lapsed. -/
theorem expireSteps_get {peers : List Peer} {changed : Bool} {hash : AddressHash} {peer : Peer}
    (found : (peers.foldl (expireStep now) (rt, changed)).1.peers.get hash = some peer) :
    ∃ old, rt.peers.get hash = some old ∧ (peer.routes ≠ [] → peer = old ∧
      ∀ seen ∈ peers, seen.hash = hash → ¬ Lapsed rt now seen) := by
  induction peers generalizing rt changed with
  | nil => exact ⟨peer, found, fun _ => ⟨rfl, fun _ member => by cases member⟩⟩
  | cons next rest ih =>
    rw [List.foldl_cons] at found
    by_cases lapsed : Lapsed rt now next
    · rw [expireStep_lapsed lapsed] at found
      obtain ⟨mid, before, same⟩ := ih found
      rw [get_updatePeer] at before
      split at before
      · rename_i here
        obtain ⟨old, first, rfl⟩ := Option.map_eq_some_iff.mp before
        refine ⟨old, here ▸ first, fun some_ => ?_⟩
        rw [(same some_).1] at some_
        exact (some_ rfl).elim
      · rename_i elsewhere
        refine ⟨mid, before, fun some_ => ⟨(same some_).1, ?_⟩⟩
        intro seen member at_
        rcases List.mem_cons.mp member with rfl | later
        · exact (elsewhere at_.symm).elim
        · have quiet := (same some_).2 seen later at_
          rwa [Lapsed, updatePeer_destination] at quiet
    · rw [expireStep_kept lapsed] at found
      obtain ⟨old, before, same⟩ := ih found
      refine ⟨old, before, fun some_ => ⟨(same some_).1, ?_⟩⟩
      intro seen member at_
      rcases List.mem_cons.mp member with rfl | later
      · exact lapsed
      · exact (same some_).2 seen later at_

theorem rebuilt_peers (env : VpnEnv) (platform : Platform) (now : Nat) (rt : VpnRuntime)
    (host : Host) : ((rt.rebuildRouter env now).syncRoutes env platform host).1.peers = rt.peers := by
  obtain ⟨_, _, _, _, same⟩ := syncRoutes_frame env platform (rt.rebuildRouter env now) host
  rw [same]
  rfl

/-- The loop has taken away the routes of every peer whose routes were due. -/
theorem Backed.expireRoutes_due (backed : Backed env rt frames) {hash : AddressHash} {peer : Peer}
    (found : (rt.expireRoutes now (PeerRegistry.all env.registry rt.peers)).1.peers.get hash =
      some peer) : routesExpired now peer = false := by
  obtain ⟨old, before, same⟩ := expireSteps_get found
  rw [← Bool.not_eq_true]
  intro expired
  have some_ : peer.routes ≠ [] := (of_decide_eq_true expired).2.2
  obtain ⟨rfl, quiet⟩ := same some_
  have filed := backed.created.filed hash peer before
  have listed : peer ∈ PeerRegistry.all env.registry rt.peers := by
    rw [PeerRegistry.mem_all backed.created.filed, filed]
    exact before
  exact quiet peer listed filed ⟨filed ▸ backed.ne_destination before, expired⟩

/-- After a tick no peer has routes that were due. -/
theorem Tracked.watchdogTick (tracked : Tracked env rt frames) (platform : Platform) (host : Host) :
    Tracked env (rt.watchdogTick env platform now host).1 frames ∧
      ∀ hash peer, (rt.watchdogTick env platform now host).1.peers.get hash = some peer →
        routesExpired now peer = false := by
  have due : ∀ hash peer, (rt.expireRoutes now (PeerRegistry.all env.registry rt.peers)).1.peers.get
      hash = some peer → routesExpired now peer = false :=
    fun _ _ found => tracked.backed.expireRoutes_due found
  unfold VpnRuntime.watchdogTick
  split
  · rename_i after outcome
    rw [outcome] at due
    have backed : Backed env after frames := by
      have kept := @expireSteps_backed env rt frames now
        (PeerRegistry.all env.registry rt.peers) tracked.backed false
      rwa [← expireRoutes, outcome] at kept
    refine ⟨backed.rebuild platform now host, ?_⟩
    rw [rebuilt_peers]
    exact due
  · rename_i after outcome
    rw [outcome] at due
    have quiet := expireSteps_changed (congrArg Prod.snd outcome)
    have same : after = rt :=
      (congrArg Prod.fst outcome).symm.trans (congrArg Prod.fst (expireSteps_quiet quiet.2 false))
    rw [same] at due ⊢
    exact ⟨tracked, due⟩

end Watchdog

/-! ### Runs -/

section Runs

variable {env : VpnEnv} {hex : Text.Codec AddressHash} {reader : FrameReader}

/-- The route frames accepted during a run, in order. -/
def acceptedFrames (env : VpnEnv) (hex : Text.Codec AddressHash) (reader : FrameReader)
    (s : VpnRuntime × Host) (ops : List Op) : List RouteFrame :=
  ((machine env hex reader).trace s ops).filterMap Prod.snd

def RouteFrame.observe (frames : List RouteFrame) (e : Op × Option RouteFrame) : List RouteFrame :=
  frames ++ e.2.toList

theorem foldl_observe (events : List (Op × Option RouteFrame)) (frames : List RouteFrame) :
    events.foldl RouteFrame.observe frames = frames ++ events.filterMap Prod.snd := by
  induction events generalizing frames with
  | nil => exact (List.append_nil frames).symm
  | cons e rest ih =>
    rw [List.foldl_cons, ih, RouteFrame.observe, List.append_assoc]
    obtain ⟨op, frame⟩ := e
    cases frame <;> rfl

theorem Tracked.start {boot : Boot} {config : VpnConfig} {host : Host} {after : VpnRuntime × Host}
    (started : start env hex boot config host = .ok after) : Tracked env after.1 [] := by
  obtain ⟨hashes, rt, seeded, _, network, destination, _, rfl⟩ := start_built started
  have blank : Backed env { rt with peers := ∅ } [] :=
    ⟨.empty, rfl, fun _ _ found => by cases found⟩
  have backed : Backed env rt [] := by
    refine (blank.seedPeers hashes).mono rfl rfl ?_
    intro hash peer found
    rw [seeded, ← network, ← destination] at found
    exact found
  exact backed.rebuild boot.platform boot.now host

theorem Tracked.step {s : VpnRuntime × Host} {frames : List RouteFrame}
    (tracked : Tracked env s.1 frames) (op : Op) :
    Tracked env ((machine env hex reader).step s op).1.1
      (RouteFrame.observe frames (op, ((machine env hex reader).step s op).2)) := by
  have quiet : ∀ op, RouteFrame.observe frames (op, none) = frames := fun _ => List.append_nil frames
  cases op with
  | announce platform now desc routes => exact tracked.announce desc routes
  | linkData platform tunSend now senderHint data =>
    exact tracked.handleLinkData reader tunSend senderHint data
  | replacePeerPolicy platform now allowAllPeers peers =>
    exact (quiet _).symm ▸ tracked.replacePeerPolicy hex allowAllPeers peers
  | replaceAdvertisedRoutes platform ifaces routes =>
    exact (quiet _).symm ▸ tracked.replaceAdvertisedRoutes ifaces routes
  | watchdog platform now => exact (quiet _).symm ▸ (tracked.watchdogTick platform s.2).1

theorem Tracked.run {s : VpnRuntime × Host} (tracked : Tracked env s.1 []) (ops : List Op) :
    Tracked env ((machine env hex reader).run s ops).1 (acceptedFrames env hex reader s ops) := by
  have keep : ∀ (s : VpnRuntime × Host) frames op, Tracked env s.1 frames →
      Tracked env ((machine env hex reader).step s op).1.1
        (RouteFrame.observe frames (op, ((machine env hex reader).step s op).2)) :=
    fun _ _ op tracked => tracked.step op
  have kept := Machine.run_kept (R := fun (s : VpnRuntime × Host) frames => Tracked env s.1 frames)
    keep tracked ops
  rwa [foldl_observe, List.nil_append] at kept

/-- Right after a tick of the watchdog every route in the table belongs to a registered remote
peer, and to the latest frame accepted from it, which came within the grace before the tick. -/
theorem table_fresh (env : VpnEnv) (hex : Text.Codec AddressHash) (reader : FrameReader)
    (boot : Boot) (config : VpnConfig) (host : Host) (after : VpnRuntime × Host)
    (started : start env hex boot config host = .ok after) (ops : List Op) (platform : Platform)
    (now : Nat) :
    let s := (machine env hex reader).run after (ops ++ [.watchdog platform now])
    ∀ route owner, (route, owner) ∈ s.1.router.subnets →
      (s.1.peers.get owner).isSome ∧ owner ≠ s.1.destination ∧
        ∃ frame, latest (acceptedFrames env hex reader after ops) owner = some frame ∧
          route ∈ frame.routes ∧ now < frame.at_ + routeGraceSecs := by
  intro s route owner listed
  have before : Tracked env ((machine env hex reader).run after ops).1
      (acceptedFrames env hex reader after ops) := (Tracked.start started).run ops
  obtain ⟨tracked, due⟩ := @Tracked.watchdogTick env _ _ now before platform
    ((machine env hex reader).run after ops).2
  have last : s = ((machine env hex reader).run after ops).1.watchdogTick env platform now
      ((machine env hex reader).run after ops).2 :=
    Machine.run_append (machine env hex reader) after ops [.watchdog platform now]
  rw [last] at listed ⊢
  obtain ⟨peer, found, member⟩ := tracked.owned route owner listed
  have some_ : peer.routes ≠ [] := List.ne_nil_of_mem member
  obtain ⟨frame, accepted, routes, expires⟩ := tracked.backed.routed owner peer found some_
  refine ⟨by rw [found]; rfl, tracked.backed.ne_destination found, frame, accepted,
    routes ▸ member, ?_⟩
  have alive := of_decide_eq_false (due owner peer found)
  rw [expires] at alive
  by_contra late
  exact alive ⟨by simp [routeGraceSecs], Nat.not_lt.mp late, some_⟩

end Runs

/-- A start without a TUN, on a host that takes every command. -/
def plainBoot : Boot where
  destination := nodeHash
  openTun := .ok none
  configureTun := .ok ()
  enableForwarding := .ok ()
  routeAliasing := false
  ifaces := []
  platform := SyncCall.working
  now := 0

def announcedOps : List Op :=
  [.announce SyncCall.working 100 ⟨shortHash 0 1⟩ [.net24 192 168 10],
    .watchdog SyncCall.working 110]

theorem table_fresh_announced : ∃ after,
    start SyncCall.plainEnv AddressHash.hexCodec plainBoot transitConfig {} = .ok after ∧
      let s := (machine SyncCall.plainEnv AddressHash.hexCodec headerReader).run after
        (announcedOps ++ [.watchdog SyncCall.working 140])
      (Ipv4Cidr.net24 192 168 10, shortHash 0 1) ∈ s.1.router.subnets ∧
        (s.1.peers.get (shortHash 0 1)).isSome := by
  refine ⟨_, rfl, ?_⟩
  intro s
  have listed : (Ipv4Cidr.net24 192 168 10, shortHash 0 1) ∈ s.1.router.subnets := by decide
  have fresh := table_fresh SyncCall.plainEnv AddressHash.hexCodec headerReader plainBoot
    transitConfig {} _ rfl announcedOps SyncCall.working 140 _ _ listed
  exact ⟨listed, fresh.1⟩

end VpnRuntime

end Kaonic.Vpn
