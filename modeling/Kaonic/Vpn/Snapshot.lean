import Kaonic.Net.Notation
import Kaonic.Vpn.RegistryRuns
import Kaonic.Vpn.RouteConflicts

/-!
# Snapshots

What the runtime shows of itself, and when the routes that it shows as active are those that it
forwards.
-/

namespace Kaonic.Vpn
open Net

structure VpnPeerSnapshot where
  destination : String
  tunnelIp : Option String
  linkState : String
  announcedRoutes : List String
  lastSeenTs : Nat
  lastError : Option String
  txPackets : UInt64
  txBytes : UInt64
  rxPackets : UInt64
  rxBytes : UInt64
  lastTxTs : Nat
  lastRxTs : Nat
  deriving DecidableEq

structure VpnRouteSnapshot where
  network : String
  owner : String
  status : String
  lastSeenTs : Nat
  installed : Bool
  deriving DecidableEq

structure VpnRouteMappingSnapshot where
  subnet : String
  tunnel : String
  mappedSubnet : String
  deriving DecidableEq

/-- `VpnSnapshot`, without the sampled rates. -/
structure VpnSnapshot where
  destinationHash : String
  network : String
  localTunnelIp : Option String
  backend : String
  interfaceName : Option String
  status : String
  advertisedRoutes : List String
  localRoutes : List String
  txPackets : UInt64
  txBytes : UInt64
  rxPackets : UInt64
  rxBytes : UInt64
  dropPackets : UInt64
  lastTxTs : Nat
  lastRxTs : Nat
  peers : List VpnPeerSnapshot
  remoteRoutes : List VpnRouteSnapshot
  routeMappings : List VpnRouteMappingSnapshot
  lastError : Option String
  deriving DecidableEq

def LinkState.asStr : LinkState → String
  | .configured => "configured"
  | .discovered => "discovered"
  | .pending => "pending"
  | .active => "active"
  | .closed => "closed"
  | .error => "error"

def statusStr : VpnStatus → String
  | .mock => "mock"
  | .error => "error"
  | .running => "running"

def routesLive (peer : Peer) (now : Nat) : Bool :=
  !peer.routes.isEmpty && decide (peer.routeExpiresTs = 0 ∨ now < peer.routeExpiresTs)

/-- A `Vec` of texts after `sort`. -/
def sortTexts (texts : List String) : List String := texts.insertionSort (· ≤ ·)

/-- `Display` of an address. -/
def displayIp (ip : Ipv4Addr) : String := String.ofList ip.print

/-- `backend_name`, for Linux. -/
def backendName : String := "linux"

/-! ### Assembly -/

/-- The entries so far, with the pairs of network and owner that they have. -/
structure RemoteRoutes where
  owners : Finset (String × String) := ∅
  entries : List VpnRouteSnapshot := []

namespace VpnRuntime

section
variable (env : VpnEnv) (hex : Text.Codec AddressHash) (rt : VpnRuntime)

def peerSnapshot (now : Nat) (peer : Peer) : VpnPeerSnapshot where
  destination := hex.print peer.hash
  tunnelIp := some (displayIp peer.tunnelIp)
  linkState := peer.linkState.asStr
  announcedRoutes := if routesLive peer now then peer.routes.map env.display else []
  lastSeenTs := peer.lastSeenTs
  lastError := peer.lastError
  txPackets := peer.metrics.txPackets
  txBytes := peer.metrics.txBytes
  rxPackets := peer.metrics.rxPackets
  rxBytes := peer.metrics.rxBytes
  lastTxTs := peer.metrics.lastTxTs
  lastRxTs := peer.metrics.lastRxTs

def addRemoteRoute (peer : Peer) (acc : RemoteRoutes) (route : Ipv4Cidr) : RemoteRoutes :=
  let key := env.display route
  if (key, hex.print peer.hash) ∈ acc.owners then acc
  else
    let installed := decide (key ∈ rt.installedRoutes)
    let conflict := decide (key ∈ rt.conflictedRoutes)
    { owners := insert (key, hex.print peer.hash) acc.owners
      entries := acc.entries ++
        [{ network := key
           owner := hex.print peer.hash
           status := if conflict then "conflict" else "active"
           lastSeenTs := peer.lastSeenTs
           installed := installed && !conflict }] }

def addRemotePeer (acc : RemoteRoutes) (peer : Peer) : RemoteRoutes :=
  if peer.hash = rt.destination then acc else peer.routes.foldl (rt.addRemoteRoute env hex peer) acc

def snapshotBlocking (now : Nat) : VpnSnapshot :=
  let all := PeerRegistry.all env.registry rt.peers
  let peersSnap := (all.filter fun peer => peer.hash ≠ rt.destination).map (peerSnapshot env hex now)
  let remoteRoutes := (all.foldl (rt.addRemotePeer env hex) {}).entries
  let translations := rt.translations
  { destinationHash := hex.print rt.destination
    network := env.display rt.network
    localTunnelIp := some (displayIp rt.localTunnelIp)
    backend := backendName
    interfaceName := rt.interfaceName
    status := statusStr rt.status
    advertisedRoutes := sortTexts (rt.advertisedRoutes.map env.display)
    localRoutes := sortTexts (translations.map fun t =>
      if t.local_ = t.exported then env.display t.local_
      else env.display t.exported ++ " -> " ++ env.display t.local_)
    txPackets := rt.metrics.txPackets
    txBytes := rt.metrics.txBytes
    rxPackets := rt.metrics.rxPackets
    rxBytes := rt.metrics.rxBytes
    dropPackets := rt.metrics.dropPackets
    lastTxTs := rt.metrics.lastTxTs
    lastRxTs := rt.metrics.lastRxTs
    peers := peersSnap.insertionSort fun a b => a.destination ≤ b.destination
    remoteRoutes := remoteRoutes.insertionSort fun a b => a.network ≤ b.network
    routeMappings := (translations.map fun t =>
        (⟨env.display t.local_, displayIp rt.localTunnelIp, env.display t.exported⟩ :
          VpnRouteMappingSnapshot)).insertionSort fun a b =>
      a.subnet < b.subnet ∨ a.subnet = b.subnet ∧ a.mappedSubnet ≤ b.mappedSubnet
    lastError := rt.lastError }

end

end VpnRuntime

/-! ### The remote routes -/

/-- The entries are those of the pairs, each once with the status that its network has. -/
structure RemoteRoutes.Shows (rt : VpnRuntime) (pairs : Set (String × String))
    (acc : RemoteRoutes) : Prop where
  owners : ∀ pair, pair ∈ acc.owners ↔ pair ∈ pairs
  entries : ∀ pair, pair ∈ acc.owners ↔ ∃ e ∈ acc.entries, (e.network, e.owner) = pair
  status : ∀ e ∈ acc.entries,
    e.status = if e.network ∈ rt.conflictedRoutes then "conflict" else "active"

theorem RemoteRoutes.Shows.congr {rt : VpnRuntime} {pairs others : Set (String × String)}
    {acc : RemoteRoutes} (shows_ : acc.Shows rt pairs) (same : ∀ pair, pair ∈ pairs ↔ pair ∈ others) :
    acc.Shows rt others :=
  ⟨fun pair => (shows_.owners pair).trans (same pair), shows_.entries, shows_.status⟩

namespace VpnRuntime

section

variable {env : VpnEnv} {hex : Text.Codec AddressHash} {rt : VpnRuntime} {acc : RemoteRoutes}
  {pairs : Set (String × String)}

theorem shows_none : RemoteRoutes.Shows rt ∅ {} := by
  refine ⟨fun _ => iff_of_false ?_ id, fun _ => iff_of_false ?_ ?_, ?_⟩
  · exact Finset.notMem_empty _
  · exact Finset.notMem_empty _
  · rintro ⟨e, member, _⟩
    cases member
  · intro e member
    cases member

theorem shows_addRoute (shows_ : acc.Shows rt pairs) (peer : Peer) (route : Ipv4Cidr) :
    (rt.addRemoteRoute env hex peer acc route).Shows rt
      (insert (env.display route, hex.print peer.hash) pairs) := by
  unfold addRemoteRoute
  dsimp only
  split
  · rename_i known
    have same := Set.insert_eq_of_mem ((shows_.owners _).mp known)
    rw [same]
    exact shows_
  · refine ⟨?_, ?_, ?_⟩
    · intro pair
      rw [Finset.mem_insert, Set.mem_insert_iff, shows_.owners]
    · intro pair
      rw [Finset.mem_insert, shows_.entries]
      constructor
      · rintro (rfl | ⟨e, member, same⟩)
        · exact ⟨_, List.mem_append_right _ (List.mem_singleton_self _), rfl⟩
        · exact ⟨e, List.mem_append_left _ member, same⟩
      · rintro ⟨e, member, same⟩
        rcases List.mem_append.mp member with before | new
        · exact Or.inr ⟨e, before, same⟩
        · rw [List.mem_singleton.mp new] at same
          exact Or.inl same.symm
    · intro e member
      rcases List.mem_append.mp member with before | new
      · exact shows_.status e before
      · rw [List.mem_singleton.mp new]
        simp only [decide_eq_true_eq]

theorem shows_addRoutes (shows_ : acc.Shows rt pairs) (peer : Peer) (routes : List Ipv4Cidr) :
    (routes.foldl (rt.addRemoteRoute env hex peer) acc).Shows rt
      {pair | pair ∈ pairs ∨ ∃ route ∈ routes, pair = (env.display route, hex.print peer.hash)} := by
  induction routes generalizing acc pairs with
  | nil => exact shows_.congr fun pair => by simp
  | cons route rest ih =>
    refine (ih (shows_addRoute shows_ peer route)).congr fun pair => ?_
    simp only [Set.mem_ofPred_eq, Set.mem_insert_iff, List.exists_mem_cons_iff]
    tauto

theorem shows_addPeers (shows_ : acc.Shows rt pairs) (peers : List Peer) :
    (peers.foldl (rt.addRemotePeer env hex) acc).Shows rt
      {pair | pair ∈ pairs ∨ ∃ peer ∈ peers, peer.hash ≠ rt.destination ∧
        ∃ route ∈ peer.routes, pair = (env.display route, hex.print peer.hash)} := by
  induction peers generalizing acc pairs with
  | nil => exact shows_.congr fun pair => by simp
  | cons peer rest ih =>
    rw [List.foldl_cons, addRemotePeer]
    split
    · rename_i own
      refine (ih shows_).congr fun pair => ?_
      simp [own]
    · rename_i remote
      refine (ih (shows_addRoutes shows_ peer peer.routes)).congr fun pair => ?_
      simp only [Set.mem_ofPred_eq, List.exists_mem_cons_iff, or_assoc, and_iff_right remote]

/-- An active entry is a route that a remote peer has and that is no local conflict. -/
theorem active_iff (now : Nat) (key owner : String) :
    (∃ e ∈ (rt.snapshotBlocking env hex now).remoteRoutes,
        e.status = "active" ∧ e.network = key ∧ e.owner = owner) ↔
      key ∉ rt.conflictedRoutes ∧ ∃ peer ∈ PeerRegistry.all env.registry rt.peers,
        peer.hash ≠ rt.destination ∧ ∃ route ∈ peer.routes,
          (key, owner) = (env.display route, hex.print peer.hash) := by
  have shows_ := @shows_addPeers env hex rt {} ∅ shows_none (PeerRegistry.all env.registry rt.peers)
  have listed := (shows_.entries (key, owner)).symm.trans (shows_.owners (key, owner))
  simp only [Set.mem_ofPred_eq, Set.mem_empty_iff_false, false_or] at listed
  rw [← listed]
  show (∃ e ∈ List.insertionSort _ _, _) ↔ _
  simp only [List.mem_insertionSort]
  constructor
  · rintro ⟨e, member, active, rfl, rfl⟩
    refine ⟨fun conflict => ?_, e, member, rfl⟩
    rw [shows_.status e member, if_pos conflict] at active
    exact absurd active (by decide)
  · rintro ⟨free, e, member, same⟩
    obtain ⟨rfl, rfl⟩ := Prod.mk.inj same
    refine ⟨e, member, ?_, rfl, rfl⟩
    rw [shows_.status e member, if_neg free]

/-- A peer is shown with its routes while they live. -/
theorem announced_iff (filed : rt.peers.Filed) (now : Nat) {peer : Peer}
    (found : rt.peers.get peer.hash = some peer) (remote : peer.hash ≠ rt.destination) (key : String) :
    (∃ p ∈ (rt.snapshotBlocking env hex now).peers,
        p.destination = hex.print peer.hash ∧ key ∈ p.announcedRoutes) ↔
      routesLive peer now = true ∧ key ∈ peer.routes.map env.display := by
  show (∃ p ∈ List.insertionSort _ _, _) ↔ _
  simp only [List.mem_insertionSort, List.mem_map, List.mem_filter, PeerRegistry.mem_all filed]
  constructor
  · rintro ⟨_, ⟨other, ⟨known, _⟩, rfl⟩, same, member⟩
    have here : other.hash = peer.hash := hex.print_injective same
    rw [here, found] at known
    obtain rfl := Option.some.inj known
    unfold peerSnapshot at member
    dsimp only at member
    split at member
    · rename_i live
      exact ⟨live, List.mem_map.mp member⟩
    · cases member
  · rintro ⟨live, route, member, rfl⟩
    refine ⟨_, ⟨peer, ⟨found, by simpa using remote⟩, rfl⟩, rfl, ?_⟩
    unfold peerSnapshot
    rw [if_pos live]
    exact List.mem_map_of_mem member

end

/-- Every active entry is a subnet that the table gives its owner, and one that the peer is shown to
announce. -/
def Consistent (env : VpnEnv) (hex : Text.Codec AddressHash) (rt : VpnRuntime)
    (shown : VpnSnapshot) : Prop :=
  ∀ e ∈ shown.remoteRoutes, e.status = "active" →
    (∃ route owner, env.display route = e.network ∧ hex.print owner = e.owner ∧
      (route, owner) ∈ rt.router.subnets) ∧
    ∃ p ∈ shown.peers, p.destination = e.owner ∧ e.network ∈ p.announcedRoutes

section

variable {env : VpnEnv} {hex : Text.Codec AddressHash} {rt : VpnRuntime}

theorem consistent_iff (displays : Function.Injective env.display) (filed : rt.peers.Filed)
    (remote : rt.peers.get rt.destination = none) (now : Nat) :
    rt.Consistent env hex (rt.snapshotBlocking env hex now) ↔
      ∀ peer, rt.peers.get peer.hash = some peer → ∀ route ∈ peer.routes,
        env.display route ∉ rt.conflictedRoutes →
          routesLive peer now = true ∧ (route, peer.hash) ∈ rt.router.subnets := by
  constructor
  · intro consistent peer found route member free
    obtain ⟨e, listed, active, network, owner⟩ :=
      (@active_iff env hex rt now (env.display route) (hex.print peer.hash)).mpr
        ⟨free, peer, (PeerRegistry.mem_all filed).mpr found, ne_destination remote found, route, member, rfl⟩
    obtain ⟨⟨other, holder, sameRoute, sameOwner, assigned⟩, announced⟩ := consistent e listed active
    rw [network] at sameRoute announced
    rw [owner] at sameOwner announced
    obtain rfl := displays sameRoute
    obtain rfl := hex.print_injective sameOwner
    exact ⟨((announced_iff filed now found (ne_destination remote found) _).mp announced).1, assigned⟩
  · intro forwards e listed active
    obtain ⟨free, peer, member, _, route, held, same⟩ :=
      (@active_iff env hex rt now e.network e.owner).mp ⟨e, listed, active, rfl, rfl⟩
    obtain ⟨network, owner⟩ := Prod.mk.inj same
    have found := (PeerRegistry.mem_all filed).mp member
    rw [network] at free ⊢
    obtain ⟨live, assigned⟩ := forwards peer found route held free
    rw [owner]
    exact ⟨⟨route, peer.hash, rfl, rfl, assigned⟩,
      (announced_iff filed now found (ne_destination remote found) _).mpr
        ⟨live, List.mem_map_of_mem held⟩⟩

end

/-! ### The table in every run -/

/-- At the clock, `peer` alone has `route` live, and the node's own address lies outside it. -/
structure Undisputed (rt : VpnRuntime) (clock : Nat) (peer : Peer) (route : Ipv4Cidr) : Prop where
  live : routesLive peer clock = true
  sole : ∀ other, rt.peers.get other.hash = some other → routesLive other clock = true →
    route ∈ other.routes → other.hash = peer.hash
  foreign : route.contains rt.localTunnelIp = false

/-- The subnets are the routes that were undisputed at the clock. -/
def Current (clock : Nat) (rt : VpnRuntime) : Prop :=
  ∀ route owner, (route, owner) ∈ rt.router.subnets ↔
    ∃ peer, rt.peers.get owner = some peer ∧ route ∈ peer.routes ∧ rt.Undisputed clock peer route

section

variable {env : VpnEnv} {rt rt' : VpnRuntime} {clock : Nat} {frames : List RouteFrame}

theorem routesLive_iff {peer : Peer} {route : Ipv4Cidr} (held : route ∈ peer.routes) :
    routesLive peer clock = true ↔ peer.routeExpiresTs = 0 ∨ clock < peer.routeExpiresTs := by
  have some_ : peer.routes.isEmpty = false := by
    rw [List.isEmpty_eq_false_iff_exists_mem]
    exact ⟨route, held⟩
  unfold routesLive
  rw [some_, Bool.not_false, Bool.true_and, decide_eq_true_eq]

theorem Undisputed.of_claims (ip : rt'.localTunnelIp = rt.localTunnelIp)
    (claims : ∀ hash, (rt'.peers.get hash).map Peer.claim = (rt.peers.get hash).map Peer.claim)
    {peer peer' : Peer} {route : Ipv4Cidr} (same : peer'.claim = peer.claim)
    (undisputed : rt.Undisputed clock peer route) : rt'.Undisputed clock peer' route := by
  have reads : ∀ a b : Peer, a.claim = b.claim →
      a.hash = b.hash ∧ a.routes = b.routes ∧ routesLive a clock = routesLive b clock := by
    intro a b same
    have hash : a.hash = b.hash := congrArg Prod.fst same
    have routes : a.routes = b.routes := congrArg (fun c => c.2.2.1) same
    have expires : a.routeExpiresTs = b.routeExpiresTs := congrArg (fun c => c.2.2.2) same
    refine ⟨hash, routes, ?_⟩
    unfold routesLive
    rw [routes, expires]
  obtain ⟨hash, _, live⟩ := reads peer' peer same
  refine ⟨?_, ?_, ?_⟩
  · rw [live]
    exact undisputed.live
  · intro other found otherLive held
    have known := claims other.hash
    rw [found, Option.map_some] at known
    obtain ⟨old, before, sameOld⟩ := Option.map_eq_some_iff.mp known.symm
    obtain ⟨oldHash, oldRoutes, oldLive⟩ := reads old other sameOld
    rw [hash, ← oldHash]
    refine undisputed.sole old ?_ ?_ ?_
    · rw [oldHash]
      exact before
    · rw [oldLive]
      exact otherLive
    · rw [oldRoutes]
      exact held
  · rw [ip]
    exact undisputed.foreign

/-- A table stays current while the claims of the peers stay. -/
theorem Current.of_claims (current : rt.Current clock) (ip : rt'.localTunnelIp = rt.localTunnelIp)
    (router : rt'.router = rt.router)
    (claims : ∀ hash, (rt'.peers.get hash).map Peer.claim = (rt.peers.get hash).map Peer.claim) :
    rt'.Current clock := by
  intro route owner
  rw [router, current route owner]
  constructor
  · rintro ⟨peer, found, held, undisputed⟩
    have known := claims owner
    rw [found, Option.map_some] at known
    obtain ⟨peer', after, same⟩ := Option.map_eq_some_iff.mp known
    have routes : peer'.routes = peer.routes := congrArg (fun c => c.2.2.1) same
    exact ⟨peer', after, by rw [routes]; exact held, undisputed.of_claims ip claims same⟩
  · rintro ⟨peer', after, held, undisputed⟩
    have known := claims owner
    rw [after, Option.map_some] at known
    obtain ⟨peer, found, same⟩ := Option.map_eq_some_iff.mp known.symm
    have routes : peer.routes = peer'.routes := congrArg (fun c => c.2.2.1) same
    exact ⟨peer, found, by rw [routes]; exact held,
      undisputed.of_claims ip.symm (fun hash => (claims hash).symm) same⟩

/-- A rebuild makes the table current. -/
theorem current_rebuild (filed : rt.peers.Filed) (remote : rt.peers.get rt.destination = none)
    (now : Nat) : (rt.rebuildRouter env now).Current now := by
  intro route owner
  have distinct := @PeerRegistry.all_hashes_nodup env.registry rt.peers filed
  refine (RouteTable.mem_subnets_iff env.claimed distinct route owner).trans ?_
  constructor
  · rintro ⟨⟨peer, member, rfl, sole⟩, foreign⟩
    have found := (PeerRegistry.mem_all filed).mp member
    obtain ⟨⟨_, live⟩, held⟩ := (sole peer member).mpr rfl
    refine ⟨peer, found, held, (routesLive_iff held).mpr live, ?_, foreign⟩
    intro other known otherLive otherHeld
    exact congrArg Peer.hash ((sole other ((PeerRegistry.mem_all filed).mpr known)).mp
      ⟨⟨ne_destination remote known, (routesLive_iff otherHeld).mp otherLive⟩, otherHeld⟩)
  · rintro ⟨peer, found, held, undisputed⟩
    have found : rt.peers.get owner = some peer := found
    have own := filed owner peer found
    subst own
    refine ⟨⟨peer, (PeerRegistry.mem_all filed).mpr found, rfl, ?_⟩, undisputed.foreign⟩
    intro other member
    have known := (PeerRegistry.mem_all filed).mp member
    constructor
    · rintro ⟨⟨_, live⟩, otherHeld⟩
      have same := undisputed.sole other known ((routesLive_iff otherHeld).mpr live) otherHeld
      rw [same, found] at known
      exact (Option.some.inj known).symm
    · rintro rfl
      exact ⟨⟨ne_destination remote found, (routesLive_iff held).mp undisputed.live⟩, held⟩

/-- A sync leaves the table and what it was built from. -/
theorem Current.synced (current : rt.Current clock) (platform : Platform) (host : Host) :
    (rt.syncRoutes env platform host).1.Current clock := by
  obtain ⟨_, _, _, _, same⟩ := syncRoutes_frame env platform rt host
  rw [same]
  exact current.of_claims rfl rfl fun _ => rfl

theorem current_tracked {platform : Platform} {now : Nat} {host : Host}
    (tracked : Tracked env ((rt.rebuildRouter env now).syncRoutes env platform host).1 frames) :
    ((rt.rebuildRouter env now).syncRoutes env platform host).1.Current now := by
  have filed : rt.peers.Filed := by
    rw [← rebuilt_peers env platform now rt host]
    exact tracked.backed.created.filed
  have remote : rt.peers.get rt.destination = none := by
    have absent := tracked.backed.remote
    rwa [rebuilt_peers, (fixed_syncRoutes platform).destination] at absent
  exact (current_rebuild filed remote now).synced platform host

end

end VpnRuntime

/-- The clock of the last rebuild, once the step is taken. -/
def Event.rebuilt (env : VpnEnv) (hex : Text.Codec AddressHash) (reader : FrameReader)
    (s : VpnSystem) (clock : Nat) (e : Event) : Nat :=
  match e.resync env hex reader s with
  | some (o, _) => o.rebuilds.getD clock
  | none => clock

/-- The clock of the last rebuild of a run that begins with a table of the clock given. -/
def lastRebuild (env : VpnEnv) (hex : Text.Codec AddressHash) (reader : FrameReader)
    (msgpack : Msgpack) (s : VpnSystem) (clock : Nat) : List Event → Nat
  | [] => clock
  | e :: rest =>
    lastRebuild env hex reader msgpack ((system env hex reader msgpack).step s e).1
      (e.rebuilt env hex reader s clock) rest

section

variable {env : VpnEnv} {hex : Text.Codec AddressHash} {reader : FrameReader} {msgpack : Msgpack}

theorem current_resynced {rt mid : VpnRuntime} {host : Host} {clock : Nat} {op : VpnRuntime.Op}
    {frames : List VpnRuntime.RouteFrame} (current : rt.Current clock)
    (comes : op.resyncs env hex reader rt = some mid)
    (tracked : VpnRuntime.Tracked env ((op.rebuild env mid).syncRoutes env op.platform host).1
      frames) :
    ((op.rebuild env mid).syncRoutes env op.platform host).1.Current (op.rebuilds.getD clock) := by
  cases op with
  | replaceAdvertisedRoutes platform ifaces routes =>
    obtain rfl := Option.some.inj comes
    have advertised : (rt.advertising ifaces routes).Current clock :=
      current.of_claims rfl rfl fun _ => rfl
    exact advertised.synced platform host
  | announce platform now desc routes => exact VpnRuntime.current_tracked tracked
  | linkData platform tunSend now senderHint data => exact VpnRuntime.current_tracked tracked
  | replacePeerPolicy platform now allowAllPeers peers => exact VpnRuntime.current_tracked tracked
  | watchdog platform now => exact VpnRuntime.current_tracked tracked

theorem step_current {s : VpnSystem} (short : s.rt.network.networkLength ≤ 30) {clock : Nat}
    (current : s.rt.Current clock) {frames : List VpnRuntime.RouteFrame}
    (tracked : VpnRuntime.Tracked env s.rt frames) (e : Event) :
    ((system env hex reader msgpack).step s e).1.rt.Current (e.rebuilt env hex reader s clock) := by
  obtain ⟨frames', after⟩ := @step_tracked env hex reader msgpack s frames tracked e
  unfold Event.rebuilt
  cases comes : e.resync env hex reader s with
  | none =>
    have quiet := @step_quiet env hex reader msgpack s e comes
    exact current.of_claims quiet.fixed.localTunnelIp quiet.router quiet.claims
  | some r =>
    rw [step_resynced short comes] at after ⊢
    exact current_resynced current (resync_eq_some.mp comes).2.2 after

theorem run_current {s : VpnSystem} (short : s.rt.network.networkLength ≤ 30) {clock : Nat}
    (current : s.rt.Current clock) {frames : List VpnRuntime.RouteFrame}
    (tracked : VpnRuntime.Tracked env s.rt frames) (events : List Event) :
    ((system env hex reader msgpack).run s events).rt.Current
      (lastRebuild env hex reader msgpack s clock events) := by
  induction events generalizing s clock frames with
  | nil => exact current
  | cons e rest ih =>
    obtain ⟨_, next⟩ := @step_tracked env hex reader msgpack s frames tracked e
    exact ih (step_short s short e) (step_current short current tracked e) next

theorem started_current {boot : VpnRuntime.Boot} {config : VpnConfig} {host : Host}
    {after : VpnRuntime × Host} (started : VpnRuntime.start env hex boot config host = .ok after) :
    after.1.Current boot.now := by
  have tracked := VpnRuntime.Tracked.start started
  obtain ⟨_, rt, _, _, _, _, _, rfl⟩ := VpnRuntime.start_built started
  exact VpnRuntime.current_tracked tracked

end

/-- In every reachable state a snapshot is consistent with the table if and only if every route of a
peer that is no local conflict is live, and was undisputed at the last rebuild. -/
theorem snapshot_consistent_iff (env : VpnEnv) (displays : Function.Injective env.display)
    (hex : Text.Codec AddressHash) (reader : FrameReader) (msgpack : Msgpack)
    (boot : VpnRuntime.Boot) (config : VpnConfig) (host : Host) (after : VpnRuntime × Host)
    (started : VpnRuntime.start env hex boot config host = .ok after) (events : List Event)
    (now : Nat) :
    let s := (system env hex reader msgpack).run (.started after) events
    s.rt.Consistent env hex (s.rt.snapshotBlocking env hex now) ↔
      ∀ peer, s.rt.peers.get peer.hash = some peer → ∀ route ∈ peer.routes,
        env.display route ∉ s.rt.conflictedRoutes → routesLive peer now = true ∧
          s.rt.Undisputed (lastRebuild env hex reader msgpack (.started after) boot.now events)
            peer route := by
  intro s
  obtain ⟨_, _, _, tracked⟩ := @started_run env hex reader msgpack boot config host after started
    events
  have small := started_short started
  have current := @run_current env hex reader msgpack (.started after) small boot.now
    (started_current started) [] (VpnRuntime.Tracked.start started) events
  refine (VpnRuntime.consistent_iff displays tracked.backed.created.filed tracked.backed.remote
    now).trans ?_
  refine forall₂_congr fun peer found => forall₂_congr fun route held => ?_
  refine imp_congr_right fun _ => and_congr_right fun _ => ?_
  rw [current route peer.hash]
  constructor
  · rintro ⟨same, known, _, undisputed⟩
    rw [found] at known
    obtain rfl := Option.some.inj known
    exact undisputed
  · exact fun undisputed => ⟨peer, found, held, undisputed⟩

/-! ### Routes that are shown and not forwarded -/

def printingSystem : Machine VpnSystem Event Fate :=
  system printingEnv AddressHash.hexCodec VpnRuntime.headerReader .short

def announcedAt (now : Nat) (hash : AddressHash) : Event :=
  .op (.announce SyncCall.working now ⟨hash⟩ [.net24 192 168 10])

theorem printingSystem_tracked {after : VpnRuntime × Host}
    (started : VpnRuntime.start printingEnv AddressHash.hexCodec VpnRuntime.plainBoot transitConfig {} =
      .ok after) (events : List Event) :
    ∃ frames, VpnRuntime.Tracked printingEnv (printingSystem.run (.started after) events).rt frames :=
  (started_run started events).2.2

theorem snapshot_consistent_iff_fresh : ∃ after,
    VpnRuntime.start printingEnv AddressHash.hexCodec VpnRuntime.plainBoot transitConfig {} =
      .ok after ∧
    let s := printingSystem.run (.started after) [announcedAt 100 (shortHash 0 1)]
    s.rt.Consistent printingEnv AddressHash.hexCodec
      (s.rt.snapshotBlocking printingEnv AddressHash.hexCodec 120) := by
  have seen : ∃ after,
      VpnRuntime.start printingEnv AddressHash.hexCodec VpnRuntime.plainBoot transitConfig {} =
        .ok after ∧
      let s := printingSystem.run (.started after) [announcedAt 100 (shortHash 0 1)]
      lastRebuild printingEnv AddressHash.hexCodec VpnRuntime.headerReader .short (.started after)
          VpnRuntime.plainBoot.now [announcedAt 100 (shortHash 0 1)] = 100 ∧
        s.rt.localTunnelIp = .new 10 20 0 1 ∧
        ∃ peer, PeerRegistry.all printingEnv.registry s.rt.peers = [peer] ∧
          peer.routes = [.net24 192 168 10] ∧ peer.routeExpiresTs = 145 :=
    ⟨_, rfl, rfl, rfl, _, rfl, rfl, rfl⟩
  obtain ⟨after, started, clock, ip, peer, all, routes, expires⟩ := seen
  obtain ⟨_, tracked⟩ := printingSystem_tracked started [announcedAt 100 (shortHash 0 1)]
  have held : .net24 192 168 10 ∈ peer.routes := by
    rw [routes]
    exact List.mem_singleton_self _
  have live : ∀ now < 145, routesLive peer now = true := by
    intro now early
    rw [VpnRuntime.routesLive_iff held, expires]
    exact Or.inr early
  refine ⟨after, started, (snapshot_consistent_iff printingEnv printingEnv_injective
    AddressHash.hexCodec VpnRuntime.headerReader .short VpnRuntime.plainBoot transitConfig {}
    after started [announcedAt 100 (shortHash 0 1)] 120).mpr ?_⟩
  intro other found route routed _
  have only : ∀ q, (printingSystem.run (.started after)
      [announcedAt 100 (shortHash 0 1)]).rt.peers.get q.hash = some q → q = peer := by
    intro q known
    apply List.mem_singleton.mp
    rw [← all]
    exact (PeerRegistry.mem_all tracked.backed.created.filed).mpr known
  obtain rfl := only other found
  rw [routes] at routed
  obtain rfl := List.mem_singleton.mp routed
  rw [clock]
  refine ⟨live 120 (by decide), live 100 (by decide), ?_, ?_⟩
  · intro q known _ _
    rw [only q known]
  · show (Ipv4Cidr.net24 192 168 10).contains (printingSystem.run _ _).rt.localTunnelIp = false
    rw [ip]
    decide

theorem localConflicts_of_none {env : VpnEnv} {rt : VpnRuntime} (none_ : rt.localRoutes = []) :
    rt.localConflicts env = ∅ := by
  have translations : rt.translations = [] := by
    rw [VpnRuntime.translations, none_]
    rfl
  rw [VpnRuntime.localConflicts, translations, conflictingLocalRoutes, List.toFinset_eq_empty_iff,
    List.map_eq_nil_iff, List.filter_eq_nil_iff]
  intro route _ some_
  cases some_

/-- A route is still shown as active when it has expired, and when two peers have it. -/
theorem snapshot_shows_unforwarded : ∃ after,
    VpnRuntime.start printingEnv AddressHash.hexCodec VpnRuntime.plainBoot transitConfig {} =
      .ok after ∧
    (let s := printingSystem.run (.started after) [announcedAt 100 (shortHash 0 1)]
    ¬ s.rt.Consistent printingEnv AddressHash.hexCodec
      (s.rt.snapshotBlocking printingEnv AddressHash.hexCodec 150)) ∧
    let s := printingSystem.run (.started after)
      [announcedAt 100 (shortHash 0 1), announcedAt 110 (shortHash 0 2)]
    ¬ s.rt.Consistent printingEnv AddressHash.hexCodec
      (s.rt.snapshotBlocking printingEnv AddressHash.hexCodec 120) := by
  have seen : ∃ after,
      VpnRuntime.start printingEnv AddressHash.hexCodec VpnRuntime.plainBoot transitConfig {} =
        .ok after ∧
      after.1.localRoutes = mergeRoutes (discoverLocalRoutes none []) [] ∧
      (let s := printingSystem.run (.started after) [announcedAt 100 (shortHash 0 1)]
      s.rt.localRoutes = after.1.localRoutes ∧
        s.rt.conflictedRoutes = s.rt.localConflicts printingEnv ∧
        ∃ peer, s.rt.peers.get (shortHash 0 1) = some peer ∧ peer.hash = shortHash 0 1 ∧
          peer.routes = [.net24 192 168 10] ∧ routesLive peer 150 = false) ∧
      let s := printingSystem.run (.started after)
        [announcedAt 100 (shortHash 0 1), announcedAt 110 (shortHash 0 2)]
      s.rt.localRoutes = after.1.localRoutes ∧
        s.rt.conflictedRoutes = s.rt.localConflicts printingEnv ∧ s.rt.router.subnets = [] ∧
        ∃ peer, s.rt.peers.get (shortHash 0 1) = some peer ∧ peer.hash = shortHash 0 1 ∧
          peer.routes = [.net24 192 168 10] :=
    ⟨_, rfl, rfl, ⟨rfl, rfl, _, rfl, rfl, rfl, rfl⟩, rfl, rfl, rfl, _, rfl, rfl, rfl⟩
  obtain ⟨after, started, lan, ⟨sameLan, record, peer, found, hash, routes, expired⟩,
    sameLan', record', none_, peer', found', hash', routes'⟩ := seen
  have lan : after.1.localRoutes = [] := by
    rw [lan]
    simp [mergeRoutes, discoverLocalRoutes]
  refine ⟨after, started, ?_, ?_⟩
  · intro s consistent
    obtain ⟨_, tracked⟩ := printingSystem_tracked started [announcedAt 100 (shortHash 0 1)]
    have shown := (VpnRuntime.consistent_iff printingEnv_injective tracked.backed.created.filed
      tracked.backed.remote 150).mp consistent peer (by rw [hash]; exact found) (.net24 192 168 10)
      (by rw [routes]; exact List.mem_singleton_self _)
      (by
        rw [record, localConflicts_of_none (sameLan.trans lan)]
        exact Finset.notMem_empty _)
    rw [expired] at shown
    cases shown.1
  · intro s consistent
    obtain ⟨_, tracked⟩ := printingSystem_tracked started
      [announcedAt 100 (shortHash 0 1), announcedAt 110 (shortHash 0 2)]
    have shown := (VpnRuntime.consistent_iff printingEnv_injective tracked.backed.created.filed
      tracked.backed.remote 120).mp consistent peer' (by rw [hash']; exact found')
      (.net24 192 168 10) (by rw [routes']; exact List.mem_singleton_self _)
      (by
        rw [record', localConflicts_of_none (sameLan'.trans lan)]
        exact Finset.notMem_empty _)
    rw [none_] at shown
    cases shown.2

end Kaonic.Vpn
