import Kaonic.Vpn.Expiry
import Kaonic.Vpn.LinkRequests

/-!
# The running system

Everything that writes to the runtime after its start, each as one step: the operations, the loops
that read the TUN and send announces, and the accesses of the link tasks. A step either ends in
`sync_routes` or is quiet: it leaves the routes of the peers and the table alone.
-/

namespace Kaonic.Vpn
open Net

def FrameReader.packetDestination (reader : FrameReader) (packet : List UInt8) : Option Ipv4Addr :=
  match reader.ipSlice packet with
  | some (_, .v4 ip) => some ip
  | some (_, .v6 _) | none => none

def tunTxRequiresBackoff : LinkState → Bool
  | .active => false
  | _ => true

/-- What a step has done with a packet: `sent` to the links of a peer, `received` into the TUN,
`failed` there, or nothing that is counted. -/
inductive Fate where
  | sent (peer : AddressHash)
  | dropped
  | received
  | failed
  | uncounted
  deriving DecidableEq

namespace VpnRuntime

/-- `spawn_tun_rx` at one packet. `sendToOutLinks` says how many links of a peer take it. -/
def tunPacket (reader : FrameReader) (now : Nat) (sendToOutLinks : AddressHash → List UInt8 → Nat)
    (packet : List UInt8) (rt : VpnRuntime) : VpnRuntime × Fate :=
  match reader.packetDestination packet with
  | none => (rt, .uncounted)
  | some dst =>
    if dst = rt.localTunnelIp then (rt, .uncounted)
    else
      match rt.router.resolve dst with
      | none => (rt.recordDrop, .dropped)
      | some hash =>
        if (rt.peers.get hash).any fun peer => tunTxRequiresBackoff peer.linkState then
          (rt.recordDrop, .dropped)
        else if sendToOutLinks hash packet = 0 then (rt.recordDrop, .dropped)
        else
          let rt := { rt with metrics := rt.metrics.recordTx packet.length now }
          (rt.updatePeer hash fun peer =>
            { peer with lastTxTs := now, metrics := peer.metrics.recordTx packet.length now },
            .sent hash)

def exportedRoutes (rt : VpnRuntime) : List Ipv4Cidr := rt.translations.map (·.exported)

def refreshLocalRoutes (ifaces : List Interface) (rt : VpnRuntime) : VpnRuntime :=
  { rt with
    localRoutes := mergeRoutes (discoverLocalRoutes rt.interfaceName ifaces) rt.advertisedRoutes }

/-- `spawn_announce_tx` at one tick. -/
def announceTick (msgpack : Msgpack) (ifaces : List Interface) (rt : VpnRuntime) : VpnRuntime :=
  let rt := rt.refreshLocalRoutes ifaces
  match encodeAnnounce msgpack rt.exportedRoutes with
  | .ok _ => rt
  | .error err => rt.setError err.display

/-- The branch that `handle_link_data` takes. -/
def linkDataFate (reader : FrameReader) (tunSend : Except String Unit)
    (senderHint : Option AddressHash) (data : List UInt8) (rt : VpnRuntime) : Fate :=
  if isCtrl data then .uncounted
  else if (rt.credited reader senderHint data).isNone && (senderHint.isSome || !rt.allowAllPeers) then
    .dropped
  else
    match tunSend with
    | .ok _ => .received
    | .error _ => .failed

/-! ### Before a sync -/

def announced (env : VpnEnv) (now : Nat) (desc : DestinationDesc) (routes : List Ipv4Cidr)
    (rt : VpnRuntime) : Option VpnRuntime :=
  let hash := desc.addressHash
  if hash = rt.destination then none
  else if !rt.peerAllowed hash then none
  else
    match deriveTunnelIp env rt.network hash with
    | .error _ => none
    | .ok tunnelIp =>
      let rt := { rt with peers := rt.peers.getOrCreate (.new hash tunnelIp .discovered) }
      some (rt.updatePeer hash fun peer =>
        { peer with
          desc := some desc
          lastSeenTs := now
          routeExpiresTs := now + routeGraceSecs
          routes
          lastError := none })

def refreshed (reader : FrameReader) (now : Nat) (senderHint : Option AddressHash)
    (data : List UInt8) (rt : VpnRuntime) : Option VpnRuntime :=
  match isCtrl data, senderHint with
  | true, some hash =>
    match decodeCtrl reader.ctrlBody data with
    | .ok (.hello routes) | .ok (.routes routes) =>
      some (rt.updatePeer hash fun peer =>
        { peer with
          lastSeenTs := now
          routeExpiresTs := now + routeGraceSecs
          routes := routes.filterMap fun s => s.toCidr.toOption })
    | .ok .ping | .error _ => none
  | _, _ => none

def policyReplaced (env : VpnEnv) (hex : Text.Codec AddressHash) (allowAllPeers : Bool)
    (peers : List String) (rt : VpnRuntime) : Option VpnRuntime :=
  match parseConfiguredPeers hex peers with
  | .error _ => none
  | .ok hashes =>
    let allowed := hashes.toFinset
    let rt := { rt with allowAllPeers, allowedPeers := allowed, lastError := none }
    let seeded := (seedPeers env rt.network rt.destination hashes rt.peers).1
    let kept := if allowAllPeers then (seeded, rt.outLinks)
      else removeUnlisted rt.destination allowed (PeerRegistry.all env.registry seeded) seeded
        rt.outLinks
    some { rt with peers := kept.1, outLinks := kept.2 }

def advertising (ifaces : List Interface) (routes : List Ipv4Cidr) (rt : VpnRuntime) : VpnRuntime :=
  { rt with
    advertisedRoutes := routes
    localRoutes := mergeRoutes (discoverLocalRoutes rt.interfaceName ifaces) routes
    lastError := none }

def expired (env : VpnEnv) (now : Nat) (rt : VpnRuntime) : Option VpnRuntime :=
  match rt.expireRoutes now (PeerRegistry.all env.registry rt.peers) with
  | (rt, true) => some rt
  | (_, false) => none

/-- The clock of the rebuild that an operation makes before its sync. -/
def Op.rebuilds : Op → Option Nat
  | .announce _ now _ _ | .linkData _ _ now _ _ | .replacePeerPolicy _ now _ _ | .watchdog _ now =>
    some now
  | .replaceAdvertisedRoutes _ _ _ => none

def Op.platform : Op → Platform
  | .announce platform _ _ _ | .linkData platform _ _ _ _ | .replacePeerPolicy platform _ _ _
  | .replaceAdvertisedRoutes platform _ _ | .watchdog platform _ => platform

/-- The runtime that an operation brings to the rebuild and the sync, if it comes to a sync. -/
def Op.resyncs (env : VpnEnv) (hex : Text.Codec AddressHash) (reader : FrameReader)
    (rt : VpnRuntime) : Op → Option VpnRuntime
  | .announce _ now desc routes => rt.announced env now desc routes
  | .linkData _ _ now senderHint data => rt.refreshed reader now senderHint data
  | .replacePeerPolicy _ _ allowAllPeers peers => rt.policyReplaced env hex allowAllPeers peers
  | .replaceAdvertisedRoutes _ ifaces routes => some (rt.advertising ifaces routes)
  | .watchdog _ now => rt.expired env now

/-- The table as the operation leaves it to the sync. -/
def Op.rebuild (env : VpnEnv) (rt : VpnRuntime) (op : Op) : VpnRuntime :=
  match op.rebuilds with
  | some now => rt.rebuildRouter env now
  | none => rt

/-- What of the runtime no step changes. -/
structure Fixed (rt rt' : VpnRuntime) : Prop where
  destination : rt'.destination = rt.destination
  network : rt'.network = rt.network
  localTunnelIp : rt'.localTunnelIp = rt.localTunnelIp
  interfaceName : rt'.interfaceName = rt.interfaceName
  aliasing : rt'.routeAliasingEnabled = rt.routeAliasingEnabled

end VpnRuntime

/-- What `build` reads of a peer. -/
def Peer.claim (p : Peer) : AddressHash × Ipv4Addr × List Ipv4Cidr × Nat :=
  (p.hash, p.tunnelIp, p.routes, p.routeExpiresTs)

namespace VpnRuntime

/-- A step without a sync. -/
structure Quiet (rt rt' : VpnRuntime) : Prop where
  fixed : rt.Fixed rt'
  router : rt'.router = rt.router
  policy : rt'.allowAllPeers = rt.allowAllPeers ∧ rt'.allowedPeers = rt.allowedPeers
  record : rt'.installedRoutes = rt.installedRoutes ∧ rt'.conflictedRoutes = rt.conflictedRoutes
  claims : ∀ hash, (rt'.peers.get hash).map Peer.claim = (rt.peers.get hash).map Peer.claim
  health : rt'.status = rt.status ∧ rt'.lastError = rt.lastError ∨
    rt'.status = .error ∧ rt'.lastError.isSome

end VpnRuntime

/-! ### Steps -/

/-- The runtime, its host, and whether the TUN task is still in its loop. -/
structure VpnSystem where
  rt : VpnRuntime
  host : Host
  reading : Bool

def VpnSystem.started (after : VpnRuntime × Host) : VpnSystem :=
  ⟨after.1, after.2, after.1.interfaceName.isSome⟩

inductive Event where
  | op (op : VpnRuntime.Op)
  | tunRead (now : Nat) (sendToOutLinks : AddressHash → List UInt8 → Nat)
      (read : Except String (List UInt8))
  | announceTick (ifaces : List Interface)
  | announceRejected (hash : AddressHash) (err : CodecError)
  -- single accesses of the link tasks
  | linkWrite (now : Nat) (hash : AddressHash) (write : LinkRequests.Write)
  | beginLinkRequest (hash : AddressHash)
  | cacheLink (hash : AddressHash) (link : Option Nat)

/-- Frames are only taken from links beside a TUN. -/
def VpnRuntime.Op.served (rt : VpnRuntime) : Op → Bool
  | .linkData .. => rt.interfaceName.isSome
  | _ => true

def VpnRuntime.Op.fate (reader : FrameReader) (rt : VpnRuntime) : Op → Fate
  | .linkData _ tunSend _ senderHint data => rt.linkDataFate reader tunSend senderHint data
  | _ => .uncounted

def VpnRuntime.cacheLink (hash : AddressHash) (link : Option Nat) (rt : VpnRuntime) : VpnRuntime :=
  match link with
  | some link => { rt with outLinks := AList.insert hash link rt.outLinks }
  | none => { rt with outLinks := AList.erase hash rt.outLinks }

def system (env : VpnEnv) (hex : Text.Codec AddressHash) (reader : FrameReader)
    (msgpack : Msgpack) : Machine VpnSystem Event Fate where
  step s
    | .op op =>
      if op.served s.rt then
        let r := ((VpnRuntime.machine env hex reader).step (s.rt, s.host) op).1
        ({ s with rt := r.1, host := r.2 }, op.fate reader s.rt)
      else (s, .uncounted)
    | .tunRead now sendToOutLinks read =>
      if s.reading then
        match read with
        | .ok packet =>
          let r := s.rt.tunPacket reader now sendToOutLinks packet
          ({ s with rt := r.1 }, r.2)
        | .error err =>
          ({ s with rt := s.rt.setError ("vpn tun recv: " ++ err), reading := false }, .uncounted)
      else (s, .uncounted)
    | .announceTick ifaces => ({ s with rt := s.rt.announceTick msgpack ifaces }, .uncounted)
    | .announceRejected hash err => ({ s with rt := s.rt.recordPeerError hash err.display }, .uncounted)
    | .linkWrite now hash write => ({ s with rt := s.rt.updatePeer hash (write.apply now) }, .uncounted)
    | .beginLinkRequest hash =>
      ({ s with rt := s.rt.updatePeer hash fun peer => { peer with linkRequestInFlight := true } },
        .uncounted)
    | .cacheLink hash link => ({ s with rt := s.rt.cacheLink hash link }, .uncounted)

/-- The operation of a step that comes to a sync, with the runtime that it brings there. -/
def Event.resync (env : VpnEnv) (hex : Text.Codec AddressHash) (reader : FrameReader)
    (s : VpnSystem) : Event → Option (VpnRuntime.Op × VpnRuntime)
  | .op o => if o.served s.rt then (o.resyncs env hex reader s.rt).map fun mid => (o, mid) else none
  | _ => none

namespace VpnRuntime

section

variable {env : VpnEnv} {hex : Text.Codec AddressHash} {reader : FrameReader} {rt mid : VpnRuntime}
  {host : Host} {op : Op}

theorem Fixed.refl (rt : VpnRuntime) : rt.Fixed rt := ⟨rfl, rfl, rfl, rfl, rfl⟩

theorem Fixed.trans {rt' rt'' : VpnRuntime} (first : rt.Fixed rt') (then_ : rt'.Fixed rt'') :
    rt.Fixed rt'' :=
  ⟨then_.destination.trans first.destination, then_.network.trans first.network,
    then_.localTunnelIp.trans first.localTunnelIp, then_.interfaceName.trans first.interfaceName,
    then_.aliasing.trans first.aliasing⟩

theorem fixed_updatePeer (hash : AddressHash) (f : Peer → Peer) : rt.Fixed (rt.updatePeer hash f) := by
  rw [updatePeer_eq]
  exact ⟨rfl, rfl, rfl, rfl, rfl⟩

theorem Quiet.refl (rt : VpnRuntime) : rt.Quiet rt :=
  ⟨.refl rt, rfl, ⟨rfl, rfl⟩, ⟨rfl, rfl⟩, fun _ => rfl, Or.inl ⟨rfl, rfl⟩⟩

/-- What a change to one peer keeps of that peer it keeps of every peer. -/
theorem map_get_updatePeer {β : Type} {g : Peer → β} {f : Peer → Peer}
    (same : ∀ peer, g (f peer) = g peer) (hash other : AddressHash) :
    ((rt.updatePeer hash f).peers.get other).map g = (rt.peers.get other).map g := by
  rw [get_updatePeer]
  split
  · rename_i here
    rw [here, Option.map_map]
    exact congrArg (fun g => (rt.peers.get hash).map g) (funext same)
  · rfl

theorem Quiet.updatePeer {rt' : VpnRuntime} (quiet : rt.Quiet rt') (hash : AddressHash)
    {f : Peer → Peer} (same : ∀ peer, (f peer).claim = peer.claim) :
    rt.Quiet (rt'.updatePeer hash f) := by
  refine ⟨quiet.fixed.trans (fixed_updatePeer hash f), ?_, ?_, ?_, ?_, ?_⟩
  · exact (updatePeer_router f).trans quiet.router
  · rw [updatePeer_eq]
    exact quiet.policy
  · rw [updatePeer_eq]
    exact quiet.record
  · exact fun other => (map_get_updatePeer same hash other).trans (quiet.claims other)
  · rw [updatePeer_eq]
    exact quiet.health

theorem Quiet.counted {rt' : VpnRuntime} (quiet : rt.Quiet rt') (metrics : Metrics) :
    rt.Quiet { rt' with metrics } :=
  ⟨⟨quiet.fixed.destination, quiet.fixed.network, quiet.fixed.localTunnelIp,
    quiet.fixed.interfaceName, quiet.fixed.aliasing⟩, quiet.router, quiet.policy, quiet.record,
    quiet.claims, quiet.health⟩

theorem Quiet.failed {rt' : VpnRuntime} (quiet : rt.Quiet rt') (msg : String) :
    rt.Quiet (rt'.setError msg) :=
  ⟨⟨quiet.fixed.destination, quiet.fixed.network, quiet.fixed.localTunnelIp,
    quiet.fixed.interfaceName, quiet.fixed.aliasing⟩, quiet.router, quiet.policy, quiet.record,
    quiet.claims, Or.inr ⟨rfl, rfl⟩⟩

theorem handleLinkData_quiet (platform : Platform) (tunSend : Except String Unit) (now : Nat)
    (senderHint : Option AddressHash) (data : List UInt8)
    (silent : rt.refreshed reader now senderHint data = none) :
    rt.Quiet (rt.handleLinkData env reader platform tunSend now senderHint data host).1 := by
  unfold handleLinkData
  split
  · rename_i control
    cases senderHint with
    | none => exact .refl rt
    | some hash =>
      unfold refreshed at silent
      rw [control] at silent
      dsimp only at silent ⊢
      unfold handleCtrl
      cases decoded : decodeCtrl reader.ctrlBody data with
      | error err => exact (Quiet.refl rt).updatePeer hash fun _ => rfl
      | ok ctrl =>
        rw [decoded] at silent
        cases ctrl with
        | hello routes => cases silent
        | routes routes => cases silent
        | ping => exact (Quiet.refl rt).updatePeer hash fun _ => rfl
  · dsimp only
    split
    · exact (Quiet.refl rt).counted _
    · cases tunSend with
      | error err => exact (Quiet.refl rt).failed _
      | ok _ =>
        cases rt.credited reader senderHint data with
        | none => exact (Quiet.refl rt).counted _
        | some hash => exact ((Quiet.refl rt).counted _).updatePeer hash fun _ => rfl

theorem tunPacket_quiet (now : Nat) (sendToOutLinks : AddressHash → List UInt8 → Nat)
    (packet : List UInt8) : rt.Quiet (rt.tunPacket reader now sendToOutLinks packet).1 := by
  have dropped : rt.Quiet rt.recordDrop := (Quiet.refl rt).counted _
  unfold tunPacket
  split
  · exact .refl rt
  split
  · exact .refl rt
  split
  · exact dropped
  split
  · exact dropped
  split
  · exact dropped
  · exact ((Quiet.refl rt).counted _).updatePeer _ fun _ => rfl

theorem announceTick_quiet (msgpack : Msgpack) (ifaces : List Interface) :
    rt.Quiet (rt.announceTick msgpack ifaces) := by
  have refreshed : rt.Quiet (rt.refreshLocalRoutes ifaces) :=
    ⟨⟨rfl, rfl, rfl, rfl, rfl⟩, rfl, ⟨rfl, rfl⟩, ⟨rfl, rfl⟩, fun _ => rfl, Or.inl ⟨rfl, rfl⟩⟩
  unfold announceTick
  dsimp only
  split
  · exact refreshed
  · exact refreshed.failed _

theorem cacheLink_quiet (hash : AddressHash) (link : Option Nat) :
    rt.Quiet (rt.cacheLink hash link) := by
  cases link <;>
    exact ⟨⟨rfl, rfl, rfl, rfl, rfl⟩, rfl, ⟨rfl, rfl⟩, ⟨rfl, rfl⟩, fun _ => rfl, Or.inl ⟨rfl, rfl⟩⟩

/-! ### Operations by their syncs -/

theorem handlePeerAnnounce_eq (platform : Platform) (now : Nat) (desc : DestinationDesc)
    (routes : List Ipv4Cidr) :
    rt.handlePeerAnnounce env platform now desc routes host =
      match rt.announced env now desc routes with
      | none => ((rt, host), false)
      | some mid => ((mid.rebuildRouter env now).syncRoutes env platform host, true) := by
  unfold handlePeerAnnounce announced
  dsimp only
  by_cases own : desc.addressHash = rt.destination
  · rw [if_pos own, if_pos own]
  rw [if_neg own, if_neg own]
  cases rt.peerAllowed desc.addressHash with
  | false => rfl
  | true => cases deriveTunnelIp env rt.network desc.addressHash <;> rfl

/-- A control frame that sets routes. -/
theorem handleLinkData_refreshed {platform : Platform} {tunSend : Except String Unit} {now : Nat}
    {senderHint : Option AddressHash} {data : List UInt8}
    (comes : rt.refreshed reader now senderHint data = some mid) :
    rt.handleLinkData env reader platform tunSend now senderHint data host =
      (mid.rebuildRouter env now).syncRoutes env platform host := by
  unfold refreshed at comes
  cases control : isCtrl data with
  | false =>
    rw [control] at comes
    cases comes
  | true =>
    cases senderHint with
    | none =>
      rw [control] at comes
      cases comes
    | some hash =>
      rw [control] at comes
      unfold handleLinkData handleCtrl
      rw [if_pos control]
      dsimp only at comes ⊢
      cases decoded : decodeCtrl reader.ctrlBody data with
      | error err =>
        rw [decoded] at comes
        cases comes
      | ok ctrl =>
        rw [decoded] at comes
        cases ctrl with
        | hello routes => rw [← Option.some.inj comes]
        | routes routes => rw [← Option.some.inj comes]
        | ping => cases comes

theorem replacePeerPolicy_resynced (short : rt.network.networkLength ≤ 30) {platform : Platform}
    {now : Nat} {allowAllPeers : Bool} {peers : List String}
    (comes : rt.policyReplaced env hex allowAllPeers peers = some mid) :
    (rt.replacePeerPolicy env hex platform now allowAllPeers peers host).1 =
      (mid.rebuildRouter env now).syncRoutes env platform host := by
  unfold policyReplaced at comes
  unfold replacePeerPolicy
  cases valid : parseConfiguredPeers hex peers with
  | error err =>
    rw [valid] at comes
    cases comes
  | ok hashes =>
    have seeded := @seedPeers_ok env rt.network short rt.destination hashes rt.peers
    rw [valid] at comes
    rw [← Option.some.inj comes]
    dsimp only
    cases outcome : seedPeers env rt.network rt.destination hashes rt.peers with
    | mk seededPeers result =>
      rw [outcome] at seeded
      cases result with
      | error err => cases seeded
      | ok _ => rfl

theorem watchdogTick_eq (platform : Platform) (now : Nat) :
    rt.watchdogTick env platform now host =
      match rt.expired env now with
      | none => (rt, host)
      | some mid => (mid.rebuildRouter env now).syncRoutes env platform host := by
  unfold watchdogTick expired
  cases outcome : rt.expireRoutes now (PeerRegistry.all env.registry rt.peers) with
  | mk after changed =>
    cases changed with
    | true => rfl
    | false =>
      have quiet := expireSteps_changed (congrArg Prod.snd outcome)
      have same : after = rt :=
        (congrArg Prod.fst outcome).symm.trans (congrArg Prod.fst (expireSteps_quiet quiet.2 false))
      rw [same]

/-- An operation that comes to no sync is quiet. -/
theorem op_quiet (silent : op.resyncs env hex reader rt = none) :
    rt.Quiet ((machine env hex reader).step (rt, host) op).1.1 := by
  cases op with
  | announce platform now desc routes =>
    have silent : rt.announced env now desc routes = none := silent
    show rt.Quiet (rt.handlePeerAnnounce env platform now desc routes host).1.1
    rw [handlePeerAnnounce_eq, silent]
    exact .refl rt
  | linkData platform tunSend now senderHint data =>
    exact handleLinkData_quiet platform tunSend now senderHint data silent
  | replacePeerPolicy platform now allowAllPeers peers =>
    have silent : rt.policyReplaced env hex allowAllPeers peers = none := silent
    unfold policyReplaced at silent
    split at silent
    · rename_i err invalid
      show rt.Quiet (rt.replacePeerPolicy env hex platform now allowAllPeers peers host).1.1
      rw [replacePeerPolicy_invalid invalid]
      exact .refl rt
    · cases silent
  | replaceAdvertisedRoutes platform ifaces routes => cases silent
  | watchdog platform now =>
    have silent : rt.expired env now = none := silent
    show rt.Quiet (rt.watchdogTick env platform now host).1
    rw [watchdogTick_eq, silent]
    exact .refl rt

/-- An operation that comes to a sync ends with it, after the rebuild if it makes one. -/
theorem op_resynced (short : rt.network.networkLength ≤ 30)
    (comes : op.resyncs env hex reader rt = some mid) :
    ((machine env hex reader).step (rt, host) op).1 =
      (op.rebuild env mid).syncRoutes env op.platform host := by
  cases op with
  | announce platform now desc routes =>
    have comes : rt.announced env now desc routes = some mid := comes
    show (rt.handlePeerAnnounce env platform now desc routes host).1 = _
    rw [handlePeerAnnounce_eq, comes]
    rfl
  | linkData platform tunSend now senderHint data => exact handleLinkData_refreshed comes
  | replacePeerPolicy platform now allowAllPeers peers =>
    exact replacePeerPolicy_resynced short comes
  | replaceAdvertisedRoutes platform ifaces routes =>
    obtain rfl := Option.some.inj comes
    rfl
  | watchdog platform now =>
    have comes : rt.expired env now = some mid := comes
    show rt.watchdogTick env platform now host = _
    rw [watchdogTick_eq, comes]
    rfl

/-! ### What no step changes -/

theorem expireSteps_fixed (now : Nat) (peers : List Peer) (changed : Bool) :
    rt.Fixed (peers.foldl (expireStep now) (rt, changed)).1 ∧
      (peers.foldl (expireStep now) (rt, changed)).1.status = rt.status ∧
      (peers.foldl (expireStep now) (rt, changed)).1.router = rt.router := by
  induction peers generalizing rt changed with
  | nil => exact ⟨.refl rt, rfl, rfl⟩
  | cons peer rest ih =>
    rw [List.foldl_cons]
    by_cases lapsed : Lapsed rt now peer
    · rw [expireStep_lapsed lapsed]
      obtain ⟨fixed, status, router⟩ :=
        @ih (rt.updatePeer peer.hash fun peer => { peer with routes := [] }) true
      refine ⟨(fixed_updatePeer _ _).trans fixed, status.trans ?_, router.trans ?_⟩
      · rw [updatePeer_eq]
      · exact updatePeer_router _
    · rw [expireStep_kept lapsed]
      exact ih changed

/-- On the way to its sync an operation leaves the table, the status and what is fixed alone. -/
theorem resyncs_fixed (comes : op.resyncs env hex reader rt = some mid) :
    rt.Fixed mid ∧ mid.status = rt.status ∧ mid.router = rt.router := by
  have updated : ∀ (rt : VpnRuntime) hash f, rt.Fixed (rt.updatePeer hash f) ∧
      (rt.updatePeer hash f).status = rt.status ∧ (rt.updatePeer hash f).router = rt.router :=
    fun rt hash f => ⟨fixed_updatePeer hash f, by rw [updatePeer_eq], updatePeer_router f⟩
  cases op with
  | announce platform now desc routes =>
    have comes : rt.announced env now desc routes = some mid := comes
    unfold announced at comes
    dsimp only at comes
    split at comes
    · cases comes
    split at comes
    · cases comes
    split at comes
    · cases comes
    rename_i ip _
    obtain rfl := Option.some.inj comes
    have created : rt.Fixed { rt with
        peers := rt.peers.getOrCreate (.new desc.addressHash ip .discovered) } :=
      ⟨rfl, rfl, rfl, rfl, rfl⟩
    obtain ⟨fixed, status, router⟩ := updated { rt with
      peers := rt.peers.getOrCreate (.new desc.addressHash ip .discovered) } desc.addressHash _
    exact ⟨created.trans fixed, status, router⟩
  | linkData platform tunSend now senderHint data =>
    have comes : rt.refreshed reader now senderHint data = some mid := comes
    unfold refreshed at comes
    split at comes
    · split at comes
      · obtain rfl := Option.some.inj comes
        exact updated rt _ _
      · obtain rfl := Option.some.inj comes
        exact updated rt _ _
      · cases comes
      · cases comes
    · cases comes
  | replacePeerPolicy platform now allowAllPeers peers =>
    have comes : rt.policyReplaced env hex allowAllPeers peers = some mid := comes
    unfold policyReplaced at comes
    split at comes
    · cases comes
    · obtain rfl := Option.some.inj comes
      exact ⟨⟨rfl, rfl, rfl, rfl, rfl⟩, rfl, rfl⟩
  | replaceAdvertisedRoutes platform ifaces routes =>
    obtain rfl := Option.some.inj comes
    exact ⟨⟨rfl, rfl, rfl, rfl, rfl⟩, rfl, rfl⟩
  | watchdog platform now =>
    have comes : rt.expired env now = some mid := comes
    unfold expired at comes
    split at comes
    · rename_i after outcome
      obtain rfl := Option.some.inj comes
      have kept := @expireSteps_fixed rt now (PeerRegistry.all env.registry rt.peers) false
      rwa [← expireRoutes, outcome] at kept
    · cases comes

theorem fixed_syncRoutes (platform : Platform) :
    rt.Fixed (rt.syncRoutes env platform host).1 := by
  obtain ⟨_, _, _, _, same⟩ := syncRoutes_frame env platform rt host
  rw [same]
  exact ⟨rfl, rfl, rfl, rfl, rfl⟩

theorem fixed_rebuild : rt.Fixed (op.rebuild env rt) := by
  unfold Op.rebuild
  split
  · exact ⟨rfl, rfl, rfl, rfl, rfl⟩
  · exact .refl rt

end

end VpnRuntime

section

variable {env : VpnEnv} {hex : Text.Codec AddressHash} {reader : FrameReader} {msgpack : Msgpack}

theorem step_served {s : VpnSystem} {op : VpnRuntime.Op} (served : op.served s.rt = true) :
    (system env hex reader msgpack).step s (.op op) =
      (⟨((VpnRuntime.machine env hex reader).step (s.rt, s.host) op).1.1,
        ((VpnRuntime.machine env hex reader).step (s.rt, s.host) op).1.2, s.reading⟩,
        op.fate reader s.rt) := if_pos served

theorem step_unserved {s : VpnSystem} {op : VpnRuntime.Op} (unserved : op.served s.rt = false) :
    (system env hex reader msgpack).step s (.op op) = (s, .uncounted) :=
  if_neg (by simp [unserved])

theorem step_tunPacket {s : VpnSystem} (reading : s.reading = true) (now : Nat)
    (sendToOutLinks : AddressHash → List UInt8 → Nat) (packet : List UInt8) :
    (system env hex reader msgpack).step s (.tunRead now sendToOutLinks (.ok packet)) =
      (⟨(s.rt.tunPacket reader now sendToOutLinks packet).1, s.host, s.reading⟩,
        (s.rt.tunPacket reader now sendToOutLinks packet).2) := if_pos reading

theorem step_tunFailed {s : VpnSystem} (reading : s.reading = true) (now : Nat)
    (sendToOutLinks : AddressHash → List UInt8 → Nat) (err : String) :
    (system env hex reader msgpack).step s (.tunRead now sendToOutLinks (.error err)) =
      (⟨s.rt.setError ("vpn tun recv: " ++ err), s.host, false⟩, .uncounted) := if_pos reading

theorem step_tunStopped {s : VpnSystem} (stopped : s.reading = false) (now : Nat)
    (sendToOutLinks : AddressHash → List UInt8 → Nat) (read : Except String (List UInt8)) :
    (system env hex reader msgpack).step s (.tunRead now sendToOutLinks read) = (s, .uncounted) :=
  if_neg (by simp [stopped])

theorem resync_served {s : VpnSystem} {op : VpnRuntime.Op} (served : op.served s.rt = true) :
    (Event.op op).resync env hex reader s =
      (op.resyncs env hex reader s.rt).map fun mid => (op, mid) := if_pos served

theorem resync_unserved {s : VpnSystem} {op : VpnRuntime.Op} (unserved : op.served s.rt = false) :
    (Event.op op).resync env hex reader s = none := if_neg (by simp [unserved])

theorem resync_eq_some {s : VpnSystem} {e : Event} {op : VpnRuntime.Op} {mid : VpnRuntime} :
    e.resync env hex reader s = some (op, mid) ↔
      e = .op op ∧ op.served s.rt = true ∧ op.resyncs env hex reader s.rt = some mid := by
  cases e with
  | op o =>
    constructor
    · intro comes
      cases served : o.served s.rt with
      | true =>
        rw [resync_served served] at comes
        obtain ⟨_, found, same⟩ := Option.map_eq_some_iff.mp comes
        obtain ⟨rfl, rfl⟩ := Prod.mk.inj same
        exact ⟨rfl, served, found⟩
      | false =>
        rw [resync_unserved served] at comes
        cases comes
    · rintro ⟨same, served, comes⟩
      obtain rfl := Event.op.inj same
      rw [resync_served served, comes]
      rfl
  | _ => exact iff_of_false (fun comes => by cases comes) fun comes => by cases comes.1

/-- A step that comes to no sync is quiet. -/
theorem step_quiet {s : VpnSystem} {e : Event} (silent : e.resync env hex reader s = none) :
    s.rt.Quiet ((system env hex reader msgpack).step s e).1.rt := by
  cases e with
  | op op =>
    cases served : op.served s.rt with
    | true =>
      rw [step_served served]
      apply VpnRuntime.op_quiet
      rw [resync_served served] at silent
      exact Option.map_eq_none_iff.mp silent
    | false =>
      rw [step_unserved served]
      exact .refl s.rt
  | tunRead now sendToOutLinks read =>
    cases reading : s.reading with
    | false =>
      rw [step_tunStopped reading]
      exact .refl s.rt
    | true =>
      cases read with
      | ok packet =>
        rw [step_tunPacket reading]
        exact VpnRuntime.tunPacket_quiet now sendToOutLinks packet
      | error err =>
        rw [step_tunFailed reading]
        exact (VpnRuntime.Quiet.refl s.rt).failed _
  | announceTick ifaces => exact VpnRuntime.announceTick_quiet msgpack ifaces
  | announceRejected hash err => exact (VpnRuntime.Quiet.refl s.rt).updatePeer hash fun _ => rfl
  | linkWrite now hash write =>
    exact (VpnRuntime.Quiet.refl s.rt).updatePeer hash fun _ => by cases write <;> rfl
  | beginLinkRequest hash => exact (VpnRuntime.Quiet.refl s.rt).updatePeer hash fun _ => rfl
  | cacheLink hash link => exact VpnRuntime.cacheLink_quiet hash link

/-- A step that comes to a sync ends with it. -/
theorem step_resynced {s : VpnSystem} {e : Event} (short : s.rt.network.networkLength ≤ 30)
    {op : VpnRuntime.Op} {mid : VpnRuntime} (comes : e.resync env hex reader s = some (op, mid)) :
    ((system env hex reader msgpack).step s e).1.rt =
      ((op.rebuild env mid).syncRoutes env op.platform s.host).1 := by
  obtain ⟨rfl, served, comes⟩ := resync_eq_some.mp comes
  rw [step_served served]
  exact congrArg Prod.fst (VpnRuntime.op_resynced short comes)

theorem step_fixed (s : VpnSystem) (short : s.rt.network.networkLength ≤ 30) (e : Event) :
    s.rt.Fixed ((system env hex reader msgpack).step s e).1.rt := by
  cases comes : e.resync env hex reader s with
  | none => exact (step_quiet comes).fixed
  | some r =>
    rw [step_resynced short comes]
    have resyncs := (resync_eq_some.mp comes).2.2
    exact ((VpnRuntime.resyncs_fixed resyncs).1.trans VpnRuntime.fixed_rebuild).trans
      (VpnRuntime.fixed_syncRoutes _)

theorem step_short (s : VpnSystem) (short : s.rt.network.networkLength ≤ 30) (e : Event) :
    ((system env hex reader msgpack).step s e).1.rt.network.networkLength ≤ 30 := by
  rw [(step_fixed s short e).network]
  exact short

/-- A run leaves alone what every step leaves alone. -/
theorem run_fixed (s : VpnSystem) (short : s.rt.network.networkLength ≤ 30) (events : List Event) :
    s.rt.Fixed ((system env hex reader msgpack).run s events).rt := by
  induction events generalizing s with
  | nil => exact .refl s.rt
  | cons e rest ih =>
    have first := @step_fixed env hex reader msgpack s short e
    exact first.trans (ih _ (step_short s short e))

theorem run_short (s : VpnSystem) (short : s.rt.network.networkLength ≤ 30) (events : List Event) :
    ((system env hex reader msgpack).run s events).rt.network.networkLength ≤ 30 := by
  rw [(run_fixed s short events).network]
  exact short

end

/-! ### What is in force -/

/-- The operations that change what is in force. -/
def Event.configures : Event → Bool
  | .op (.replacePeerPolicy ..) | .op (.replaceAdvertisedRoutes ..) => true
  | _ => false

namespace VpnRuntime

section

variable {env : VpnEnv} {hex : Text.Codec AddressHash} {reader : FrameReader} {rt : VpnRuntime}
  {host : Host}

theorem enforced_updatePeer (hash : AddressHash) (f : Peer → Peer) :
    (rt.updatePeer hash f).enforced = rt.enforced := by
  rw [updatePeer_eq]
  rfl

theorem enforced_expireRoutes (now : Nat) (peers : List Peer) :
    (rt.expireRoutes now peers).1.enforced = rt.enforced := by
  have folded : ∀ (peers : List Peer) (s : VpnRuntime × Bool),
      (peers.foldl (expireStep now) s).1.enforced = s.1.enforced := by
    intro peers
    induction peers with
    | nil => intro s; rfl
    | cons peer rest ih =>
      intro s
      rw [List.foldl_cons, ih, expireStep]
      split
      · rfl
      · split
        · exact enforced_updatePeer _ _
        · rfl
  exact folded peers (rt, false)

/-- An announce, a frame or a tick of the watchdog leaves policy and advertised routes alone. -/
theorem enforced_op {op : Op} (tunnel : (Event.op op).configures = false) :
    ((machine env hex reader).step (rt, host) op).1.1.enforced = rt.enforced := by
  cases op with
  | announce platform now desc routes =>
    show (rt.handlePeerAnnounce env platform now desc routes host).1.1.enforced = _
    unfold handlePeerAnnounce
    dsimp only
    split
    · rfl
    · split
      · rfl
      · split
        · rfl
        · exact enforced_syncRoutes.trans (enforced_updatePeer _ _)
  | linkData platform tunSend now senderHint data =>
    show (rt.handleLinkData env reader platform tunSend now senderHint data host).1.enforced = _
    unfold handleLinkData
    split
    · split
      · rfl
      · unfold handleCtrl
        split
        · exact enforced_syncRoutes.trans (enforced_updatePeer _ _)
        · exact enforced_syncRoutes.trans (enforced_updatePeer _ _)
        · exact enforced_updatePeer _ _
        · exact enforced_updatePeer _ _
    · dsimp only
      split
      · rfl
      · split
        · split
          · exact enforced_updatePeer _ _
          · rfl
        · rfl
  | replacePeerPolicy => cases tunnel
  | replaceAdvertisedRoutes => cases tunnel
  | watchdog platform now =>
    show (rt.watchdogTick env platform now host).1.enforced = _
    have expired := @enforced_expireRoutes rt now (PeerRegistry.all env.registry rt.peers)
    unfold watchdogTick
    split <;> rename_i outcome <;> rw [outcome] at expired
    · exact enforced_syncRoutes.trans expired
    · exact expired

end

end VpnRuntime

/-- None of the VPN's own tasks does. -/
theorem enforced_step {env : VpnEnv} {hex : Text.Codec AddressHash} {reader : FrameReader}
    {msgpack : Msgpack} {s : VpnSystem} {event : Event} (tunnel : event.configures = false) :
    ((system env hex reader msgpack).step s event).1.rt.enforced = s.rt.enforced := by
  cases event with
  | op op =>
    dsimp only [system]
    split
    · exact VpnRuntime.enforced_op tunnel
    · rfl
  | tunRead now sendToOutLinks read =>
    dsimp only [system]
    split
    · cases read with
      | error err => rfl
      | ok packet =>
        dsimp only [VpnRuntime.tunPacket]
        split
        · rfl
        · split
          · rfl
          · split
            · rfl
            · split
              · rfl
              · split
                · rfl
                · exact VpnRuntime.enforced_updatePeer _ _
    · rfl
  | announceTick ifaces =>
    dsimp only [system, VpnRuntime.announceTick]
    split <;> rfl
  | announceRejected hash err => exact VpnRuntime.enforced_updatePeer _ _
  | linkWrite now hash write => exact VpnRuntime.enforced_updatePeer _ _
  | beginLinkRequest hash => exact VpnRuntime.enforced_updatePeer _ _
  | cacheLink hash link => cases link <;> rfl

end Kaonic.Vpn
