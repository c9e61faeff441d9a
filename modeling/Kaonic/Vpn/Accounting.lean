import Kaonic.Vpn.System

/-!
# Packet accounting

Every packet that the TUN or a link brings in has one fate, and the counters are what the fates of
all packets add up to.
-/

namespace Kaonic.Vpn
open Net

namespace VpnRuntime

/-- A packet that parses as IPv4 and is for another address than the node's own. -/
def Transit (reader : FrameReader) (rt : VpnRuntime) (packet : List UInt8) : Prop :=
  ∃ dst, reader.packetDestination packet = some dst ∧ dst ≠ rt.localTunnelIp

instance (reader : FrameReader) (rt : VpnRuntime) (packet : List UInt8) :
    Decidable (rt.Transit reader packet) :=
  decidable_of_iff ((reader.packetDestination packet).any fun dst => dst ≠ rt.localTunnelIp) (by
    simp [Transit, Option.any_eq_true])

/-- No packet counter has changed, the runtime's or a peer's. -/
structure Uncounted (rt rt' : VpnRuntime) : Prop where
  metrics : rt'.metrics = rt.metrics
  peers : ∀ hash, (rt'.peers.get hash).map Peer.metrics = (rt.peers.get hash).map Peer.metrics

structure Dropped (rt rt' : VpnRuntime) : Prop where
  metrics : rt'.metrics = rt.metrics.recordDrop
  peers : rt'.peers = rt.peers

/-- The packet has gone to the links of the peer that its destination resolves to. If the peer is
registered it was active, and it alone has been credited. -/
structure SentTo (reader : FrameReader) (now : Nat) (packet : List UInt8) (hash : AddressHash)
    (rt rt' : VpnRuntime) : Prop where
  resolved : (reader.packetDestination packet).bind rt.router.resolve = some hash
  metrics : rt'.metrics = rt.metrics.recordTx packet.length now
  active : ∀ peer, rt.peers.get hash = some peer → peer.linkState = .active
  peers : ∀ other, rt'.peers.get other = (rt.peers.get other).map fun peer =>
    if other = hash then
      { peer with lastTxTs := now, metrics := peer.metrics.recordTx packet.length now }
    else peer

/-- The frame has gone to the TUN, to the credit of one peer at most. -/
structure ReceivedFrom (now : Nat) (data : List UInt8) (credited : Option AddressHash)
    (rt rt' : VpnRuntime) : Prop where
  metrics : rt'.metrics = rt.metrics.recordRx data.length now
  peers : ∀ other, rt'.peers.get other = (rt.peers.get other).map fun peer =>
    if credited = some other then
      { peer with metrics := peer.metrics.recordRx data.length now, lastSeenTs := now }
    else peer

/-- The TUN did not take the frame, which shows as the error of the runtime. -/
structure TunFailed (rt rt' : VpnRuntime) : Prop where
  uncounted : rt.Uncounted rt'
  status : rt'.status = .error
  lastError : ∃ err, rt'.lastError = some ("vpn tun send: " ++ err)

end VpnRuntime

/-- What a step has to do with the counters. A packet from the TUN that is in transit is sent or
dropped, a frame that is no control frame is received, dropped or has failed, and nothing else
counts. -/
def Accounted (reader : FrameReader) (s : VpnSystem) (fate : Fate) (rt' : VpnRuntime) : Event → Prop
  | .tunRead now _ (.ok packet) =>
    if s.reading = true ∧ s.rt.Transit reader packet then
      (∃ hash, fate = .sent hash ∧ s.rt.SentTo reader now packet hash rt') ∨
        (fate = .dropped ∧ s.rt.Dropped rt')
    else fate = .uncounted ∧ s.rt.Uncounted rt'
  | .op (.linkData _ _ now senderHint data) =>
    if s.rt.interfaceName.isSome = true ∧ isCtrl data = false then
      (fate = .received ∧
        s.rt.ReceivedFrom now data (s.rt.credited reader senderHint data) rt') ∨
        (fate = .dropped ∧ s.rt.Dropped rt') ∨ (fate = .failed ∧ s.rt.TunFailed rt')
    else fate = .uncounted ∧ s.rt.Uncounted rt'
  | _ => fate = .uncounted ∧ rt'.metrics = s.rt.metrics

def Fate.isSent : Fate → Bool
  | .sent _ => true
  | _ => false

def Event.bytes : Event → Nat
  | .tunRead _ _ (.ok packet) => packet.length
  | .op (.linkData _ _ _ _ data) => data.length
  | _ => 0

def bytesOf (fate : Fate → Bool) (trace : List (Event × Fate)) : Nat :=
  ((trace.filter fun e => fate e.2).map fun e => e.1.bytes).sum

/-- The counters have grown by what the fates add up to, modulo 2^64. -/
structure Totals (m m' : Metrics) (trace : List (Event × Fate)) : Prop where
  txPackets : m'.txPackets = m.txPackets + .ofNat (trace.countP fun e => e.2.isSent)
  txBytes : m'.txBytes = m.txBytes + .ofNat (bytesOf Fate.isSent trace)
  rxPackets : m'.rxPackets = m.rxPackets + .ofNat (trace.countP fun e => e.2 = .received)
  rxBytes : m'.rxBytes = m.rxBytes + .ofNat (bytesOf (fun fate => fate = .received) trace)
  dropPackets : m'.dropPackets = m.dropPackets + .ofNat (trace.countP fun e => e.2 = .dropped)

/-! ### One step -/

namespace VpnRuntime

section

variable {env : VpnEnv} {hex : Text.Codec AddressHash} {reader : FrameReader} {rt : VpnRuntime}
  {host : Host} {platform : Platform} {now : Nat} {packet data : List UInt8}

theorem Uncounted.refl (rt : VpnRuntime) : rt.Uncounted rt := ⟨rfl, fun _ => rfl⟩

theorem uncounted_updatePeer {f : Peer → Peer} (same : ∀ peer, (f peer).metrics = peer.metrics)
    (hash : AddressHash) : rt.Uncounted (rt.updatePeer hash f) := by
  refine ⟨?_, fun other => map_get_updatePeer same hash other⟩
  rw [updatePeer_eq]

theorem metrics_updatePeer (hash : AddressHash) (f : Peer → Peer) :
    (rt.updatePeer hash f).metrics = rt.metrics := by rw [updatePeer_eq]

theorem metrics_syncRoutes : (rt.syncRoutes env platform host).1.metrics = rt.metrics := by
  obtain ⟨_, _, _, _, same⟩ := syncRoutes_frame env platform rt host
  rw [same]

theorem get_updatePeer_if (hash : AddressHash) (f : Peer → Peer) (other : AddressHash) :
    (rt.updatePeer hash f).peers.get other =
      (rt.peers.get other).map fun peer => if other = hash then f peer else peer := by
  rw [get_updatePeer]
  split
  · rename_i same
    rw [same]
  · rw [Option.map_id']

theorem tunPacket_transit (sendToOutLinks : AddressHash → List UInt8 → Nat)
    (transit : rt.Transit reader packet) :
    let r := rt.tunPacket reader now sendToOutLinks packet
    (∃ hash, r.2 = .sent hash ∧ rt.SentTo reader now packet hash r.1) ∨
      (r.2 = .dropped ∧ rt.Dropped r.1) := by
  obtain ⟨dst, read, foreign⟩ := transit
  have dropped : rt.Dropped rt.recordDrop := ⟨rfl, rfl⟩
  unfold tunPacket
  rw [read]
  dsimp only
  rw [if_neg foreign]
  cases resolved : rt.router.resolve dst with
  | none => exact Or.inr ⟨rfl, dropped⟩
  | some hash =>
    dsimp only
    split
    · exact Or.inr ⟨rfl, dropped⟩
    rename_i ready
    split
    · exact Or.inr ⟨rfl, dropped⟩
    refine Or.inl ⟨hash, rfl, ?_, metrics_updatePeer _ _, ?_, get_updatePeer_if _ _⟩
    · rw [read, Option.bind_some, resolved]
    · intro peer found
      rw [found, Option.any_some] at ready
      cases state : peer.linkState with
      | active => rfl
      | _ => simp [state, tunTxRequiresBackoff] at ready

theorem tunPacket_other (sendToOutLinks : AddressHash → List UInt8 → Nat)
    (other : ¬ rt.Transit reader packet) :
    rt.tunPacket reader now sendToOutLinks packet = (rt, .uncounted) := by
  unfold tunPacket
  split
  · rfl
  · rename_i dst read
    rw [if_pos (not_not.mp fun foreign => other ⟨dst, read, foreign⟩)]

theorem handleCtrl_uncounted (hash : AddressHash) :
    rt.Uncounted (rt.handleCtrl env reader platform now hash data host).1 := by
  have synced : ∀ {f : Peer → Peer}, (∀ peer, (f peer).metrics = peer.metrics) →
      rt.Uncounted (((rt.updatePeer hash f).rebuildRouter env now).syncRoutes env platform host).1 := by
    intro f same
    refine ⟨metrics_syncRoutes.trans (metrics_updatePeer hash f), ?_⟩
    rw [rebuilt_peers]
    exact fun other => map_get_updatePeer same hash other
  unfold handleCtrl
  split
  · exact synced fun _ => rfl
  · exact synced fun _ => rfl
  · refine uncounted_updatePeer ?_ hash
    exact fun _ => rfl
  · refine uncounted_updatePeer ?_ hash
    exact fun _ => rfl

theorem handleLinkData_control (tunSend : Except String Unit) (senderHint : Option AddressHash)
    (control : isCtrl data = true) : rt.Uncounted
      (rt.handleLinkData env reader platform tunSend now senderHint data host).1 := by
  unfold handleLinkData
  rw [if_pos control]
  cases senderHint with
  | none => exact .refl rt
  | some hash => exact handleCtrl_uncounted hash

theorem handleLinkData_packet (tunSend : Except String Unit) (senderHint : Option AddressHash)
    (packet : isCtrl data = false) :
    let fate := rt.linkDataFate reader tunSend senderHint data
    let rt' := (rt.handleLinkData env reader platform tunSend now senderHint data host).1
    (fate = .received ∧ rt.ReceivedFrom now data (rt.credited reader senderHint data) rt') ∨
      (fate = .dropped ∧ rt.Dropped rt') ∨ (fate = .failed ∧ rt.TunFailed rt') := by
  have plain : ¬ isCtrl data = true := by simp [packet]
  unfold linkDataFate handleLinkData
  rw [if_neg plain, if_neg plain]
  dsimp only
  split
  · exact Or.inr (Or.inl ⟨rfl, rfl, rfl⟩)
  · cases tunSend with
    | error err => exact Or.inr (Or.inr ⟨rfl, ⟨rfl, fun _ => rfl⟩, rfl, err, rfl⟩)
    | ok _ =>
      refine Or.inl ⟨rfl, ?_⟩
      cases rt.credited reader senderHint data with
      | none =>
        refine ⟨rfl, fun other => ?_⟩
        simp
      | some hash =>
        refine ⟨metrics_updatePeer _ _, fun other => ?_⟩
        rw [get_updatePeer_if]
        simp [eq_comm]

end

end VpnRuntime

section

variable {env : VpnEnv} {hex : Text.Codec AddressHash} {reader : FrameReader} {msgpack : Msgpack}

theorem metrics_expireSteps (now : Nat) (peers : List Peer) (r : VpnRuntime × Bool) :
    (peers.foldl (VpnRuntime.expireStep now) r).1.metrics = r.1.metrics := by
  induction peers generalizing r with
  | nil => rfl
  | cons peer rest ih =>
    rw [List.foldl_cons, ih]
    unfold VpnRuntime.expireStep
    dsimp only
    split
    · rfl
    split
    · exact VpnRuntime.metrics_updatePeer _ _
    · rfl

theorem metrics_announce (platform : Platform) (now : Nat) (desc : DestinationDesc)
    (routes : List Ipv4Cidr) (rt : VpnRuntime) (host : Host) :
    (rt.handlePeerAnnounce env platform now desc routes host).1.1.metrics = rt.metrics := by
  unfold VpnRuntime.handlePeerAnnounce
  dsimp only
  split
  · rfl
  split
  · rfl
  split
  · rfl
  · exact VpnRuntime.metrics_syncRoutes.trans (VpnRuntime.metrics_updatePeer _ _)

theorem metrics_policy (platform : Platform) (now : Nat) (allowAllPeers : Bool)
    (peers : List String) (rt : VpnRuntime) (host : Host) :
    (rt.replacePeerPolicy env hex platform now allowAllPeers peers host).1.1.metrics =
      rt.metrics := by
  unfold VpnRuntime.replacePeerPolicy
  split
  · rfl
  dsimp only
  split
  · rfl
  · exact VpnRuntime.metrics_syncRoutes

theorem metrics_watchdog (platform : Platform) (now : Nat) (rt : VpnRuntime) (host : Host) :
    (rt.watchdogTick env platform now host).1.metrics = rt.metrics := by
  have kept := metrics_expireSteps now (PeerRegistry.all env.registry rt.peers) (rt, false)
  unfold VpnRuntime.watchdogTick VpnRuntime.expireRoutes
  split
  · rename_i after outcome
    rw [outcome] at kept
    exact VpnRuntime.metrics_syncRoutes.trans kept
  · rename_i after outcome
    rw [outcome] at kept
    exact kept

theorem system_accounted (s : VpnSystem) (e : Event) :
    Accounted reader s ((system env hex reader msgpack).step s e).2
      ((system env hex reader msgpack).step s e).1.rt e := by
  cases e with
  | op op =>
    cases served : op.served s.rt with
    | false =>
      rw [step_unserved served]
      cases op with
      | linkData platform tunSend now senderHint data =>
        have absent : ¬ s.rt.interfaceName.isSome = true := by
          rw [Bool.not_eq_true]
          exact served
        unfold Accounted
        dsimp only
        rw [if_neg fun both => absent both.1]
        exact ⟨rfl, .refl s.rt⟩
      | _ => exact ⟨rfl, rfl⟩
    | true =>
      rw [step_served served]
      cases op with
      | linkData platform tunSend now senderHint data =>
        unfold Accounted
        dsimp only
        cases packet : isCtrl data with
        | false =>
          rw [if_pos ⟨served, rfl⟩]
          exact VpnRuntime.handleLinkData_packet tunSend senderHint packet
        | true =>
          rw [if_neg fun both => by cases both.2]
          exact ⟨if_pos packet, VpnRuntime.handleLinkData_control tunSend senderHint packet⟩
      | announce platform now desc routes => exact ⟨rfl, metrics_announce _ _ _ _ _ _⟩
      | replacePeerPolicy platform now allowAllPeers peers => exact ⟨rfl, metrics_policy _ _ _ _ _ _⟩
      | replaceAdvertisedRoutes platform ifaces routes => exact ⟨rfl, VpnRuntime.metrics_syncRoutes⟩
      | watchdog platform now => exact ⟨rfl, metrics_watchdog _ _ _ _⟩
  | tunRead now sendToOutLinks read =>
    cases reading : s.reading with
    | false =>
      rw [step_tunStopped reading]
      cases read with
      | error err => exact ⟨rfl, rfl⟩
      | ok packet =>
        unfold Accounted
        dsimp only
        rw [if_neg fun both => by rw [reading] at both; cases both.1]
        exact ⟨rfl, .refl s.rt⟩
    | true =>
      cases read with
      | error err =>
        rw [step_tunFailed reading]
        exact ⟨rfl, rfl⟩
      | ok packet =>
        rw [step_tunPacket reading]
        unfold Accounted
        dsimp only
        by_cases transit : s.rt.Transit reader packet
        · rw [if_pos ⟨reading, transit⟩]
          exact VpnRuntime.tunPacket_transit sendToOutLinks transit
        · rw [if_neg fun both => transit both.2, VpnRuntime.tunPacket_other sendToOutLinks transit]
          exact ⟨rfl, .refl s.rt⟩
  | announceTick ifaces =>
    refine ⟨rfl, ?_⟩
    show (s.rt.announceTick msgpack ifaces).metrics = s.rt.metrics
    unfold VpnRuntime.announceTick
    dsimp only
    split <;> rfl
  | announceRejected hash err => exact ⟨rfl, VpnRuntime.metrics_updatePeer _ _⟩
  | linkWrite now hash write => exact ⟨rfl, VpnRuntime.metrics_updatePeer _ _⟩
  | beginLinkRequest hash => exact ⟨rfl, VpnRuntime.metrics_updatePeer _ _⟩
  | cacheLink hash link =>
    refine ⟨rfl, ?_⟩
    cases link <;> rfl

end

/-! ### Runs -/

section

variable {m m' m'' : Metrics} {e : Event} {trace : List (Event × Fate)}

theorem Totals.none : Totals m m [] := by
  constructor <;> simp [bytesOf]

theorem wrapping_add (counter : UInt64) (first rest : Nat) :
    counter + .ofNat first + .ofNat rest = counter + .ofNat (first + rest) := by
  rw [UInt64.ofNat_add, UInt64.add_assoc]

theorem Totals.cons {fate : Fate} (first : Totals m m' [(e, fate)]) (rest : Totals m' m'' trace) :
    Totals m m'' ((e, fate) :: trace) := by
  have counted : ∀ p : Event × Fate → Bool, ((e, fate) :: trace).countP p =
      [(e, fate)].countP p + trace.countP p := by
    intro p
    rw [← List.countP_append]
    rfl
  have bytes : ∀ p, bytesOf p ((e, fate) :: trace) = bytesOf p [(e, fate)] + bytesOf p trace := by
    intro p
    cases counted : p fate <;> simp [bytesOf, counted]
  refine ⟨?_, ?_, ?_, ?_, ?_⟩
  · rw [rest.txPackets, first.txPackets, counted, wrapping_add]
  · rw [rest.txBytes, first.txBytes, bytes, wrapping_add]
  · rw [rest.rxPackets, first.rxPackets, counted, wrapping_add]
  · rw [rest.rxBytes, first.rxBytes, bytes, wrapping_add]
  · rw [rest.dropPackets, first.dropPackets, counted, wrapping_add]

theorem totals_uncounted (same : m' = m) {fate : Fate} (quiet : fate = .uncounted ∨ fate = .failed) :
    Totals m m' [(e, fate)] := by
  subst same
  rcases quiet with rfl | rfl <;> constructor <;> simp [bytesOf, Fate.isSent]

theorem totals_dropped (counted : m' = m.recordDrop) : Totals m m' [(e, .dropped)] := by
  subst counted
  constructor <;> simp [bytesOf, Fate.isSent, Metrics.recordDrop]

variable {reader : FrameReader} {s : VpnSystem} {fate : Fate} {rt' : VpnRuntime}

/-- What is accounted for in one step adds up. -/
theorem Accounted.totals (accounted : Accounted reader s fate rt' e) :
    Totals s.rt.metrics rt'.metrics [(e, fate)] := by
  unfold Accounted at accounted
  split at accounted
  · split at accounted
    · rcases accounted with ⟨hash, rfl, sent⟩ | ⟨rfl, dropped⟩
      · rw [sent.metrics]
        constructor <;> simp [bytesOf, Event.bytes, Fate.isSent, Metrics.recordTx]
      · exact totals_dropped dropped.metrics
    · exact totals_uncounted accounted.2.metrics (Or.inl accounted.1)
  · split at accounted
    · rcases accounted with ⟨rfl, received⟩ | ⟨rfl, dropped⟩ | ⟨rfl, failed⟩
      · rw [received.metrics]
        constructor <;> simp [bytesOf, Event.bytes, Fate.isSent, Metrics.recordRx]
      · exact totals_dropped dropped.metrics
      · exact totals_uncounted failed.uncounted.metrics (Or.inr rfl)
    · exact totals_uncounted accounted.2.metrics (Or.inl accounted.1)
  · exact totals_uncounted accounted.2 (Or.inl accounted.1)

end

/-- In every run each step accounts for the packet it handles, and the counters are what the steps
add up to, modulo 2^64. -/
theorem packets_accounted (env : VpnEnv) (hex : Text.Codec AddressHash) (reader : FrameReader)
    (msgpack : Msgpack) (s : VpnSystem) (events : List Event) :
    (∀ before e after, events = before ++ e :: after →
      let t := (system env hex reader msgpack).run s before
      let r := (system env hex reader msgpack).step t e
      Accounted reader t r.2 r.1.rt e) ∧
    Totals s.rt.metrics ((system env hex reader msgpack).run s events).rt.metrics
      ((system env hex reader msgpack).trace s events) := by
  refine ⟨fun _ e _ _ => system_accounted _ e, ?_⟩
  induction events generalizing s with
  | nil => exact .none
  | cons e rest ih =>
    have here := (@system_accounted env hex reader msgpack s e).totals
    exact here.cons (ih _)

end Kaonic.Vpn
