import Kaonic.Vpn.RegistryRuns

/-!
# Nodes among each other

Nodes that send announces to each other and frames on their links. What is sent may be delivered at
any time, in any order, often or never. A frame on a link arrives as data of an in-link, which does
not name its sender.
-/

namespace Kaonic.Vpn
open Net

inductive Packet where
  | announce (desc : DestinationDesc) (appData : List UInt8)
  | link (target : AddressHash) (data : List UInt8)
  deriving DecidableEq

/-- `spawn_announce_rx` at one announce. -/
def announceEvent (msgpack : Msgpack) (platform : Platform) (now : Nat) (desc : DestinationDesc)
    (appData : List UInt8) : Option Event :=
  if isAnnounce appData then
    match decodeAnnounce msgpack appData with
    | .ok routes => some (.op (.announce platform now desc routes))
    | .error err => some (.announceRejected desc.addressHash err)
  else none

/-- `spawn_in_link_events` at one event with data. -/
def inLinkEvent (platform : Platform) (tunSend : Except String Unit) (now : Nat)
    (own target : AddressHash) (data : List UInt8) : Option Event :=
  if target = own then some (.op (.linkData platform tunSend now none data)) else none

/-- The events in which nothing of another node arrives or leaves. -/
def Event.isLocal : Event → Bool
  | .op (.replacePeerPolicy _ _ _ _) | .op (.replaceAdvertisedRoutes _ _ _)
  | .op (.watchdog _ _) => true
  | .linkWrite _ _ _ | .beginLinkRequest _ | .cacheLink _ _ => true
  | _ => false

/-- The nodes, everything that they have sent, the route frames that each has accepted, what they
have announced, and the packets from the TUN that went to a peer. -/
structure Overlay (ι : Type) where
  node : ι → VpnSystem
  sent : List Packet := []
  accepted : ι → List VpnRuntime.RouteFrame := fun _ => []
  exported : List (AddressHash × List Ipv4Cidr) := []
  tunnelled : List (AddressHash × List UInt8) := []

inductive OverlayEvent (ι : Type) where
  | announceTick (n : ι) (ifaces : List Interface)
  /-- The Hello to a peer whose out-link has come up. -/
  | greet (n : ι) (peer : AddressHash)
  | tunRead (n : ι) (now : Nat) (sendToOutLinks : AddressHash → List UInt8 → Nat)
      (read : Except String (List UInt8))
  | deliver (n : ι) (i : Nat) (platform : Platform) (tunSend : Except String Unit) (now : Nat)
  | alone (n : ι) (e : Event)

/-- The msgpack library reads back every announce that it writes. -/
structure Msgpack.Faithful (msgpack : Msgpack) : Prop where
  announce : ∀ announce body, msgpack.writeAnnounce announce = .ok body →
    msgpack.readAnnounce body = .ok announce

structure OverlayEnv (ι : Type) where
  env : ι → VpnEnv
  hex : Text.Codec AddressHash
  reader : FrameReader
  msgpack : Msgpack

/-- The route frame that an event brings. -/
def Event.brings (env : VpnEnv) (hex : Text.Codec AddressHash) (reader : FrameReader)
    (s : VpnSystem) : Event → Option VpnRuntime.RouteFrame
  | .op o =>
    if o.served s.rt then ((VpnRuntime.machine env hex reader).step (s.rt, s.host) o).2 else none
  | _ => none

/-! ### One node -/

section

variable {env : VpnEnv} {hex : Text.Codec AddressHash} {reader : FrameReader} {msgpack : Msgpack}
  {s : VpnSystem} {e : Event}

theorem decode_of_encode (faithful : msgpack.Faithful) {routes : List Ipv4Cidr}
    {appData : List UInt8} (written : encodeAnnounce msgpack routes = .ok appData) :
    decodeAnnounce msgpack appData = .ok routes := by
  unfold encodeAnnounce at written
  split at written
  · rename_i body wrote
    rw [← Except.ok.inj written, decodeAnnounce_ok (faithful.announce _ _ wrote), mapM_toCidr]
  · cases written

theorem brings_served {op : VpnRuntime.Op} (served : op.served s.rt = true) :
    (Event.op op).brings env hex reader s =
      ((VpnRuntime.machine env hex reader).step (s.rt, s.host) op).2 := if_pos served

theorem brings_unserved {op : VpnRuntime.Op} (unserved : op.served s.rt = false) :
    (Event.op op).brings env hex reader s = none := if_neg (by simp [unserved])

theorem brings_tracked {frames : List VpnRuntime.RouteFrame}
    (tracked : VpnRuntime.Tracked env s.rt frames) (e : Event) :
    VpnRuntime.Tracked env ((system env hex reader msgpack).step s e).1.rt
      (frames ++ (e.brings env hex reader s).toList) := by
  have quiet : ∀ e : Event, e.resync env hex reader s = none →
      VpnRuntime.Tracked env ((system env hex reader msgpack).step s e).1.rt (frames ++ []) := by
    intro e silent
    rw [List.append_nil]
    exact tracked.quiet (step_quiet silent)
  cases e with
  | op op =>
    cases served : op.served s.rt with
    | true =>
      rw [step_served served, brings_served served]
      exact @VpnRuntime.Tracked.step env hex reader (s.rt, s.host) frames tracked op
    | false =>
      rw [step_unserved served, brings_unserved served]
      simpa using tracked
  | _ => exact quiet _ rfl

theorem brings_announce {platform : Platform} {now : Nat} {desc : DestinationDesc}
    {routes : List Ipv4Cidr} {f : VpnRuntime.RouteFrame}
    (brought : (Event.op (.announce platform now desc routes)).brings env hex reader s = some f) :
    f.owner = desc.addressHash ∧ f.routes = routes := by
  have answered : (if (s.rt.handlePeerAnnounce env platform now desc routes s.host).2 then
      some (⟨desc.addressHash, routes, now⟩ : VpnRuntime.RouteFrame) else none) = some f := brought
  split at answered
  · obtain rfl := Option.some.inj answered
    exact ⟨rfl, rfl⟩
  · cases answered

/-- Without the name of its sender no frame brings routes. -/
theorem brings_inLink {platform : Platform} {tunSend : Except String Unit} {now : Nat}
    {data : List UInt8} :
    (Event.op (.linkData platform tunSend now none data)).brings env hex reader s = none := by
  cases served : (VpnRuntime.Op.linkData platform tunSend now none data).served s.rt with
  | false => exact brings_unserved served
  | true =>
    rw [brings_served served]
    show s.rt.acceptedFrame reader now none data = none
    unfold VpnRuntime.acceptedFrame
    split <;> rfl

theorem brings_local (alone : e.isLocal = true) : e.brings env hex reader s = none := by
  cases e with
  | op op =>
    cases op with
    | announce platform now desc routes => cases alone
    | linkData platform tunSend now senderHint data => cases alone
    | _ => exact brings_served rfl
  | _ => rfl

theorem latest_mem {frames : List VpnRuntime.RouteFrame} {owner : AddressHash}
    {f : VpnRuntime.RouteFrame} (last : VpnRuntime.RouteFrame.latest frames owner = some f) :
    f ∈ frames ∧ f.owner = owner := by
  obtain ⟨other, member, same⟩ := List.mem_filterMap.mp (List.mem_of_getLast? last)
  split at same
  · rename_i own
    obtain rfl := Option.some.inj same
    exact ⟨member, own⟩
  · cases same

/-- The table has the tunnel addresses that hashes derive. -/
def Addressed (rt : VpnRuntime) : Prop :=
  ∀ ip hash, rt.router.tunnelIps.lookup ip = some hash → ip = tunnelIp rt.network hash

theorem rebuildRouter_addressed {rt : VpnRuntime} (created : rt.peers.Created env rt.network)
    (now : Nat) : Addressed (rt.rebuildRouter env now) := by
  have derived : ∀ peer ∈ PeerRegistry.all env.registry rt.peers,
      peer.tunnelIp = tunnelIp rt.network peer.hash := by
    intro peer member
    have found := (PeerRegistry.mem_all created.filed).mp member
    exact deriveTunnelIp_ok (created.derived peer.hash peer found)
  refine List.foldlRecOn (PeerRegistry.all env.registry rt.peers) _
    (motive := fun b : RouteTable.Building => ∀ ip hash, b.tunnelIps.lookup ip = some hash →
      ip = tunnelIp rt.network hash) (fun _ _ found => by cases found) ?_
  intro b addressed peer member ip hash found
  rw [RouteTable.addPeer_tunnelIps] at found
  split at found
  · rename_i here
    rw [← Option.some.inj found, ← here.2]
    exact derived peer member
  · exact addressed ip hash found

theorem Addressed.same {rt rt' : VpnRuntime} (addressed : Addressed rt)
    (router : rt'.router = rt.router) (network : rt'.network = rt.network) : Addressed rt' := by
  unfold Addressed
  rw [router, network]
  exact addressed

theorem step_addressed (short : s.rt.network.networkLength ≤ 30)
    {frames : List VpnRuntime.RouteFrame} (tracked : VpnRuntime.Tracked env s.rt frames)
    (addressed : Addressed s.rt) (e : Event) :
    Addressed ((system env hex reader msgpack).step s e).1.rt := by
  have after := @brings_tracked env hex reader msgpack s frames tracked e
  cases comes : e.resync env hex reader s with
  | none =>
    have quiet := @step_quiet env hex reader msgpack s e comes
    exact addressed.same quiet.router quiet.fixed.network
  | some r =>
    obtain ⟨op, mid⟩ := r
    have created := after.backed.created
    rw [step_resynced short comes] at created ⊢
    obtain ⟨fixed, _, router⟩ := VpnRuntime.resyncs_fixed (resync_eq_some.mp comes).2.2
    obtain ⟨_, _, _, _, same⟩ :=
      VpnRuntime.syncRoutes_frame env op.platform (op.rebuild env mid) s.host
    rw [same] at created ⊢
    have rebuilt : Addressed (op.rebuild env mid) := by
      unfold VpnRuntime.Op.rebuild at created ⊢
      split at created
      · exact rebuildRouter_addressed created _
      · exact addressed.same router fixed.network
    exact rebuilt.same rfl rfl

theorem started_addressed {boot : VpnRuntime.Boot} {config : VpnConfig} {host : Host}
    {after : VpnRuntime × Host} (started : VpnRuntime.start env hex boot config host = .ok after) :
    Addressed after.1 := by
  have created := (VpnRuntime.start_created started).2
  obtain ⟨_, rt, _, _, network, _, _, rfl⟩ := VpnRuntime.start_built started
  obtain ⟨_, _, _, _, same⟩ :=
    VpnRuntime.syncRoutes_frame env boot.platform (rt.rebuildRouter env boot.now) host
  rw [same, ← network] at created
  rw [same]
  exact (rebuildRouter_addressed created boot.now).same rfl rfl

/-- A packet goes to the links of the peer that its destination resolves to. -/
theorem tunRead_sent {now : Nat} {sendToOutLinks : AddressHash → List UInt8 → Nat}
    {packet : List UInt8} {peer : AddressHash}
    (sent : ((system env hex reader msgpack).step s
      (.tunRead now sendToOutLinks (.ok packet))).2 = .sent peer) :
    ∃ dst, reader.packetDestination packet = some dst ∧ s.rt.router.resolve dst = some peer := by
  cases reading : s.reading with
  | false =>
    rw [step_tunStopped reading] at sent
    cases sent
  | true =>
    rw [step_tunPacket reading] at sent
    dsimp only at sent
    unfold VpnRuntime.tunPacket at sent
    cases dest : reader.packetDestination packet with
    | none =>
      rw [dest] at sent
      cases sent
    | some dst =>
      rw [dest] at sent
      dsimp only at sent
      split at sent
      · cases sent
      cases owner : s.rt.router.resolve dst with
      | none =>
        rw [owner] at sent
        cases sent
      | some hash =>
        rw [owner] at sent
        dsimp only at sent
        split at sent
        · cases sent
        split at sent
        · cases sent
        · exact ⟨dst, rfl, owner.trans (congrArg some (Fate.sent.inj sent))⟩

theorem syncRoutes_frames (platform : Platform) (rt : VpnRuntime) (host : Host) :
    (rt.syncRoutes env platform host).2.frames = host.frames := by
  unfold VpnRuntime.syncRoutes
  dsimp only
  split
  · rfl
  · split
    · rfl
    · split <;> rfl

/-- Nothing but a packet from a link gets into the TUN. -/
theorem op_frames (op : VpnRuntime.Op) (rt : VpnRuntime) (host : Host) :
    ((VpnRuntime.machine env hex reader).step (rt, host) op).1.2.frames = host.frames ∨
      ∃ platform tunSend now senderHint data,
        op = .linkData platform tunSend now senderHint data ∧ isCtrl data = false ∧
          ((VpnRuntime.machine env hex reader).step (rt, host) op).1.2.frames =
            host.frames ++ [data] := by
  cases op with
  | announce platform now desc routes =>
    left
    show (rt.handlePeerAnnounce env platform now desc routes host).1.2.frames = _
    rw [VpnRuntime.handlePeerAnnounce_eq]
    split
    · rfl
    · exact syncRoutes_frames platform _ host
  | linkData platform tunSend now senderHint data =>
    cases packet : isCtrl data with
    | false =>
      have taken := @VpnRuntime.handleLinkData_frames env reader platform tunSend now senderHint data
        rt host packet
      split at taken
      · exact Or.inr ⟨platform, tunSend, now, senderHint, data, rfl, packet, taken⟩
      · exact Or.inl taken
    | true =>
      left
      show (rt.handleLinkData env reader platform tunSend now senderHint data host).2.frames = _
      unfold VpnRuntime.handleLinkData
      rw [if_pos packet]
      cases senderHint with
      | none => rfl
      | some hash =>
        dsimp only
        unfold VpnRuntime.handleCtrl
        split
        · exact syncRoutes_frames platform _ host
        · exact syncRoutes_frames platform _ host
        · rfl
        · rfl
  | replacePeerPolicy platform now allowAllPeers peers =>
    left
    show (rt.replacePeerPolicy env hex platform now allowAllPeers peers host).1.2.frames = _
    unfold VpnRuntime.replacePeerPolicy
    split
    · rfl
    · dsimp only
      split
      · rfl
      · exact syncRoutes_frames platform _ host
  | replaceAdvertisedRoutes platform ifaces routes =>
    exact Or.inl (syncRoutes_frames platform _ host)
  | watchdog platform now =>
    left
    show (rt.watchdogTick env platform now host).2.frames = _
    rw [VpnRuntime.watchdogTick_eq]
    split
    · rfl
    · exact syncRoutes_frames platform _ host

theorem step_frames (s : VpnSystem) (e : Event) :
    ((system env hex reader msgpack).step s e).1.host.frames = s.host.frames ∨
      ∃ platform tunSend now senderHint data,
        e = .op (.linkData platform tunSend now senderHint data) ∧ isCtrl data = false ∧
          ((system env hex reader msgpack).step s e).1.host.frames = s.host.frames ++ [data] := by
  cases e with
  | op op =>
    cases served : op.served s.rt with
    | true =>
      rw [step_served served]
      refine (@op_frames env hex reader op s.rt s.host).imp_right ?_
      rintro ⟨platform, tunSend, now, senderHint, data, rfl, packet, taken⟩
      exact ⟨platform, tunSend, now, senderHint, data, rfl, packet, taken⟩
    | false =>
      rw [step_unserved served]
      exact Or.inl rfl
  | tunRead now sendToOutLinks read =>
    left
    cases reading : s.reading with
    | false => rw [step_tunStopped reading]
    | true =>
      cases read with
      | ok packet => rw [step_tunPacket reading]
      | error err => rw [step_tunFailed reading]
  | _ => exact Or.inl rfl

end

/-! ### All nodes -/

namespace Overlay

variable {ι : Type} [DecidableEq ι]

def apply (net : OverlayEnv ι) (s : Overlay ι) (n : ι) (e : Event) : Overlay ι :=
  { s with
    node := Function.update s.node n
      ((system (net.env n) net.hex net.reader net.msgpack).step (s.node n) e).1
    accepted := Function.update s.accepted n
      (s.accepted n ++ (e.brings (net.env n) net.hex net.reader (s.node n)).toList) }

def arrival (net : OverlayEnv ι) (s : Overlay ι) (n : ι) (i : Nat) (platform : Platform)
    (tunSend : Except String Unit) (now : Nat) : Option Event :=
  match s.sent[i]? with
  | some (.announce desc appData) => announceEvent net.msgpack platform now desc appData
  | some (.link target data) => inLinkEvent platform tunSend now (s.node n).rt.destination target data
  | none => none

def step (net : OverlayEnv ι) (s : Overlay ι) : OverlayEvent ι → Overlay ι
  | .announceTick n ifaces =>
    let after := s.apply net n (.announceTick ifaces)
    let rt := (after.node n).rt
    match encodeAnnounce net.msgpack rt.exportedRoutes with
    | .ok appData =>
      { after with
        sent := after.sent ++ [.announce ⟨rt.destination⟩ appData]
        exported := after.exported ++ [(rt.destination, rt.exportedRoutes)] }
    | .error _ => after
  | .greet n peer =>
    match encodeHello net.msgpack (s.node n).rt.exportedRoutes with
    | .ok hello => { s with sent := s.sent ++ [.link peer hello] }
    | .error _ => s
  | .tunRead n now sendToOutLinks read =>
    let fate := ((system (net.env n) net.hex net.reader net.msgpack).step (s.node n)
      (.tunRead now sendToOutLinks read)).2
    let after := s.apply net n (.tunRead now sendToOutLinks read)
    match fate, read with
    | .sent peer, .ok packet =>
      { after with
        sent := after.sent ++ [.link peer packet]
        tunnelled := after.tunnelled ++ [(peer, packet)] }
    | _, _ => after
  | .deliver n i platform tunSend now =>
    match s.arrival net n i platform tunSend now with
    | some e => s.apply net n e
    | none => s
  | .alone n e => if e.isLocal then s.apply net n e else s

def machine (net : OverlayEnv ι) : Machine (Overlay ι) (OverlayEvent ι) Unit where
  step s e := (s.step net e, ())

def start (after : ι → VpnRuntime × Host) : Overlay ι where
  node n := .started (after n)

/-! ### Where everything comes from -/

/-- Routes and frames come from what was announced and tunnelled. -/
structure Traced (net : OverlayEnv ι) (after : ι → VpnRuntime × Host) (s : Overlay ι) : Prop where
  short : ∀ n, (s.node n).rt.network.networkLength ≤ 30
  own : ∀ n, (s.node n).rt.destination = (after n).1.destination
  tracked : ∀ n, VpnRuntime.Tracked (net.env n) (s.node n).rt (s.accepted n)
  addressed : ∀ n, Addressed (s.node n).rt
  announced : ∀ desc appData, .announce desc appData ∈ s.sent → ∃ routes,
    (desc.addressHash, routes) ∈ s.exported ∧ encodeAnnounce net.msgpack routes = .ok appData
  accepted : ∀ n, ∀ f ∈ s.accepted n, (f.owner, f.routes) ∈ s.exported
  linked : ∀ target data, .link target data ∈ s.sent →
    isCtrl data = true ∨ (target, data) ∈ s.tunnelled
  frames : ∀ n, ∃ later, (s.node n).host.frames = (after n).2.frames ++ later ∧
    ∀ data ∈ later, ((after n).1.destination, data) ∈ s.tunnelled

section

variable {net : OverlayEnv ι} {after : ι → VpnRuntime × Host} {s : Overlay ι}

theorem apply_node_self (n : ι) (e : Event) : (s.apply net n e).node n =
    ((system (net.env n) net.hex net.reader net.msgpack).step (s.node n) e).1 :=
  Function.update_self ..

theorem apply_node_other {n m : ι} (other : m ≠ n) (e : Event) :
    (s.apply net n e).node m = s.node m := Function.update_of_ne other ..

theorem apply_accepted_other {n m : ι} (other : m ≠ n) (e : Event) :
    (s.apply net n e).accepted m = s.accepted m := Function.update_of_ne other ..

theorem apply_accepted_self (n : ι) (e : Event) : (s.apply net n e).accepted n =
    s.accepted n ++ (e.brings (net.env n) net.hex net.reader (s.node n)).toList :=
  Function.update_self ..

/-- An event at one node whose routes were announced and whose frames were tunnelled. -/
theorem Traced.apply (traced : Traced net after s) {n : ι} {e : Event}
    (brought : ∀ f, e.brings (net.env n) net.hex net.reader (s.node n) = some f →
      (f.owner, f.routes) ∈ s.exported)
    (taken : ∀ platform tunSend now senderHint data,
      e = .op (.linkData platform tunSend now senderHint data) → isCtrl data = false →
        ((after n).1.destination, data) ∈ s.tunnelled) :
    Traced net after (s.apply net n e) := by
  have fixed := @step_fixed (net.env n) net.hex net.reader net.msgpack (s.node n) (traced.short n) e
  refine ⟨?_, ?_, ?_, ?_, traced.announced, ?_, traced.linked, ?_⟩
  · intro m
    by_cases here : m = n
    · subst here
      rw [apply_node_self, fixed.network]
      exact traced.short m
    · rw [apply_node_other here]
      exact traced.short m
  · intro m
    by_cases here : m = n
    · subst here
      rw [apply_node_self, fixed.destination]
      exact traced.own m
    · rw [apply_node_other here]
      exact traced.own m
  · intro m
    by_cases here : m = n
    · subst here
      rw [apply_node_self, apply_accepted_self]
      exact brings_tracked (traced.tracked m) e
    · rw [apply_node_other here, apply_accepted_other here]
      exact traced.tracked m
  · intro m
    by_cases here : m = n
    · subst here
      rw [apply_node_self]
      exact step_addressed (traced.short m) (traced.tracked m) (traced.addressed m) e
    · rw [apply_node_other here]
      exact traced.addressed m
  · intro m f member
    by_cases here : m = n
    · subst here
      rw [apply_accepted_self, List.mem_append, Option.mem_toList] at member
      exact member.elim (traced.accepted m f) (brought f)
    · rw [apply_accepted_other here] at member
      exact traced.accepted m f member
  · intro m
    obtain ⟨later, frames, sources⟩ := traced.frames m
    by_cases here : m = n
    · subst here
      rw [apply_node_self]
      rcases @step_frames (net.env m) net.hex net.reader net.msgpack (s.node m) e with
        same | ⟨platform, tunSend, now, senderHint, data, shape, packet, more⟩
      · exact ⟨later, same.trans frames, sources⟩
      · refine ⟨later ++ [data], by rw [more, frames, List.append_assoc], ?_⟩
        intro other member
        rcases List.mem_append.mp member with old | new
        · exact sources other old
        · rw [List.mem_singleton.mp new]
          exact taken platform tunSend now senderHint data shape packet
    · rw [apply_node_other here]
      exact ⟨later, frames, sources⟩

omit [DecidableEq ι] in
/-- One more packet on its way. -/
theorem Traced.send (traced : Traced net after s) (packet : Packet)
    (exports : List (AddressHash × List Ipv4Cidr)) (packets : List (AddressHash × List UInt8))
    (announced : ∀ desc appData, packet = .announce desc appData → ∃ routes,
      (desc.addressHash, routes) ∈ s.exported ++ exports ∧
        encodeAnnounce net.msgpack routes = .ok appData)
    (linked : ∀ target data, packet = .link target data →
      isCtrl data = true ∨ (target, data) ∈ s.tunnelled ++ packets) :
    Traced net after { s with
      sent := s.sent ++ [packet]
      exported := s.exported ++ exports
      tunnelled := s.tunnelled ++ packets } := by
  refine ⟨traced.short, traced.own, traced.tracked, traced.addressed, ?_, ?_, ?_, ?_⟩
  · intro desc appData member
    rcases List.mem_append.mp member with old | new
    · obtain ⟨routes, listed, written⟩ := traced.announced desc appData old
      exact ⟨routes, List.mem_append_left _ listed, written⟩
    · exact announced desc appData (List.mem_singleton.mp new).symm
  · exact fun n f member => List.mem_append_left _ (traced.accepted n f member)
  · intro target data member
    rcases List.mem_append.mp member with old | new
    · exact (traced.linked target data old).imp_right (List.mem_append_left _)
    · exact linked target data (List.mem_singleton.mp new).symm
  · intro n
    obtain ⟨later, frames, sources⟩ := traced.frames n
    exact ⟨later, frames, fun data member => List.mem_append_left _ (sources data member)⟩

/-- What arrives at a node is routes that were announced, or data of a packet for the node. -/
theorem Traced.arrival (traced : Traced net after s) (faithful : net.msgpack.Faithful) {n : ι}
    {i : Nat} {platform : Platform} {tunSend : Except String Unit} {now : Nat} {e : Event}
    (arrives : s.arrival net n i platform tunSend now = some e) :
    Traced net after (s.apply net n e) := by
  have silent : ∀ {e : Event}, e.brings (net.env n) net.hex net.reader (s.node n) = none →
      ∀ f, e.brings (net.env n) net.hex net.reader (s.node n) = some f →
        (f.owner, f.routes) ∈ s.exported := by
    intro e nothing f brought
    rw [nothing] at brought
    cases brought
  unfold Overlay.arrival at arrives
  cases found : s.sent[i]? with
  | none =>
    rw [found] at arrives
    cases arrives
  | some packet =>
    rw [found] at arrives
    have member := List.mem_of_getElem? found
    cases packet with
    | announce desc appData =>
      obtain ⟨routes, listed, written⟩ := traced.announced desc appData member
      dsimp only at arrives
      unfold announceEvent at arrives
      rw [decode_of_encode faithful written] at arrives
      split at arrives
      · obtain rfl := Option.some.inj arrives
        refine traced.apply ?_ (fun _ _ _ _ _ shape => by cases shape)
        intro f brought
        obtain ⟨owner, same⟩ := brings_announce brought
        rw [owner, same]
        exact listed
      · cases arrives
    | link target data =>
      dsimp only at arrives
      unfold inLinkEvent at arrives
      split at arrives
      · rename_i here
        obtain rfl := Option.some.inj arrives
        refine traced.apply (silent brings_inLink) ?_
        intro _ _ _ _ other shape packet
        cases shape
        rw [← traced.own n, ← here]
        refine (traced.linked target data member).resolve_left ?_
        rw [packet]
        exact Bool.false_ne_true
      · cases arrives

theorem Traced.step (traced : Traced net after s) (faithful : net.msgpack.Faithful)
    (e : OverlayEvent ι) : Traced net after (s.step net e) := by
  have silent : ∀ {n : ι} {e : Event}, (∀ op, e ≠ .op op) → Traced net after (s.apply net n e) := by
    intro n e other
    refine traced.apply ?_ (fun _ _ _ _ _ shape => (other _ shape).elim)
    intro f brought
    cases e with
    | op op => exact (other op rfl).elim
    | _ => cases brought
  cases e with
  | announceTick n ifaces =>
    have ticked : Traced net after (s.apply net n (.announceTick ifaces)) :=
      silent fun _ => Event.noConfusion
    unfold Overlay.step
    dsimp only
    split
    · rename_i appData written
      have sent := ticked.send
        (.announce ⟨((s.apply net n (.announceTick ifaces)).node n).rt.destination⟩ appData)
        [(((s.apply net n (.announceTick ifaces)).node n).rt.destination,
          ((s.apply net n (.announceTick ifaces)).node n).rt.exportedRoutes)] [] ?_ ?_
      · simpa using sent
      · intro desc data same
        obtain ⟨rfl, rfl⟩ := Packet.announce.inj same
        exact ⟨_, List.mem_append_right _ List.mem_cons_self, written⟩
      · intro _ _ shape
        cases shape
    · exact ticked
  | greet n peer =>
    unfold Overlay.step
    dsimp only
    split
    · rename_i hello written
      have sent := traced.send (.link peer hello) [] [] (fun _ _ shape => by cases shape) ?_
      · simpa using sent
      · intro target data same
        obtain ⟨rfl, rfl⟩ := Packet.link.inj same
        exact Or.inl (encodeCtrl_isCtrl written)
    · exact traced
  | tunRead n now sendToOutLinks read =>
    have passed : Traced net after (s.apply net n (.tunRead now sendToOutLinks read)) :=
      silent fun _ => Event.noConfusion
    unfold Overlay.step
    dsimp only
    split
    · rename_i peer packet _
      have sent := passed.send (.link peer packet) [] [(peer, packet)]
        (fun _ _ shape => by cases shape) ?_
      · simpa using sent
      · intro target data same
        obtain ⟨rfl, rfl⟩ := Packet.link.inj same
        exact Or.inr (List.mem_append_right _ List.mem_cons_self)
    · exact passed
  | deliver n i platform tunSend now =>
    unfold Overlay.step
    dsimp only
    cases arrives : s.arrival net n i platform tunSend now with
    | some e => exact traced.arrival faithful arrives
    | none => exact traced
  | alone n e =>
    unfold Overlay.step
    dsimp only
    split
    · rename_i alone
      refine traced.apply ?_ ?_
      · intro f brought
        rw [brings_local alone] at brought
        cases brought
      · rintro _ _ _ _ _ rfl _
        cases alone
    · exact traced

omit [DecidableEq ι] in
theorem Traced.start {boot : ι → VpnRuntime.Boot} {config : ι → VpnConfig} {host : ι → Host}
    (started : ∀ n, VpnRuntime.start (net.env n) net.hex (boot n) (config n) (host n) =
      .ok (after n)) : Traced net after (.start after) := by
  refine ⟨fun n => started_short (started n), fun _ => rfl,
    fun n => VpnRuntime.Tracked.start (started n), fun n => started_addressed (started n),
    ?_, ?_, ?_, ?_⟩
  · intro _ _ member
    cases member
  · intro _ _ member
    cases member
  · intro _ _ member
    cases member
  · intro n
    exact ⟨[], (List.append_nil _).symm, fun _ member => by cases member⟩

omit [DecidableEq ι] in
theorem Traced.exported_of_routes (traced : Traced net after s) {n : ι} {hash : AddressHash}
    {peer : Peer} (found : (s.node n).rt.peers.get hash = some peer) (some_ : peer.routes ≠ []) :
    (hash, peer.routes) ∈ s.exported := by
  obtain ⟨f, last, routes, _⟩ := (traced.tracked n).backed.routed hash peer found some_
  obtain ⟨member, owner⟩ := latest_mem last
  have listed := traced.accepted n f member
  rwa [owner, routes] at listed

theorem Traced.run (traced : Traced net after s) (faithful : net.msgpack.Faithful)
    (events : List (OverlayEvent ι)) : Traced net after ((machine net).run s events) :=
  Machine.run_invariant (I := Traced net after) (fun _ e traced => traced.step faithful e) traced
    events

end

/-! ### Who has announced, who has tunnelled -/

/-- At a tick in the run the node with the hash announced the routes. -/
def Announced (net : OverlayEnv ι) (s : Overlay ι) (events : List (OverlayEvent ι))
    (hash : AddressHash) (routes : List Ipv4Cidr) : Prop :=
  ∃ before m ifaces rest, events = before ++ .announceTick m ifaces :: rest ∧
    let rt := (((machine net).run s before).node m).rt.refreshLocalRoutes ifaces
    rt.destination = hash ∧ rt.exportedRoutes = routes

/-- A node has read the packet from its TUN and sent it on its links to the target. -/
def Tunnelled (net : OverlayEnv ι) (s : Overlay ι) (events : List (OverlayEvent ι))
    (target : AddressHash) (packet : List UInt8) : Prop :=
  ∃ before m now sendToOutLinks rest,
    events = before ++ .tunRead m now sendToOutLinks (.ok packet) :: rest ∧
    ((system (net.env m) net.hex net.reader net.msgpack).step (((machine net).run s before).node m)
      (.tunRead now sendToOutLinks (.ok packet))).2 = .sent target

section

variable {net : OverlayEnv ι} {s : Overlay ι} {events : List (OverlayEvent ι)} {hash : AddressHash}

theorem announceTick_exports (msgpack : Msgpack) (ifaces : List Interface) (rt : VpnRuntime) :
    (rt.announceTick msgpack ifaces).exportedRoutes = (rt.refreshLocalRoutes ifaces).exportedRoutes ∧
      (rt.announceTick msgpack ifaces).destination = (rt.refreshLocalRoutes ifaces).destination := by
  unfold VpnRuntime.announceTick
  dsimp only
  split <;> exact ⟨rfl, rfl⟩

theorem exported_step {routes : List Ipv4Cidr} {e : OverlayEvent ι}
    (fresh : (hash, routes) ∉ s.exported) (listed : (hash, routes) ∈ (s.step net e).exported) :
    ∃ m ifaces, e = .announceTick m ifaces ∧
      ((s.node m).rt.refreshLocalRoutes ifaces).destination = hash ∧
      ((s.node m).rt.refreshLocalRoutes ifaces).exportedRoutes = routes := by
  unfold step at listed
  cases e with
  | announceTick n ifaces =>
    have rtEq : ((s.apply net n (.announceTick ifaces)).node n).rt =
        (s.node n).rt.announceTick net.msgpack ifaces := by
      rw [apply_node_self]
      rfl
    obtain ⟨exports, destination⟩ := announceTick_exports net.msgpack ifaces (s.node n).rt
    dsimp only at listed
    split at listed
    · rcases List.mem_append.mp listed with old | new
      · exact (fresh old).elim
      · obtain ⟨rfl, rfl⟩ := Prod.mk.inj (List.mem_singleton.mp new)
        rw [rtEq, exports, destination]
        exact ⟨n, ifaces, rfl, rfl, rfl⟩
    · exact (fresh listed).elim
  | greet n peer =>
    dsimp only at listed
    split at listed <;> exact (fresh listed).elim
  | tunRead n now sendToOutLinks read =>
    dsimp only at listed
    split at listed <;> exact (fresh listed).elim
  | deliver n i platform tunSend now =>
    dsimp only at listed
    split at listed <;> exact (fresh listed).elim
  | alone n e =>
    dsimp only at listed
    split at listed <;> exact (fresh listed).elim

theorem tunnelled_step {packet : List UInt8} {e : OverlayEvent ι}
    (fresh : (hash, packet) ∉ s.tunnelled) (listed : (hash, packet) ∈ (s.step net e).tunnelled) :
    ∃ m now sendToOutLinks, e = .tunRead m now sendToOutLinks (.ok packet) ∧
      ((system (net.env m) net.hex net.reader net.msgpack).step (s.node m)
        (.tunRead now sendToOutLinks (.ok packet))).2 = .sent hash := by
  unfold step at listed
  cases e with
  | announceTick n ifaces =>
    dsimp only at listed
    split at listed <;> exact (fresh listed).elim
  | greet n peer =>
    dsimp only at listed
    split at listed <;> exact (fresh listed).elim
  | tunRead n now sendToOutLinks read =>
    dsimp only at listed
    split at listed
    · rename_i peer data sent
      rcases List.mem_append.mp listed with old | new
      · exact (fresh old).elim
      · obtain ⟨rfl, rfl⟩ := Prod.mk.inj (List.mem_singleton.mp new)
        exact ⟨n, now, sendToOutLinks, rfl, sent⟩
    · exact (fresh listed).elim
  | deliver n i platform tunSend now =>
    dsimp only at listed
    split at listed <;> exact (fresh listed).elim
  | alone n e =>
    dsimp only at listed
    split at listed <;> exact (fresh listed).elim

theorem exported_run {routes : List Ipv4Cidr} (fresh : (hash, routes) ∉ s.exported)
    (listed : (hash, routes) ∈ ((machine net).run s events).exported) :
    Announced net s events hash routes := by
  rcases Machine.run_brought (P := fun s : Overlay ι => (hash, routes) ∈ s.exported) listed with
    old | ⟨before, e, rest, rfl, absent, brought⟩
  · exact (fresh old).elim
  · obtain ⟨m, ifaces, rfl, owner, exports⟩ := exported_step absent brought
    exact ⟨before, m, ifaces, rest, rfl, owner, exports⟩

theorem tunnelled_run {packet : List UInt8} (fresh : (hash, packet) ∉ s.tunnelled)
    (listed : (hash, packet) ∈ ((machine net).run s events).tunnelled) :
    Tunnelled net s events hash packet := by
  rcases Machine.run_brought (P := fun s : Overlay ι => (hash, packet) ∈ s.tunnelled) listed with
    old | ⟨before, e, rest, rfl, absent, brought⟩
  · exact (fresh old).elim
  · obtain ⟨m, now, sendToOutLinks, rfl, sent⟩ := tunnelled_step absent brought
    exact ⟨before, m, now, sendToOutLinks, rest, rfl, sent⟩

end

/-- However announces, Hellos and packets are delivered, the routes that a node has of a peer are
those of the last announce that it has taken from the peer, and all routes in its table were once
announced by their owner. -/
theorem routes_announced (net : OverlayEnv ι) (faithful : net.msgpack.Faithful)
    (boot : ι → VpnRuntime.Boot) (config : ι → VpnConfig) (host : ι → Host)
    (after : ι → VpnRuntime × Host)
    (started : ∀ n, VpnRuntime.start (net.env n) net.hex (boot n) (config n) (host n) =
      .ok (after n)) (events : List (OverlayEvent ι)) (n : ι) :
    let s := (machine net).run (.start after) events
    (∀ hash peer, (s.node n).rt.peers.get hash = some peer → peer.routes ≠ [] →
      (∃ f, VpnRuntime.RouteFrame.latest (s.accepted n) hash = some f ∧ f.routes = peer.routes) ∧
        Announced net (.start after) events hash peer.routes) ∧
      ∀ route owner, (route, owner) ∈ (s.node n).rt.router.subnets →
        owner ≠ (s.node n).rt.destination ∧
          ∃ routes, Announced net (.start after) events owner routes ∧ route ∈ routes := by
  intro s
  have traced : Traced net after s := (Traced.start started).run faithful events
  have tracked := traced.tracked n
  have announced : ∀ hash peer, (s.node n).rt.peers.get hash = some peer → peer.routes ≠ [] →
      (∃ f, VpnRuntime.RouteFrame.latest (s.accepted n) hash = some f ∧ f.routes = peer.routes) ∧
        Announced net (.start after) events hash peer.routes := by
    intro hash peer found some_
    obtain ⟨f, last, routes, _⟩ := tracked.backed.routed hash peer found some_
    exact ⟨⟨f, last, routes⟩,
      exported_run List.not_mem_nil (traced.exported_of_routes found some_)⟩
  refine ⟨announced, ?_⟩
  intro route owner listed
  obtain ⟨peer, found, member⟩ := tracked.owned route owner listed
  exact ⟨tracked.backed.ne_destination found, peer.routes,
    (announced owner peer found (List.ne_nil_of_mem member)).2, member⟩

/-- What a node has told of itself up to a point: its tunnel address, or the networks that it has
announced. -/
def Reaches (net : OverlayEnv ι) (s : Overlay ι) (events : List (OverlayEvent ι))
    (network : Ipv4Cidr) (hash : AddressHash) (ip : Ipv4Addr) : Prop :=
  ip = tunnelIp network hash ∨
    ∃ routes, Announced net s events hash routes ∧ ∃ route ∈ routes, route.contains ip = true

theorem resolve_reaches {net : OverlayEnv ι} {after : ι → VpnRuntime × Host}
    {events : List (OverlayEvent ι)} (faithful : net.msgpack.Faithful)
    (traced : Traced net after (.start after)) (m : ι) {ip : Ipv4Addr} {hash : AddressHash}
    (resolved : (((machine net).run (.start after) events).node m).rt.router.resolve ip = some hash) :
    Reaches net (.start after) events
      (((machine net).run (.start after) events).node m).rt.network hash ip := by
  have reached := traced.run faithful events
  unfold RouteTable.resolve at resolved
  split at resolved
  · rename_i direct
    obtain rfl := Option.some.inj resolved
    exact Or.inl (reached.addressed m ip _ direct)
  · obtain ⟨⟨route, owner⟩, found, rfl⟩ := Option.map_eq_some_iff.mp resolved
    right
    obtain ⟨peer, known, member⟩ :=
      (reached.tracked m).owned route owner (List.mem_of_find?_eq_some found)
    have listed := reached.exported_of_routes known (List.ne_nil_of_mem member)
    have inside : route.contains ip = true := by simpa using List.find?_some found
    exact ⟨peer.routes, exported_run List.not_mem_nil listed, route, member, inside⟩

/-- Whatever gets into the TUN of a node was read before from the TUN of a node, whose table gave it
to this one, and is addressed to its tunnel address or into a network that it had announced. -/
theorem frames_tunnelled (net : OverlayEnv ι) (faithful : net.msgpack.Faithful)
    (boot : ι → VpnRuntime.Boot) (config : ι → VpnConfig) (host : ι → Host)
    (after : ι → VpnRuntime × Host)
    (started : ∀ n, VpnRuntime.start (net.env n) net.hex (boot n) (config n) (host n) =
      .ok (after n)) (events : List (OverlayEvent ι)) (n : ι) :
    ∃ later, (((machine net).run (.start after) events).node n).host.frames =
        (after n).2.frames ++ later ∧
      ∀ packet ∈ later, ∃ before m now sendToOutLinks rest dst,
        events = before ++ .tunRead m now sendToOutLinks (.ok packet) :: rest ∧
          net.reader.packetDestination packet = some dst ∧
          Reaches net (.start after) before
            (((machine net).run (.start after) before).node m).rt.network
            (after n).1.destination dst := by
  have start := Traced.start started
  obtain ⟨later, frames, sources⟩ := (start.run faithful events).frames n
  refine ⟨later, frames, ?_⟩
  intro packet member
  obtain ⟨before, m, now, sendToOutLinks, rest, shape, sent⟩ :=
    tunnelled_run List.not_mem_nil (sources packet member)
  obtain ⟨dst, read, resolved⟩ := tunRead_sent sent
  exact ⟨before, m, now, sendToOutLinks, rest, dst, shape, read,
    resolve_reaches faithful start m resolved⟩

end Overlay

/-! ### Two nodes -/

namespace Msgpack

theorem readUint_writeUint {n : Nat} (small : n < 2 ^ 32) (rest : List UInt8) :
    readUint (writeUint n ++ rest) = some (n, rest) := by
  unfold writeUint
  split
  · rename_i tiny
    have value : (UInt8.ofNat n).toNat = n :=
      UInt8.toNat_ofNat_of_lt' (show n < 2 ^ 8 by omega)
    have below : UInt8.ofNat n < 128 := UInt8.lt_iff_toNat_lt.mpr (by rw [value]; exact tiny)
    have other : ∀ tag : UInt8, 128 ≤ tag.toNat → UInt8.ofNat n ≠ tag := by
      rintro tag high rfl
      omega
    show readUint (UInt8.ofNat n :: rest) = _
    unfold readUint
    split
    · rename_i same
      exact (other 0xCC (by decide) (List.cons.inj same).1).elim
    · rename_i same
      exact (other 0xCD (by decide) (List.cons.inj same).1).elim
    · rename_i same
      exact (other 0xCE (by decide) (List.cons.inj same).1).elim
    · rename_i same
      obtain ⟨rfl, rfl⟩ := List.cons.inj same
      rw [if_pos below, value]
    · rename_i same
      cases same
  · split
    · show readUint (0xCC :: UInt8.ofNat n :: rest) = _
      rw [readUint, UInt8.toNat_ofNat_of_lt' (by omega)]
    · split
      · show readUint (0xCD :: UInt8.ofNat (n / 2 ^ 8) :: UInt8.ofNat n :: rest) = _
        rw [readUint, UInt8.toNat_ofNat', UInt8.toNat_ofNat']
        congr 2
        omega
      · show readUint (0xCE :: UInt8.ofNat (n / 2 ^ 24) :: UInt8.ofNat (n / 2 ^ 16) ::
          UInt8.ofNat (n / 2 ^ 8) :: UInt8.ofNat n :: rest) = _
        rw [readUint, UInt8.toNat_ofNat', UInt8.toNat_ofNat', UInt8.toNat_ofNat',
          UInt8.toNat_ofNat']
        congr 2
        omega

theorem readSubnets_write (subnets : List Subnet) (rest : List UInt8) :
    readSubnets subnets.length (subnets.flatMap writeSubnet ++ rest) = some subnets := by
  induction subnets with
  | nil => rfl
  | cons subnet later ih =>
    obtain ⟨ip, len⟩ := subnet
    have first : (⟨ip, len⟩ :: later : List Subnet).flatMap writeSubnet ++ rest =
        0x92 :: (writeUint ip.toNat ++ (writeUint len.toNat ++
          (later.flatMap writeSubnet ++ rest))) := by
      simp [writeSubnet]
    have short : len.toNat < 2 ^ 32 := Nat.lt_of_lt_of_le len.toNat_lt (by decide)
    rw [first, List.length_cons]
    simp [readSubnets, readUint_writeUint ip.toNat_lt, readUint_writeUint short, ih]

theorem readRoutes_write {routes : List Subnet} {body : List UInt8}
    (written : writeRoutes routes = .ok body) : readRoutes body = .ok routes := by
  unfold writeRoutes at written
  split at written
  · rename_i few
    rw [← Except.ok.inj written]
    have count : (0x90 + routes.length) % 256 - 0x90 = routes.length := by omega
    have listed := readSubnets_write routes []
    rw [List.append_nil] at listed
    simp [readRoutes, routesKey, count, listed]
  · cases written

theorem short_faithful : short.Faithful := by
  constructor
  intro announce body written
  have read := @readRoutes_write announce.routes body written
  show (readRoutes body).map Announce.mk = .ok announce
  rw [read]
  rfl

end Msgpack

namespace Overlay

def pairNet : OverlayEnv Bool where
  env _ := SyncCall.plainEnv
  hex := AddressHash.hexCodec
  reader := VpnRuntime.headerReader
  msgpack := .short

def pairBoot (n : Bool) : VpnRuntime.Boot :=
  { VpnRuntime.plainBoot with
    destination := if n then shortHash 0 1 else nodeHash
    openTun := .ok (some "tun0") }

def pairAfter (n : Bool) : VpnRuntime × Host :=
  match VpnRuntime.start SyncCall.plainEnv AddressHash.hexCodec (pairBoot n) transitConfig {} with
  | .ok after => after
  | .error _ => (SyncCall.attachedRuntime, {})

theorem pair_started (n : Bool) : VpnRuntime.start (pairNet.env n) pairNet.hex (pairBoot n)
    transitConfig {} = .ok (pairAfter n) := by
  cases n <;> rfl

/-- From a host of the first node's LAN to 10.0.1.5. -/
def pairPacket : List UInt8 :=
  [0x45, 0, 0, 20, 0, 0, 0, 0, 64, 17, 0, 0, 192, 168, 1, 2, 10, 0, 1, 5]

/-- The second node announces its LAN, its link comes up, and a packet goes there. -/
def pairEvents : List (OverlayEvent Bool) :=
  [.announceTick true [⟨"eth0", .v4 (.new 10 0 1 0) 24 Ipv4Cidr.twentyFour_le⟩],
    .deliver false 0 SyncCall.working (.ok ()) 100,
    .alone false (.linkWrite 101 (shortHash 0 1) (.state .active)),
    .tunRead false 102 (fun _ _ => 1) (.ok pairPacket),
    .deliver true 1 SyncCall.working (.ok ()) 103]

theorem routes_announced_pair :
    let s := (machine pairNet).run (.start pairAfter) pairEvents
    (Ipv4Cidr.net24 10 0 1, shortHash 0 1) ∈ (s.node false).rt.router.subnets ∧
      ∃ routes, Announced pairNet (.start pairAfter) pairEvents (shortHash 0 1) routes ∧
        Ipv4Cidr.net24 10 0 1 ∈ routes := by
  intro s
  have listed : (Ipv4Cidr.net24 10 0 1, shortHash 0 1) ∈ (s.node false).rt.router.subnets := by
    decide +kernel
  exact ⟨listed, ((routes_announced pairNet Msgpack.short_faithful pairBoot (fun _ => transitConfig)
    (fun _ => {}) pairAfter pair_started pairEvents false).2 _ _ listed).2⟩

theorem frames_tunnelled_pair :
    let s := (machine pairNet).run (.start pairAfter) pairEvents
    (s.node true).host.frames = [pairPacket] ∧
      ∃ later, (s.node true).host.frames = (pairAfter true).2.frames ++ later ∧
        ∀ packet ∈ later, ∃ before m now sendToOutLinks rest,
          pairEvents = before ++ .tunRead m now sendToOutLinks (.ok packet) :: rest := by
  intro s
  obtain ⟨later, frames, sources⟩ := frames_tunnelled pairNet Msgpack.short_faithful pairBoot
    (fun _ => transitConfig) (fun _ => {}) pairAfter pair_started pairEvents true
  refine ⟨by decide +kernel, later, frames, ?_⟩
  intro packet member
  obtain ⟨before, m, now, sendToOutLinks, rest, _, shape, _⟩ := sources packet member
  exact ⟨before, m, now, sendToOutLinks, rest, shape⟩

end Overlay

end Kaonic.Vpn
