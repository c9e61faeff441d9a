import Kaonic.Vpn.System

/-!
# The registry in every run

Whatever the system goes through, its peers have addresses inside the network, and a change of the
policy leaves just the peers that it should.
-/

namespace Kaonic.Vpn
open Net

/-! ### What every run keeps -/

namespace VpnRuntime

variable {env : VpnEnv} {rt rt' : VpnRuntime} {frames : List RouteFrame}

/-- A registry stays tracked while the claims of its peers stay. -/
theorem Tracked.quiet (tracked : Tracked env rt frames) (quiet : rt.Quiet rt') :
    Tracked env rt' frames := by
  have before : ∀ hash peer, rt'.peers.get hash = some peer →
      ∃ old, rt.peers.get hash = some old ∧ old.claim = peer.claim := by
    intro hash peer found
    have same := quiet.claims hash
    rw [found, Option.map_some] at same
    exact Option.map_eq_some_iff.mp same.symm
  have after : ∀ hash old, rt.peers.get hash = some old →
      ∃ peer, rt'.peers.get hash = some peer ∧ peer.claim = old.claim := by
    intro hash old found
    have same := quiet.claims hash
    rw [found, Option.map_some] at same
    exact Option.map_eq_some_iff.mp same
  refine ⟨⟨⟨?_, ?_⟩, ?_, ?_⟩, ?_⟩
  · intro hash peer found
    obtain ⟨old, known, same⟩ := before hash peer found
    have filed := tracked.backed.created.filed hash old known
    exact (congrArg Prod.fst same).symm.trans filed
  · intro hash peer found
    obtain ⟨old, known, same⟩ := before hash peer found
    have ip : old.tunnelIp = peer.tunnelIp := congrArg (fun c => c.2.1) same
    rw [quiet.fixed.network, ← ip]
    exact tracked.backed.created.derived hash old known
  · rw [quiet.fixed.destination]
    cases found : rt'.peers.get rt.destination with
    | none => rfl
    | some peer =>
      obtain ⟨old, known, _⟩ := before _ peer found
      rw [tracked.backed.remote] at known
      cases known
  · intro hash peer found some_
    obtain ⟨old, known, same⟩ := before hash peer found
    have routes : old.routes = peer.routes := congrArg (fun c => c.2.2.1) same
    have expires : old.routeExpiresTs = peer.routeExpiresTs := congrArg (fun c => c.2.2.2) same
    rw [← routes, ← expires]
    exact tracked.backed.routed hash old known (by rw [routes]; exact some_)
  · intro route owner listed
    rw [quiet.router] at listed
    obtain ⟨old, known, member⟩ := tracked.owned route owner listed
    obtain ⟨peer, found, same⟩ := after owner old known
    have routes : peer.routes = old.routes := congrArg (fun c => c.2.2.1) same
    exact ⟨peer, found, by rw [routes]; exact member⟩

end VpnRuntime

section

variable {env : VpnEnv} {hex : Text.Codec AddressHash} {reader : FrameReader} {msgpack : Msgpack}

theorem step_tracked {s : VpnSystem} {frames : List VpnRuntime.RouteFrame}
    (tracked : VpnRuntime.Tracked env s.rt frames) (e : Event) :
    ∃ frames', VpnRuntime.Tracked env ((system env hex reader msgpack).step s e).1.rt frames' := by
  cases comes : e.resync env hex reader s with
  | none => exact ⟨frames, tracked.quiet (step_quiet comes)⟩
  | some r =>
    obtain ⟨rfl, served, _⟩ := resync_eq_some.mp comes
    rw [step_served served]
    exact ⟨_, @VpnRuntime.Tracked.step env hex reader (s.rt, s.host) frames tracked r.1⟩

theorem run_tracked {s : VpnSystem} {frames : List VpnRuntime.RouteFrame}
    (tracked : VpnRuntime.Tracked env s.rt frames) (events : List Event) :
    ∃ frames', VpnRuntime.Tracked env ((system env hex reader msgpack).run s events).rt frames' := by
  induction events generalizing s frames with
  | nil => exact ⟨frames, tracked⟩
  | cons e rest ih =>
    obtain ⟨_, next⟩ := @step_tracked env hex reader msgpack s frames tracked e
    exact ih next

theorem started_network {boot : VpnRuntime.Boot} {config : VpnConfig} {host : Host}
    {after : VpnRuntime × Host} (started : VpnRuntime.start env hex boot config host = .ok after) :
    (VpnSystem.started after).rt.network = config.network := by
  obtain ⟨_, _, _, enforced⟩ := VpnRuntime.start_ok started
  exact congrArg Enforced.network enforced

theorem started_short {boot : VpnRuntime.Boot} {config : VpnConfig} {host : Host}
    {after : VpnRuntime × Host} (started : VpnRuntime.start env hex boot config host = .ok after) :
    (VpnSystem.started after).rt.network.networkLength ≤ 30 := by
  rw [started_network started]
  exact (VpnConfig.accepted_iff.mp (VpnRuntime.start_ok started).1).1

/-- What holds in a run from a start: the network is the configured one, which has room, and the
registry is tracked. -/
theorem started_run {boot : VpnRuntime.Boot} {config : VpnConfig} {host : Host}
    {after : VpnRuntime × Host} (started : VpnRuntime.start env hex boot config host = .ok after)
    (events : List Event) :
    let s := (system env hex reader msgpack).run (.started after) events
    s.rt.network.networkLength ≤ 30 ∧ s.rt.network = config.network ∧
      ∃ frames, VpnRuntime.Tracked env s.rt frames := by
  intro s
  have fixed : (VpnSystem.started after).rt.Fixed s.rt := run_fixed _ (started_short started) events
  exact ⟨run_short _ (started_short started) events, fixed.network.trans (started_network started),
    run_tracked (VpnRuntime.Tracked.start started) events⟩

end

/-! ### Addresses -/

/-- Neither the first nor the last address of a network, nor one outside it. -/
def Inside (network : Ipv4Cidr) (ip : Ipv4Addr) : Prop :=
  network.firstAddress.toNat < ip.toNat ∧ ip.toNat < network.block.last

/-- The words of `derive_tunnel_ip` hold what it computes: neither subtraction goes below zero, there
is a remainder to take, the offset keeps its digits as a `u32`, and the sum does not wrap. -/
structure FitsWords (network : Ipv4Cidr) (destination : AddressHash) : Prop where
  hostBits : network.networkLength ≤ 32
  usable : 2 ≤ (1 : UInt64) <<< UInt64.ofNat (32 - network.networkLength)
  divisor : 0 < (1 : UInt64) <<< UInt64.ofNat (32 - network.networkLength) - 2
  offset : (tunnelOffset network destination).toNat < 2 ^ 32
  sum : network.firstAddress.toNat + (tunnelOffset network destination).toNat < 2 ^ 32

section

variable {network : Ipv4Cidr}

theorem tunnelIp_inside (short : network.networkLength ≤ 30) (destination : AddressHash) :
    Inside network (tunnelIp network destination) := by
  obtain ⟨number, below⟩ := tunnelIp_toNat short destination
  exact ⟨by omega, by omega⟩

theorem contains_of_inside {ip : Ipv4Addr} (inside : Inside network ip) :
    network.contains ip = true :=
  (Ipv4Cidr.contains_iff network ip).mpr ⟨Nat.le_of_lt inside.1, Nat.le_of_lt inside.2⟩

theorem fitsWords_of_short (short : network.networkLength ≤ 30) (destination : AddressHash) :
    FitsWords network destination := by
  have bounds := usable_bounds short
  have slot := tunnelSlot_lt short destination
  have offset := tunnelOffset_toNat short destination
  have below := (tunnelIp_toNat short destination).2
  have end_ := network.block_last_lt
  have divisor : 0 < (1 : UInt64) <<< UInt64.ofNat (32 - network.networkLength) - 2 := by
    rw [UInt64.lt_iff_toNat_lt, usable_toNat short]
    show 0 < _
    omega
  refine ⟨by omega, ?_, divisor, by omega, by omega⟩
  have size : ((1 : UInt64) <<< UInt64.ofNat (32 - network.networkLength)).toNat =
      2 ^ (32 - network.networkLength) := shiftLeft_toNat (by omega)
  rw [UInt64.le_iff_toNat_le, size]
  show 2 ≤ _
  omega

end

/-- Every accepted network gives each hash an address strictly inside it, by words that hold what is
computed, and no peer is ever registered at another. -/
theorem deriveTunnelIp_inside (env : VpnEnv) (network : Ipv4Cidr)
    (accepted : (validateNetwork env network).isOk = true) :
    (∀ destination, FitsWords network destination ∧
      ∃ ip, deriveTunnelIp env network destination = .ok ip ∧ Inside network ip ∧
        network.contains ip = true ∧
        ip.toNat = network.firstAddress.toNat + (tunnelOffset network destination).toNat) ∧
    ∀ hex reader msgpack boot (config : VpnConfig) host after, config.network = network →
      VpnRuntime.start env hex boot config host = .ok after → ∀ events hash peer,
        ((system env hex reader msgpack).run (.started after) events).rt.peers.get hash = some peer →
          Inside network peer.tunnelIp := by
  have short := validateNetwork_ok.mp accepted
  refine ⟨?_, ?_⟩
  · intro destination
    have inside := tunnelIp_inside short destination
    refine ⟨fitsWords_of_short short destination, _, ?_, inside, contains_of_inside inside, ?_⟩
    · rw [deriveTunnelIp, validateNetwork_of_le short]
    · rw [(tunnelIp_toNat short destination).1, tunnelOffset_toNat short, Nat.add_assoc]
  · rintro hex reader msgpack boot config host after rfl started events hash peer found
    obtain ⟨_, same, _, tracked⟩ := @started_run env hex reader msgpack boot config host after
      started events
    have derived := tracked.backed.created.derived hash peer found
    rw [same] at derived
    rw [deriveTunnelIp_ok derived]
    exact tunnelIp_inside short hash

theorem deriveTunnelIp_inside_transit : Inside (.net16 10 20) (tunnelIp (.net16 10 20) nodeHash) := by
  obtain ⟨ip, derived, inside, _⟩ := ((deriveTunnelIp_inside SyncCall.plainEnv (.net16 10 20)
    (validateNetwork_ok.mpr (by decide))).1 nodeHash).2
  rw [← deriveTunnelIp_ok derived]
  exact inside

/-! ### A change of the policy -/

section

variable {env : VpnEnv} {network : Ipv4Cidr} {destination hash : AddressHash}

/-- Seeding keeps who is there, and gives a configured peer to each listed remote hash without
one. -/
theorem seedPeers_get (short : network.networkLength ≤ 30) (hashes : List AddressHash)
    (peers : PeerRegistry) :
    (seedPeers env network destination hashes peers).1.get hash =
      (peers.get hash).or (if hash ∈ hashes ∧ hash ≠ destination then
        some (.new hash (tunnelIp network hash) .configured) else none) := by
  induction hashes generalizing peers with
  | nil => simp [seedPeers]
  | cons next rest ih =>
    have listed : hash ≠ next → (hash ∈ next :: rest ↔ hash ∈ rest) :=
      fun other => by simp [other]
    unfold seedPeers
    split
    · rename_i settled
      rw [ih]
      by_cases same : hash = next
      · rcases settled with own | present
        · simp [same, own]
        · obtain ⟨peer, found⟩ := Option.isSome_iff_exists.mp present
          rw [same, found, Option.some_or, Option.some_or]
      · simp only [listed same]
    · rename_i fresh
      obtain ⟨remote, absent⟩ := not_or.mp fresh
      rw [deriveTunnelIp, validateNetwork_of_le short]
      dsimp only
      rw [ih, PeerRegistry.get_insert]
      by_cases same : hash = next
      · have none_ : peers.get next = none := by simpa using absent
        simp [same, Peer.new, none_, remote]
      · have apart : hash ≠ (Peer.new next (tunnelIp network next) .configured).hash := same
        rw [if_neg apart]
        simp only [listed same]

theorem removeUnlisted_get_eq (allowed : Finset AddressHash) (all : List Peer)
    (peers : PeerRegistry) (outLinks : LinkRegistry) :
    (removeUnlisted destination allowed all peers outLinks).1.get hash =
      if hash ∈ all.map Peer.hash ∧ hash ≠ destination ∧ hash ∉ allowed then none
      else peers.get hash := by
  unfold removeUnlisted
  induction all generalizing peers outLinks with
  | nil => simp
  | cons next rest ih =>
    rw [List.foldl_cons]
    dsimp only
    by_cases listed : next.hash = destination ∨ next.hash ∈ allowed
    · rw [if_pos listed, ih]
      by_cases same : hash = next.hash
      · have kept : ¬ (hash ≠ destination ∧ hash ∉ allowed) := by
          rw [same]
          tauto
        rw [if_neg fun gone => kept gone.2, if_neg fun gone => kept gone.2]
      · simp only [List.map_cons, List.mem_cons, same, false_or]
    · rw [if_neg listed, ih, PeerRegistry.get_remove]
      by_cases same : hash = next.hash
      · have gone : hash ≠ destination ∧ hash ∉ allowed := by
          rw [same]
          exact not_or.mp listed
        have head : hash ∈ (next :: rest).map Peer.hash := by simp [same]
        rw [if_pos same, ite_self, if_pos ⟨head, gone⟩]
      · simp only [List.map_cons, List.mem_cons, same, false_or, if_false]

theorem removeUnlisted_all (allowed : Finset AddressHash) {peers : PeerRegistry}
    (filed : peers.Filed) (order : HashMap.IterOrder AddressHash Peer) (outLinks : LinkRegistry) :
    (removeUnlisted destination allowed (PeerRegistry.all order peers) peers outLinks).1.get hash =
      (peers.get hash).filter fun _ => hash = destination ∨ hash ∈ allowed := by
  rw [removeUnlisted_get_eq]
  cases found : peers.get hash with
  | none => simp
  | some peer =>
    have same := filed hash peer found
    have member : hash ∈ (PeerRegistry.all order peers).map Peer.hash := by
      refine List.mem_map.mpr ⟨peer, (PeerRegistry.mem_all filed).mpr ?_, same⟩
      rw [same]
      exact found
    rw [Option.filter_some]
    by_cases stays : hash = destination ∨ hash ∈ allowed
    · rw [if_neg (by tauto), if_pos (by simpa using stays)]
    · rw [if_pos (by tauto), if_neg (by simpa using stays)]

/-- The table gives out only hashes of the peers it was built from. -/
theorem build_within (it : HashMap.IterOrder Ipv4Cidr AddressHash) (peers : List Peer) (now : Nat)
    (localHash : AddressHash) (localTunnelIp : Ipv4Addr) :
    (RouteTable.build it peers now localHash localTunnelIp).Within {h | h ∈ peers.map Peer.hash} := by
  have start : RouteTable.Building.Within {h | h ∈ peers.map Peer.hash} {} := by
    constructor <;>
      rintro _ _ found <;>
      cases found
  refine RouteTable.finish_within it ?_
  exact List.foldlRecOn peers _ start fun _ within peer member =>
    RouteTable.addPeer_within within (List.mem_map.mpr ⟨peer, member, rfl⟩)

end

namespace VpnRuntime

/-- What a change of the policy leaves: the given policy, who may stay of the old registry with a
configured peer for every other allowed hash, and a table without strangers. -/
structure Replaced (rt : VpnRuntime) (allowAllPeers : Bool) (allowed : Finset AddressHash)
    (rt' : VpnRuntime) : Prop where
  policy : rt'.allowAllPeers = allowAllPeers ∧ rt'.allowedPeers = allowed
  registry : ∀ hash, rt'.peers.get hash =
    ((rt.peers.get hash).filter fun _ => allowAllPeers = true ∨ hash ∈ allowed).or
      (if hash ∈ allowed ∧ hash ≠ rt.destination then
        some (.new hash (tunnelIp rt.network hash) .configured) else none)
  resolved : ∀ ip owner, rt'.router.resolve ip = some owner → (rt'.peers.get owner).isSome

section

variable {env : VpnEnv} {hex : Text.Codec AddressHash} {rt mid : VpnRuntime}
  {frames : List RouteFrame} {allowAllPeers : Bool} {peers : List String}
  {hashes : List AddressHash}

/-- The registry on the way to the rebuild. -/
theorem policyReplaced_get (short : rt.network.networkLength ≤ 30) (tracked : Tracked env rt frames)
    (valid : parseConfiguredPeers hex peers = .ok hashes)
    (comes : rt.policyReplaced env hex allowAllPeers peers = some mid) (hash : AddressHash) :
    mid.peers.get hash =
      ((rt.peers.get hash).filter fun _ => allowAllPeers = true ∨ hash ∈ hashes.toFinset).or
        (if hash ∈ hashes.toFinset ∧ hash ≠ rt.destination then
          some (.new hash (tunnelIp rt.network hash) .configured) else none) := by
  have seeded := @seedPeers_get env rt.network rt.destination hash short
    hashes rt.peers
  have filed := (tracked.backed.created.seedPeers rt.destination hashes).filed
  have everyone : ∀ found : Option Peer, found.filter (fun _ => true) = found
    | none => rfl
    | some _ => rfl
  unfold policyReplaced at comes
  rw [valid] at comes
  obtain rfl := Option.some.inj comes
  cases allowAllPeers with
  | true => simpa [everyone] using seeded
  | false =>
    show (removeUnlisted _ _ _ _ _).1.get hash = _
    rw [removeUnlisted_all _ filed, seeded]
    by_cases own : hash = rt.destination
    · rw [own, tracked.backed.remote]
      simp
    · by_cases allowed : hash ∈ hashes <;>
        cases rt.peers.get hash <;>
        simp [own, allowed, everyone]

/-- After a rebuild every hash that an address resolves to has its peer. -/
theorem rebuildRouter_resolves (filed : rt.peers.Filed) (now : Nat) {ip : Ipv4Addr}
    {owner : AddressHash} (resolved : (rt.rebuildRouter env now).router.resolve ip = some owner) :
    (rt.peers.get owner).isSome := by
  have member := RouteTable.resolve_within (build_within env.claimed _ now _ _) resolved
  obtain ⟨peer, listed, same⟩ := List.mem_map.mp member
  have found := (PeerRegistry.mem_all filed).mp listed
  rw [same] at found
  exact Option.isSome_of_eq_some found

/-- A change fails just on the texts that are no hashes. -/
theorem replacePeerPolicy_fails_iff (short : rt.network.networkLength ≤ 30) (platform : Platform)
    (now : Nat) (host : Host) :
    (rt.replacePeerPolicy env hex platform now allowAllPeers peers host).2.isOk = false ↔
      ∃ p ∈ peers, (hex.parse p).isOk = false := by
  have same : (rt.replacePeerPolicy env hex platform now allowAllPeers peers host).2.isOk =
      (parseConfiguredPeers hex peers).isOk := by
    cases parsed : parseConfiguredPeers hex peers with
    | error err =>
      rw [replacePeerPolicy_invalid parsed]
      rfl
    | ok hashes =>
      rw [replacePeerPolicy_valid short parsed]
      rfl
  rw [same, ← Bool.not_eq_true, parseConfiguredPeers_isOk]
  simp

theorem replacePeerPolicy_replaces (short : rt.network.networkLength ≤ 30)
    (tracked : Tracked env rt frames) (valid : parseConfiguredPeers hex peers = .ok hashes)
    (platform : Platform) (now : Nat) (host : Host) :
    rt.Replaced allowAllPeers hashes.toFinset
      (rt.replacePeerPolicy env hex platform now allowAllPeers peers host).1.1 := by
  have comes : ∃ mid, rt.policyReplaced env hex allowAllPeers peers = some mid ∧
      mid.allowAllPeers = allowAllPeers ∧ mid.allowedPeers = hashes.toFinset := by
    unfold policyReplaced
    rw [valid]
    exact ⟨_, rfl, rfl, rfl⟩
  obtain ⟨mid, comes, policy⟩ := comes
  have left : Tracked env
      (rt.replacePeerPolicy env hex platform now allowAllPeers peers host).1.1 frames :=
    tracked.replacePeerPolicy hex allowAllPeers peers
  have filed := left.backed.created.filed
  have synced := @replacePeerPolicy_resynced env hex rt mid host short platform now allowAllPeers
    peers comes
  have kept := rebuilt_peers env platform now mid host
  rw [synced] at filed ⊢
  rw [kept] at filed
  obtain ⟨_, _, _, _, same⟩ := syncRoutes_frame env platform (mid.rebuildRouter env now) host
  refine ⟨?_, ?_, ?_⟩
  · rw [same]
    exact policy
  · intro hash
    rw [kept]
    exact policyReplaced_get short tracked valid comes hash
  · intro ip owner resolved
    rw [kept]
    rw [same] at resolved
    exact rebuildRouter_resolves filed now resolved

end

end VpnRuntime

/-- In every reachable state a change of the policy fails on the texts that are no hashes, and then
changes nothing, or replaces the policy. -/
theorem replacePeerPolicy_outcome (env : VpnEnv) (hex : Text.Codec AddressHash)
    (reader : FrameReader) (msgpack : Msgpack) (boot : VpnRuntime.Boot) (config : VpnConfig)
    (host : Host) (after : VpnRuntime × Host)
    (started : VpnRuntime.start env hex boot config host = .ok after) (events : List Event)
    (platform : Platform) (now : Nat) (allowAllPeers : Bool) (peers : List String) :
    let s := (system env hex reader msgpack).run (.started after) events
    let r := s.rt.replacePeerPolicy env hex platform now allowAllPeers peers s.host
    (r.2.isOk = false ↔ ∃ p ∈ peers, (hex.parse p).isOk = false) ∧
    (r.2.isOk = false → r.1 = (s.rt, s.host)) ∧
    (r.2.isOk = true → ∃ allowed : Finset AddressHash,
      (∀ hash, hash ∈ allowed ↔ ∃ p ∈ peers, hex.parse p = .ok hash) ∧
      s.rt.Replaced allowAllPeers allowed r.1.1) := by
  intro s r
  obtain ⟨short, _, frames, tracked⟩ := @started_run env hex reader msgpack boot config host after
    started events
  refine ⟨VpnRuntime.replacePeerPolicy_fails_iff short platform now s.host, ?_⟩
  cases parsed : parseConfiguredPeers hex peers with
  | error err =>
    have failed : r = ((s.rt, s.host), .error err) := VpnRuntime.replacePeerPolicy_invalid parsed
    rw [failed]
    refine ⟨fun _ => rfl, fun ok => ?_⟩
    cases ok
  | ok hashes =>
    have ok : r.2 = .ok () := VpnRuntime.replacePeerPolicy_valid short parsed
    refine ⟨fun failed => ?_, fun _ => ⟨hashes.toFinset, fun hash => ?_, ?_⟩⟩
    · rw [ok] at failed
      cases failed
    · rw [List.mem_toFinset]
      exact mem_parseConfiguredPeers parsed
    · exact VpnRuntime.replacePeerPolicy_replaces short tracked parsed platform now s.host

/-- A second peer is listed where a first one has announced itself. -/
theorem replacePeerPolicy_outcome_listed : ∃ after,
    VpnRuntime.start SyncCall.plainEnv AddressHash.hexCodec VpnRuntime.plainBoot transitConfig {} =
      .ok after ∧
    let s := (system SyncCall.plainEnv AddressHash.hexCodec VpnRuntime.headerReader
      Msgpack.short).run (.started after) (VpnRuntime.announcedOps.map .op)
    let r := s.rt.replacePeerPolicy SyncCall.plainEnv AddressHash.hexCodec SyncCall.working 120
      false [AddressHash.hexCodec.print (shortHash 0 2)] s.host
    r.2.isOk = true ∧ ∃ allowed, shortHash 0 2 ∈ allowed ∧ s.rt.Replaced false allowed r.1.1 := by
  have seen : ∃ after,
      VpnRuntime.start SyncCall.plainEnv AddressHash.hexCodec VpnRuntime.plainBoot transitConfig {} =
        .ok after := ⟨_, rfl⟩
  obtain ⟨after, started⟩ := seen
  obtain ⟨fails, _, replaced⟩ := replacePeerPolicy_outcome SyncCall.plainEnv AddressHash.hexCodec
    VpnRuntime.headerReader Msgpack.short VpnRuntime.plainBoot transitConfig {} after started
    (VpnRuntime.announcedOps.map .op) SyncCall.working 120 false
    [AddressHash.hexCodec.print (shortHash 0 2)]
  have listed := AddressHash.hexCodec.parse_print (shortHash 0 2)
  refine ⟨after, started, ?_⟩
  intro s r
  have ok : r.2.isOk = true := by
    by_contra failed
    obtain ⟨p, member, invalid⟩ := fails.mp (by simpa using failed)
    rw [List.mem_singleton.mp member, listed] at invalid
    cases invalid
  obtain ⟨allowed, same, left⟩ := replaced ok
  exact ⟨ok, allowed, (same _).mpr ⟨_, List.mem_singleton_self _, listed⟩, left⟩

end Kaonic.Vpn
