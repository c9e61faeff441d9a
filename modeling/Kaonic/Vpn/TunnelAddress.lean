import Kaonic.Net.Notation
import Kaonic.Vpn.Policy

/-!
# Tunnel addresses

Every node computes the address of every other one from its hash, so two hashes in one slot of the
network share an address.
-/

namespace Kaonic.Vpn
open Net

/-- The hash as a number in base 131, of which 64 bits are kept, modulo the addresses that are
neither the first nor the last of the network. -/
def tunnelSlot (network : Ipv4Cidr) (destination : AddressHash) : Nat :=
  horner 131 destination.bytes 0 % 2 ^ 64 % (2 ^ (32 - network.networkLength) - 2)

theorem foldl_horner64 (base : Nat) (bytes : List UInt8) (seed : Nat) :
    bytes.foldl (fun seed byte => seed * UInt64.ofNat base + byte.toUInt64) (UInt64.ofNat seed) =
      UInt64.ofNat (horner base bytes seed) := by
  unfold horner
  induction bytes generalizing seed with
  | nil => rfl
  | cons byte rest ih =>
    simp only [List.foldl_cons]
    rw [← UInt64.ofNat_uInt8ToNat, ← UInt64.ofNat_mul, ← UInt64.ofNat_add, ih]

section Slot

variable {network : Ipv4Cidr}

theorem usable_bounds (short : network.networkLength ≤ 30) :
    4 ≤ 2 ^ (32 - network.networkLength) ∧ 2 ^ (32 - network.networkLength) ≤ 2 ^ 32 := by
  refine ⟨?_, Nat.pow_le_pow_right (by decide) (by omega)⟩
  calc 4 = 2 ^ 2 := rfl
    _ ≤ 2 ^ (32 - network.networkLength) := Nat.pow_le_pow_right (by decide) (by omega)

theorem shiftLeft_toNat {bits : Nat} (small : bits ≤ 32) :
    ((1 : UInt64) <<< UInt64.ofNat bits).toNat = 2 ^ bits := by
  have bound : 2 ^ bits ≤ 2 ^ 32 := Nat.pow_le_pow_right (by decide) small
  have shift : (UInt64.ofNat bits).toNat = bits :=
    UInt64.toNat_ofNat_of_lt' (show _ < 2 ^ 64 by omega)
  have one : (1 : UInt64).toNat = 1 := rfl
  rw [UInt64.toNat_shiftLeft, shift, one, Nat.mod_eq_of_lt (by omega : _ < 64), Nat.shiftLeft_eq,
    Nat.one_mul]
  exact Nat.mod_eq_of_lt (by omega)

theorem usable_toNat (short : network.networkLength ≤ 30) :
    ((1 : UInt64) <<< UInt64.ofNat (32 - network.networkLength) - 2).toNat =
      2 ^ (32 - network.networkLength) - 2 := by
  have bounds := usable_bounds short
  have size : ((1 : UInt64) <<< UInt64.ofNat (32 - network.networkLength)).toNat =
      2 ^ (32 - network.networkLength) := shiftLeft_toNat (by omega)
  have two : (2 : UInt64).toNat = 2 := rfl
  rw [UInt64.toNat_sub_of_le, size, two]
  rw [UInt64.le_iff_toNat_le, size, two]
  omega

theorem tunnelSlot_lt (short : network.networkLength ≤ 30) (destination : AddressHash) :
    tunnelSlot network destination < 2 ^ (32 - network.networkLength) - 2 := by
  have bounds := usable_bounds short
  exact Nat.mod_lt _ (by omega)

/-- The local `offset` of `derive_tunnel_ip`, in its 64-bit word. -/
def tunnelOffset (network : Ipv4Cidr) (destination : AddressHash) : UInt64 :=
  destination.bytes.foldl (fun seed byte => seed * 131 + byte.toUInt64) 0 %
    ((1 : UInt64) <<< UInt64.ofNat (32 - network.networkLength) - 2) + 1

theorem tunnelIp_offset (network : Ipv4Cidr) (destination : AddressHash) :
    tunnelIp network destination =
      network.firstAddress + (tunnelOffset network destination).toUInt32 := rfl

theorem tunnelOffset_toNat (short : network.networkLength ≤ 30) (destination : AddressHash) :
    (tunnelOffset network destination).toNat = tunnelSlot network destination + 1 := by
  have bounds := usable_bounds short
  have slot := tunnelSlot_lt short destination
  have seed : (destination.bytes.foldl (fun seed byte => seed * 131 + byte.toUInt64)
      (0 : UInt64)).toNat = horner 131 destination.bytes 0 % 2 ^ 64 := by
    have folded := foldl_horner64 131 destination.bytes 0
    exact (congrArg UInt64.toNat folded).trans (UInt64.toNat_ofNat' ..)
  have one : (1 : UInt64).toNat = 1 := rfl
  rw [tunnelOffset, UInt64.toNat_add, UInt64.toNat_mod, usable_toNat short, seed, one]
  unfold tunnelSlot at slot ⊢
  exact Nat.mod_eq_of_lt (by omega)

theorem tunnelIp_eq (short : network.networkLength ≤ 30) (destination : AddressHash) :
    tunnelIp network destination =
      network.firstAddress + UInt32.ofNat (tunnelSlot network destination + 1) := by
  rw [tunnelIp_offset]
  congr 1
  apply UInt32.toNat_inj.mp
  rw [UInt64.toNat_toUInt32, tunnelOffset_toNat short, UInt32.toNat_ofNat']

/-- The sum does not wrap, and no digit of the offset is lost in it. -/
theorem tunnelIp_toNat (short : network.networkLength ≤ 30) (destination : AddressHash) :
    (tunnelIp network destination).toNat =
      network.firstAddress.toNat + tunnelSlot network destination + 1 ∧
    network.firstAddress.toNat + tunnelSlot network destination + 1 < network.block.last := by
  have bounds := usable_bounds short
  have slot := tunnelSlot_lt short destination
  have last : network.block.last = network.firstAddress.toNat +
      (2 ^ (32 - network.networkLength) - 1) := rfl
  have end_ := network.block_last_lt
  rw [tunnelIp_eq short, UInt32.toNat_add, UInt32.toNat_ofNat_of_lt' (show _ < 2 ^ 32 by omega)]
  refine ⟨?_, by omega⟩
  rw [Nat.mod_eq_of_lt (by omega), Nat.add_assoc]

theorem tunnelIp_eq_iff (short : network.networkLength ≤ 30) (a b : AddressHash) :
    tunnelIp network a = tunnelIp network b ↔ tunnelSlot network a = tunnelSlot network b := by
  have bounds := usable_bounds short
  have left := tunnelSlot_lt short a
  have right := tunnelSlot_lt short b
  rw [tunnelIp_eq short, tunnelIp_eq short, UInt32.add_right_inj]
  refine ⟨?_, fun same => by rw [same]⟩
  intro same
  have number := congrArg UInt32.toNat same
  rw [UInt32.toNat_ofNat_of_lt' (show _ < 2 ^ 32 by omega),
    UInt32.toNat_ofNat_of_lt' (show _ < 2 ^ 32 by omega)] at number
  omega

end Slot

/-! ### A registry of derived addresses -/

/-- A registry as the runtime fills it: each peer under its hash, at the address of that hash. -/
structure PeerRegistry.Created (env : VpnEnv) (network : Ipv4Cidr) (registry : PeerRegistry) :
    Prop where
  filed : registry.Filed
  derived : ∀ hash peer, registry.get hash = some peer →
    deriveTunnelIp env network hash = .ok peer.tunnelIp

/-- Every remote peer is reached at its own address, which is not the node's, and no iteration
order of the maps shows in what an address resolves to. -/
structure TunnelsResolve (destination : AddressHash) (localTunnelIp : Ipv4Addr)
    (registry : PeerRegistry) (now : Nat) : Prop where
  reached : ∀ claimed order hash peer, registry.get hash = some peer → hash ≠ destination →
    (RouteTable.build claimed (PeerRegistry.all order registry) now destination
      localTunnelIp).resolve peer.tunnelIp = some hash ∧ peer.tunnelIp ≠ localTunnelIp
  stable : ∀ claimed claimed' order order' ip,
    (RouteTable.build claimed (PeerRegistry.all order registry) now destination
      localTunnelIp).resolve ip =
    (RouteTable.build claimed' (PeerRegistry.all order' registry) now destination
      localTunnelIp).resolve ip

theorem deriveTunnelIp_ok {env : VpnEnv} {network : Ipv4Cidr} {destination : AddressHash}
    {ip : Ipv4Addr} (derived : deriveTunnelIp env network destination = .ok ip) :
    ip = tunnelIp network destination := by
  unfold deriveTunnelIp at derived
  split at derived
  · cases derived
  · exact (Except.ok.inj derived).symm

namespace PeerRegistry.Created

variable {env : VpnEnv} {network : Ipv4Cidr} {registry : PeerRegistry}

theorem empty : Created env network ∅ where
  filed _ _ found := by cases found
  derived _ _ found := by cases found

theorem insert (created : registry.Created env network) {peer : Peer}
    (derived : deriveTunnelIp env network peer.hash = .ok peer.tunnelIp) :
    (registry.insert peer).Created env network := by
  refine ⟨?_, ?_⟩
  · intro hash other found
    rw [get_insert] at found
    split at found
    · rename_i same
      rw [same, Option.some.inj found]
    · exact created.filed hash other found
  · intro hash other found
    rw [get_insert] at found
    split at found
    · rename_i same
      rw [same, ← Option.some.inj found]
      exact derived
    · exact created.derived hash other found

theorem mono (created : registry.Created env network) {other : PeerRegistry}
    (kept : ∀ hash peer, other.get hash = some peer → registry.get hash = some peer) :
    other.Created env network :=
  ⟨fun hash peer found => created.filed hash peer (kept hash peer found),
    fun hash peer found => created.derived hash peer (kept hash peer found)⟩

theorem seedPeers (created : registry.Created env network) (destination : AddressHash)
    (hashes : List AddressHash) :
    (Vpn.seedPeers env network destination hashes registry).1.Created env network := by
  induction hashes generalizing registry with
  | nil => exact created
  | cons hash rest ih =>
    unfold Vpn.seedPeers
    split
    · exact ih created
    · split
      · exact created
      · rename_i derived
        exact ih (created.insert derived)

end PeerRegistry.Created

/-- What a start leaves is such a registry, beside the node's own derived address. -/
theorem VpnRuntime.start_created {env : VpnEnv} {hex : Text.Codec AddressHash} {boot : Boot}
    {config : VpnConfig} {host : Host} {after : VpnRuntime × Host}
    (started : start env hex boot config host = .ok after) :
    deriveTunnelIp env config.network boot.destination = .ok after.1.localTunnelIp ∧
      after.1.peers.Created env config.network := by
  obtain ⟨hashes, rt, seeded, derived, network, destination, _, rfl⟩ := start_built started
  obtain ⟨_, _, _, _, same⟩ := syncRoutes_frame env boot.platform (rt.rebuildRouter env boot.now) host
  rw [same]
  have empty : PeerRegistry.Created env config.network ∅ := .empty
  exact ⟨derived, seeded ▸ empty.seedPeers boot.destination hashes⟩

section Registry

variable {env : VpnEnv} {network : Ipv4Cidr} {destination : AddressHash}
  {localTunnelIp : Ipv4Addr} {registry : PeerRegistry}

theorem PeerRegistry.mem_of_get {hash : AddressHash} {peer : Peer}
    (found : registry.get hash = some peer) : hash ∈ registry := by
  rw [← AList.lookup_isSome, ← PeerRegistry.get, found]
  rfl

theorem PeerRegistry.Created.tunnelIps_nodup (created : registry.Created env network)
    (short : network.networkLength ≤ 30)
    (apart : Set.InjOn (tunnelSlot network) {hash | hash = destination ∨ hash ∈ registry})
    (order : HashMap.IterOrder AddressHash Peer) :
    ((PeerRegistry.all order registry).map Peer.tunnelIp).Nodup := by
  have hashes : ((PeerRegistry.all order registry).map Peer.hash).Nodup :=
    PeerRegistry.all_hashes_nodup created.filed
  refine List.Nodup.map_on ?_ (List.Nodup.of_map _ hashes)
  intro p left q right same
  have foundP := (PeerRegistry.mem_all created.filed).mp left
  have foundQ := (PeerRegistry.mem_all created.filed).mp right
  rw [deriveTunnelIp_ok (created.derived _ p foundP),
    deriveTunnelIp_ok (created.derived _ q foundQ), tunnelIp_eq_iff short] at same
  have hash := apart (Or.inr (PeerRegistry.mem_of_get foundP))
    (Or.inr (PeerRegistry.mem_of_get foundQ)) same
  rw [hash, foundQ] at foundP
  exact (Option.some.inj foundP).symm

/-- A hash with the slot of the node is the node's. -/
theorem PeerRegistry.Created.own_slot {now : Nat} (created : registry.Created env network)
    (short : network.networkLength ≤ 30) (ownIp : localTunnelIp = tunnelIp network destination)
    (resolves : TunnelsResolve destination localTunnelIp registry now) {hash : AddressHash}
    (member : hash ∈ registry) (same : tunnelSlot network hash = tunnelSlot network destination) :
    hash = destination := by
  obtain ⟨peer, found⟩ := Option.isSome_iff_exists.mp (AList.lookup_isSome.mpr member)
  by_contra remote
  apply (resolves.reached .entries .entries hash peer found remote).2
  rw [deriveTunnelIp_ok (created.derived hash peer found), ownIp]
  exact (tunnelIp_eq_iff short hash destination).mpr same

/-- Two remote peers with one slot have one address, which resolves to one of them. -/
theorem PeerRegistry.Created.remote_slot {now : Nat} (created : registry.Created env network)
    (short : network.networkLength ≤ 30)
    (resolves : TunnelsResolve destination localTunnelIp registry now) {a b : AddressHash}
    (memberA : a ∈ registry) (memberB : b ∈ registry) (remoteA : a ≠ destination)
    (remoteB : b ≠ destination) (same : tunnelSlot network a = tunnelSlot network b) : a = b := by
  obtain ⟨p, foundP⟩ := Option.isSome_iff_exists.mp (AList.lookup_isSome.mpr memberA)
  obtain ⟨q, foundQ⟩ := Option.isSome_iff_exists.mp (AList.lookup_isSome.mpr memberB)
  have toA := (resolves.reached .entries .entries a p foundP remoteA).1
  have toB := (resolves.reached .entries .entries b q foundQ remoteB).1
  have shared : p.tunnelIp = q.tunnelIp := by
    rw [deriveTunnelIp_ok (created.derived a p foundP),
      deriveTunnelIp_ok (created.derived b q foundQ)]
    exact (tunnelIp_eq_iff short a b).mpr same
  rw [shared, toB] at toA
  exact (Option.some.inj toA).symm

theorem PeerRegistry.Created.slots_of_resolve {now : Nat} (created : registry.Created env network)
    (short : network.networkLength ≤ 30) (ownIp : localTunnelIp = tunnelIp network destination)
    (resolves : TunnelsResolve destination localTunnelIp registry now) :
    Set.InjOn (tunnelSlot network) {hash | hash = destination ∨ hash ∈ registry} := by
  intro a memberA b memberB same
  by_cases mine : a = destination
  · rcases memberB with rfl | memberB
    · exact mine
    · rw [mine] at same ⊢
      exact (created.own_slot short ownIp resolves memberB same.symm).symm
  have knownA : a ∈ registry := memberA.resolve_left mine
  by_cases mine' : b = destination
  · rw [mine'] at same ⊢
    exact created.own_slot short ownIp resolves knownA same
  · exact created.remote_slot short resolves knownA (memberB.resolve_left mine') mine mine' same

theorem PeerRegistry.Created.resolve_of_slots (created : registry.Created env network)
    (short : network.networkLength ≤ 30) (ownIp : localTunnelIp = tunnelIp network destination)
    (apart : Set.InjOn (tunnelSlot network) {hash | hash = destination ∨ hash ∈ registry})
    (now : Nat) : TunnelsResolve destination localTunnelIp registry now := by
  have hashes : ∀ order, ((PeerRegistry.all order registry).map Peer.hash).Nodup :=
    fun order => PeerRegistry.all_hashes_nodup created.filed
  have ips := created.tunnelIps_nodup short apart
  refine ⟨?_, ?_⟩
  · intro claimed order hash peer found remote
    have hashEq := created.filed hash peer found
    refine ⟨?_, ?_⟩
    · rw [RouteTable.resolve_build _ _ _ _ _ _ _ (hashes order) (ips order)]
      refine Or.inl ⟨peer, (PeerRegistry.mem_all created.filed).mpr ?_, ?_, rfl, hashEq⟩
      · rw [hashEq]
        exact found
      · rw [hashEq]
        exact remote
    · rw [deriveTunnelIp_ok (created.derived hash peer found), ownIp, ne_eq, tunnelIp_eq_iff short]
      intro same
      exact remote (apart (Or.inr (PeerRegistry.mem_of_get found)) (Or.inl rfl) same)
  · intro claimed claimed' order order' ip
    have members : ∀ p, p ∈ PeerRegistry.all order registry ↔ p ∈ PeerRegistry.all order' registry :=
      fun p => (PeerRegistry.mem_all created.filed).trans (PeerRegistry.mem_all created.filed).symm
    refine Option.ext fun owner => ?_
    rw [RouteTable.resolve_build _ _ _ _ _ _ _ (hashes order) (ips order),
      RouteTable.resolve_build _ _ _ _ _ _ _ (hashes order') (ips order'),
      forwardsTo_congr members]

/-- Tunnel addresses resolve to their peers if and only if the hashes of the node and of all
registered peers have slots of their own. -/
theorem tunnelsResolve_iff (env : VpnEnv) (hex : Text.Codec AddressHash) (config : VpnConfig)
    (accepted : config.Accepted env hex) (destination : AddressHash) (localTunnelIp : Ipv4Addr)
    (derived : deriveTunnelIp env config.network destination = .ok localTunnelIp)
    (registry : PeerRegistry) (created : registry.Created env config.network) (now : Nat) :
    TunnelsResolve destination localTunnelIp registry now ↔
      Set.InjOn (tunnelSlot config.network) {hash | hash = destination ∨ hash ∈ registry} := by
  have short := (VpnConfig.accepted_iff.mp accepted).1
  have ownIp := deriveTunnelIp_ok derived
  constructor
  · intro resolves
    exact created.slots_of_resolve short ownIp resolves
  · intro apart
    exact created.resolve_of_slots short ownIp apart now

end Registry

/-! ### Two hashes, one number -/

def shortHash (a b : UInt8) : AddressHash := ⟨List.replicate 14 0 ++ [a, b], rfl⟩

def transitConfig : VpnConfig where
  network := .net16 10 20
  allowAllPeers := true
  peers := []
  advertisedRoutes := []

def registryOf (network : Ipv4Cidr) (hashes : List AddressHash) : PeerRegistry :=
  hashes.foldl (fun registry hash =>
    registry.insert (.new hash (tunnelIp network hash) .discovered)) ∅

theorem registryOf_created {env : VpnEnv} {network : Ipv4Cidr}
    (short : network.networkLength ≤ 30) (hashes : List AddressHash) :
    (registryOf network hashes).Created env network := by
  refine List.foldlRecOn hashes _ (motive := fun registry : PeerRegistry => registry.Created env network) .empty ?_
  intro registry created hash _
  refine created.insert ?_
  rw [deriveTunnelIp, validateNetwork_of_le short]
  rfl

theorem mem_registryOf {network : Ipv4Cidr} {hashes : List AddressHash} {hash : AddressHash}
    (member : hash ∈ registryOf network hashes) : hash ∈ hashes := by
  revert member
  refine List.foldlRecOn hashes _
    (motive := fun registry : PeerRegistry => hash ∈ registry → hash ∈ hashes) ?_ ?_
  · intro member
    cases member
  · intro registry known other present member
    rcases AList.mem_insert _ |>.mp member with rfl | before
    · exact present
    · exact known before

def nodeHash : AddressHash := shortHash 0 0

theorem tunnelsResolve_apart :
    TunnelsResolve nodeHash (.new 10 20 0 1)
      (registryOf (.net16 10 20) [shortHash 0 1, shortHash 0 2]) 0 := by
  refine (tunnelsResolve_iff SyncCall.plainEnv AddressHash.hexCodec transitConfig
    (VpnConfig.accepted_iff.mpr ⟨by decide, by simp [transitConfig]⟩) nodeHash (.new 10 20 0 1)
    (by decide) _ (registryOf_created (by decide) [shortHash 0 1, shortHash 0 2]) 0).mpr ?_
  have apart : ∀ a ∈ [nodeHash, shortHash 0 1, shortHash 0 2],
      ∀ b ∈ [nodeHash, shortHash 0 1, shortHash 0 2],
        tunnelSlot transitConfig.network a = tunnelSlot transitConfig.network b → a = b := by decide
  have listed : ∀ hash, hash = nodeHash ∨
      hash ∈ registryOf (.net16 10 20) [shortHash 0 1, shortHash 0 2] →
        hash ∈ [nodeHash, shortHash 0 1, shortHash 0 2] := by
    rintro hash (rfl | member)
    · exact List.mem_cons_self
    · exact List.mem_cons_of_mem _ (mem_registryOf member)
  exact fun a left b right => apart a (listed a left) b (listed b right)

/-- 1 and 0 make the same number in base 131 as 0 and 131, in every network. -/
theorem tunnelsResolve_twins :
    (registryOf (.net16 10 20) [shortHash 1 0, shortHash 0 131]).Created SyncCall.plainEnv
      (.net16 10 20) ∧
    ¬ TunnelsResolve nodeHash (.new 10 20 0 1)
      (registryOf (.net16 10 20) [shortHash 1 0, shortHash 0 131]) 0 := by
  refine ⟨registryOf_created (by decide) _, ?_⟩
  intro resolves
  have stable := resolves.stable .entries .entries .entries .backwards (.new 10 20 0 132)
  revert stable
  decide

end Kaonic.Vpn
