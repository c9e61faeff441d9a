import Kaonic.Base.Text
import Kaonic.Base.Traverse
import Kaonic.Vpn.KernelSync
import Kaonic.Vpn.LocalRoutes

/-!
# Access policy and advertised routes

How the runtime takes its configuration, at its start and while it runs. The hash texts are read
and written by the transport's library.
-/

namespace Kaonic.Vpn
open Net

inductive VpnRuntimeError where
  | config (m : String)
  | io (err : String)
  | tun (m : String)
  deriving DecidableEq

def VpnRuntimeError.display : VpnRuntimeError → String
  | .config m => m
  | .io err => err
  | .tun m => m

structure VpnConfig where
  network : Ipv4Cidr
  allowAllPeers : Bool
  peers : List String
  advertisedRoutes : List Ipv4Cidr

/-! ### Config parsing -/

/-- `parse_configured_peers`: the hashes in the order of their texts. The set the source collects
is the `toFinset` of this list. -/
def parseConfiguredPeers (hex : Text.Codec AddressHash) (peers : List String) :
    Except VpnRuntimeError (List AddressHash) :=
  peers.mapM fun p =>
    match hex.parse p with
    | .ok hash => .ok hash
    | .error err => .error (.config ("invalid peer '" ++ p ++ "': " ++ err))

def validateNetwork (env : VpnEnv) (network : Ipv4Cidr) : Except VpnRuntimeError Unit :=
  if network.networkLength > 30 then
    .error (.config ("vpn network " ++ env.display network ++ " must have at least 2 host bits"))
  else .ok ()

/-- The address `derive_tunnel_ip` computes once the network is validated. -/
def tunnelIp (network : Ipv4Cidr) (destination : AddressHash) : Ipv4Addr :=
  let hostBits := UInt64.ofNat (32 - network.networkLength)
  let usable : UInt64 := (1 <<< hostBits) - 2
  let seed : UInt64 := destination.bytes.foldl (fun seed byte => seed * 131 + byte.toUInt64) 0
  let offset := seed % usable + 1
  network.firstAddress + offset.toUInt32

def deriveTunnelIp (env : VpnEnv) (network : Ipv4Cidr) (destination : AddressHash) :
    Except VpnRuntimeError Ipv4Addr :=
  match validateNetwork env network with
  | .error err => .error err
  | .ok _ => .ok (tunnelIp network destination)

/-- The loop that gives each hash without a peer a configured one. Hashes that occur again find
their peer, so the list does what the set does. -/
def seedPeers (env : VpnEnv) (network : Ipv4Cidr) (destination : AddressHash) :
    List AddressHash → PeerRegistry → PeerRegistry × Except VpnRuntimeError Unit
  | [], peers => (peers, .ok ())
  | hash :: rest, peers =>
    if hash = destination ∨ (peers.get hash).isSome then seedPeers env network destination rest peers
    else
      match deriveTunnelIp env network hash with
      | .error err => (peers, .error err)
      | .ok ip =>
        seedPeers env network destination rest (peers.insert (.new hash ip .configured))

/-- The loop that takes away every peer, and its link, that is neither local nor allowed. -/
def removeUnlisted (destination : AddressHash) (allowed : Finset AddressHash) (all : List Peer)
    (peers : PeerRegistry) (outLinks : LinkRegistry) : PeerRegistry × LinkRegistry :=
  all.foldl (fun (peers, outLinks) peer =>
    if peer.hash = destination ∨ peer.hash ∈ allowed then (peers, outLinks)
    else (peers.remove peer.hash, AList.erase peer.hash outLinks)) (peers, outLinks)

namespace VpnRuntime

def replacePeerPolicy (env : VpnEnv) (hex : Text.Codec AddressHash) (platform : Platform)
    (now : Nat) (allowAllPeers : Bool) (peers : List String) (rt : VpnRuntime) (host : Host) :
    (VpnRuntime × Host) × Except VpnRuntimeError Unit :=
  match parseConfiguredPeers hex peers with
  | .error err => ((rt, host), .error err)
  | .ok hashes =>
    let allowed := hashes.toFinset
    let rt := { rt with allowAllPeers, allowedPeers := allowed, lastError := none }
    match seedPeers env rt.network rt.destination hashes rt.peers with
    | (peers, .error err) => (({ rt with peers }, host), .error err)
    | (peers, .ok _) =>
      let all := PeerRegistry.all env.registry peers
      let kept := if allowAllPeers then (peers, rt.outLinks)
        else removeUnlisted rt.destination allowed all peers rt.outLinks
      let rt := { rt with peers := kept.1, outLinks := kept.2 }
      ((rt.rebuildRouter env now).syncRoutes env platform host, .ok ())

def replaceAdvertisedRoutes (env : VpnEnv) (platform : Platform) (ifaces : List Interface)
    (routes : List Ipv4Cidr) (rt : VpnRuntime) (host : Host) : VpnRuntime × Host :=
  let discovered := discoverLocalRoutes rt.interfaceName ifaces
  let rt := { rt with
    advertisedRoutes := routes
    localRoutes := mergeRoutes discovered routes
    lastError := none }
  rt.syncRoutes env platform host

/-- What a start gets from outside: the destination that the transport registers, the TUN, and how
the host takes its setup. -/
structure Boot where
  destination : AddressHash
  openTun : Except String (Option String)
  configureTun : Except String Unit
  enableForwarding : Except String Unit
  routeAliasing : Bool
  ifaces : List Interface
  platform : Platform
  now : Nat

/-- The interface, set up for the tunnel address, or none without a TUN. -/
def Boot.attach (boot : Boot) : Except VpnRuntimeError (Option String) := do
  let interfaceName ← boot.openTun.mapError .io
  if interfaceName.isSome then
    boot.configureTun.mapError .io
    boot.enableForwarding.mapError .io
  return interfaceName

/-- `VpnRuntime::start`, up to the tasks that it spawns. -/
def start (env : VpnEnv) (hex : Text.Codec AddressHash) (boot : Boot) (config : VpnConfig)
    (host : Host) : Except VpnRuntimeError (VpnRuntime × Host) := do
  validateNetwork env config.network
  let configured ← parseConfiguredPeers hex config.peers
  let localTunnelIp ← deriveTunnelIp env config.network boot.destination
  let interfaceName ← boot.attach
  let discovered := discoverLocalRoutes interfaceName boot.ifaces
  let (peers, seeded) := seedPeers env config.network boot.destination configured ∅
  seeded
  let rt : VpnRuntime :=
    { destination := boot.destination
      network := config.network
      localTunnelIp
      interfaceName
      routeAliasingEnabled := boot.routeAliasing
      status := if interfaceName.isSome then .running else .mock
      peers
      allowAllPeers := config.allowAllPeers
      allowedPeers := configured.toFinset
      advertisedRoutes := config.advertisedRoutes
      localRoutes := mergeRoutes discovered config.advertisedRoutes }
  return (rt.rebuildRouter env boot.now).syncRoutes env boot.platform host

end VpnRuntime

/-! ### What parses -/

section Parse

variable {env : VpnEnv} {hex : Text.Codec AddressHash} {network : Ipv4Cidr} {peers : List String}
  {hashes : List AddressHash}

theorem validateNetwork_ok : (validateNetwork env network).isOk = true ↔
    network.networkLength ≤ 30 := by
  unfold validateNetwork
  split
  · rename_i long
    refine ⟨?_, fun short => by omega⟩
    intro ok
    cases ok
  · rename_i short
    exact ⟨fun _ => by omega, fun _ => rfl⟩

theorem validateNetwork_of_le (short : network.networkLength ≤ 30) :
    validateNetwork env network = .ok () := if_neg (by omega)

theorem parseConfiguredPeers_isOk : (parseConfiguredPeers hex peers).isOk = true ↔
    ∀ p ∈ peers, (hex.parse p).isOk = true := by
  rw [parseConfiguredPeers, Traverse.mapM_isOk]
  refine forall₂_congr fun p _ => ?_
  cases hex.parse p <;> rfl

theorem mem_parseConfiguredPeers (read : parseConfiguredPeers hex peers = .ok hashes)
    {hash : AddressHash} : hash ∈ hashes ↔ ∃ p ∈ peers, hex.parse p = .ok hash := by
  rw [Traverse.mem_mapM read]
  refine exists_congr fun p => and_congr_right fun _ => ?_
  cases hex.parse p <;> simp

theorem toFinset_parseConfiguredPeers {other : List String} {others : List AddressHash}
    (same : ∀ p, p ∈ peers ↔ p ∈ other) (read : parseConfiguredPeers hex peers = .ok hashes)
    (readOther : parseConfiguredPeers hex other = .ok others) :
    hashes.toFinset = others.toFinset := by
  ext hash
  simp only [List.mem_toFinset, mem_parseConfiguredPeers read, mem_parseConfiguredPeers readOther,
    same]

end Parse

/-- The checks in front of everything else that a start does. -/
def VpnConfig.Accepted (env : VpnEnv) (hex : Text.Codec AddressHash) (config : VpnConfig) : Prop :=
  (validateNetwork env config.network).isOk = true ∧
    (parseConfiguredPeers hex config.peers).isOk = true

theorem VpnConfig.accepted_iff {env : VpnEnv} {hex : Text.Codec AddressHash} {config : VpnConfig} :
    config.Accepted env hex ↔
      config.network.networkLength ≤ 30 ∧ ∀ p ∈ config.peers, (hex.parse p).isOk = true :=
  and_congr validateNetwork_ok parseConfiguredPeers_isOk

/-! ### What the runtime enforces -/

structure AccessPolicy where
  allowAllPeers : Bool
  allowedPeers : Finset AddressHash
  deriving DecidableEq

/-- The part of a configuration that the running VPN goes by. -/
structure Enforced where
  network : Ipv4Cidr
  policy : AccessPolicy
  advertisedRoutes : List Ipv4Cidr
  deriving DecidableEq

namespace VpnRuntime

def enforced (rt : VpnRuntime) : Enforced :=
  ⟨rt.network, ⟨rt.allowAllPeers, rt.allowedPeers⟩, rt.advertisedRoutes⟩

variable {env : VpnEnv} {hex : Text.Codec AddressHash} {platform : Platform} {now : Nat}
  {rt : VpnRuntime} {host : Host}

theorem enforced_syncRoutes : (rt.syncRoutes env platform host).1.enforced = rt.enforced := by
  obtain ⟨_, _, _, _, same⟩ := syncRoutes_frame env platform rt host
  rw [same]
  rfl

theorem seedPeers_ok {network : Ipv4Cidr} (short : network.networkLength ≤ 30)
    (destination : AddressHash) (hashes : List AddressHash) (peers : PeerRegistry) :
    (seedPeers env network destination hashes peers).2 = .ok () := by
  induction hashes generalizing peers with
  | nil => rfl
  | cons hash rest ih =>
    unfold seedPeers
    split
    · exact ih peers
    · rw [deriveTunnelIp, validateNetwork_of_le short]
      exact ih _

theorem replacePeerPolicy_invalid {allowAllPeers : Bool} {peers : List String}
    {err : VpnRuntimeError} (invalid : parseConfiguredPeers hex peers = .error err) :
    rt.replacePeerPolicy env hex platform now allowAllPeers peers host = ((rt, host), .error err) := by
  rw [replacePeerPolicy, invalid]

theorem replacePeerPolicy_valid (short : rt.network.networkLength ≤ 30) {allowAllPeers : Bool}
    {peers : List String} {hashes : List AddressHash}
    (valid : parseConfiguredPeers hex peers = .ok hashes) :
    (rt.replacePeerPolicy env hex platform now allowAllPeers peers host).2 = .ok () := by
  have seeded := @seedPeers_ok env rt.network short rt.destination hashes rt.peers
  unfold replacePeerPolicy
  rw [valid]
  dsimp only
  split
  · rename_i failed
    rw [failed] at seeded
    cases seeded
  · rfl

theorem enforced_replacePeerPolicy {allowAllPeers : Bool} {peers : List String}
    (taken : (rt.replacePeerPolicy env hex platform now allowAllPeers peers host).2 = .ok ()) :
    ∃ hashes, parseConfiguredPeers hex peers = .ok hashes ∧
      (rt.replacePeerPolicy env hex platform now allowAllPeers peers host).1.1.enforced =
        { rt.enforced with policy := ⟨allowAllPeers, hashes.toFinset⟩ } := by
  unfold replacePeerPolicy at taken ⊢
  cases read : parseConfiguredPeers hex peers with
  | error err =>
    rw [read] at taken
    cases taken
  | ok hashes =>
    refine ⟨hashes, rfl, ?_⟩
    rw [read] at taken
    dsimp only at taken ⊢
    split at taken
    · cases taken
    · exact enforced_syncRoutes

theorem enforced_replaceAdvertisedRoutes (ifaces : List Interface) (routes : List Ipv4Cidr) :
    (rt.replaceAdvertisedRoutes env platform ifaces routes host).1.enforced =
      { rt.enforced with advertisedRoutes := routes } := enforced_syncRoutes

/-- A start gets through only with a configuration that it accepts, and enforces it. -/
theorem start_ok {boot : Boot} {config : VpnConfig} {after : VpnRuntime × Host}
    (started : start env hex boot config host = .ok after) :
    config.Accepted env hex ∧ ∃ hashes, parseConfiguredPeers hex config.peers = .ok hashes ∧
      after.1.enforced =
        ⟨config.network, ⟨config.allowAllPeers, hashes.toFinset⟩, config.advertisedRoutes⟩ := by
  obtain ⟨_, validated, started⟩ := Traverse.bind_eq_ok.mp started
  obtain ⟨hashes, parsed, started⟩ := Traverse.bind_eq_ok.mp started
  obtain ⟨_, _, started⟩ := Traverse.bind_eq_ok.mp started
  obtain ⟨_, _, started⟩ := Traverse.bind_eq_ok.mp started
  obtain ⟨_, _, done⟩ := Traverse.bind_eq_ok.mp started
  refine ⟨⟨by rw [validated]; rfl, by rw [parsed]; rfl⟩, hashes, parsed, ?_⟩
  obtain rfl := Except.ok.inj done
  exact enforced_syncRoutes

/-- A start ends with the configured peers, a first table and a first call of the kernel. -/
theorem start_built {boot : Boot} {config : VpnConfig} {after : VpnRuntime × Host}
    (started : start env hex boot config host = .ok after) :
    ∃ (hashes : List AddressHash) (rt : VpnRuntime),
      rt.peers = (seedPeers env config.network boot.destination hashes ∅).1 ∧
      deriveTunnelIp env config.network boot.destination = .ok rt.localTunnelIp ∧
      rt.network = config.network ∧ rt.destination = boot.destination ∧
      rt.status = (if rt.interfaceName.isSome then .running else .mock) ∧
      (rt.rebuildRouter env boot.now).syncRoutes env boot.platform host = after := by
  obtain ⟨_, _, started⟩ := Traverse.bind_eq_ok.mp started
  obtain ⟨hashes, _, started⟩ := Traverse.bind_eq_ok.mp started
  obtain ⟨ip, derived, started⟩ := Traverse.bind_eq_ok.mp started
  obtain ⟨_, _, started⟩ := Traverse.bind_eq_ok.mp started
  obtain ⟨_, _, done⟩ := Traverse.bind_eq_ok.mp started
  exact ⟨hashes, _, rfl, derived, rfl, rfl, rfl, Except.ok.inj done⟩

end VpnRuntime

end Kaonic.Vpn
