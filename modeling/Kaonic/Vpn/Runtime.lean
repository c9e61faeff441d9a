import Kaonic.Vpn.Router
import Kaonic.Vpn.Translations

/-!
# The VPN runtime

The fields of `VpnRuntime`, its locked part included, and the host it drives: the routes on the
tunnel interface and the frames written to it.
-/

namespace Kaonic.Vpn
open Net

inductive VpnStatus where
  | running | mock | error
  deriving DecidableEq

/-- `LinkRegistry`: a link handle, by number, for each peer. -/
abbrev LinkRegistry := HashMap AddressHash Nat

structure VpnRuntime where
  destination : AddressHash
  network : Ipv4Cidr
  localTunnelIp : Ipv4Addr
  interfaceName : Option String
  routeAliasingEnabled : Bool
  status : VpnStatus
  metrics : Metrics := {}
  peers : PeerRegistry := ∅
  router : RouteTable := {}
  outLinks : LinkRegistry := ∅
  allowAllPeers : Bool
  allowedPeers : Finset AddressHash
  advertisedRoutes : List Ipv4Cidr
  localRoutes : List Ipv4Cidr
  installedRoutes : Finset String := ∅
  conflictedRoutes : Finset String := ∅
  lastError : Option String := none

structure Host where
  routes : Finset String := ∅
  frames : List (List UInt8) := []

/-- What the runtime does not decide: how a network prints, and in which order its hash maps
are iterated. -/
structure VpnEnv where
  display : Ipv4Cidr → String
  claimed : HashMap.IterOrder Ipv4Cidr AddressHash := default
  registry : HashMap.IterOrder AddressHash Peer := default

namespace VpnRuntime

def setError (rt : VpnRuntime) (msg : String) : VpnRuntime :=
  { rt with lastError := some msg, status := .error }

def rebuildRouter (env : VpnEnv) (now : Nat) (rt : VpnRuntime) : VpnRuntime :=
  let peers := PeerRegistry.all env.registry rt.peers
  { rt with router := RouteTable.build env.claimed peers now rt.destination rt.localTunnelIp }

/-- A change to the peer that the registry holds under a hash, if there is one. -/
def updatePeer (rt : VpnRuntime) (hash : AddressHash) (f : Peer → Peer) : VpnRuntime :=
  match rt.peers.get hash with
  | some peer => { rt with peers := AList.insert hash (f peer) rt.peers }
  | none => rt

def recordPeerError (rt : VpnRuntime) (hash : AddressHash) (msg : String) : VpnRuntime :=
  rt.updatePeer hash fun peer => { peer with lastError := some msg }

theorem get_updatePeer (rt : VpnRuntime) (hash : AddressHash) (f : Peer → Peer)
    (other : AddressHash) : (rt.updatePeer hash f).peers.get other =
      if other = hash then (rt.peers.get hash).map f else rt.peers.get other := by
  unfold updatePeer
  cases found : rt.peers.get hash with
  | none =>
    by_cases same : other = hash
    · simp [same, found]
    · simp [same]
  | some peer => exact HashMap.lookup_insert_eq rt.peers hash other (f peer)

def recordDrop (rt : VpnRuntime) : VpnRuntime := { rt with metrics := rt.metrics.recordDrop }

end VpnRuntime

end Kaonic.Vpn
