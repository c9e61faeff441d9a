import Kaonic.Base.Machine
import Kaonic.Base.Register
import Kaonic.Vpn.LinkData
import Kaonic.Vpn.TunnelAddress

/-!
# Operations of the running VPN

Announces, frames from links, changes of the configuration and the route expiry of the watchdog,
each as one step of the runtime and its host.
-/

namespace Kaonic.Vpn
open Net

/-- `PeerRegistry::get_or_create`. -/
def PeerRegistry.getOrCreate (r : PeerRegistry) (peer : Peer) : PeerRegistry :=
  if (r.get peer.hash).isSome then r else r.insert peer

namespace VpnRuntime

def peerAllowed (rt : VpnRuntime) (hash : AddressHash) : Bool :=
  if hash = rt.destination then false else rt.allowAllPeers || decide (hash ∈ rt.allowedPeers)

def handlePeerAnnounce (env : VpnEnv) (platform : Platform) (now : Nat) (desc : DestinationDesc)
    (routes : List Ipv4Cidr) (rt : VpnRuntime) (host : Host) : (VpnRuntime × Host) × Bool :=
  let hash := desc.addressHash
  if hash = rt.destination then ((rt, host), false)
  else if !rt.peerAllowed hash then ((rt, host), false)
  else
    match deriveTunnelIp env rt.network hash with
    | .error _ => ((rt, host), false)
    | .ok tunnelIp =>
      let rt := { rt with peers := rt.peers.getOrCreate (.new hash tunnelIp .discovered) }
      let rt := rt.updatePeer hash fun peer =>
        { peer with
          desc := some desc
          lastSeenTs := now
          routeExpiresTs := now + routeGraceSecs
          routes
          lastError := none }
      ((rt.rebuildRouter env now).syncRoutes env platform host, true)

def routesExpired (now : Nat) (peer : Peer) : Bool :=
  decide (peer.routeExpiresTs ≠ 0 ∧ peer.routeExpiresTs ≤ now ∧ peer.routes ≠ [])

/-- The watchdog at one peer: routes that have outlived their grace are taken away. -/
def expireStep (now : Nat) : VpnRuntime × Bool → Peer → VpnRuntime × Bool
  | (rt, routesChanged), peer =>
    if peer.hash = rt.destination then (rt, routesChanged)
    else if routesExpired now peer then
      (rt.updatePeer peer.hash fun peer => { peer with routes := [] }, true)
    else (rt, routesChanged)

def expireRoutes (now : Nat) (peers : List Peer) (rt : VpnRuntime) : VpnRuntime × Bool :=
  peers.foldl (expireStep now) (rt, false)

/-- A tick of the watchdog, as far as it concerns routes. -/
def watchdogTick (env : VpnEnv) (platform : Platform) (now : Nat) (rt : VpnRuntime) (host : Host) :
    VpnRuntime × Host :=
  match rt.expireRoutes now (PeerRegistry.all env.registry rt.peers) with
  | (rt, true) => (rt.rebuildRouter env now).syncRoutes env platform host
  | (rt, false) => (rt, host)

/-- Routes that a peer's announce or control frame has set, and when. -/
structure RouteFrame where
  owner : AddressHash
  routes : List Ipv4Cidr
  at_ : Nat
  deriving DecidableEq

def RouteFrame.latest (frames : List RouteFrame) (owner : AddressHash) : Option RouteFrame :=
  Register.lastWrite (fun f => if f.owner = owner then some f else none) frames

/-- The operations, with the clock at the time and the outcome of what they call. -/
inductive Op where
  | announce (platform : Platform) (now : Nat) (desc : DestinationDesc) (routes : List Ipv4Cidr)
  | linkData (platform : Platform) (tunSend : Except String Unit) (now : Nat)
      (senderHint : Option AddressHash) (data : List UInt8)
  | replacePeerPolicy (platform : Platform) (now : Nat) (allowAllPeers : Bool) (peers : List String)
  | replaceAdvertisedRoutes (platform : Platform) (ifaces : List Interface)
      (routes : List Ipv4Cidr)
  | watchdog (platform : Platform) (now : Nat)

/-- The routes of a Hello or Routes frame from a registered peer. -/
def acceptedFrame (reader : FrameReader) (now : Nat) (senderHint : Option AddressHash)
    (data : List UInt8) (rt : VpnRuntime) : Option RouteFrame :=
  if isCtrl data then
    match senderHint with
    | none => none
    | some hash =>
      match decodeCtrl reader.ctrlBody data with
      | .ok (.hello routes) | .ok (.routes routes) =>
        if (rt.peers.get hash).isSome then
          some ⟨hash, routes.filterMap fun s => s.toCidr.toOption, now⟩
        else none
      | .ok .ping | .error _ => none
  else none

/-- The runtime as a machine that answers with the route frame it accepts. -/
def machine (env : VpnEnv) (hex : Text.Codec AddressHash) (reader : FrameReader) :
    Machine (VpnRuntime × Host) Op (Option RouteFrame) where
  step s
    | .announce platform now desc routes =>
      let r := s.1.handlePeerAnnounce env platform now desc routes s.2
      (r.1, if r.2 then some ⟨desc.addressHash, routes, now⟩ else none)
    | .linkData platform tunSend now senderHint data =>
      (s.1.handleLinkData env reader platform tunSend now senderHint data s.2,
        s.1.acceptedFrame reader now senderHint data)
    | .replacePeerPolicy platform now allowAllPeers peers =>
      ((s.1.replacePeerPolicy env hex platform now allowAllPeers peers s.2).1, none)
    | .replaceAdvertisedRoutes platform ifaces routes =>
      (s.1.replaceAdvertisedRoutes env platform ifaces routes s.2, none)
    | .watchdog platform now => (s.1.watchdogTick env platform now s.2, none)

end VpnRuntime

end Kaonic.Vpn
