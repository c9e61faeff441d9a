import Kaonic.Vpn.EndToEnd
import Kaonic.Vpn.Overlay
import Kaonic.Vpn.Snapshot

/-!
# Two LANs in conversation

Hosts behind two nodes that alias their LANs talk to each other, also when both LANs have the same
addresses: a packet finds its way through the tables and packet filters of both nodes, and so does
the answer to it.
-/

namespace Kaonic.Vpn
open Net

/-! ### The way to a peer -/

/-- A remote peer has the network live, alone of all peers and apart from the node's own. -/
structure VpnRuntime.Leads (env : VpnEnv) (clock : Nat) (rt : VpnRuntime) (hash : AddressHash)
    (route : Ipv4Cidr) : Prop where
  held : ∃ peer, rt.peers.get hash = some peer ∧ route ∈ peer.routes ∧
    routesLive peer clock = true
  alone : ∀ other ∈ PeerRegistry.all env.registry rt.peers, routesLive other clock = true →
    other.hash ≠ hash → ∀ r ∈ other.routes, ¬ r.Meets route
  outside : ¬ route.Meets rt.network

section

variable {env : VpnEnv} {hex : Text.Codec AddressHash} {reader : FrameReader} {msgpack : Msgpack}

theorem run_addressed {s : VpnSystem} (short : s.rt.network.networkLength ≤ 30)
    {frames : List VpnRuntime.RouteFrame} (tracked : VpnRuntime.Tracked env s.rt frames)
    (addressed : Addressed s.rt) (events : List Event) :
    Addressed ((system env hex reader msgpack).run s events).rt := by
  induction events generalizing s frames with
  | nil => exact addressed
  | cons e rest ih =>
    obtain ⟨_, next⟩ := @step_tracked env hex reader msgpack s frames tracked e
    exact ih (step_short s short e) next (step_addressed short tracked addressed e)

theorem VpnRuntime.Leads.apart {rt : VpnRuntime} {clock : Nat} {hash : AddressHash}
    {route : Ipv4Cidr} (leads : rt.Leads env clock hash route) {ip : Ipv4Addr}
    (inside : route.contains ip = true) : rt.network.contains ip = false := by
  rw [← Bool.not_eq_true]
  exact fun here => leads.outside ((Ipv4Cidr.meets_iff _ _).mpr ⟨ip, inside, here⟩)

/-- A table that is current gives the addresses of such a network to the peer. -/
theorem VpnRuntime.Leads.resolve {rt : VpnRuntime} {clock : Nat} {hash : AddressHash}
    {route : Ipv4Cidr} (leads : rt.Leads env clock hash route) (filed : rt.peers.Filed)
    (current : rt.Current clock) (addressed : Addressed rt)
    (short : rt.network.networkLength ≤ 30) (own : rt.network.contains rt.localTunnelIp = true)
    {ip : Ipv4Addr} (inside : route.contains ip = true) : rt.router.resolve ip = some hash := by
  obtain ⟨peer, found, held, live⟩ := leads.held
  have hashEq : peer.hash = hash := filed _ _ found
  have indirect : rt.router.tunnelIps.lookup ip = none := by
    cases direct : rt.router.tunnelIps.lookup ip with
    | none => rfl
    | some owner =>
      have derived := addressed ip owner direct
      have within := contains_of_inside (tunnelIp_inside short owner)
      rw [← derived, leads.apart inside] at within
      cases within
  have sole : ∀ other, rt.peers.get other.hash = some other → routesLive other clock = true →
      ∀ r ∈ other.routes, r.Meets route → other.hash = hash := by
    intro other known otherLive r listed meets
    by_contra different
    exact leads.alone other ((PeerRegistry.mem_all filed).mpr known) otherLive different r listed
      meets
  have entry : (route, hash) ∈ rt.router.subnets := by
    refine (current route hash).mpr ⟨peer, found, held, live, ?_, ?_⟩
    · intro other known otherLive listed
      exact (sole other known otherLive route listed route.meets_self).trans hashEq.symm
    · rw [← Bool.not_eq_true]
      intro there
      rw [leads.apart there] at own
      cases own
  unfold RouteTable.resolve
  rw [indirect]
  dsimp only
  cases best : rt.router.subnets.find? fun e => e.1.contains ip with
  | none => exact (List.find?_eq_none.mp best (route, hash) entry inside).elim
  | some e =>
    -- the longest match may be another network of the peer
    obtain ⟨other, known, listed, undisputed⟩ :=
      (current e.1 e.2).mp (List.mem_of_find?_eq_some best)
    have here : e.1.contains ip = true := by simpa using List.find?_some best
    have owner : other.hash = e.2 := filed _ _ known
    rw [Option.map_some, ← owner]
    rw [← owner] at known
    exact congrArg some (sole other known undisputed.live e.1 listed
      ((Ipv4Cidr.meets_iff e.1 route).mpr ⟨ip, here, inside⟩))

end

/-! ### A node with its LANs -/

/-- A node some time after its start. -/
structure NodeRun (hex : Text.Codec AddressHash) (reader : FrameReader) (msgpack : Msgpack) where
  env : VpnEnv
  boot : VpnRuntime.Boot
  config : VpnConfig
  host : Host
  after : VpnRuntime × Host
  started : VpnRuntime.start env hex boot config host = .ok after
  events : List Event

namespace NodeRun

variable {hex : Text.Codec AddressHash} {reader : FrameReader} {msgpack : Msgpack}

def machine (n : NodeRun hex reader msgpack) : Machine VpnSystem Event Fate :=
  system n.env hex reader msgpack

def state (n : NodeRun hex reader msgpack) : VpnSystem := n.machine.run (.started n.after) n.events

def destination (n : NodeRun hex reader msgpack) : AddressHash := n.state.rt.destination

/-- When the node has last rebuilt its table. -/
def clock (n : NodeRun hex reader msgpack) : Nat :=
  lastRebuild n.env hex reader msgpack (.started n.after) n.boot.now n.events

def Leads (n : NodeRun hex reader msgpack) (hash : AddressHash) (route : Ipv4Cidr) : Prop :=
  n.state.rt.Leads n.env n.clock hash route

theorem own (n : NodeRun hex reader msgpack) :
    n.state.rt.network.contains n.state.rt.localTunnelIp = true := by
  have fixed : n.after.1.Fixed n.state.rt := run_fixed _ (started_short n.started) n.events
  have network := started_network n.started
  have short : n.config.network.networkLength ≤ 30 := network ▸ started_short n.started
  have derived : n.after.1.localTunnelIp = tunnelIp n.config.network n.boot.destination :=
    deriveTunnelIp_ok (VpnRuntime.start_created n.started).1
  rw [fixed.network, fixed.localTunnelIp, derived, show n.after.1.network = _ from network]
  exact contains_of_inside (tunnelIp_inside short n.boot.destination)

theorem resolve (n : NodeRun hex reader msgpack) {hash : AddressHash} {route : Ipv4Cidr}
    (leads : n.Leads hash route) {ip : Ipv4Addr} (inside : route.contains ip = true) :
    n.state.rt.router.resolve ip = some hash := by
  obtain ⟨short, _, frames, tracked⟩ :=
    @started_run n.env hex reader msgpack n.boot n.config n.host n.after n.started n.events
  have begun := VpnRuntime.Tracked.start n.started
  have small := started_short n.started
  have current := @run_current n.env hex reader msgpack (.started n.after) small n.boot.now
    (started_current n.started) [] begun n.events
  have addressed := @run_addressed n.env hex reader msgpack (.started n.after) small [] begun
    (started_addressed n.started) n.events
  exact VpnRuntime.Leads.resolve leads tracked.backed.created.filed current addressed short n.own
    inside

end NodeRun

/-- A node that aliases its LANs, which are disjoint and have slots of their own, with the packet
filter as the last sync has left it. -/
structure LanNode (σ β : Type) (hex : Text.Codec AddressHash) (reader : FrameReader)
    (msgpack : Msgpack) extends NodeRun hex reader msgpack where
  interface : String
  programs : FilterEnv σ β
  documented : programs.tools.Documented
  netmaps : programs.Netmaps
  filter : σ
  attached : toNodeRun.state.rt.interfaceName = some interface
  aliasing : toNodeRun.state.rt.routeAliasingEnabled = true
  disjoint : toNodeRun.state.rt.localRoutes.Pairwise fun a b => ¬ a.Meets b
  apart : SlotsApart toNodeRun.destination toNodeRun.state.rt.localRoutes
  synced : programs.Synced interface toNodeRun.state.rt.translations filter

/-- The addresses of a packet. -/
structure Datagram where
  src : Ipv4Addr
  dst : Ipv4Addr
  deriving DecidableEq

namespace LanNode

variable {hex : Text.Codec AddressHash} {reader : FrameReader} {msgpack : Msgpack}
  {σ β σ' β' : Type}

theorem roundTrip (n : LanNode σ β hex reader msgpack) {lan : Ipv4Cidr}
    (member : lan ∈ n.state.rt.localRoutes) : RoundTrip n.programs n.destination n.filter lan := by
  have translates := n.synced.translates n.documented
  rw [VpnRuntime.translations, n.aliasing] at translates
  exact translates.roundTrip n.netmaps n.disjoint n.apart member

/-- A packet of a LAN as it is on the tunnel. -/
def sends (n : LanNode σ β hex reader msgpack) (d : Datagram) : Datagram :=
  ⟨n.programs.leaving n.filter d.src, d.dst⟩

/-- What is read from the TUN of `n` with these addresses goes to the links of `m`, if they take it,
and what comes in there goes into the TUN of `m`, whether or not the link names its peer. -/
structure Passes (n : LanNode σ β hex reader msgpack) (m : LanNode σ' β' hex reader msgpack)
    (d : Datagram) : Prop where
  sent : ∀ packet, reader.ipSlice packet = some (.v4 d.src, .v4 d.dst) → n.state.reading = true →
    (n.state.rt.peers.get m.destination).any (fun peer => tunTxRequiresBackoff peer.linkState) =
      false → ∀ sendToOutLinks, 0 < sendToOutLinks m.destination packet → ∀ now,
    (n.machine.step n.state (.tunRead now sendToOutLinks (.ok packet))).2 = .sent m.destination
  received : ∀ packet, reader.ipSlice packet = some (.v4 d.src, .v4 d.dst) →
    isCtrl packet = false → ∀ senderHint, senderHint = none ∨ senderHint = some n.destination →
    ∀ platform now,
    (m.machine.step m.state (.op (.linkData platform (.ok ()) now senderHint packet))).2 = .received

/-- What leaves a LAN towards the export of another, and the answer to it, pass. -/
theorem passes (n : LanNode σ β hex reader msgpack) (m : LanNode σ' β' hex reader msgpack)
    {source target : Ipv4Cidr} (there : n.Leads m.destination target) (back : m.Leads n.destination source) {d : Datagram}
    (fromSource : source.contains d.src = true) (intoTarget : target.contains d.dst = true) :
    Passes n m d := by
  refine ⟨?_, ?_⟩
  · intro packet reads reading ready sendToOutLinks taken now
    have foreign : d.dst ≠ n.state.rt.localTunnelIp := by
      intro same
      have own := n.own
      rw [← same, VpnRuntime.Leads.apart there intoTarget] at own
      cases own
    have dest : reader.packetDestination packet = some d.dst := by
      rw [FrameReader.packetDestination, reads]
    have step := @step_tunPacket n.env hex reader msgpack n.state reading now sendToOutLinks packet
    rw [NodeRun.machine, step]
    dsimp only
    unfold VpnRuntime.tunPacket
    rw [dest]
    dsimp only
    rw [if_neg foreign, n.resolve there intoTarget]
    dsimp only
    rw [if_neg (by rw [ready]; exact Bool.false_ne_true), if_neg taken.ne']
  · intro packet reads plain senderHint named platform now
    have served : (VpnRuntime.Op.linkData platform (.ok ()) now senderHint packet).served
        m.state.rt = true := by
      show m.state.rt.interfaceName.isSome = true
      rw [m.attached]
      rfl
    obtain ⟨peer, found, _⟩ := back.held
    have known : m.state.rt.registered n.destination = some n.destination := by
      rw [VpnRuntime.registered, found]
      rfl
    have credited : m.state.rt.credited reader senderHint packet = some n.destination := by
      unfold VpnRuntime.credited
      rcases named with rfl | rfl
      · rw [FrameReader.packetSource, reads]
        dsimp only [Option.bind_none, Option.none_or, Option.bind_some]
        rw [m.resolve back fromSource]
        exact known
      · rw [Option.bind_some, known]
        rfl
    rw [NodeRun.machine, step_served served]
    show m.state.rt.linkDataFate reader (.ok ()) senderHint packet = _
    unfold VpnRuntime.linkDataFate
    rw [plain, credited]
    rfl

end LanNode

section

variable (n : Bool)

end

end Kaonic.Vpn
