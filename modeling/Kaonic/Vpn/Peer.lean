import Kaonic.Base.HashMap
import Kaonic.Net.AddressHash
import Kaonic.Net.Ipv4

/-! # Peers and their registry -/

namespace Kaonic.Vpn
open Net

inductive LinkState where
  | configured | discovered | pending | active | closed | error
  deriving DecidableEq

/-- The counters of `Metrics`, which wrap around, without the sampled rates. -/
structure Metrics where
  txPackets : UInt64 := 0
  txBytes : UInt64 := 0
  rxPackets : UInt64 := 0
  rxBytes : UInt64 := 0
  dropPackets : UInt64 := 0
  lastTxTs : Nat := 0
  lastRxTs : Nat := 0
  deriving DecidableEq

namespace Metrics

def recordTx (m : Metrics) (bytes now : Nat) : Metrics :=
  { m with txPackets := m.txPackets + 1, txBytes := m.txBytes + .ofNat bytes, lastTxTs := now }

def recordRx (m : Metrics) (bytes now : Nat) : Metrics :=
  { m with rxPackets := m.rxPackets + 1, rxBytes := m.rxBytes + .ofNat bytes, lastRxTs := now }

def recordDrop (m : Metrics) : Metrics := { m with dropPackets := m.dropPackets + 1 }

end Metrics

structure Peer where
  hash : AddressHash
  tunnelIp : Ipv4Addr
  desc : Option DestinationDesc := none
  linkState : LinkState
  routes : List Ipv4Cidr := []
  lastSeenTs : Nat := 0
  routeExpiresTs : Nat := 0
  lastTxTs : Nat := 0
  reconnectAttempts : Nat := 0
  linkAttemptTs : Nat := 0
  linkRequestInFlight : Bool := false
  reconnectCooldownUntilTs : Nat := 0
  lastError : Option String := none
  metrics : Metrics := {}
  deriving DecidableEq

def Peer.new (hash : AddressHash) (tunnelIp : Ipv4Addr) (state : LinkState) : Peer :=
  { hash, tunnelIp, linkState := state }

/-- `PeerRegistry`: the peers by hash. -/
abbrev PeerRegistry := HashMap AddressHash Peer

namespace PeerRegistry

def get (r : PeerRegistry) (hash : AddressHash) : Option Peer := r.lookup hash

/-- `PeerRegistry::insert` files a peer under its own hash. -/
def insert (r : PeerRegistry) (peer : Peer) : PeerRegistry := AList.insert peer.hash peer r

def remove (r : PeerRegistry) (hash : AddressHash) : PeerRegistry := AList.erase hash r

/-- `PeerRegistry::all`, in the order the map yields its values. -/
def all (it : HashMap.IterOrder AddressHash Peer) (r : PeerRegistry) : List Peer :=
  (it.order r).map Prod.snd

theorem get_insert (r : PeerRegistry) (peer : Peer) (hash : AddressHash) :
    (r.insert peer).get hash = if hash = peer.hash then some peer else r.get hash :=
  HashMap.lookup_insert_eq r peer.hash hash peer

theorem get_remove (r : PeerRegistry) (gone hash : AddressHash) :
    (r.remove gone).get hash = if hash = gone then none else r.get hash :=
  HashMap.lookup_erase_eq r gone hash

/-- Each peer is filed under its own hash. -/
def Filed (r : PeerRegistry) : Prop := ∀ hash peer, r.get hash = some peer → peer.hash = hash

variable {it : HashMap.IterOrder AddressHash Peer} {r : PeerRegistry}

theorem mem_all (filed : r.Filed) {peer : Peer} :
    peer ∈ all it r ↔ r.get peer.hash = some peer := by
  rw [all, List.mem_map]
  refine ⟨?_, fun found => ⟨(peer.hash, peer), it.mem_order.mpr found, rfl⟩⟩
  rintro ⟨⟨hash, _⟩, member, rfl⟩
  have found : r.get hash = some _ := it.mem_order.mp member
  rw [filed hash _ found]
  exact found

theorem all_hashes (filed : r.Filed) : (all it r).map Peer.hash = (it.order r).map Prod.fst := by
  rw [all, List.map_map]
  refine List.map_congr_left ?_
  intro ⟨hash, peer⟩ member
  exact filed hash peer (it.mem_order.mp member)

theorem all_hashes_nodup (filed : r.Filed) : ((all it r).map Peer.hash).Nodup := by
  rw [all_hashes filed, ((it.perm r).map Prod.fst).nodup_iff]
  exact HashMap.toList_keys_nodup r

end PeerRegistry

end Kaonic.Vpn
