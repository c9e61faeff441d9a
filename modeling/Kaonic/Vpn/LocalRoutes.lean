import Kaonic.Net.Ipv4

/-!
# Local routes

The networks behind the host's interfaces, as `discover_local_routes` finds them, merged with the
advertised ones. A `BTreeSet` is a finite set read in order.
-/

namespace Kaonic.Vpn
open Net

inductive IfAddr where
  | v4 (ip : Ipv4Addr) (prefixlen : Nat) (prefixlen_le : prefixlen ≤ 32)
  | v6 (ip : BitVec 128)

def IfAddr.isLoopback : IfAddr → Bool
  | .v4 ip _ _ => ip.octets.head? == some 127
  | .v6 ip => ip == 1#128

def IfAddr.isLinkLocal : IfAddr → Bool
  | .v4 ip _ _ => ip.octets.take 2 == [169, 254]
  | .v6 ip => ip.toNat / 2 ^ 118 == 0x3fa

structure Interface where
  name : String
  addr : IfAddr

def skippedNames : List String :=
  ["lo", "docker0", "tailscale0", "zt0", "utun0", "utun1", "utun2", "utun3"]

def skippedPrefixes : List String := ["tun", "tap", "docker", "veth", "br-"]

def shouldSkipInterface (name : String) (exclude : Option String) : Bool :=
  exclude == some name || skippedNames.contains name ||
    skippedPrefixes.any fun start => start.toList.isPrefixOf name.toList

/-- The body of the loop of `discover_local_routes`. -/
def interfaceRoute (exclude : Option String) (iface : Interface) : Option Ipv4Cidr :=
  if iface.addr.isLoopback || iface.addr.isLinkLocal then none
  else if shouldSkipInterface iface.name exclude then none
  else
    match iface.addr with
    | .v6 _ => none
    | .v4 ip prefixlen _ => if prefixlen = 0 then none else (Ipv4Cidr.new ip prefixlen).toOption

def discoverLocalRoutes (exclude : Option String) (ifaces : List Interface) : List Ipv4Cidr :=
  (ifaces.filterMap (interfaceRoute exclude)).toFinset.sort

def mergeRoutes (discovered advertised : List Ipv4Cidr) : List Ipv4Cidr :=
  (discovered.toFinset ∪ advertised.toFinset).sort

theorem mem_discoverLocalRoutes {exclude : Option String} {ifaces : List Interface}
    {route : Ipv4Cidr} : route ∈ discoverLocalRoutes exclude ifaces ↔
      ∃ iface ∈ ifaces, interfaceRoute exclude iface = some route := by
  simp [discoverLocalRoutes]

theorem mem_mergeRoutes {discovered advertised : List Ipv4Cidr} {route : Ipv4Cidr} :
    route ∈ mergeRoutes discovered advertised ↔ route ∈ discovered ∨ route ∈ advertised := by
  simp [mergeRoutes]

/-! ### The LAN of an interface -/

/-- An interface whose LAN is to be announced. -/
def Interface.Local (exclude : Option String) (iface : Interface) (ip : Ipv4Addr) (len : Nat) :
    Prop :=
  (∃ bound, iface.addr = .v4 ip len bound) ∧ iface.addr.isLoopback = false ∧
    iface.addr.isLinkLocal = false ∧ shouldSkipInterface iface.name exclude = false ∧ len ≠ 0

/-- The interface lies on the network: its address, masked to its prefix length, is the first
address there. -/
def Interface.On (exclude : Option String) (iface : Interface) (lan : Ipv4Cidr) : Prop :=
  ∃ ip, iface.Local exclude ip lan.networkLength ∧
    lan = Ipv4Cidr.ofAddress ip lan.networkLength lan.length_le

variable {exclude : Option String} {ifaces : List Interface}

theorem interfaceRoute_eq_some {iface : Interface} {route : Ipv4Cidr} :
    interfaceRoute exclude iface = some route ↔
      iface.Local exclude route.firstAddress route.networkLength := by
  obtain ⟨name, addr⟩ := iface
  unfold interfaceRoute Interface.Local
  cases addr with
  | v6 ip =>
    refine ⟨?_, fun ⟨⟨_, same⟩, _⟩ => by cases same⟩
    intro found
    split at found
    · cases found
    · split at found <;> cases found
  | v4 ip len bound =>
    dsimp only
    split
    · rename_i excluded
      refine ⟨fun found => (by cases found), ?_⟩
      intro ⟨_, loopback, linkLocal, _⟩
      simp [loopback, linkLocal] at excluded
    · rename_i included
      simp only [Bool.or_eq_true, not_or, Bool.not_eq_true] at included
      split
      · rename_i skipped
        refine ⟨fun found => (by cases found), ?_⟩
        intro ⟨_, _, _, kept, _⟩
        rw [skipped] at kept
        cases kept
      · rename_i kept
        rw [Bool.not_eq_true] at kept
        split
        · rename_i zero
          refine ⟨fun found => (by cases found), ?_⟩
          intro ⟨⟨_, same⟩, _, _, _, positive⟩
          cases same
          exact (positive zero).elim
        · rename_i positive
          rw [Ipv4Cidr.new_toOption_iff]
          refine ⟨?_, ?_⟩
          · intro ⟨first, length⟩
            subst first length
            exact ⟨⟨bound, rfl⟩, included.1, included.2, kept, positive⟩
          · intro ⟨⟨_, same⟩, _⟩
            cases same
            exact ⟨rfl, rfl⟩

theorem Interface.Local.on {iface : Interface} {lan : Ipv4Cidr}
    (first : iface.Local exclude lan.firstAddress lan.networkLength) : iface.On exclude lan :=
  ⟨lan.firstAddress, first, (Ipv4Cidr.ofAddress_of_contains lan.contains_first).symm⟩

/-- The interfaces' networks are all found, and merged, exactly when on each of them some
interface to be announced has the network's first address. -/
theorem discoverLocalRoutes_exact_iff (exclude : Option String) (ifaces : List Interface) :
    ((∀ lan, lan ∈ discoverLocalRoutes exclude ifaces ↔ ∃ iface ∈ ifaces, iface.On exclude lan) ∧
      ∀ advertised lan, (∃ iface ∈ ifaces, iface.On exclude lan) →
        lan ∈ mergeRoutes (discoverLocalRoutes exclude ifaces) advertised) ↔
    ∀ iface ∈ ifaces, ∀ lan, iface.On exclude lan →
      ∃ other ∈ ifaces, other.Local exclude lan.firstAddress lan.networkLength := by
  simp only [mem_mergeRoutes, mem_discoverLocalRoutes, interfaceRoute_eq_some]
  refine ⟨?_, ?_⟩
  · intro ⟨exact_, _⟩ iface member lan on
    exact (exact_ lan).mpr ⟨iface, member, on⟩
  · intro first
    refine ⟨?_, ?_⟩
    · intro lan
      refine ⟨?_, fun ⟨iface, member, on⟩ => first iface member lan on⟩
      intro ⟨iface, member, here⟩
      exact ⟨iface, member, here.on⟩
    · intro advertised lan ⟨iface, member, on⟩
      exact Or.inl (first iface member lan on)

def ethernet : Interface := ⟨"eth0", .v4 (.new 192 168 10 1) 24 (by decide)⟩

def ethernetLan : Ipv4Cidr := ⟨.new 192 168 10 0, 24, by decide, by decide⟩

/-- The usual host address is not its network's first: the LAN is lost. -/
theorem discoverLocalRoutes_ethernet :
    ethernet.On none ethernetLan ∧ discoverLocalRoutes none [ethernet] = [] ∧
      ethernetLan ∉ mergeRoutes (discoverLocalRoutes none [ethernet]) [] := by
  have nothing : discoverLocalRoutes none [ethernet] = [] := by
    have route : interfaceRoute none ethernet = none := by decide
    simp [discoverLocalRoutes, route]
  refine ⟨⟨.new 192 168 10 1, ⟨⟨_, rfl⟩, by decide, by decide, by decide, by decide⟩, by decide⟩,
    nothing, ?_⟩
  simp [nothing, mem_mergeRoutes]

end Kaonic.Vpn
