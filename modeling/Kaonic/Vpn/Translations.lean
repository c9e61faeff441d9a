import Kaonic.Net.AddressHash
import Kaonic.Net.Ipv4

/-!
# Local route translations

A /24 network of the host is exported under an alias `192.168.{100..254}.0/24` that a hash of the
device and the network picks.
-/

namespace Kaonic.Vpn
open Net

structure LocalRouteTranslation where
  local_ : Ipv4Cidr
  exported : Ipv4Cidr
  deriving DecidableEq

/-- The third octet that the hash picks, before the step aside. -/
def aliasThird (destination : AddressHash) (route : Ipv4Cidr) : UInt8 :=
  let seed := destination.bytes.foldl (fun seed byte => seed * 167 + byte.toUInt32) (0 : UInt32)
  let seed := route.firstAddress.octets.foldl (fun seed byte => seed * 131 + byte.toUInt32) seed
  let seed := seed * 31 + UInt32.ofNat route.networkLength
  100 + (seed % 155).toUInt8

def exportLocalRoute (destination : AddressHash) (route : Ipv4Cidr) : Ipv4Cidr :=
  if route.networkLength ≠ 24 then route
  else
    let third := aliasThird destination route
    let third :=
      if route.firstAddress.octets.take 3 = [192, 168, third] then
        if third = 254 then 100 else third + 1
      else third
    (Ipv4Cidr.new (.new 192 168 third 0) 24).toOption.getD route

def localRouteTranslations (routes : List Ipv4Cidr) (destination : AddressHash) (aliasing : Bool) :
    List LocalRouteTranslation :=
  routes.map fun r =>
    ⟨r, if aliasing then exportLocalRoute destination r else r⟩

/-- The NETMAP rules of `sync_route_translations`, in the order of the chain: packets to the first
network go to the second. -/
def netmapRules (translations : List LocalRouteTranslation) : List (Ipv4Cidr × Ipv4Cidr) :=
  (translations.filter fun t => t.local_ ≠ t.exported).map fun t => (t.exported, t.local_)

/-! ### The alias slots -/

def horner (base : Nat) (bytes : List UInt8) (seed : Nat) : Nat :=
  bytes.foldl (fun seed byte => seed * base + byte.toNat) seed

/-- The number of a device and an address, of which the hash keeps 32 bits. -/
def aliasSeed (destination : AddressHash) (address : Ipv4Addr) : Nat :=
  horner 131 address.octets (horner 167 destination.bytes 0) * 31 + 24

/-- One of the 155 slots from 100 to 254: the seed modulo 155, or the slot after it, cyclically,
for the network that has this very slot. -/
def aliasSlot (destination : AddressHash) (address : Ipv4Addr) : Nat :=
  let slot := 100 + aliasSeed destination address % 2 ^ 32 % 155
  if address.octets.take 3 = [192, 168, UInt8.ofNat slot] then if slot = 254 then 100 else slot + 1
  else slot

def aliasNetwork (third : UInt8) : Ipv4Cidr where
  firstAddress := .new 192 168 third 0
  networkLength := 24
  length_le := Ipv4Cidr.twentyFour_le
  aligned := by
    rw [Ipv4Addr.toNat_new]
    have low : (0 : UInt8).toNat = 0 := rfl
    omega

theorem aliasNetwork_injective {a b : UInt8} (h : aliasNetwork a = aliasNetwork b) : a = b := by
  have first := congrArg (fun c => c.firstAddress.toNat) h
  simp only [aliasNetwork, Ipv4Addr.toNat_new] at first
  exact UInt8.toNat_inj.mp (by omega)

theorem eq_of_aliasNetwork_meets {a b : UInt8} (h : (aliasNetwork a).Meets (aliasNetwork b)) :
    a = b := aliasNetwork_injective (Ipv4Cidr.eq_of_meets rfl h)

theorem foldl_horner (base : Nat) (bytes : List UInt8) (seed : Nat) :
    bytes.foldl (fun seed byte => seed * UInt32.ofNat base + byte.toUInt32) (UInt32.ofNat seed) =
      UInt32.ofNat (horner base bytes seed) := by
  unfold horner
  induction bytes generalizing seed with
  | nil => rfl
  | cons byte rest ih =>
    simp only [List.foldl_cons]
    rw [← UInt32.ofNat_uInt8ToNat, ← UInt32.ofNat_mul, ← UInt32.ofNat_add, ih]

theorem aliasThird_eq (destination : AddressHash) {route : Ipv4Cidr}
    (length : route.networkLength = 24) : aliasThird destination route =
      100 + (UInt32.ofNat (aliasSeed destination route.firstAddress) % 155).toUInt8 := by
  have device := foldl_horner 167 destination.bytes 0
  have whole := foldl_horner 131 route.firstAddress.octets (horner 167 destination.bytes 0)
  rw [← device] at whole
  unfold aliasThird aliasSeed
  rw [length, UInt32.ofNat_add, UInt32.ofNat_mul, ← whole]
  rfl

theorem aliasThird_toNat (destination : AddressHash) {route : Ipv4Cidr}
    (length : route.networkLength = 24) : (aliasThird destination route).toNat =
      100 + aliasSeed destination route.firstAddress % 2 ^ 32 % 155 := by
  have small : aliasSeed destination route.firstAddress % 2 ^ 32 % 155 < 155 :=
    Nat.mod_lt _ (by decide)
  rw [aliasThird_eq destination length, UInt8.toNat_add, UInt32.toNat_toUInt8, UInt32.toNat_mod,
    UInt32.toNat_ofNat']
  have hundred : (100 : UInt8).toNat = 100 := rfl
  have pool : (155 : UInt32).toNat = 155 := rfl
  rw [hundred, pool]
  omega

theorem aliasSlot_bounds (destination : AddressHash) (address : Ipv4Addr) :
    100 ≤ aliasSlot destination address ∧ aliasSlot destination address ≤ 254 := by
  have small : aliasSeed destination address % 2 ^ 32 % 155 < 155 := Nat.mod_lt _ (by decide)
  unfold aliasSlot
  dsimp only
  split
  · split <;> omega
  · omega

theorem aliasSlot_toNat (destination : AddressHash) (address : Ipv4Addr) :
    (UInt8.ofNat (aliasSlot destination address)).toNat = aliasSlot destination address := by
  have bounds := aliasSlot_bounds destination address
  rw [UInt8.toNat_ofNat']
  omega

theorem exportLocalRoute_eq (destination : AddressHash) {route : Ipv4Cidr}
    (length : route.networkLength = 24) : exportLocalRoute destination route =
      aliasNetwork (UInt8.ofNat (aliasSlot destination route.firstAddress)) := by
  have third := aliasThird_toNat destination length
  have back : UInt8.ofNat (100 + aliasSeed destination route.firstAddress % 2 ^ 32 % 155) =
      aliasThird destination route := by rw [← third, UInt8.ofNat_toNat]
  have built : ∀ t : UInt8, (Ipv4Cidr.new (.new 192 168 t 0) 24).toOption.getD route =
      aliasNetwork t := by
    intro t
    have ok := (Ipv4Cidr.new_ok_iff (c := aliasNetwork t)).mpr ⟨rfl, rfl⟩
    have made : Ipv4Cidr.new (.new 192 168 t 0) 24 = .ok (aliasNetwork t) := ok
    rw [made]
    rfl
  unfold exportLocalRoute aliasSlot
  rw [if_neg (not_not.mpr length)]
  dsimp only
  rw [built, back]
  congr 1
  split
  · rw [← third]
    by_cases top : aliasThird destination route = 254
    · rw [if_pos top, if_pos (by rw [top]; rfl)]
      rfl
    · have below : (aliasThird destination route).toNat ≠ 254 :=
        fun same => top (UInt8.toNat_inj.mp same)
      rw [if_neg top, if_neg below, UInt8.ofNat_add, UInt8.ofNat_toNat]
      rfl
  · exact back.symm

theorem exportLocalRoute_other (destination : AddressHash) {route : Ipv4Cidr}
    (length : route.networkLength ≠ 24) : exportLocalRoute destination route = route := by
  unfold exportLocalRoute
  rw [if_pos length]

/-! ### Every alias -/

/-- What `export_local_route` makes of a /24 network: neither sum overflows a `u8`, the network of
the pool can be built, and it is not the one it stands for, so that the fallback is not taken. -/
structure ExportsAlias (destination : AddressHash) (route : Ipv4Cidr) : Prop where
  picked : (aliasThird destination route).toNat =
    100 + aliasSeed destination route.firstAddress % 2 ^ 32 % 155
  stepped : aliasThird destination route ≠ 254 →
    (aliasThird destination route + 1).toNat = (aliasThird destination route).toNat + 1
  pooled : ∃ third : UInt8, 100 ≤ third ∧ third ≤ 254 ∧
    Ipv4Cidr.new (.new 192 168 third 0) 24 = .ok (exportLocalRoute destination route)
  moved : exportLocalRoute destination route ≠ route

theorem aliasThird_step (destination : AddressHash) {route : Ipv4Cidr}
    (length : route.networkLength = 24) (below : aliasThird destination route ≠ 254) :
    (aliasThird destination route + 1).toNat = (aliasThird destination route).toNat + 1 := by
  have third := aliasThird_toNat destination length
  have small : aliasSeed destination route.firstAddress % 2 ^ 32 % 155 < 155 :=
    Nat.mod_lt _ (by decide)
  have one : (1 : UInt8).toNat = 1 := rfl
  have other : (aliasThird destination route).toNat ≠ 254 :=
    fun same => below (UInt8.toNat_inj.mp same)
  rw [UInt8.toNat_add, one]
  omega

/-- The slot of a network of the pool is another one than its own. -/
theorem aliasSlot_moves (destination : AddressHash) (address : Ipv4Addr) :
    address.octets.take 3 ≠ [192, 168, UInt8.ofNat (aliasSlot destination address)] := by
  intro own
  have small : aliasSeed destination address % 2 ^ 32 % 155 < 155 := Nat.mod_lt _ (by decide)
  unfold aliasSlot at own
  dsimp only at own
  split at own
  · rename_i taken
    rw [taken] at own
    have third := (List.cons.inj (List.cons.inj (List.cons.inj own).2).2).1
    have value := congrArg UInt8.toNat third
    rw [UInt8.toNat_ofNat', UInt8.toNat_ofNat'] at value
    split at value <;> omega
  · rename_i free
    exact free own

theorem exportLocalRoute_moves (destination : AddressHash) {route : Ipv4Cidr}
    (length : route.networkLength = 24) : exportLocalRoute destination route ≠ route := by
  rw [exportLocalRoute_eq destination length]
  intro same
  have first := congrArg (fun c => c.firstAddress.octets.take 3) same
  exact aliasSlot_moves destination route.firstAddress
    (first.symm.trans (congrArg (List.take 3) (Ipv4Addr.octets_new _ _ _ _)))

/-- Every /24 network is exported under another one of the pool, every other network as it is. -/
theorem exportLocalRoute_alias (destination : AddressHash) (route : Ipv4Cidr) :
    (route.networkLength = 24 → ExportsAlias destination route) ∧
      (route.networkLength ≠ 24 → exportLocalRoute destination route = route) := by
  refine ⟨fun length => ⟨?_, ?_, ?_, ?_⟩, exportLocalRoute_other destination⟩
  · exact aliasThird_toNat destination length
  · exact aliasThird_step destination length
  · obtain ⟨low, high⟩ := aliasSlot_bounds destination route.firstAddress
    refine ⟨UInt8.ofNat (aliasSlot destination route.firstAddress), ?_, ?_, ?_⟩
    · rw [UInt8.le_iff_toNat_le, aliasSlot_toNat]
      exact low
    · rw [UInt8.le_iff_toNat_le, aliasSlot_toNat]
      exact high
    · rw [exportLocalRoute_eq destination length]
      exact Ipv4Cidr.new_ok_iff.mpr ⟨rfl, rfl⟩
  · exact exportLocalRoute_moves destination length

/-- The device whose hash picks the last slot for the network that has it. -/
theorem exportLocalRoute_alias_wraps :
    exportLocalRoute (.repeated 92) (.net24 192 168 254) = .net24 192 168 100 ∧
      ExportsAlias (.repeated 92) (.net24 192 168 254) :=
  ⟨by decide, (exportLocalRoute_alias (.repeated 92) (.net24 192 168 254)).1 rfl⟩

/-! ### Aliases apart -/

/-- What aliasing is for: peers see distinct networks, and each exported address leads to one LAN. -/
structure Aliased (destination : AddressHash) (routes : List Ipv4Cidr) : Prop where
  exported : ((localRouteTranslations routes destination true).map (·.exported)).Pairwise
    fun a b => ¬ a.Meets b
  others : ∀ r ∈ routes, r.networkLength = 24 → ∀ other ∈ routes, other ≠ r →
    ¬ (exportLocalRoute destination r).Meets other
  netmap : ∀ a ∈ netmapRules (localRouteTranslations routes destination true),
    ∀ b ∈ netmapRules (localRouteTranslations routes destination true), ∀ ip : Ipv4Addr,
      a.1.contains ip = true → b.1.contains ip = true → a = b
  announced : ((localRouteTranslations routes destination true).map (·.exported)).Nodup

/-- No two /24 networks fall into one slot, and no other route overlaps the network of a slot. -/
structure SlotsApart (destination : AddressHash) (routes : List Ipv4Cidr) : Prop where
  slots : ∀ r ∈ routes, ∀ other ∈ routes, r.networkLength = 24 → other.networkLength = 24 →
    r ≠ other → aliasSlot destination r.firstAddress ≠ aliasSlot destination other.firstAddress
  free : ∀ r ∈ routes, r.networkLength = 24 → ∀ other ∈ routes, other ≠ r →
    ¬ (aliasNetwork (UInt8.ofNat (aliasSlot destination r.firstAddress))).Meets other

variable {destination : AddressHash} {routes : List Ipv4Cidr}

theorem exported_eq : (localRouteTranslations routes destination true).map (·.exported) =
    routes.map (exportLocalRoute destination) := by
  simp [localRouteTranslations]

theorem alias_meets_iff {r other : Ipv4Cidr} (left : r.networkLength = 24)
    (right : other.networkLength = 24) :
    (exportLocalRoute destination r).Meets (exportLocalRoute destination other) ↔
      aliasSlot destination r.firstAddress = aliasSlot destination other.firstAddress := by
  rw [exportLocalRoute_eq destination left, exportLocalRoute_eq destination right]
  refine ⟨?_, fun same => same ▸ Ipv4Cidr.meets_self _⟩
  intro meets
  have value := congrArg UInt8.toNat (eq_of_aliasNetwork_meets meets)
  rwa [aliasSlot_toNat, aliasSlot_toNat] at value

theorem SlotsApart.disjoint (apart : SlotsApart destination routes)
    (disjoint : routes.Pairwise fun a b => ¬ a.Meets b) {r other : Ipv4Cidr} (member : r ∈ routes)
    (member' : other ∈ routes) (different : r ≠ other) :
    ¬ (exportLocalRoute destination r).Meets (exportLocalRoute destination other) := by
  by_cases left : r.networkLength = 24 <;> by_cases right : other.networkLength = 24
  · rw [alias_meets_iff left right]
    exact apart.slots r member other member' left right different
  · rw [exportLocalRoute_eq destination left, exportLocalRoute_other destination right]
    exact apart.free r member left other member' different.symm
  · rw [exportLocalRoute_other destination left, exportLocalRoute_eq destination right]
    exact fun meets => apart.free other member' right r member different meets.symm
  · rw [exportLocalRoute_other destination left, exportLocalRoute_other destination right]
    exact disjoint.forall member member' different

/-- Aliasing does what it is for exactly when the slots are apart. -/
theorem aliased_iff (disjoint : routes.Pairwise fun a b => ¬ a.Meets b) :
    Aliased destination routes ↔ SlotsApart destination routes := by
  refine ⟨?_, ?_⟩
  · intro aliased
    have exported := aliased.exported
    rw [exported_eq, List.pairwise_map] at exported
    refine ⟨?_, ?_⟩
    · intro r member other member' left right different same
      have symm : Std.Symm fun a b => ¬ (exportLocalRoute destination a).Meets
          (exportLocalRoute destination b) := ⟨fun _ _ apart meets => apart meets.symm⟩
      exact exported.forall member member' different ((alias_meets_iff left right).mpr same)
    · intro r member length other member' different
      rw [← exportLocalRoute_eq destination length]
      exact aliased.others r member length other member' different
  · intro apart
    have exported : (routes.map (exportLocalRoute destination)).Pairwise
        fun a b => ¬ a.Meets b := by
      rw [List.pairwise_map]
      refine disjoint.imp_of_mem ?_
      intro r other member member' separate
      exact apart.disjoint disjoint member member' fun same => separate (same ▸ r.meets_self)
    have distinct : (routes.map (exportLocalRoute destination)).Nodup := by
      refine exported.imp ?_
      intro a b separate same
      rw [same] at separate
      exact separate b.meets_self
    refine ⟨exported_eq ▸ exported, ?_, ?_, exported_eq ▸ distinct⟩
    · intro r member length other member' different
      rw [exportLocalRoute_eq destination length]
      exact apart.free r member length other member' different
    · intro a left b right ip inA inB
      simp only [netmapRules, localRouteTranslations, List.mem_map, List.mem_filter, if_true] at left right
      obtain ⟨_, ⟨⟨r, member, rfl⟩, _⟩, rfl⟩ := left
      obtain ⟨_, ⟨⟨other, member', rfl⟩, _⟩, rfl⟩ := right
      have meets := (Ipv4Cidr.meets_iff _ _).mpr ⟨ip, inA, inB⟩
      by_cases same : r = other
      · rw [same]
      · exact (apart.disjoint disjoint member member' same meets).elim

/-- Two LANs and a wide network that keep apart. -/
theorem aliased_iff_apart : Aliased (.repeated 0)
    [.net24 10 0 0, .net24 10 0 1, .net16 10 42] := by
  refine (aliased_iff (by decide)).mpr ⟨?_, ?_⟩
  · decide
  · decide

/-- Two LANs of one device in slot 236. -/
theorem exportLocalRoute_collides :
    ([Ipv4Cidr.net24 192 168 0, .net24 192 168 5].Pairwise fun a b => ¬ a.Meets b) ∧
    exportLocalRoute (.repeated 0) (.net24 192 168 0) = .net24 192 168 236 ∧
    exportLocalRoute (.repeated 0) (.net24 192 168 5) = .net24 192 168 236 ∧
    ¬ Aliased (.repeated 0) [.net24 192 168 0, .net24 192 168 5] := by
  refine ⟨by decide, by decide, by decide, ?_⟩
  intro aliased
  have distinct := aliased.announced
  revert distinct
  decide

end Kaonic.Vpn
