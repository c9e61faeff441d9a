import Kaonic.Vpn.RegistryRuns
import Kaonic.Vpn.RouteTranslations

/-!
# From a node to a host behind another

What the packet filter of a node makes of the addresses on its tunnel, and how a host of its LAN is
reached from a node that has taken its announce.
-/

namespace Kaonic.Vpn
open Net

/-! ### Addresses on the tunnel -/

namespace FilterEnv

variable {σ β : Type} (env : FilterEnv σ β)

/-- The destination of a packet that comes in from the tunnel. -/
def arriving (s : σ) (ip : Ipv4Addr) : Ipv4Addr := env.tools.destination s preChain ip

/-- The source of a packet that goes out on the tunnel. -/
def leaving (s : σ) (ip : Ipv4Addr) : Ipv4Addr := env.tools.source s postChain ip

/-- NETMAP rules of either direction do as the manual says. -/
structure Netmaps : Prop where
  destination : env.tools.Netmaps .netmapDestination env.tools.destination
  source : env.tools.Netmaps .netmapSource env.tools.source

/-- The packet filter as a call leaves it that has found a program and come to its end. The calls
before it worked on the same tables, and no other tables had rules in the own chains. -/
def Synced (interface : String) (translations : List LocalRouteTranslation) (s : σ) : Prop :=
  ∃ (before : σ) (earlier : List TranslationCall) (call : TranslationCall) (ipt : String),
    call.translations = translations ∧ call.program = some ipt ∧
      (∀ c ∈ earlier, ∀ cmd, c.program = some cmd → env.tools.tables cmd = env.tools.tables ipt) ∧
      (∀ chain ∈ ownChains, env.tools.Sole before (env.tools.tables ipt) chain) ∧
      env.call interface (env.runCalls interface before earlier) call = (s, .ok ())

/-- Some tables of the host translate as `translations` says, and they alone. -/
def Translates (interface : String) (translations : List LocalRouteTranslation) (s : σ) : Prop :=
  ∃ b, Translated interface translations (env.tools.chains s b) ∧
    ∀ chain ∈ ownChains, env.tools.Sole s b chain

end FilterEnv

section

variable {σ β : Type} {env : FilterEnv σ β} {interface : String}
  {translations : List LocalRouteTranslation} {s : σ}

theorem FilterEnv.Synced.translates (documented : env.tools.Documented)
    (synced : env.Synced interface translations s) : env.Translates interface translations s := by
  obtain ⟨before, earlier, call, ipt, rfl, found, same, sole, done⟩ := synced
  refine ⟨env.tools.tables ipt, FilterEnv.call_translated documented found done, ?_⟩
  intro chain own b other
  have untouched : ∀ c ∈ earlier ++ [call], ∀ cmd, c.program = some cmd →
      b ≠ env.tools.tables cmd := by
    intro c member cmd resolved
    rcases List.mem_append.mp member with member | member
    · rwa [same c member cmd resolved]
    · obtain rfl := List.mem_singleton.mp member
      obtain rfl := Option.some.inj (found.symm.trans resolved)
      exact other
  have kept := FilterEnv.runCalls_apart documented untouched interface before
  rw [FilterEnv.runCalls_concat, done] at kept
  rw [kept]
  exact sole chain own b other

namespace FilterEnv.Translates

theorem arriving_eq (translates : env.Translates interface translations s) (netmaps : env.Netmaps)
    (ip : Ipv4Addr) : env.arriving s ip = translate (netmapRules translations) ip := by
  obtain ⟨b, translated, sole⟩ := translates
  exact netmaps.destination.through_eq (sole preChain (by simp [ownChains])) translated.pre ip

theorem leaving_eq (translates : env.Translates interface translations s) (netmaps : env.Netmaps)
    (ip : Ipv4Addr) :
    env.leaving s ip = translate ((netmapRules translations).map Prod.swap) ip := by
  obtain ⟨b, translated, sole⟩ := translates
  refine netmaps.source.through_eq (sole postChain (by simp [ownChains])) ?_ ip
  rw [translated.post, List.map_map]
  rfl

end FilterEnv.Translates

end

section

variable {destination : AddressHash} {routes : List Ipv4Cidr}

theorem netmapRules_exports (routes : List Ipv4Cidr) :
    netmapRules (localRouteTranslations routes destination true) =
      (routes.filter fun lan => lan ≠ exportLocalRoute destination lan).map
        fun lan => (exportLocalRoute destination lan, lan) := by
  simp only [netmapRules, localRouteTranslations, List.filter_map, List.map_map, if_true]
  rfl

theorem mem_netmapRules {rule : Ipv4Cidr × Ipv4Cidr} :
    rule ∈ netmapRules (localRouteTranslations routes destination true) ↔
      ∃ lan ∈ routes, lan ≠ exportLocalRoute destination lan ∧
        rule = (exportLocalRoute destination lan, lan) := by
  rw [netmapRules_exports, List.mem_map]
  constructor
  · rintro ⟨lan, kept, rfl⟩
    obtain ⟨member, moved⟩ := List.mem_filter.mp kept
    exact ⟨lan, member, by simpa using moved, rfl⟩
  · rintro ⟨lan, member, moved, rfl⟩
    exact ⟨lan, List.mem_filter.mpr ⟨member, by simpa using moved⟩, rfl⟩

theorem exportLocalRoute_length (lan : Ipv4Cidr) :
    (exportLocalRoute destination lan).networkLength = lan.networkLength := by
  by_cases length : lan.networkLength = 24
  · rw [exportLocalRoute_eq destination length, length]
    rfl
  · rw [exportLocalRoute_other destination length]

section

variable (disjoint : routes.Pairwise fun a b => ¬ a.Meets b) (apart : SlotsApart destination routes)
  {σ β : Type} {env : FilterEnv σ β} {interface : String} {s : σ}

include disjoint

theorem rules_targets : (netmapRules (localRouteTranslations routes destination true)).Pairwise
    fun a b => ¬ a.2.Meets b.2 := by
  rw [netmapRules_exports, List.pairwise_map]
  exact disjoint.filter _

include apart

theorem rules_sources : (netmapRules (localRouteTranslations routes destination true)).Pairwise
    fun a b => ¬ a.1.Meets b.1 := by
  rw [netmapRules_exports, List.pairwise_map]
  refine (disjoint.filter _).imp_of_mem ?_
  intro a b left right separate
  exact apart.disjoint disjoint (List.mem_of_mem_filter left) (List.mem_of_mem_filter right)
    fun same => separate (same ▸ a.meets_self)

theorem arriving_export (netmaps : env.Netmaps) (translates : env.Translates interface
      (localRouteTranslations routes destination true) s) {lan : Ipv4Cidr} (member : lan ∈ routes)
    {ip : Ipv4Addr} (inside : (exportLocalRoute destination lan).contains ip = true) :
    env.arriving s ip = lan.netmap ip := by
  rw [translates.arriving_eq netmaps]
  by_cases moved : lan = exportLocalRoute destination lan
  · rw [← moved] at inside
    rw [Ipv4Cidr.netmap_self inside]
    refine translate_of_not_mem ?_
    intro rule listed
    obtain ⟨other, member', moved', rfl⟩ := mem_netmapRules.mp listed
    rw [← Bool.not_eq_true]
    intro inside'
    have different : other ≠ lan := by
      rintro rfl
      exact moved' moved
    have separate := apart.disjoint disjoint member' member different
    rw [← moved] at separate
    exact separate ((Ipv4Cidr.meets_iff _ _).mpr ⟨ip, inside', inside⟩)
  · exact translate_of_mem (rules_sources disjoint apart)
      (mem_netmapRules.mpr ⟨lan, member, moved, rfl⟩) inside

omit apart

theorem leaving_lan (netmaps : env.Netmaps) (translates : env.Translates interface
      (localRouteTranslations routes destination true) s) {lan : Ipv4Cidr} (member : lan ∈ routes)
    {ip : Ipv4Addr} (inside : lan.contains ip = true) :
    env.leaving s ip = (exportLocalRoute destination lan).netmap ip := by
  rw [translates.leaving_eq netmaps]
  by_cases moved : lan = exportLocalRoute destination lan
  · rw [← moved, Ipv4Cidr.netmap_self inside]
    refine translate_of_not_mem ?_
    intro rule listed
    obtain ⟨mirror, rules, rfl⟩ := List.mem_map.mp listed
    obtain ⟨other, member', moved', rfl⟩ := mem_netmapRules.mp rules
    rw [← Bool.not_eq_true]
    intro inside'
    have different : other ≠ lan := by
      rintro rfl
      exact moved' moved
    have symm : Std.Symm fun a b : Ipv4Cidr => ¬ a.Meets b :=
      ⟨fun _ _ apart meets => apart meets.symm⟩
    exact disjoint.forall member' member different
      ((Ipv4Cidr.meets_iff _ _).mpr ⟨ip, inside', inside⟩)
  · have mirrored : ((netmapRules (localRouteTranslations routes destination true)).map
        Prod.swap).Pairwise fun a b => ¬ a.1.Meets b.1 :=
      List.pairwise_map.mpr (rules_targets disjoint)
    have listed : (exportLocalRoute destination lan, lan) ∈
        netmapRules (localRouteTranslations routes destination true) :=
      mem_netmapRules.mpr ⟨lan, member, moved, rfl⟩
    exact translate_of_mem mirrored (List.mem_map_of_mem listed) inside

end

end

section

variable {σ β : Type} (env : FilterEnv σ β)

/-- What the translations of a LAN are for: its hosts go out under its export and come back, and an
address of the export leads to a host that answers from it. -/
structure RoundTrip (destination : AddressHash) (s : σ) (lan : Ipv4Cidr) : Prop where
  out : ∀ ip, lan.contains ip = true →
    (exportLocalRoute destination lan).contains (env.leaving s ip) = true ∧
      env.arriving s (env.leaving s ip) = ip
  back : ∀ ip, (exportLocalRoute destination lan).contains ip = true →
    lan.contains (env.arriving s ip) = true ∧ env.leaving s (env.arriving s ip) = ip

variable {env} {interface : String} {destination : AddressHash} {routes : List Ipv4Cidr} {s : σ}

theorem FilterEnv.Translates.roundTrip (translates : env.Translates interface
      (localRouteTranslations routes destination true) s) (netmaps : env.Netmaps)
    (disjoint : routes.Pairwise fun a b => ¬ a.Meets b) (apart : SlotsApart destination routes)
    {lan : Ipv4Cidr} (member : lan ∈ routes) : RoundTrip env destination s lan := by
  refine ⟨?_, ?_⟩
  · intro ip inside
    have inside' := (exportLocalRoute destination lan).contains_netmap ip
    rw [leaving_lan disjoint netmaps translates member inside,
      arriving_export disjoint apart netmaps translates member inside']
    exact ⟨inside', Ipv4Cidr.netmap_netmap (exportLocalRoute_length lan).symm inside⟩
  · intro ip inside
    have inside' := lan.contains_netmap ip
    rw [arriving_export disjoint apart netmaps translates member inside,
      leaving_lan disjoint netmaps translates member inside']
    exact ⟨inside', Ipv4Cidr.netmap_netmap (exportLocalRoute_length lan) inside⟩

variable (env)

/-- After any calls of which the last finds a program and completes, translation is undone on the way
back, for every local network, and leaves all other addresses alone. -/
theorem lans_round_trip (documented : env.tools.Documented) (netmaps : env.Netmaps)
    (interface : String) (destination : AddressHash) (routes : List Ipv4Cidr)
    (disjoint : routes.Pairwise fun a b => ¬ a.Meets b) (apart : SlotsApart destination routes)
    (s : σ) (synced : env.Synced interface (localRouteTranslations routes destination true) s) :
    (∀ lan ∈ routes, RoundTrip env destination s lan) ∧
      (∀ ip, (∀ lan ∈ routes, lan.contains ip = false) → env.leaving s ip = ip) ∧
      ∀ ip, (∀ lan ∈ routes, (exportLocalRoute destination lan).contains ip = false) →
        env.arriving s ip = ip := by
  have translates := synced.translates documented
  refine ⟨fun lan member => translates.roundTrip netmaps disjoint apart member, ?_, ?_⟩
  · intro ip outside
    rw [translates.leaving_eq netmaps]
    refine translate_of_not_mem ?_
    intro rule listed
    obtain ⟨mirror, rules, rfl⟩ := List.mem_map.mp listed
    obtain ⟨lan, member, _, rfl⟩ := mem_netmapRules.mp rules
    exact outside lan member
  · intro ip outside
    rw [translates.arriving_eq netmaps]
    refine translate_of_not_mem ?_
    intro rule listed
    obtain ⟨lan, member, _, rfl⟩ := mem_netmapRules.mp listed
    exact outside lan member

end

theorem FilterEnv.sample_netmaps (refuse : Netfilter.Refusals FilterChain FilterRule) :
    (FilterEnv.sample refuse).Netmaps := by
  have listed : ∀ b : FilterBackend, b ∈ [FilterBackend.nft, .legacy] := by
    intro b
    cases b <;> decide
  exact ⟨Netfilter.netmaps_rulesOf rfl listed (by decide) fun _ _ => rfl,
    Netfilter.netmaps_rulesOf rfl listed (by decide) fun _ _ => rfl⟩

def lanRoutes : List Ipv4Cidr := [.net24 10 0 0, .net24 10 0 1, .net16 10 42]

def lanCall (destination : AddressHash) : TranslationCall where
  supportsNetmap := fun _ => true
  translations := localRouteTranslations lanRoutes destination true

/-- A host on which all commands are carried out. -/
def lanEnv : FilterEnv FilterHost FilterBackend := .sample fun _ _ => none

def lanFilter (call : TranslationCall) : FilterHost := (lanEnv.call "tun0" .sample call).1

theorem lanFilter_synced (call : TranslationCall) (available : call.supportsNetmap "iptables" = true)
    (done : (lanEnv.call "tun0" .sample call).2 = .ok ()) :
    lanEnv.Synced "tun0" call.translations (lanFilter call) := by
  refine ⟨.sample, [], call, "iptables", rfl, ?_, List.forall_mem_nil _, ?_, Prod.ext rfl done⟩
  · rw [TranslationCall.program, resolveIptables, List.find?_cons_of_pos available]
  · have absent : ∀ chain ∈ ownChains, ∀ b, FilterHost.sample.chains b chain = none := by
      intro chain own b
      simp only [ownChains, List.mem_cons, List.not_mem_nil, or_false] at own
      rcases own with rfl | rfl | rfl <;> rfl
    exact fun chain own b _ => Or.inl (absent chain own b)

theorem lans_round_trip_sample :
    RoundTrip lanEnv (.repeated 0) (lanFilter (lanCall (.repeated 0))) (.net24 10 0 1) :=
  (lans_round_trip lanEnv Netfilter.tools_documented (FilterEnv.sample_netmaps _) "tun0"
    (.repeated 0) lanRoutes (by decide) ⟨by decide, by decide⟩ _
    (lanFilter_synced (lanCall _) rfl rfl)).1 _ (by decide)

/-! ### From another node -/

namespace RouteTable

section

variable {now : Nat} {localHash : AddressHash} {localTunnelIp ip : Ipv4Addr} {peers : List Peer}

end

end RouteTable

namespace VpnRuntime

section

variable {env : VpnEnv} {hex : Text.Codec AddressHash} {reader : FrameReader} {msgpack : Msgpack}
  {rt mid : VpnRuntime} {now : Nat} {desc : DestinationDesc} {routes : List Ipv4Cidr}

end

end VpnRuntime

end Kaonic.Vpn
