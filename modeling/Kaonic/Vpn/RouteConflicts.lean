import Kaonic.Net.Notation
import Kaonic.Vpn.KernelSync

/-!
# Conflicts with local subnets

Of the routes in its table a node installs those that share no address with a subnet of its own,
nor with the alias under which it exports one. The two sets are kept as texts.
-/

namespace Kaonic.Vpn
open Net

/-! ### Bounds of a network -/

theorem cidrBounds_eq (route : Ipv4Cidr) : cidrBounds route = (route.block.base, route.block.last) := by
  have pos := Block.size_pos (32 - route.networkLength)
  have last : route.firstAddress.toNat + 2 ^ (32 - route.networkLength) - 1 = route.block.last := by
    rw [Nat.add_sub_assoc pos]
    rfl
  rw [← last]
  unfold cidrBounds
  dsimp only
  split
  · rename_i single
    rw [single]
    rfl
  · rename_i everything
    rw [everything]
    rfl
  · rw [Nat.one_shiftLeft]
    rfl

theorem routesOverlap_iff_meets (a b : Ipv4Cidr) : routesOverlap a b = true ↔ a.Meets b := by
  rw [routesOverlap, decide_eq_true_eq, cidrBounds_eq, cidrBounds_eq]
  exact (Block.meets_iff_bounds a.block b.block).symm

theorem routesOverlap_iff (a b : Ipv4Cidr) : routesOverlap a b = true ↔
    ∃ ip : Ipv4Addr, a.contains ip = true ∧ b.contains ip = true :=
  (routesOverlap_iff_meets a b).trans (Ipv4Cidr.meets_iff a b)

namespace VpnRuntime

/-! ### Routed and local -/

section

variable (rt : VpnRuntime)

def Routed (route : Ipv4Cidr) : Prop := ∃ owner, (route, owner) ∈ rt.router.subnets

def exportedAs (local_ : Ipv4Cidr) : Ipv4Cidr :=
  if rt.routeAliasingEnabled then exportLocalRoute rt.destination local_ else local_

/-- Some address is in the route and in a local subnet or its alias. -/
def MeetsLocal (route : Ipv4Cidr) : Prop :=
  ∃ local_ ∈ rt.localRoutes, ∃ ip : Ipv4Addr, route.contains ip = true ∧
    (local_.contains ip = true ∨ (rt.exportedAs local_).contains ip = true)

end

variable {env : VpnEnv} {platform : Platform} {rt : VpnRuntime} {host : Host}

theorem overlaps_translation {route : Ipv4Cidr} {t : LocalRouteTranslation} :
    (routesOverlap route t.local_ || routesOverlap route t.exported) = true ↔
      ∃ ip : Ipv4Addr, route.contains ip = true ∧
        (t.local_.contains ip = true ∨ t.exported.contains ip = true) := by
  rw [Bool.or_eq_true, routesOverlap_iff, routesOverlap_iff, ← exists_or]
  refine exists_congr fun ip => ?_
  exact and_or_left.symm

theorem meetsLocal_iff {route : Ipv4Cidr} : rt.MeetsLocal route ↔
    (rt.translations.any fun t =>
      routesOverlap route t.local_ || routesOverlap route t.exported) = true := by
  simp only [List.any_eq_true, overlaps_translation, translations, localRouteTranslations]
  constructor
  · rintro ⟨local_, member, shared⟩
    exact ⟨_, List.mem_map.mpr ⟨local_, member, rfl⟩, shared⟩
  · rintro ⟨t, listed, shared⟩
    obtain ⟨local_, member, rfl⟩ := List.mem_map.mp listed
    exact ⟨local_, member, shared⟩

theorem routed_iff {route : Ipv4Cidr} : rt.Routed route ↔
    route ∈ rt.router.subnets.map Prod.fst := by simp [Routed]

theorem mem_localConflicts {key : String} : key ∈ rt.localConflicts env ↔
    ∃ route, (rt.Routed route ∧ rt.MeetsLocal route) ∧ env.display route = key := by
  rw [localConflicts, conflictingLocalRoutes, List.mem_toFinset, List.mem_map]
  refine exists_congr fun route => and_congr_left fun _ => ?_
  rw [List.mem_filter, routed_iff, meetsLocal_iff]

theorem display_mem_localConflicts (printed : Function.Injective env.display) {route : Ipv4Cidr}
    (routed : rt.Routed route) : env.display route ∈ rt.localConflicts env ↔ rt.MeetsLocal route := by
  rw [mem_localConflicts]
  refine ⟨?_, fun local_ => ⟨route, ⟨routed, local_⟩, rfl⟩⟩
  rintro ⟨other, ⟨_, local_⟩, same⟩
  obtain rfl := printed same
  exact local_

theorem mem_desiredRoutes (printed : Function.Injective env.display) {key : String} :
    key ∈ rt.desiredRoutes env ↔
      ∃ route, (rt.Routed route ∧ ¬ rt.MeetsLocal route) ∧ env.display route = key := by
  simp only [desiredRoutes, List.mem_toFinset, List.mem_map, List.mem_filter, decide_eq_true_eq]
  constructor
  · rintro ⟨⟨route, owner⟩, ⟨listed, free⟩, rfl⟩
    have routed : rt.Routed route := ⟨owner, listed⟩
    exact ⟨route, ⟨routed, mt (display_mem_localConflicts printed routed).mpr free⟩, rfl⟩
  · rintro ⟨route, ⟨routed, free⟩, rfl⟩
    obtain ⟨owner, listed⟩ := routed
    exact ⟨(route, owner),
      ⟨listed, mt (display_mem_localConflicts printed ⟨owner, listed⟩).mp free⟩, rfl⟩

/-! ### After a call without an error -/

theorem syncRoutes_completed (completed : (rt.syncRoutes env platform host).1.lastError = none) :
    (rt.syncRoutes env platform host).1 = rt.recordSynced env := by
  rcases syncRoutes_outcome env platform rt host with synced | ⟨err, failed⟩
  · exact synced
  · rw [failed] at completed
    cases completed

/-- A call that completes records as installed the routes that meet no local subnet, as conflicting
the others, and goes by whether two networks have an address in common. -/
theorem syncRoutes_records (env : VpnEnv) (printed : Function.Injective env.display)
    (platform : Platform) (rt : VpnRuntime) (host : Host)
    (completed : (rt.syncRoutes env platform host).1.lastError = none) :
    ((rt.syncRoutes env platform host).1.installedRoutes : Set String) =
        env.display '' {route | rt.Routed route ∧ ¬ rt.MeetsLocal route} ∧
      ((rt.syncRoutes env platform host).1.conflictedRoutes : Set String) =
        env.display '' {route | rt.Routed route ∧ rt.MeetsLocal route} ∧
      ∀ a b : Ipv4Cidr, routesOverlap a b = true ↔
        ∃ ip : Ipv4Addr, a.contains ip = true ∧ b.contains ip = true := by
  rw [syncRoutes_completed completed]
  refine ⟨?_, ?_, routesOverlap_iff⟩
  · ext key
    exact mem_desiredRoutes printed
  · ext key
    exact mem_localConflicts

end VpnRuntime

/-! ### A neighbour's alias -/

def printingEnv : VpnEnv where display := Ipv4Cidr.codec.print

theorem printingEnv_injective : Function.Injective printingEnv.display :=
  Ipv4Cidr.codec.print_injective

/-- A peer's route inside a local subnet, beside one that is free. -/
def lanRuntime : VpnRuntime :=
  { SyncCall.attachedRuntime with
    router := { subnets := [(.net24 10 9 0, .repeated 7), (.net24 172 16 5, .repeated 7)] }
    localRoutes := [.net16 172 16] }

theorem syncRoutes_records_lan :
    "10.9.0.0/24" ∈ (lanRuntime.syncRoutes printingEnv SyncCall.working {}).1.installedRoutes ∧
      "172.16.5.0/24" ∈ (lanRuntime.syncRoutes printingEnv SyncCall.working {}).1.conflictedRoutes := by
  have completes : lanRuntime.SyncCompletes printingEnv SyncCall.working := ⟨fun _ _ => rfl, rfl⟩
  have synced : (lanRuntime.syncRoutes printingEnv SyncCall.working {}).1 =
      lanRuntime.recordSynced printingEnv := by
    have outcome := (@VpnRuntime.syncRoutes_eq printingEnv SyncCall.working lanRuntime {} "tun0" rfl).2
    rwa [if_pos completes] at outcome
  obtain ⟨installed, conflicted, _⟩ := VpnRuntime.syncRoutes_records printingEnv
    printingEnv_injective SyncCall.working lanRuntime {} (congrArg VpnRuntime.lastError synced)
  have local_ : lanRuntime.MeetsLocal (.net24 172 16 5) :=
    VpnRuntime.meetsLocal_iff.mpr (by decide)
  have free : ¬ lanRuntime.MeetsLocal (.net24 10 9 0) :=
    mt VpnRuntime.meetsLocal_iff.mp (by decide)
  refine ⟨?_, ?_⟩
  · rw [← Finset.mem_coe, installed]
    exact ⟨_, ⟨⟨_, List.mem_cons_self⟩, free⟩, by decide⟩
  · rw [← Finset.mem_coe, conflicted]
    exact ⟨_, ⟨⟨_, List.mem_cons_of_mem _ List.mem_cons_self⟩, local_⟩, by decide⟩

end Kaonic.Vpn
