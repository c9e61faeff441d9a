import Kaonic.Base.Reconcile
import Kaonic.Base.Text
import Kaonic.Vpn.Runtime

/-!
# Kernel routes

`sync_routes` brings the routes on the tunnel interface to those of the router. It returns at the
first command that fails, with the routes placed so far in the kernel and not on its record.
-/

namespace Kaonic.Vpn
open Net

def cidrBounds (route : Ipv4Cidr) : Nat × Nat :=
  let start := route.firstAddress.toNat
  let hostBits := 32 - route.networkLength
  let size := match hostBits with
    | 0 => 1
    | 32 => 2 ^ 32
    | bits => 1 <<< bits
  (start, start + size - 1)

def routesOverlap (a b : Ipv4Cidr) : Bool :=
  decide ((cidrBounds a).1 ≤ (cidrBounds b).2 ∧ (cidrBounds b).1 ≤ (cidrBounds a).2)

def conflictingLocalRoutes (env : VpnEnv) (translations : List LocalRouteTranslation)
    (routes : List Ipv4Cidr) : Finset String :=
  ((routes.filter fun route => translations.any fun t =>
    routesOverlap route t.local_ || routesOverlap route t.exported).map env.display).toFinset

/-- The outcome of the platform's commands during one call. -/
structure Platform where
  replaceRoute : String → Except String Unit
  syncRouteTranslations : Except String Unit

/-- The loop over `replace_route`, which the first error leaves. -/
def replaceRoutes (platform : Platform) (kernel : Finset String) :
    List String → Finset String × Except String Unit
  | [] => (kernel, .ok ())
  | route :: rest =>
    match platform.replaceRoute route with
    | .ok _ => replaceRoutes platform (insert route kernel) rest
    | .error err => (kernel, .error err)

namespace VpnRuntime

def translations (rt : VpnRuntime) : List LocalRouteTranslation :=
  localRouteTranslations rt.localRoutes rt.destination rt.routeAliasingEnabled

def localConflicts (env : VpnEnv) (rt : VpnRuntime) : Finset String :=
  conflictingLocalRoutes env rt.translations (rt.router.subnets.map Prod.fst)

def desiredRoutes (env : VpnEnv) (rt : VpnRuntime) : Finset String :=
  ((rt.router.subnets.filter fun e => env.display e.1 ∉ rt.localConflicts env).map
    fun e => env.display e.1).toFinset

/-- The end of `sync_routes`, when every command has succeeded. -/
def recordSynced (env : VpnEnv) (rt : VpnRuntime) : VpnRuntime :=
  { rt with
    installedRoutes := rt.desiredRoutes env
    conflictedRoutes := rt.localConflicts env
    lastError := none
    status := if rt.status ≠ .mock then .running else rt.status }

def syncRoutes (env : VpnEnv) (platform : Platform) (rt : VpnRuntime) (host : Host) :
    VpnRuntime × Host :=
  let desired := rt.desiredRoutes env
  match rt.interfaceName with
  | none => (rt.recordSynced env, host)
  | some _ =>
    -- `delete_route` takes away what the record has beyond the desired routes
    let kept := host.routes \ (rt.installedRoutes \ desired)
    match replaceRoutes platform kept (Text.sorted desired) with
    | (kernel, .error err) => (rt.setError err, { host with routes := kernel })
    | (kernel, .ok _) =>
      match platform.syncRouteTranslations with
      | .error err => (rt.setError err, { host with routes := kernel })
      | .ok _ => (rt.recordSynced env, { host with routes := kernel })

def placedRoutes (env : VpnEnv) (platform : Platform) (rt : VpnRuntime) : Finset String :=
  ((Text.sorted (rt.desiredRoutes env)).takeWhile fun route =>
    (platform.replaceRoute route).toBool).toFinset

def SyncCompletes (env : VpnEnv) (platform : Platform) (rt : VpnRuntime) : Prop :=
  (∀ route ∈ rt.desiredRoutes env, (platform.replaceRoute route).toBool) ∧
    platform.syncRouteTranslations.toBool

instance (env : VpnEnv) (platform : Platform) (rt : VpnRuntime) :
    Decidable (rt.SyncCompletes env platform) := inferInstanceAs (Decidable (_ ∧ _))

end VpnRuntime

/-! ### What one call does -/

theorem replaceRoutes_kernel (platform : Platform) (kernel : Finset String) (routes : List String) :
    (replaceRoutes platform kernel routes).1 = kernel ∪
      (routes.takeWhile fun route => (platform.replaceRoute route).toBool).toFinset := by
  induction routes generalizing kernel with
  | nil => simp [replaceRoutes]
  | cons route rest ih =>
    unfold replaceRoutes
    cases outcome : platform.replaceRoute route with
    | error err => simp [outcome, Except.toBool]
    | ok _ => simp [outcome, Except.toBool, ih]

theorem replaceRoutes_ok (platform : Platform) (kernel : Finset String) (routes : List String) :
    (replaceRoutes platform kernel routes).2.toBool = true ↔
      ∀ route ∈ routes, (platform.replaceRoute route).toBool = true := by
  induction routes generalizing kernel with
  | nil => simp [replaceRoutes, Except.toBool]
  | cons route rest ih =>
    unfold replaceRoutes
    cases outcome : platform.replaceRoute route with
    | error err => simp [outcome, Except.toBool]
    | ok _ => simpa [outcome, Except.toBool] using ih (insert route kernel)

namespace VpnRuntime

variable {env : VpnEnv} {platform : Platform} {rt : VpnRuntime} {host : Host}

theorem placedRoutes_of_replaced
    (replaced : ∀ route ∈ rt.desiredRoutes env, (platform.replaceRoute route).toBool) :
    rt.placedRoutes env platform = rt.desiredRoutes env := by
  have all : (Text.sorted (rt.desiredRoutes env)).takeWhile
      (fun route => (platform.replaceRoute route).toBool) = Text.sorted (rt.desiredRoutes env) := by
    rw [List.takeWhile_eq_self_iff]
    intro route member
    exact replaced route (Text.mem_sorted.mp member)
  rw [placedRoutes, all, Text.toFinset_sorted]

theorem placedRoutes_subset : rt.placedRoutes env platform ⊆ rt.desiredRoutes env := by
  intro route member
  rw [placedRoutes, List.mem_toFinset] at member
  exact Text.mem_sorted.mp ((List.takeWhile_sublist _).subset member)

/-- On an interface, a call takes away what the record has beyond the desired routes, places
routes up to the first failure, and ends with the new record or with the error. -/
theorem syncRoutes_eq {name : String} (attached : rt.interfaceName = some name) :
    (rt.syncRoutes env platform host).2.routes =
        (host.routes \ (rt.installedRoutes \ rt.desiredRoutes env)) ∪
          rt.placedRoutes env platform ∧
      if rt.SyncCompletes env platform then
        (rt.syncRoutes env platform host).1 = rt.recordSynced env
      else ∃ err, (rt.syncRoutes env platform host).1 = rt.setError err := by
  have kernel := replaceRoutes_kernel platform
    (host.routes \ (rt.installedRoutes \ rt.desiredRoutes env)) (Text.sorted (rt.desiredRoutes env))
  have ok := replaceRoutes_ok platform
    (host.routes \ (rt.installedRoutes \ rt.desiredRoutes env)) (Text.sorted (rt.desiredRoutes env))
  unfold syncRoutes
  rw [attached]
  dsimp only
  split
  · rename_i after err failed
    rw [failed] at kernel ok
    have broken : ¬ rt.SyncCompletes env platform := by
      intro completes
      have all := ok.mpr fun route member => completes.1 route (Text.mem_sorted.mp member)
      cases all
    rw [if_neg broken]
    exact ⟨kernel, err, rfl⟩
  · rename_i after _ replaced
    rw [replaced] at kernel ok
    have all : ∀ route ∈ rt.desiredRoutes env, (platform.replaceRoute route).toBool = true :=
      fun route member => ok.mp rfl route (Text.mem_sorted.mpr member)
    split
    · rename_i err failed
      have broken : ¬ rt.SyncCompletes env platform := by
        intro completes
        have translated := completes.2
        rw [failed] at translated
        cases translated
      rw [if_neg broken]
      exact ⟨kernel, err, rfl⟩
    · rename_i translated
      have completes : rt.SyncCompletes env platform := ⟨all, by rw [translated]; rfl⟩
      rw [if_pos completes]
      exact ⟨kernel, rfl⟩

theorem syncRoutes_outcome (env : VpnEnv) (platform : Platform) (rt : VpnRuntime) (host : Host) :
    (rt.syncRoutes env platform host).1 = rt.recordSynced env ∨
      ∃ err, (rt.syncRoutes env platform host).1 = rt.setError err := by
  cases attached : rt.interfaceName with
  | none =>
    left
    unfold syncRoutes
    rw [attached]
  | some name =>
    obtain ⟨_, outcome⟩ := @syncRoutes_eq env platform rt host name attached
    split at outcome
    · exact Or.inl outcome
    · exact Or.inr outcome

/-- A call touches its own record, the error and the status, and nothing else of the runtime. -/
theorem syncRoutes_frame (env : VpnEnv) (platform : Platform) (rt : VpnRuntime) (host : Host) :
    ∃ installedRoutes conflictedRoutes lastError status,
      (rt.syncRoutes env platform host).1 =
        { rt with installedRoutes, conflictedRoutes, lastError, status } := by
  rcases syncRoutes_outcome env platform rt host with synced | ⟨err, failed⟩
  · exact ⟨_, _, _, _, synced⟩
  · exact ⟨_, _, _, _, failed⟩

end VpnRuntime

/-! ### A series of calls -/

/-- One call: the router's table and the local routes it finds, and how the commands turn out. -/
structure SyncCall where
  router : RouteTable
  localRoutes : List Ipv4Cidr
  platform : Platform

namespace SyncCall

def at_ (c : SyncCall) (rt : VpnRuntime) : VpnRuntime :=
  { rt with router := c.router, localRoutes := c.localRoutes }

variable (env : VpnEnv) (rt : VpnRuntime)

def run (c : SyncCall) (s : VpnRuntime × Host) : VpnRuntime × Host :=
  (c.at_ s.1).syncRoutes env c.platform s.2

/-- The calls in turn, from a kernel without routes of this runtime. -/
def runAll (calls : List SyncCall) : VpnRuntime × Host :=
  calls.foldl (fun s c => c.run env s) (rt, {})

def Completes (c : SyncCall) : Prop := (c.at_ rt).SyncCompletes env c.platform

instance (c : SyncCall) : Decidable (c.Completes env rt) :=
  inferInstanceAs (Decidable (VpnRuntime.SyncCompletes _ _ _))

def toCall (c : SyncCall) : Reconcile.Call String where
  desired := (c.at_ rt).desiredRoutes env
  placed := (c.at_ rt).placedRoutes env c.platform
  completed := decide (c.Completes env rt)
  full completed := VpnRuntime.placedRoutes_of_replaced (of_decide_eq_true completed).1

/-- A runtime on its interface, with what it has put into the kernel and onto its record. -/
structure Follows (s : VpnRuntime × Host) (r : Reconcile.State String) : Prop where
  interface : s.1.interfaceName = rt.interfaceName
  destination : s.1.destination = rt.destination
  aliasing : s.1.routeAliasingEnabled = rt.routeAliasingEnabled
  kernel : s.2.routes = r.actual
  record : s.1.installedRoutes = r.record

variable {env rt} {s : VpnRuntime × Host} {r : Reconcile.State String} {c : SyncCall}

theorem Follows.desired (follows : Follows rt s r) :
    (c.at_ s.1).desiredRoutes env = (c.at_ rt).desiredRoutes env := by
  have translations : (c.at_ s.1).translations = (c.at_ rt).translations := by
    unfold VpnRuntime.translations at_
    rw [follows.destination, follows.aliasing]
  unfold VpnRuntime.desiredRoutes VpnRuntime.localConflicts
  rw [translations]
  rfl

theorem Follows.completes (follows : Follows rt s r) :
    (c.at_ s.1).SyncCompletes env c.platform ↔ c.Completes env rt := by
  unfold SyncCall.Completes VpnRuntime.SyncCompletes
  rw [follows.desired]

theorem Follows.run_completed {name : String} (attached : rt.interfaceName = some name)
    (follows : Follows rt s r) (completes : c.Completes env rt) :
    (c.run env s).1 = (c.at_ s.1).recordSynced env := by
  have here : (c.at_ s.1).interfaceName = some name := follows.interface.trans attached
  obtain ⟨_, outcome⟩ := @VpnRuntime.syncRoutes_eq env c.platform (c.at_ s.1) s.2 name here
  rw [if_pos (follows.completes.mpr completes)] at outcome
  exact outcome

theorem Follows.run_broken {name : String} (attached : rt.interfaceName = some name)
    (follows : Follows rt s r) (broken : ¬ c.Completes env rt) :
    ∃ err, (c.run env s).1 = (c.at_ s.1).setError err := by
  have here : (c.at_ s.1).interfaceName = some name := follows.interface.trans attached
  obtain ⟨_, outcome⟩ := @VpnRuntime.syncRoutes_eq env c.platform (c.at_ s.1) s.2 name here
  rw [if_neg (mt follows.completes.mp broken)] at outcome
  exact outcome

theorem Follows.run_routes {name : String} (attached : rt.interfaceName = some name)
    (follows : Follows rt s r) : (c.run env s).2.routes = (r.step (c.toCall env rt)).actual := by
  have here : (c.at_ s.1).interfaceName = some name := follows.interface.trans attached
  obtain ⟨kernel, _⟩ := @VpnRuntime.syncRoutes_eq env c.platform (c.at_ s.1) s.2 name here
  have desired := @Follows.desired env rt s r c follows
  have placed : (c.at_ s.1).placedRoutes env c.platform = (c.at_ rt).placedRoutes env c.platform := by
    unfold VpnRuntime.placedRoutes
    rw [desired]
  refine kernel.trans ?_
  rw [desired, placed, follows.kernel]
  show (_ \ (s.1.installedRoutes \ _)) ∪ _ = _
  rw [follows.record]
  rfl

theorem Follows.run {name : String} (attached : rt.interfaceName = some name)
    (follows : Follows rt s r) : Follows rt (c.run env s) (r.step (c.toCall env rt)) := by
  have actual := @Follows.run_routes env rt s r c name attached follows
  by_cases completes : c.Completes env rt
  · have after := follows.run_completed attached completes
    have record : (r.step (c.toCall env rt)).record = (c.at_ rt).desiredRoutes env := by
      simp [Reconcile.State.step, toCall, completes]
    exact ⟨after ▸ follows.interface, after ▸ follows.destination, after ▸ follows.aliasing, actual,
      by rw [after, record]; exact follows.desired⟩
  · obtain ⟨err, after⟩ := follows.run_broken attached completes
    have record : (r.step (c.toCall env rt)).record = r.record := by
      simp [Reconcile.State.step, toCall, completes]
    exact ⟨after ▸ follows.interface, after ▸ follows.destination, after ▸ follows.aliasing, actual,
      by rw [after, record]; exact follows.record⟩

theorem Follows.lastError {name : String} (attached : rt.interfaceName = some name)
    (follows : Follows rt s r) : (c.run env s).1.lastError = none ↔ c.Completes env rt := by
  by_cases completes : c.Completes env rt
  · rw [follows.run_completed attached completes]
    exact ⟨fun _ => completes, fun _ => rfl⟩
  · obtain ⟨err, after⟩ := follows.run_broken attached completes
    rw [after]
    refine ⟨?_, fun done => (completes done).elim⟩
    intro quiet
    cases quiet

theorem runAll_concat (calls : List SyncCall) (c : SyncCall) :
    runAll env rt (calls ++ [c]) = c.run env (runAll env rt calls) := by
  unfold runAll
  rw [List.foldl_concat]

theorem follows_runAll {name : String} (attached : rt.interfaceName = some name)
    (fresh : rt.installedRoutes = ∅) (calls : List SyncCall) :
    Follows rt (runAll env rt calls) (Reconcile.run (toCall env rt) calls) := by
  induction calls using List.reverseRecOn with
  | nil => exact ⟨rfl, rfl, rfl, rfl, fresh⟩
  | append_singleton calls c ih =>
    rw [Reconcile.run_concat, runAll_concat]
    exact ih.run attached

/-- The kernel has just the desired routes after every call without an error exactly when each
route that a failing call left in the kernel beyond its record is desired by the next call that
goes through. -/
theorem syncRoutes_exact_iff (env : VpnEnv) (rt : VpnRuntime) (name : String)
    (attached : rt.interfaceName = some name) (fresh : rt.installedRoutes = ∅)
    (calls : List SyncCall) :
    (∀ before c, before ++ [c] <+: calls →
      (runAll env rt (before ++ [c])).1.lastError = none →
        (runAll env rt (before ++ [c])).2.routes = (c.at_ rt).desiredRoutes env) ↔
    ∀ before failed between next, before ++ failed :: between ++ [next] <+: calls →
      ¬ failed.Completes env rt → (∀ c ∈ between, ¬ c.Completes env rt) → next.Completes env rt →
        (failed.at_ rt).placedRoutes env failed.platform \ (runAll env rt before).1.installedRoutes ⊆
          (next.at_ rt).desiredRoutes env := by
  have follows := @follows_runAll env rt name attached fresh
  have error : ∀ before c, (runAll env rt (before ++ [c])).1.lastError = none ↔
      (toCall env rt c).completed = true := by
    intro before c
    rw [runAll_concat, (follows before).lastError attached]
    exact decide_eq_true_iff.symm
  have broken : ∀ c, ¬ Completes env rt c ↔ (toCall env rt c).completed = false :=
    fun c => decide_eq_false_iff_not.symm
  have exact_ : (∀ before c, before ++ [c] <+: calls →
      (runAll env rt (before ++ [c])).1.lastError = none →
        (runAll env rt (before ++ [c])).2.routes = (c.at_ rt).desiredRoutes env) ↔
      Reconcile.Exact (toCall env rt) calls := by
    simp only [Reconcile.Exact, error, (follows _).kernel]
    rfl
  rw [exact_, Reconcile.exact_iff_covered]
  simp only [Reconcile.Covered, broken, (follows _).record]
  have completes : ∀ c, Completes env rt c ↔ (toCall env rt c).completed = true :=
    fun c => decide_eq_true_iff.symm
  simp only [completes]
  rfl

/-! ### A failing translation -/

def plainEnv : VpnEnv where display _ := "10.9.0.0/24"

def peerTable : RouteTable where
  subnets := [(.net24 10 9 0, .repeated 7)]

def attachedRuntime : VpnRuntime where
  destination := .repeated 0
  network := .net16 10 20
  localTunnelIp := .new 10 20 0 1
  interfaceName := some "tun0"
  routeAliasingEnabled := true
  status := .running
  allowAllPeers := true
  allowedPeers := ∅
  advertisedRoutes := []
  localRoutes := []

def working : Platform where
  replaceRoute _ := .ok ()
  syncRouteTranslations := .ok ()

def untranslated : Platform where
  replaceRoute _ := .ok ()
  syncRouteTranslations := .error "iptables -t nat -N KAONIC_VPN_PREROUTING failed"

/-- A peer's route is placed, and then the translations fail. -/
def interrupted : SyncCall := ⟨peerTable, [], untranslated⟩

def retried : SyncCall := ⟨peerTable, [], working⟩

def departed : SyncCall := ⟨{}, [], working⟩

/-- The same routes again after a failure: the kernel is as desired. -/
theorem syncRoutes_exact_retry : ¬ interrupted.Completes plainEnv attachedRuntime ∧
    ∀ before c, before ++ [c] <+: [interrupted, retried] →
      (runAll plainEnv attachedRuntime (before ++ [c])).1.lastError = none →
        (runAll plainEnv attachedRuntime (before ++ [c])).2.routes =
          (c.at_ attachedRuntime).desiredRoutes plainEnv := by
  refine ⟨fun completes => (by cases completes.2),
    (syncRoutes_exact_iff plainEnv attachedRuntime "tun0" rfl rfl _).mpr ?_⟩
  intro before failed between next start _ _ _
  have length := start.length_le
  simp only [List.length_append, List.length_cons, List.length_nil] at length
  obtain rfl : before = [] := List.length_eq_zero_iff.mp (by omega)
  obtain rfl : between = [] := List.length_eq_zero_iff.mp (by omega)
  have pair := start.eq_of_length (by simp)
  simp only [List.nil_append, List.cons_append, List.cons.injEq, and_true] at pair
  obtain ⟨rfl, rfl⟩ := pair
  exact Finset.sdiff_subset.trans VpnRuntime.placedRoutes_subset

/-- The peer departs after a failure: its route stays. -/
theorem syncRoutes_departed :
    (runAll plainEnv attachedRuntime [interrupted, departed]).1.lastError = none ∧
      (runAll plainEnv attachedRuntime [interrupted, departed]).2.routes = {"10.9.0.0/24"} ∧
      (departed.at_ attachedRuntime).desiredRoutes plainEnv = ∅ := by
  have wanted : (interrupted.at_ attachedRuntime).desiredRoutes plainEnv = {"10.9.0.0/24"} := by
    decide
  have nothing : (departed.at_ attachedRuntime).desiredRoutes plainEnv = ∅ := rfl
  have placed : (interrupted.at_ attachedRuntime).placedRoutes plainEnv interrupted.platform =
      {"10.9.0.0/24"} := (VpnRuntime.placedRoutes_of_replaced fun _ _ => rfl).trans wanted
  have broken : ¬ interrupted.Completes plainEnv attachedRuntime :=
    fun completes => by cases completes.2
  have completes : departed.Completes plainEnv attachedRuntime := ⟨fun _ _ => rfl, rfl⟩
  have follows := @follows_runAll plainEnv attachedRuntime "tun0" rfl rfl
  refine ⟨((follows [interrupted]).lastError rfl).mpr completes, ?_, nothing⟩
  have stray : (Reconcile.run (toCall plainEnv attachedRuntime) [interrupted]).stray =
      {"10.9.0.0/24"} := by
    simp [Reconcile.run, Reconcile.State.step, Reconcile.State.stray, toCall, placed, broken]
  have actual := @Reconcile.actual_completed _ _
    (Reconcile.run (toCall plainEnv attachedRuntime) [interrupted])
    (toCall plainEnv attachedRuntime departed) (decide_eq_true completes)
  rw [stray] at actual
  rw [(follows [interrupted, departed]).kernel]
  exact actual

end SyncCall

end Kaonic.Vpn
