import Kaonic.Gateway.Handlers

/-!
# Crossing settings requests

A handler saves under the settings lock and applies to the VPN after it has released the lock, so
requests can save in one order and apply in another.
-/

namespace Kaonic.Gateway
open Net Vpn Register

/-! ### What a change writes -/

section

variable {R M : Type} {codec : SettingsCodec R M} {env : VpnEnv} {hex : Text.Codec AddressHash}
  {fault : Option SqlFault} {out : Outside} {db : Database} {rt : VpnRuntime} {host : Host}

def policyOf (hex : Text.Codec AddressHash) (allowAllPeers : Bool) (peers : List String) :
    Option AccessPolicy :=
  (parseConfiguredPeers hex peers).toOption.map fun hashes => ⟨allowAllPeers, hashes.toFinset⟩

def GatewayConfig.policy (hex : Text.Codec AddressHash) (config : GatewayConfig R M) :
    Option AccessPolicy := policyOf hex config.allowAllPeers config.peers

namespace Change

def policy (hex : Text.Codec AddressHash) : Change R M → Option AccessPolicy
  | .settings config => config.policy hex
  | .routes _ => none
  | .access allowAllPeers peers => policyOf hex allowAllPeers peers

def advertisedRoutes : Change R M → Option (List Ipv4Cidr)
  | .settings config => some config.advertisedRoutes
  | .routes cidrs => some cidrs
  | .access _ _ => none

end Change

/-- The policy in the database, if its peers parse. -/
def persistedPolicy (codec : SettingsCodec R M) (hex : Text.Codec AddressHash) (db : Database) :
    Option AccessPolicy := (db.loadConfig codec).toOption.bind (GatewayConfig.policy hex)

def persistedRoutes (codec : SettingsCodec R M) (db : Database) : Option (List Ipv4Cidr) :=
  (db.loadConfig codec).toOption.map GatewayConfig.advertisedRoutes

theorem policyOf_eq_some {allowAllPeers : Bool} {peers : List String} {hashes : List AddressHash}
    (parsed : parseConfiguredPeers hex peers = .ok hashes) :
    policyOf hex allowAllPeers peers = some ⟨allowAllPeers, hashes.toFinset⟩ := by
  rw [policyOf, parsed]
  rfl

theorem policyOf_congr {a b : List String} (same : ∀ p, p ∈ a ↔ p ∈ b) (allowAllPeers : Bool) :
    policyOf hex allowAllPeers a = policyOf hex allowAllPeers b := by
  have ok : (parseConfiguredPeers hex a).isOk = (parseConfiguredPeers hex b).isOk := by
    rw [Bool.eq_iff_iff, parseConfiguredPeers_isOk, parseConfiguredPeers_isOk]
    simp only [same]
  cases left : parseConfiguredPeers hex a with
  | error err =>
    cases right : parseConfiguredPeers hex b with
    | error _ => rw [policyOf, policyOf, left, right]; rfl
    | ok others =>
      rw [left, right] at ok
      cases ok
  | ok hashes =>
    cases right : parseConfiguredPeers hex b with
    | error err =>
      rw [left, right] at ok
      cases ok
    | ok others =>
      rw [policyOf_eq_some left, policyOf_eq_some right,
        toFinset_parseConfiguredPeers same left right]

theorem policy_stored (config : GatewayConfig R M) :
    config.stored.policy hex = config.policy hex :=
  policyOf_congr (by simp [GatewayConfig.stored]) config.allowAllPeers

theorem policy_taken {now : Nat} {platform : Platform} {allowAllPeers : Bool} {peers : List String}
    (taken : (rt.replacePeerPolicy env hex platform now allowAllPeers peers host).2 = .ok ()) :
    policyOf hex allowAllPeers peers =
        some (rt.replacePeerPolicy env hex platform now allowAllPeers peers host).1.1.enforced.policy ∧
      (rt.replacePeerPolicy env hex platform now allowAllPeers peers host).1.1.enforced.advertisedRoutes =
        rt.enforced.advertisedRoutes := by
  obtain ⟨hashes, parsed, enforced⟩ := VpnRuntime.enforced_replacePeerPolicy taken
  rw [policyOf_eq_some parsed, enforced]
  exact ⟨rfl, rfl⟩

theorem enforced_apply {change : Change R M}
    (applied : (change.apply env hex out rt host).2 = .ok ()) :
    ((∃ cidrs, change = .routes cidrs) ∨ (change.policy hex).isSome) ∧
      some (change.apply env hex out rt host).1.1.enforced.policy =
        (change.policy hex).or (some rt.enforced.policy) ∧
      some (change.apply env hex out rt host).1.1.enforced.advertisedRoutes =
        change.advertisedRoutes.or (some rt.enforced.advertisedRoutes) := by
  cases change with
  | settings config =>
    unfold Change.apply at applied ⊢
    dsimp only at applied ⊢
    split at applied
    · cases applied
    · rename_i outcome
      have taken := @policy_taken env hex rt host out.now out.platform config.allowAllPeers
        config.peers (by rw [outcome])
      rw [outcome] at taken
      obtain ⟨policy, _⟩ := taken
      dsimp only
      rw [VpnRuntime.enforced_replaceAdvertisedRoutes, Change.policy, GatewayConfig.policy, policy]
      exact ⟨Or.inr rfl, rfl, rfl⟩
  | routes cidrs =>
    unfold Change.apply
    rw [VpnRuntime.enforced_replaceAdvertisedRoutes]
    exact ⟨Or.inl ⟨cidrs, rfl⟩, rfl, rfl⟩
  | access allowAllPeers peers =>
    unfold Change.apply at applied ⊢
    dsimp only at applied ⊢
    split at applied
    · cases applied
    · rename_i outcome
      have taken := @policy_taken env hex rt host out.now out.platform allowAllPeers peers
        (by rw [outcome])
      rw [outcome] at taken
      obtain ⟨policy, routes⟩ := taken
      rw [Change.policy, policy]
      exact ⟨Or.inr rfl, rfl, congrArg some routes⟩

/-- A change that is saved, and parses if it sets the policy, is what the database holds. -/
theorem persisted_save {change : Change R M} (saved : (change.save codec fault db).2 = .ok ())
    (parses : (∃ cidrs, change = .routes cidrs) ∨ (change.policy hex).isSome) :
    persistedPolicy codec hex (change.save codec fault db).1 =
        (change.policy hex).or (persistedPolicy codec hex db) ∧
      persistedRoutes codec (change.save codec fault db).1 =
        change.advertisedRoutes.or (persistedRoutes codec db) := by
  obtain ⟨config, target, after⟩ := Change.loadConfig_save saved
  have policy : persistedPolicy codec hex (change.save codec fault db).1 = config.policy hex := by
    rw [persistedPolicy, after]
    exact policy_stored config
  have routes : persistedRoutes codec (change.save codec fault db).1 =
      some config.advertisedRoutes := by
    rw [persistedRoutes, after]
    rfl
  rw [policy, routes]
  cases change with
  | settings _ =>
    obtain rfl := Except.ok.inj target
    obtain ⟨_, same⟩ | some_ := parses
    · cases same
    · exact ⟨(Option.or_of_isSome some_).symm, rfl⟩
  | routes cidrs =>
    obtain ⟨old, loaded, rfl⟩ := Traverse.map_eq_ok.mp target
    rw [persistedPolicy, loaded]
    exact ⟨rfl, rfl⟩
  | access allowAllPeers peers =>
    obtain ⟨old, loaded, rfl⟩ := Traverse.map_eq_ok.mp target
    obtain ⟨_, same⟩ | some_ := parses
    · cases same
    · rw [persistedRoutes, loaded]
      exact ⟨(Option.or_of_isSome some_).symm, rfl⟩

end

/-! ### Interleaved requests -/

/-- The database and the VPN that requests share. -/
structure Shared where
  db : Database
  rt : VpnRuntime
  host : Host

section

variable {R M ι : Type} (codec : SettingsCodec R M) (env : VpnEnv) (hex : Text.Codec AddressHash)
  (requests : ι → Request R M) (outside : ι → Outside)

/-- One half of a request, which does not return if the request fails there. -/
def phase (s : Shared) : Phase ι → Option Shared
  | .save i =>
    match (requests i).read codec hex with
    | .error _ => none
    | .ok change =>
      match change.save codec (outside i).fault s.db with
      | (_, .error _) => none
      | (db, .ok _) => some { s with db }
  | .apply i =>
    match (requests i).read codec hex with
    | .error _ => none
    | .ok change =>
      match change.apply env hex (outside i) s.rt s.host with
      | (_, .error _) => none
      | ((rt, host), .ok _) => some { s with rt, host }

def runPhases (s : Shared) (schedule : List (Phase ι)) : Option Shared :=
  schedule.foldlM (phase codec env hex requests outside) s

/-- The persisted policy and routes are those that the VPN enforces. -/
def Shared.InSync (s : Shared) : Prop :=
  persistedPolicy codec hex s.db = some s.rt.enforced.policy ∧
    persistedRoutes codec s.db = some s.rt.enforced.advertisedRoutes

def requestedPolicy (i : ι) : Option AccessPolicy :=
  ((requests i).read codec hex).toOption.bind (Change.policy hex)

def requestedRoutes (i : ι) : Option (List Ipv4Cidr) :=
  ((requests i).read codec hex).toOption.bind Change.advertisedRoutes

end

section

variable {R M ι : Type} {codec : SettingsCodec R M} {env : VpnEnv} {hex : Text.Codec AddressHash}
  {requests : ι → Request R M} {outside : ι → Outside} {s s' : Shared} {i : ι}

theorem phase_save (done : phase codec env hex requests outside s (.save i) = some s') :
    ∃ change, (requests i).read codec hex = .ok change ∧
      (change.save codec (outside i).fault s.db).2 = .ok () ∧
      s' = { s with db := (change.save codec (outside i).fault s.db).1 } := by
  unfold phase at done
  dsimp only at done
  split at done
  · cases done
  · rename_i change read
    refine ⟨change, read, ?_⟩
    split at done <;> rename_i outcome
    · cases done
    · rw [outcome]
      exact ⟨rfl, (Option.some.inj done).symm⟩

theorem phase_apply (done : phase codec env hex requests outside s (.apply i) = some s') :
    ∃ change, (requests i).read codec hex = .ok change ∧
      (change.apply env hex (outside i) s.rt s.host).2 = .ok () ∧
      s' = { s with
        rt := (change.apply env hex (outside i) s.rt s.host).1.1
        host := (change.apply env hex (outside i) s.rt s.host).1.2 } := by
  unfold phase at done
  dsimp only at done
  split at done
  · cases done
  · rename_i change read
    refine ⟨change, read, ?_⟩
    split at done <;> rename_i outcome
    · cases done
    · rw [outcome]
      exact ⟨rfl, (Option.some.inj done).symm⟩

theorem isError_of_read {request : Request R M} {reply : Reply}
    (failed : request.read codec hex = .error reply) : reply.isError = true := by
  unfold Request.read at failed
  split at failed
  · cases failed
  all_goals
    split at failed
    · cases failed
    · obtain rfl := Except.error.inj failed
      rfl

theorem isError_of_save {change : Change R M} {fault : Option SqlFault} {db : Database}
    {reply : Reply} (failed : (change.save codec fault db).2 = .error reply) :
    reply.isError = true := by
  have updated : ∀ change : Change R M, (change.update codec fault db).2 = .error reply →
      reply.isError = true := by
    intro change failed
    unfold Change.update at failed
    split at failed
    · obtain rfl := Except.error.inj failed
      rfl
    · split at failed
      · obtain rfl := Except.error.inj failed
        rfl
      · cases failed
  cases change with
  | settings config =>
    unfold Change.save at failed
    dsimp only at failed
    split at failed
    · obtain rfl := Except.error.inj failed
      rfl
    · cases failed
  | routes cidrs => exact updated _ failed
  | access allowAllPeers peers => exact updated _ failed

theorem isError_of_apply {change : Change R M} {out : Outside} {rt : VpnRuntime} {host : Host}
    {reply : Reply} (failed : (change.apply env hex out rt host).2 = .error reply) :
    reply.isError = true := by
  unfold Change.apply at failed
  split at failed
  · split at failed
    · obtain rfl := Except.error.inj failed
      rfl
    · cases failed
  · cases failed
  · split at failed
    · obtain rfl := Except.error.inj failed
      rfl
    · cases failed

/-- A handler that runs undisturbed and does not fail is its two halves in a row. -/
theorem runPhases_handle {rt : VpnRuntime} {host : Host} {db : Database}
    (succeeds :
      ((requests i).handle codec env hex (outside i) ⟨db, some rt, host⟩).2.isError = false) :
    ∃ s', runPhases codec env hex requests outside ⟨db, rt, host⟩ [.save i, .apply i] = some s' ∧
      ((requests i).handle codec env hex (outside i) ⟨db, some rt, host⟩).1 =
        ⟨s'.db, some s'.rt, s'.host⟩ := by
  cases read : (requests i).read codec hex with
  | error reply =>
    simp only [Request.handle, read, isError_of_read read, Bool.true_eq_false] at succeeds
  | ok change =>
    rcases saved : change.save codec (outside i).fault db with ⟨db', reply | _⟩
    · have failed := @isError_of_save _ _ codec change (outside i).fault db reply (by rw [saved])
      simp only [Request.handle, read, saved, failed, Bool.true_eq_false] at succeeds
    · rcases applied : change.apply env hex (outside i) rt host with ⟨⟨rt', host'⟩, reply | _⟩
      · have failed := @isError_of_apply _ _ env hex change (outside i) rt host reply
          (by rw [applied])
        simp only [Request.handle, read, saved, applied, failed, Bool.true_eq_false] at succeeds
      · refine ⟨⟨db', rt', host'⟩, ?_, ?_⟩
        · simp [runPhases, phase, read, saved, applied]
        · simp only [Request.handle, read, saved, applied]

theorem phase_persisted {t t' : Shared} {e : Phase ι}
    (parses : ∀ i change, (requests i).read codec hex = .ok change →
      (∃ cidrs, change = .routes cidrs) ∨ (change.policy hex).isSome)
    (step : phase codec env hex requests outside t e = some t') :
    persistedPolicy codec hex t'.db =
        (saves (requestedPolicy codec hex requests) e).or (persistedPolicy codec hex t.db) ∧
      persistedRoutes codec t'.db =
        (saves (requestedRoutes codec hex requests) e).or (persistedRoutes codec t.db) := by
  cases e with
  | save i =>
    obtain ⟨change, read, through, rfl⟩ := phase_save step
    simp only [saves, requestedPolicy, requestedRoutes, read]
    exact persisted_save through (parses i change read)
  | apply i =>
    obtain ⟨_, _, _, rfl⟩ := phase_apply step
    exact ⟨rfl, rfl⟩

theorem phase_enforced {t t' : Shared} {e : Phase ι}
    (step : phase codec env hex requests outside t e = some t') :
    some t'.rt.enforced.policy =
        (applies (requestedPolicy codec hex requests) e).or (some t.rt.enforced.policy) ∧
      some t'.rt.enforced.advertisedRoutes =
        (applies (requestedRoutes codec hex requests) e).or
          (some t.rt.enforced.advertisedRoutes) := by
  cases e with
  | save i =>
    obtain ⟨_, _, _, rfl⟩ := phase_save step
    exact ⟨rfl, rfl⟩
  | apply i =>
    obtain ⟨change, read, through, rfl⟩ := phase_apply step
    simp only [applies, requestedPolicy, requestedRoutes, read]
    exact (enforced_apply through).2

/-- Where requests that all succeed end: the database with what was saved last, the VPN with what
was applied last. -/
theorem runPhases_views {schedule : List (Phase ι)} (interleaving : Interleaving schedule)
    (done : runPhases codec env hex requests outside s schedule = some s') :
    (persistedPolicy codec hex s'.db =
        (lastWrite (saves (requestedPolicy codec hex requests)) schedule).or
          (persistedPolicy codec hex s.db) ∧
      persistedRoutes codec s'.db =
        (lastWrite (saves (requestedRoutes codec hex requests)) schedule).or
          (persistedRoutes codec s.db)) ∧
    some s'.rt.enforced.policy =
        (lastWrite (applies (requestedPolicy codec hex requests)) schedule).or
          (some s.rt.enforced.policy) ∧
      some s'.rt.enforced.advertisedRoutes =
        (lastWrite (applies (requestedRoutes codec hex requests)) schedule).or
          (some s.rt.enforced.advertisedRoutes) := by
  -- a request that has been applied has peers that parse, whichever half comes up first
  have parses : ∀ i change, (requests i).read codec hex = .ok change →
      (∃ cidrs, change = .routes cidrs) ∨ (change.policy hex).isSome := by
    intro i change read
    have member : Phase.apply i ∈ schedule := (interleaving.ordered i).subset (by simp)
    obtain ⟨t, t', applied⟩ := exists_step done member
    obtain ⟨change', read', through, _⟩ := phase_apply applied
    obtain rfl := Except.ok.inj (read.symm.trans read')
    exact (enforced_apply through).1
  have persisted := fun t e t' => @phase_persisted _ _ _ codec env hex requests outside t t' e parses
  have enforced := fun t e t' => @phase_enforced _ _ _ codec env hex requests outside t t' e
  exact ⟨⟨view_run (fun t e t' step => (persisted t e t' step).1) done,
      view_run (fun t e t' step => (persisted t e t' step).2) done⟩,
    view_run (fun t e t' step => (enforced t e t' step).1) done,
    view_run (fun t e t' step => (enforced t e t' step).2) done⟩

/-- A gateway that has started goes by the configuration it was started with. -/
theorem inSync_start {boot : VpnRuntime.Boot} {config : GatewayConfig R M} {rt : VpnRuntime}
    {db : Database} {host after : Host} (loaded : db.loadConfig codec = .ok config)
    (started : VpnRuntime.start env hex boot config.toVpn host = .ok (rt, after)) :
    Shared.InSync codec hex ⟨db, rt, after⟩ := by
  obtain ⟨_, hashes, parsed, enforced⟩ := VpnRuntime.start_ok started
  have policy : config.policy hex = some rt.enforced.policy := by
    rw [enforced]
    exact policyOf_eq_some parsed
  refine ⟨?_, ?_⟩
  · rw [persistedPolicy, loaded]
    exact policy
  · rw [persistedRoutes, loaded, enforced]
    rfl

/-- Requests that all succeed leave the database and the VPN in sync exactly if the last to save
and the last to apply carry one policy, and the same for the routes. -/
theorem runPhases_inSync_iff (codec : SettingsCodec R M) (env : VpnEnv)
    (hex : Text.Codec AddressHash) (requests : ι → Request R M) (outside : ι → Outside)
    (schedule : List (Phase ι)) (s s' : Shared) (interleaving : Interleaving schedule)
    (start : s.InSync codec hex)
    (done : runPhases codec env hex requests outside s schedule = some s') :
    s'.InSync codec hex ↔ Agree (requestedPolicy codec hex requests) schedule ∧
      Agree (requestedRoutes codec hex requests) schedule := by
  obtain ⟨⟨policyDb, routesDb⟩, policyVpn, routesVpn⟩ := runPhases_views interleaving done
  unfold Shared.InSync
  rw [policyDb, routesDb, policyVpn, routesVpn, start.1, start.2]
  exact and_congr (interleaving.agree_iff _ _) (interleaving.agree_iff _ _)

end

/-! ### Two crossing requests -/

def bootedShared : Shared where
  db := {}
  rt := { SyncCall.attachedRuntime with advertisedRoutes := [.net24 192 168 10] }
  host := {}

/-- One request lets everyone in, the other one nobody. -/
def opposed : Fin 2 → Request String String
  | 0 => .putSettings { configOf [] with allowAllPeers := true }
  | 1 => .putSettings (configOf [])

def served (schedule : List (Phase (Fin 2))) : Option Shared :=
  runPhases plainCodec plainEnv AddressHash.hexCodec opposed (fun _ => undisturbed) bootedShared schedule

theorem bootedShared_inSync : bootedShared.InSync plainCodec AddressHash.hexCodec := by
  have loaded : bootedShared.db.loadConfig plainCodec =
      .ok (bootedShared.db.loadRest plainCodec (configOf []).network) := rfl
  have peers : (bootedShared.db.loadRest plainCodec (configOf []).network).peers = [] :=
    Text.sorted_empty
  refine ⟨?_, ?_⟩
  · rw [persistedPolicy, loaded]
    show GatewayConfig.policy _ _ = _
    rw [GatewayConfig.policy, peers]
    rfl
  · rw [persistedRoutes, loaded]
    rfl

/-- They agree when they apply in the order in which they saved. -/
theorem runPhases_ordered : ∃ s', served [.save 0, .save 1, .apply 0, .apply 1] = some s' ∧
    s'.InSync plainCodec AddressHash.hexCodec := by
  refine ⟨_, rfl, (runPhases_inSync_iff plainCodec plainEnv AddressHash.hexCodec opposed
    (fun _ => undisturbed) [.save 0, .save 1, .apply 0, .apply 1] bootedShared _ ⟨by decide, by decide⟩
    bootedShared_inSync rfl).mpr ⟨?_, ?_⟩⟩
  · rfl
  · rfl

/-- If they apply the other way round, the database keeps everyone out and the VPN lets them in. -/
theorem runPhases_crossed :
    Interleaving ([.save 0, .save 1, .apply 1, .apply 0] : List (Phase (Fin 2))) ∧
      bootedShared.InSync plainCodec AddressHash.hexCodec ∧
      ∃ s', served [.save 0, .save 1, .apply 1, .apply 0] = some s' ∧
        persistedPolicy plainCodec AddressHash.hexCodec s'.db = some ⟨false, ∅⟩ ∧
        s'.rt.enforced.policy = ⟨true, ∅⟩ ∧ ¬ s'.InSync plainCodec AddressHash.hexCodec := by
  have interleaving :
      Interleaving ([.save 0, .save 1, .apply 1, .apply 0] : List (Phase (Fin 2))) :=
    ⟨by decide, by decide⟩
  obtain ⟨s', done⟩ : ∃ s', served [.save 0, .save 1, .apply 1, .apply 0] = some s' := ⟨_, rfl⟩
  obtain ⟨⟨saved, _⟩, applied, _⟩ := runPhases_views interleaving done
  have persisted : persistedPolicy plainCodec AddressHash.hexCodec s'.db = some ⟨false, ∅⟩ := saved
  have enforced : s'.rt.enforced.policy = ⟨true, ∅⟩ := Option.some.inj applied
  refine ⟨interleaving, bootedShared_inSync, s', done, persisted, enforced, ?_⟩
  intro inSync
  have same := inSync.1
  rw [persisted, enforced] at same
  cases same

end Kaonic.Gateway
