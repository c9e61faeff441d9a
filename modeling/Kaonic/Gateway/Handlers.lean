import Kaonic.Gateway.Database
import Kaonic.Net.Notation
import Kaonic.Vpn.Policy

/-!
# Settings requests

The three handlers that change the VPN's settings. Each reads its request, saves the change under
the settings lock, and applies it to the VPN once the lock is released.
-/

namespace Kaonic.Gateway
open Net Vpn

inductive StatusCode where
  | badRequest | internalServerError
  deriving DecidableEq

inductive Reply where
  | noContent
  | status (status : String)
  | access (status : String) (allowAllPeers : Bool) (peers : List String)
  | error (code : StatusCode) (text : String)
  deriving DecidableEq

def Reply.isError : Reply → Bool
  | .error _ _ => true
  | _ => false

inductive Request (R M : Type) where
  | putSettings (config : GatewayConfig R M)
  | putVpnRoutes (routes : List String)
  | putVpnAccess (allowAllPeers : Bool) (peers : List String)

inductive Change (R M : Type) where
  | settings (config : GatewayConfig R M)
  | routes (routes : List Ipv4Cidr)
  | access (allowAllPeers : Bool) (peers : List String)

/-- What a request meets outside: a failing statement, and the host that the VPN runs on. -/
structure Outside where
  fault : Option SqlFault
  platform : Platform
  ifaces : List Interface
  now : Nat

structure AppState where
  db : Database
  vpn : Option VpnRuntime
  host : Host

def trim (text : String) : String := String.ofList (Text.trim text.toList)

section

variable {R M : Type} (codec : SettingsCodec R M) (env : VpnEnv) (hex : Text.Codec AddressHash)

/-- One peer of `normalize_vpn_peer_hashes`, or the text of its error. -/
def normalizePeerHash (peer : String) : Except String String :=
  let raw := trim peer
  if raw = "" then .error "peer hash is required"
  else
    match hex.parse raw with
    | .ok hash => .ok (hex.print hash)
    | .error err => .error ("invalid peer hash '" ++ raw ++ "': " ++ err)

def normalizeVpnPeerHashes (peers : List String) : Except String (List String) :=
  match peers.mapM (normalizePeerHash hex) with
  | .ok peers => .ok (Text.sorted peers.toFinset)
  | .error text => .error text

/-- One route of `put_vpn_routes`, or the text of its error. -/
def parseRoute (route : String) : Except String Ipv4Cidr :=
  match codec.network.parse (trim route) with
  | .ok cidr => .ok cidr
  | .error err => .error ("invalid route '" ++ route ++ "': " ++ err)

def Request.read : Request R M → Except Reply (Change R M)
  | .putSettings config => .ok (.settings config)
  | .putVpnRoutes routes =>
    match routes.mapM (parseRoute codec) with
    | .ok routes => .ok (.routes routes)
    | .error text => .error (.error .badRequest text)
  | .putVpnAccess allowAllPeers peers =>
    match normalizeVpnPeerHashes hex peers with
    | .ok peers => .ok (.access allowAllPeers peers)
    | .error text => .error (.error .badRequest text)

namespace Change

def into : Change R M → GatewayConfig R M → GatewayConfig R M
  | .settings config, _ => config
  | .routes cidrs, config => { config with advertisedRoutes := cidrs }
  | .access allowAllPeers peers, config => { config with allowAllPeers, peers }

/-- `put_vpn_routes` and `put_vpn_access` under the settings lock. -/
def update (fault : Option SqlFault) (change : Change R M) (db : Database) :
    Database × Except Reply Unit :=
  match db.loadConfig codec with
  | .error err =>
    (db, .error (.error .internalServerError ("failed to load config: " ++ codec.displayError err)))
  | .ok config =>
    match db.saveConfig codec fault (change.into config) with
    | (db, .error err) =>
      (db, .error (.error .internalServerError ("failed to save config: " ++ codec.displayError err)))
    | (db, .ok _) => (db, .ok ())

/-- What a handler does under the settings lock. -/
def save (fault : Option SqlFault) (change : Change R M) (db : Database) :
    Database × Except Reply Unit :=
  match change with
  | .settings config =>
    match db.saveConfig codec fault config with
    | (db, .error _) => (db, .error (.error .internalServerError ""))
    | (db, .ok _) => (db, .ok ())
  | .routes _ | .access _ _ => change.update codec fault db

/-- What a handler does to the VPN. -/
def apply (out : Outside) (rt : VpnRuntime) (host : Host) :
    Change R M → (VpnRuntime × Host) × Except Reply Unit
  | .settings config =>
    match rt.replacePeerPolicy env hex out.platform out.now config.allowAllPeers config.peers host with
    | (s, .error _) => (s, .error (.error .badRequest ""))
    | ((rt, host), .ok _) =>
      (rt.replaceAdvertisedRoutes env out.platform out.ifaces config.advertisedRoutes host, .ok ())
  | .routes cidrs => (rt.replaceAdvertisedRoutes env out.platform out.ifaces cidrs host, .ok ())
  | .access allowAllPeers peers =>
    match rt.replacePeerPolicy env hex out.platform out.now allowAllPeers peers host with
    | (s, .error err) =>
      (s, .error (.error .badRequest ("failed to apply VPN peer policy: " ++ err.display)))
    | (s, .ok _) => (s, .ok ())

def done : Change R M → Reply
  | .settings _ => .noContent
  | .routes _ => .status "VPN advertised routes updated"
  | .access allowAllPeers peers =>
    .access (if allowAllPeers then "VPN access updated (allow all peers)"
      else "VPN access updated (allowlist only)") allowAllPeers peers

end Change

def Request.handle (out : Outside) (s : AppState) (request : Request R M) : AppState × Reply :=
  match request.read codec hex with
  | .error reply => (s, reply)
  | .ok change =>
    match change.save codec out.fault s.db with
    | (db, .error reply) => ({ s with db }, reply)
    | (db, .ok _) =>
      match s.vpn with
      | none => ({ s with db }, change.done)
      | some rt =>
        match change.apply env hex out rt s.host with
        | ((rt, host), .error reply) => (⟨db, some rt, host⟩, reply)
        | ((rt, host), .ok _) => (⟨db, some rt, host⟩, change.done)

end

/-! ### What a save leaves -/

section

variable {R M : Type} {codec : SettingsCodec R M} {env : VpnEnv} {hex : Text.Codec AddressHash}
  {fault : Option SqlFault} {db : Database}

def Change.target (codec : SettingsCodec R M) (db : Database) :
    Change R M → Except SqlError (GatewayConfig R M)
  | .settings config => .ok config
  | .routes cidrs => (db.loadConfig codec).map (Change.routes cidrs).into
  | .access allowAllPeers peers => (db.loadConfig codec).map (Change.access allowAllPeers peers).into

namespace Change

variable {change : Change R M} {config : GatewayConfig R M}

theorem update_eq (change : Change R M) {old : GatewayConfig R M}
    (loaded : db.loadConfig codec = .ok old) : (change.update codec fault db).1 =
      (db.saveConfig codec fault (change.into old)).1 ∧
    ((change.update codec fault db).2 = .ok () ↔
      (db.saveConfig codec fault (change.into old)).2 = .ok ()) := by
  unfold update
  rw [loaded]
  dsimp only
  split <;> rename_i outcome <;> simp [outcome]

theorem save_of_target (target : change.target codec db = .ok config) :
    (change.save codec fault db).1 = (db.saveConfig codec fault config).1 ∧
      ((change.save codec fault db).2 = .ok () ↔
        (db.saveConfig codec fault config).2 = .ok ()) := by
  cases change with
  | settings _ =>
    obtain rfl := Except.ok.inj target
    unfold save
    dsimp only
    split <;> rename_i outcome <;> simp [outcome]
  | routes cidrs =>
    obtain ⟨old, loaded, rfl⟩ := Traverse.map_eq_ok.mp target
    exact update_eq _ loaded
  | access allowAllPeers peers =>
    obtain ⟨old, loaded, rfl⟩ := Traverse.map_eq_ok.mp target
    exact update_eq _ loaded

theorem save_ok_iff : (change.save codec fault db).2 = .ok () ↔
    ∃ config, change.target codec db = .ok config ∧ config.failing fault = none := by
  cases target : change.target codec db with
  | error err =>
    simp only [reduceCtorEq, false_and, exists_false, iff_false]
    cases change with
    | settings config => cases target
    | routes cidrs =>
      have failed := Traverse.map_eq_error.mp target
      simp [save, update, failed]
    | access allowAllPeers peers =>
      have failed := Traverse.map_eq_error.mp target
      simp [save, update, failed]
  | ok config =>
    rw [(save_of_target target).2]
    cases failing : config.failing fault with
    | none => simp [Database.saveConfig_through failing, failing]
    | some f => simp [Database.saveConfig_failing failing, failing]

theorem loadConfig_save (saved : (change.save codec fault db).2 = .ok ()) :
    ∃ config, change.target codec db = .ok config ∧
      (change.save codec fault db).1.loadConfig codec = .ok config.stored := by
  obtain ⟨config, target, through⟩ := save_ok_iff.mp saved
  refine ⟨config, target, ?_⟩
  rw [(save_of_target target).1, Database.saveConfig_through through]
  exact Database.loadConfig_saved

end Change

end

/-! ### Requests that a start survives -/

section

variable {R M : Type} {codec : SettingsCodec R M} {env : VpnEnv} {hex : Text.Codec AddressHash}
  {out : Outside} {s : AppState} {request : Request R M} {change : Change R M}

/-- The configuration that `main` starts the VPN with. -/
def GatewayConfig.toVpn (config : GatewayConfig R M) : VpnConfig where
  network := config.network
  allowAllPeers := config.allowAllPeers
  peers := config.peers
  advertisedRoutes := config.advertisedRoutes

theorem accepted_stored {config : GatewayConfig R M} :
    config.stored.toVpn.Accepted env hex ↔ config.toVpn.Accepted env hex := by
  simp [VpnConfig.accepted_iff, GatewayConfig.toVpn, GatewayConfig.stored]

theorem normalizePeerHash_parses {peer name : String}
    (normal : normalizePeerHash hex peer = .ok name) : (hex.parse name).isOk = true := by
  unfold normalizePeerHash at normal
  dsimp only at normal
  split at normal
  · cases normal
  · split at normal
    · obtain rfl := Except.ok.inj normal
      rw [hex.parse_print]
      rfl
    · cases normal

theorem normalizeVpnPeerHashes_parse {peers names : List String}
    (normal : normalizeVpnPeerHashes hex peers = .ok names) :
    ∀ name ∈ names, (hex.parse name).isOk = true := by
  unfold normalizeVpnPeerHashes at normal
  split at normal
  · rename_i read
    obtain rfl := Except.ok.inj normal
    intro name member
    rw [Text.mem_sorted, List.mem_toFinset, Traverse.mem_mapM read] at member
    obtain ⟨peer, _, here⟩ := member
    exact normalizePeerHash_parses here
  · cases normal

/-- What a settings request may not do: change the stored configuration although
`put_settings` answers with an error, or save one that the VPN does not start with. -/
def Request.Sound (codec : SettingsCodec R M) (env : VpnEnv) (hex : Text.Codec AddressHash)
    (out : Outside) (s : AppState) (request : Request R M) : Prop :=
  (∀ config, request = .putSettings config →
    (request.handle codec env hex out s).2.isError = true →
      (request.handle codec env hex out s).1.db.loadConfig codec = s.db.loadConfig codec) ∧
  ∀ change, request.read codec hex = .ok change → (change.save codec out.fault s.db).2 = .ok () →
    ∃ config, (request.handle codec env hex out s).1.db.loadConfig codec = .ok config ∧
      config.toVpn.Accepted env hex

/-- The submitted and stored values with which a request does neither. -/
def Request.Harmless (codec : SettingsCodec R M) (hex : Text.Codec AddressHash)
    (fault : Option SqlFault) (db : Database) : Request R M → Prop
  | .putSettings config =>
    match config.failing fault with
    | some f => f.index = 0 ∨ ∃ old, db.loadConfig codec = .ok old ∧ config.Repeats old f.index
    | none => config.network.networkLength ≤ 30 ∧ ∀ p ∈ config.peers, (hex.parse p).isOk = true
  | .putVpnRoutes routes => ∀ cidrs, routes.mapM (parseRoute codec) = .ok cidrs →
    ∀ old, db.loadConfig codec = .ok old → old.failing fault = none →
      old.network.networkLength ≤ 30 ∧ ∀ p ∈ old.peers, (hex.parse p).isOk = true
  | .putVpnAccess allowAllPeers peers => ∀ names, normalizeVpnPeerHashes hex peers = .ok names →
    ∀ old, db.loadConfig codec = .ok old →
      ({ old with allowAllPeers, peers := names } : GatewayConfig R M).failing fault = none →
        old.network.networkLength ≤ 30

theorem Request.handle_db (read : request.read codec hex = .ok change) :
    (request.handle codec env hex out s).1.db = (change.save codec out.fault s.db).1 := by
  unfold handle
  rw [read]
  dsimp only
  split
  · rename_i saved
    rw [saved]
  · rename_i saved
    rw [saved]
    split
    · rfl
    · split <;> rfl

theorem Request.persists_iff (read : request.read codec hex = .ok change) :
    ((change.save codec out.fault s.db).2 = .ok () →
      ∃ config, (request.handle codec env hex out s).1.db.loadConfig codec = .ok config ∧
        config.toVpn.Accepted env hex) ↔
    ∀ config, change.target codec s.db = .ok config → config.failing out.fault = none →
      config.toVpn.Accepted env hex := by
  rw [handle_db read]
  constructor
  · intro persists config target through
    have saved := Change.save_ok_iff.mpr ⟨config, target, through⟩
    obtain ⟨loaded, after, accepted⟩ := persists saved
    obtain ⟨config', target', after'⟩ := Change.loadConfig_save saved
    obtain rfl := Except.ok.inj (target.symm.trans target')
    obtain rfl := Except.ok.inj (after.symm.trans after')
    exact accepted_stored.mp accepted
  · intro accepted saved
    obtain ⟨config, target, after⟩ := Change.loadConfig_save saved
    obtain ⟨config', target', through⟩ := Change.save_ok_iff.mp saved
    obtain rfl := Except.ok.inj (target.symm.trans target')
    exact ⟨config.stored, after, accepted_stored.mpr (accepted config target through)⟩

theorem Request.handle_refused (read : request.read codec hex = .ok change) {reply : Reply}
    (refused : (change.save codec out.fault s.db).2 = .error reply) :
    (request.handle codec env hex out s).2 = reply := by
  unfold handle
  rw [read]
  dsimp only
  split <;> rename_i outcome <;> rw [outcome] at refused
  · exact Except.error.inj refused
  · cases refused

theorem Request.handle_saved (read : request.read codec hex = .ok change)
    (saved : (change.save codec out.fault s.db).2 = .ok ()) (applied : ∀ rt, s.vpn = some rt →
      (change.apply env hex out rt s.host).2 = .ok ()) :
    (request.handle codec env hex out s).2 = change.done := by
  unfold handle
  rw [read]
  dsimp only
  split <;> rename_i outcome <;> rw [outcome] at saved
  · cases saved
  · cases attached : s.vpn with
    | none => rfl
    | some rt =>
      have here := applied rt attached
      dsimp only
      split
      · rename_i effect
        rw [effect] at here
        cases here
      · rfl

theorem apply_settings_valid {config : GatewayConfig R M} {rt : VpnRuntime}
    (short : rt.network.networkLength ≤ 30)
    (valid : (parseConfiguredPeers hex config.peers).isOk = true) :
    ((Change.settings config).apply env hex out rt s.host).2 = .ok () := by
  obtain ⟨hashes, read⟩ := Traverse.isOk_iff_exists.mp valid
  have taken := @VpnRuntime.replacePeerPolicy_valid env hex out.platform out.now rt s.host short
    config.allowAllPeers config.peers hashes read
  unfold Change.apply
  dsimp only
  split
  · rename_i outcome
    rw [outcome] at taken
    cases taken
  · rfl

theorem putSettings_sound_iff (config : GatewayConfig R M)
    (running : ∀ rt, s.vpn = some rt → rt.network.networkLength ≤ 30) :
    (Request.putSettings config).Sound codec env hex out s ↔
      (Request.putSettings config).Harmless codec hex out.fault s.db := by
  have read : (Request.putSettings config).read codec hex = .ok (.settings config) := rfl
  have target : (Change.settings config).target codec s.db = .ok config := rfl
  have persists := @Request.persists_iff _ _ codec env hex out s _ _ read
  have db := @Request.handle_db _ _ codec env hex out s _ _ read
  obtain ⟨after, _⟩ := @Change.save_of_target _ _ codec out.fault s.db _ _ target
  simp only [Request.Sound, read, Except.ok.injEq, forall_eq', Request.putSettings.injEq, persists,
    target, Request.Harmless]
  cases failing : config.failing out.fault with
  | some f =>
    have broken : ((Change.settings config).save codec out.fault s.db).2 =
        .error (.error .internalServerError "") := by
      rw [Change.save, Database.saveConfig_failing failing]
    have refused := @Request.handle_refused _ _ codec env hex out s _ _ read _ broken
    rw [Database.saveConfig_failing failing] at after
    rw [refused, db, after]
    simp only [Reply.isError, forall_true_left, reduceCtorEq, false_implies, and_true]
    exact Database.loadConfig_saveUpTo_eq_iff _
  | none =>
    simp only [forall_true_left]
    refine (and_iff_right_of_imp ?_).trans VpnConfig.accepted_iff
    intro accepted refused
    have saved := Change.save_ok_iff.mpr ⟨config, target, failing⟩
    have done := @Request.handle_saved _ _ codec env hex out s _ _ read saved fun rt attached =>
      apply_settings_valid (running rt attached) accepted.2
    rw [done] at refused
    cases refused

theorem putVpnRoutes_sound_iff (routes : List String) :
    (Request.putVpnRoutes routes : Request R M).Sound codec env hex out s ↔
      (Request.putVpnRoutes routes : Request R M).Harmless codec hex out.fault s.db := by
  unfold Request.Sound Request.Harmless
  rw [and_iff_right (fun _ same => by cases same)]
  dsimp only
  cases parsed : routes.mapM (parseRoute codec) with
  | error text => simp [Request.read, parsed]
  | ok cidrs =>
    have read : (Request.putVpnRoutes routes : Request R M).read codec hex = .ok (.routes cidrs) := by
      rw [Request.read, parsed]
    have persists := @Request.persists_iff _ _ codec env hex out s _ _ read
    simp only [read, Except.ok.injEq, forall_eq', persists]
    constructor
    · intro accepted old loaded through
      have target : (Change.routes cidrs).target codec s.db = .ok ((Change.routes cidrs).into old) :=
        Traverse.map_eq_ok.mpr ⟨old, loaded, rfl⟩
      exact VpnConfig.accepted_iff.mp (accepted _ target through)
    · intro valid config target through
      obtain ⟨old, loaded, rfl⟩ := Traverse.map_eq_ok.mp target
      exact VpnConfig.accepted_iff.mpr (valid old loaded through)

theorem putVpnAccess_sound_iff (allowAllPeers : Bool) (peers : List String) :
    (Request.putVpnAccess allowAllPeers peers : Request R M).Sound codec env hex out s ↔
      (Request.putVpnAccess allowAllPeers peers : Request R M).Harmless codec hex out.fault s.db := by
  unfold Request.Sound Request.Harmless
  rw [and_iff_right (fun _ same => by cases same)]
  dsimp only
  cases normal : normalizeVpnPeerHashes hex peers with
  | error text => simp [Request.read, normal]
  | ok names =>
    have read : (Request.putVpnAccess allowAllPeers peers : Request R M).read codec hex =
        .ok (.access allowAllPeers names) := by rw [Request.read, normal]
    have persists := @Request.persists_iff _ _ codec env hex out s _ _ read
    simp only [read, Except.ok.injEq, forall_eq', persists]
    constructor
    · intro accepted old loaded through
      have target : (Change.access allowAllPeers names).target codec s.db =
          .ok ((Change.access allowAllPeers names).into old) :=
        Traverse.map_eq_ok.mpr ⟨old, loaded, rfl⟩
      exact (VpnConfig.accepted_iff.mp (accepted _ target through)).1
    · intro short config target through
      obtain ⟨old, loaded, rfl⟩ := Traverse.map_eq_ok.mp target
      exact VpnConfig.accepted_iff.mpr
        ⟨short old loaded through, normalizeVpnPeerHashes_parse normal⟩

/-- A settings request keeps to its part exactly if its values are harmless. -/
theorem handle_sound_iff (codec : SettingsCodec R M) (env : VpnEnv) (hex : Text.Codec AddressHash)
    (out : Outside) (s : AppState) (request : Request R M)
    (running : ∀ rt, s.vpn = some rt → rt.network.networkLength ≤ 30) :
    request.Sound codec env hex out s ↔ request.Harmless codec hex out.fault s.db := by
  cases request with
  | putSettings config => exact putSettings_sound_iff config running
  | putVpnRoutes routes => exact putVpnRoutes_sound_iff routes
  | putVpnAccess allowAllPeers peers => exact putVpnAccess_sound_iff allowAllPeers peers

end

/-! ### A peer that is no hash -/

/-- The radio's columns as the texts they hold. -/
def plainCodec : SettingsCodec String String where
  network := Ipv4Cidr.codec
  routes := Ipv4Cidr.jsonCodec
  radioConfig := .verbatim
  modulation := .verbatim
  defaults := { moduleConfigs := fun _ => ⟨"{}", "{}"⟩ }
  displayError
    | .invalidParameterName name => "Invalid parameter name: " ++ name
    | .failed err => err

def plainEnv : VpnEnv where display := Ipv4Cidr.codec.print

def undisturbed : Outside where
  fault := none
  platform := SyncCall.working
  ifaces := []
  now := 100

def freshState : AppState where
  db := {}
  vpn := some SyncCall.attachedRuntime
  host := {}

def configOf (peers : List String) : GatewayConfig String String where
  network := .net16 10 20
  allowAllPeers := false
  peers := peers
  advertisedRoutes := []
  announceFreqSecs := 5
  radio := plainCodec.defaults

/-- A settings request with a peer's hash is sound. -/
theorem handle_sound_hash :
    (Request.putSettings (configOf ["07070707070707070707070707070707"])).Sound plainCodec plainEnv
      AddressHash.hexCodec undisturbed freshState := by
  refine (handle_sound_iff plainCodec plainEnv AddressHash.hexCodec undisturbed freshState _ ?_).mpr ?_
  · intro rt attached
    obtain rfl := Option.some.inj attached
    decide
  · exact ⟨by decide, by decide⟩

/-- With any other text for a peer the request is refused, and the text is in the database. -/
theorem handle_unsound_text :
    let after := (Request.putSettings (configOf ["zz"])).handle plainCodec plainEnv
      AddressHash.hexCodec undisturbed freshState
    after.2 = .error .badRequest "" ∧
      (freshState.db.loadConfig plainCodec).map GatewayConfig.peers = .ok [] ∧
      (after.1.db.loadConfig plainCodec).map GatewayConfig.peers = .ok ["zz"] ∧
      ¬ (Request.putSettings (configOf ["zz"])).Sound plainCodec plainEnv AddressHash.hexCodec
        undisturbed freshState := by
  have running : ∀ rt, freshState.vpn = some rt → rt.network.networkLength ≤ 30 := by
    intro rt attached
    obtain rfl := Option.some.inj attached
    decide
  have fresh : freshState.db.loadConfig plainCodec =
      .ok (freshState.db.loadRest plainCodec (configOf []).network) := rfl
  have saved : ((Request.putSettings (configOf ["zz"])).handle plainCodec plainEnv
      AddressHash.hexCodec undisturbed freshState).1.db.loadConfig plainCodec =
        .ok (configOf ["zz"]).stored := by
    rw [Request.handle_db rfl]
    exact Database.loadConfig_saved
  refine ⟨rfl, ?_, ?_, ?_⟩
  · rw [fresh]
    exact congrArg Except.ok Text.sorted_empty
  · rw [saved]
    exact congrArg Except.ok (Text.sorted_singleton "zz")
  · rw [putSettings_sound_iff _ running]
    intro ⟨_, valid⟩
    have parsed := valid "zz" (by decide)
    revert parsed
    decide

end Kaonic.Gateway
