import Kaonic.Base.Machine
import Kaonic.Gateway.Concurrent
import Kaonic.Gateway.Settings
import Kaonic.Vpn.System

/-!
# Settings over power cycles

A gateway starts from its database, serves settings requests one half at a time, and stops at any
moment, in the middle of a save as well. Whatever has been saved by then is what it starts from
again.
-/

namespace Kaonic.Gateway
open Net Vpn Register

/-! ### The part of the database that the VPN is started with -/

section

variable {R M : Type} {codec : SettingsCodec R M} {env : VpnEnv} {hex : Text.Codec AddressHash}
  {db db' : Database}

def vpnPolicy (hex : Text.Codec AddressHash) (config : VpnConfig) : Option AccessPolicy :=
  policyOf hex config.allowAllPeers config.peers

/-- What `main` hands to the VPN, if the database loads. -/
def storedVpn (codec : SettingsCodec R M) (db : Database) : Option VpnConfig :=
  (db.loadConfig codec).toOption.map GatewayConfig.toVpn

theorem storedVpn_eq_some {config : VpnConfig} : storedVpn codec db = some config ↔
    ∃ whole, db.loadConfig codec = .ok whole ∧ whole.toVpn = config := by
  unfold storedVpn
  cases loaded : db.loadConfig codec with
  | error err => simp [Except.toOption]
  | ok whole => simp [Except.toOption]

theorem persisted_storedVpn (db : Database) :
    persistedPolicy codec hex db = (storedVpn codec db).bind (vpnPolicy hex) ∧
      persistedRoutes codec db = (storedVpn codec db).map VpnConfig.advertisedRoutes := by
  unfold persistedPolicy persistedRoutes storedVpn
  cases db.loadConfig codec with
  | error err => exact ⟨rfl, rfl⟩
  | ok config => exact ⟨rfl, rfl⟩

def vpnKeys : List String := ["network", "advertised_routes", "allow_all_peers"]

/-- The two databases hold the same for the VPN. -/
structure SameVpn (db db' : Database) : Prop where
  get : ∀ key ∈ vpnKeys, db'.get key = db.get key
  peers : db'.peers = db.peers

theorem SameVpn.storedVpn (same : SameVpn db db') : storedVpn codec db' = storedVpn codec db := by
  have network : db'.loadNetwork codec = db.loadNetwork codec := by
    unfold Database.loadNetwork
    rw [same.get "network" (by decide)]
  have routes : db'.loadAdvertisedRoutes codec = db.loadAdvertisedRoutes codec := by
    unfold Database.loadAdvertisedRoutes
    rw [same.get "advertised_routes" (by decide)]
  have allow : db'.loadAllowAllPeers = db.loadAllowAllPeers := by
    unfold Database.loadAllowAllPeers
    rw [same.get "allow_all_peers" (by decide)]
  unfold Gateway.storedVpn Database.loadConfig
  rw [network]
  cases db.loadNetwork codec with
  | error err => rfl
  | ok network =>
    simp only [Except.map, Except.toOption, Option.map_some, Database.loadRest, GatewayConfig.toVpn,
      routes, allow, same.peers]

theorem SameVpn.trans {db'' : Database} (first : SameVpn db db') (second : SameVpn db' db'') :
    SameVpn db db'' where
  get key member := (second.get key member).trans (first.get key member)
  peers := second.peers.trans first.peers

theorem SameVpn.refl (db : Database) : SameVpn db db := ⟨fun _ _ => rfl, rfl⟩

theorem SameVpn.loadOrCreate {key : String} (other : key ∉ vpnKeys) (generated : String) :
    SameVpn db (db.loadOrCreate key generated).1 where
  get name member := by
    rw [Database.get_loadOrCreate, if_neg]
    rintro rfl
    exact other member
  peers := by
    unfold Database.loadOrCreate
    split <;> rfl

theorem SameVpn.tryLoadOrCreate {key : String} (other : key ∉ vpnKeys) (fault : Option SqlFault)
    (generated : String) : SameVpn db (db.tryLoadOrCreate fault key generated).1 := by
  unfold Database.tryLoadOrCreate
  split
  · exact .refl db
  · exact .loadOrCreate other generated

theorem SameVpn.execAll {statements : List Statement} (fault : Option SqlFault)
    (sets : ∀ s ∈ statements, ∃ key value, s = .set key value ∧ key ∉ vpnKeys) :
    SameVpn db (db.execAll fault statements).1 := by
  have some_ : ∃ k, (db.execAll fault statements).1 =
      (statements.take k).foldl Database.exec db := by
    unfold Database.execAll
    cases fault with
    | none => exact ⟨statements.length, by rw [List.take_length]⟩
    | some f =>
      dsimp only
      split
      · exact ⟨f.index, rfl⟩
      · exact ⟨statements.length, by rw [List.take_length]⟩
  obtain ⟨k, after⟩ := some_
  have few : ∀ s ∈ statements.take k, ∃ key value, s = .set key value ∧ key ∉ vpnKeys :=
    fun s member => sets s (List.mem_of_mem_take member)
  rw [after]
  refine ⟨?_, ?_⟩
  · intro key own
    refine Database.get_foldl_absent ?_
    intro member
    obtain ⟨s, here, named⟩ := List.mem_filterMap.mp member
    obtain ⟨name, value, rfl, other⟩ := few s here
    obtain rfl := Option.some.inj named
    exact other own
  · refine Database.peers_foldl_of_set ?_ db
    intro s member
    obtain ⟨key, value, same, _⟩ := few s member
    exact ⟨key, value, same⟩

/-- The keys of the radio modules are none of the VPN's. -/
theorem moduleKey_not_vpn {base : String} (radio : base = radioConfigKey ∨ base = modulationKey)
    (module : Nat) : moduleKey base module ∉ vpnKeys := by
  intro member
  have first : (moduleKey base module).toList.head? = some 'k' := by
    rw [moduleKey, String.toList_append, String.toList_append]
    rcases radio with rfl | rfl <;> rfl
  simp only [vpnKeys, List.mem_cons, List.not_mem_nil, or_false] at member
  rcases member with same | same | same <;> rw [same] at first <;> revert first <;> decide

theorem SameVpn.saveModuleConfig (fault : Option SqlFault) (module : Nat)
    (cfg : RadioModuleConfig R M) : SameVpn db (db.saveModuleConfig codec fault module cfg).1 := by
  refine .execAll fault fun s member => ?_
  rcases List.mem_pair.mp member with rfl | rfl
  · exact ⟨_, _, rfl, moduleKey_not_vpn (Or.inl rfl) module⟩
  · exact ⟨_, _, rfl, moduleKey_not_vpn (Or.inr rfl) module⟩

theorem SameVpn.saveCodename (fault : Option SqlFault) (codename : String) :
    SameVpn db (db.saveCodename fault codename).1 := by
  refine .execAll fault fun s member => ?_
  obtain rfl := List.mem_singleton.mp member
  exact ⟨_, _, rfl, by decide⟩

/-! ### What a save leaves, as far as it gets -/

/-- A change writes the first statements of a save, all of them where none fails. -/
theorem Change.save_upTo (change : Change R M) (fault : Option SqlFault) (db : Database) :
    (change.save codec fault db).1 = db ∨ ∃ config k, change.target codec db = .ok config ∧
      (change.save codec fault db).1 = Database.saveUpTo codec k config db := by
  cases target : change.target codec db with
  | error err =>
    left
    cases change with
    | settings config => cases target
    | routes cidrs =>
      have failed := Traverse.map_eq_error.mp target
      simp [Change.save, Change.update, failed]
    | access allowAllPeers peers =>
      have failed := Traverse.map_eq_error.mp target
      simp [Change.save, Change.update, failed]
  | ok config =>
    right
    rw [(Change.save_of_target target).1]
    cases failing : config.failing fault with
    | some f => exact ⟨config, f.index, rfl, by rw [Database.saveConfig_failing failing]⟩
    | none =>
      refine ⟨config, config.peers.length + 9, rfl, ?_⟩
      rw [Database.saveConfig_through failing, ← Database.saveConfig_eq]
      rfl

theorem loadConfig_upTo {old : GatewayConfig R M} (loaded : db.loadConfig codec = .ok old)
    (config : GatewayConfig R M) (k : Nat) :
    (Database.saveUpTo codec k config db).loadConfig codec = .ok (config.onto old k) := by
  rcases Nat.eq_zero_or_pos k with rfl | started
  · exact loaded
  · obtain ⟨network, _, rfl⟩ := Traverse.map_eq_ok.mp loaded
    rw [Database.loadConfig_saveUpTo k started]
    simp only [GatewayConfig.onto, started, if_true, Database.loadRest]

/-- A mixture of two configurations that the VPN starts with is one as well. -/
theorem accepted_onto {config old : GatewayConfig R M} (new : config.toVpn.Accepted env hex)
    (before : old.toVpn.Accepted env hex) (k : Nat) :
    (config.onto old k).toVpn.Accepted env hex := by
  rw [VpnConfig.accepted_iff] at *
  obtain ⟨short, parse⟩ := new
  obtain ⟨shortBefore, parseBefore⟩ := before
  simp only [GatewayConfig.toVpn, GatewayConfig.onto] at *
  refine ⟨?_, ?_⟩
  · split
    · exact short
    · exact shortBefore
  · intro p member
    split at member
    · rw [Text.mem_sorted, List.mem_toFinset] at member
      exact parse p (List.mem_of_mem_take member)
    · exact parseBefore p member

end

/-! ### The gateway and what happens to it -/

/-- The process: the VPN, if it has started, and the changes that are saved and not yet applied. -/
structure Running (R M : Type) where
  vpn : Option VpnSystem
  waiting : List (Change R M) := []

structure Device (R M : Type) where
  db : Database
  process : Option (Running R M) := none

/-- `should_run_webapp_only`, for the value of its variable, the platform, and whether the device has
a serial number. -/
def shouldRunWebappOnly (value : Option String) (linux serialFile : Bool) : Bool :=
  match value with
  | some value =>
    ["1", "true", "yes", "on"].contains (String.ofList ((Text.trim value.toList).map Char.toLower))
  | none => !linux || !serialFile

/-- What a start of the process meets. -/
structure Start where
  /-- The database does not open, or `load_config` fails to read it. -/
  unreadable : Option String := none
  codenameFault : Option SqlFault := none
  seedFault : Option SqlFault := none
  /-- `KAONIC_GATEWAY_WEBAPP_ONLY` -/
  webappOnlyValue : Option String := none
  linux : Bool := true
  serialFile : Bool := true
  radioConnects : Bool := true
  radioAttaches : Bool := true
  /-- What the random generator fills in. -/
  codename : List UInt8
  seed : List UInt8
  boot : VpnRuntime.Boot
  host : Host

def Start.webappOnly (start : Start) : Bool :=
  shouldRunWebappOnly start.webappOnlyValue start.linux start.serialFile

/-- Whether the process serves, if the stored configuration loads. -/
def Start.comesUp (start : Start) (db : Database) : Bool :=
  start.unreadable.isNone && (db.creationFailing start.codenameFault codenameKey).isNone &&
    (start.webappOnly || (db.creationFailing start.seedFault seedKey).isNone &&
      start.radioConnects && start.radioAttaches)

inductive DeviceEvent (R M : Type) where
  | boot (start : Start)
  /-- A settings request as far as it goes under the settings lock. The power is cut during a save
  if a statement fails and the process stops next. -/
  | save (request : Request R M) (fault : Option SqlFault)
  /-- The settings page saves, and nobody tells the VPN. -/
  | saveSettings (config : GatewayConfig R M) (fault : Option SqlFault)
  | saveRadio (module : Nat) (cfg : RadioModuleConfig R M) (fault : Option SqlFault)
  | saveCodename (codename : String) (fault : Option SqlFault)
  /-- One of the changes that wait comes to the VPN. -/
  | apply (k : Nat) (out : Outside)
  /-- The VPN's own tasks. -/
  | tunnel (event : Vpn.Event)
  | stop

namespace Device

variable {R M : Type} (codec : SettingsCodec R M) (env : VpnEnv) (hex : Text.Codec AddressHash)
  (reader : FrameReader) (msgpack : Msgpack)

/-- `async_main`: what it leaves in the database, and the process unless it exits. It goes on without
a VPN that does not start. -/
def asyncMain (start : Start) (db : Database) : Database × Option (Running R M) :=
  if start.unreadable.isSome then (db, none)
  else
    match db.loadConfig codec with
    | .error _ => (db, none)
    | .ok config =>
      match db.tryLoadOrCreate start.codenameFault codenameKey (generateCodename start.codename) with
      | (db, .error _) => (db, none)
      | (db, .ok _) =>
        if start.webappOnly then (db, some { vpn := none })
        else
          match db.tryLoadOrCreate start.seedFault seedKey (generateSeed start.seed) with
          | (db, .error _) => (db, none)
          | (db, .ok _) =>
            if start.radioConnects && start.radioAttaches then
              (db, some
                { vpn := (VpnRuntime.start env hex start.boot config.toVpn
                    start.host).toOption.map VpnSystem.started })
            else (db, none)

def boot (s : Device R M) (start : Start) : Device R M where
  db := (asyncMain codec env hex start s.db : Database × Option (Running R M)).1
  process := (asyncMain codec env hex start s.db).2

def save (s : Device R M) (p : Running R M) (request : Request R M) (fault : Option SqlFault) :
    Device R M :=
  match request.read codec hex with
  | .error _ => s
  | .ok change =>
    match change.save codec fault s.db with
    | (db, .error _) => { s with db }
    | (db, .ok _) => { db, process := some { p with waiting := p.waiting ++ [change] } }

def applyWaiting (p : Running R M) (k : Nat) (out : Outside) : Running R M :=
  match p.waiting[k]? with
  | none => p
  | some change =>
    { vpn := p.vpn.map fun vpn =>
        let r := (change.apply env hex out vpn.rt vpn.host).1
        { vpn with rt := r.1, host := r.2 }
      waiting := p.waiting.eraseIdx k }

def tunnel (p : Running R M) (event : Vpn.Event) : Running R M :=
  { p with vpn := p.vpn.map fun vpn => ((system env hex reader msgpack).step vpn event).1 }

def step (s : Device R M) : DeviceEvent R M → Device R M
  | .boot start => s.boot codec env hex start
  | .save request fault =>
    match s.process with
    | none => s
    | some p => s.save codec hex p request fault
  | .saveSettings config fault =>
    match s.process with
    | none => s
    | some _ => { s with db := (s.db.saveConfig codec fault config).1 }
  | .saveRadio module cfg fault =>
    match s.process with
    | none => s
    | some _ => { s with db := (s.db.saveModuleConfig codec fault module cfg).1 }
  | .saveCodename codename fault =>
    match s.process with
    | none => s
    | some _ => { s with db := (s.db.saveCodename fault codename).1 }
  | .apply k out => { s with process := s.process.map fun p => applyWaiting env hex p k out }
  | .tunnel event =>
    -- The VPN is configured through the handlers only.
    if event.configures then s
    else { s with process := s.process.map fun p => tunnel env hex reader msgpack p event }
  | .stop => { s with process := none }

def machine : Machine (Device R M) (DeviceEvent R M) Unit where
  step s e := (s.step codec env hex reader msgpack e, ())

end Device

/-! ### The database over any run -/

namespace DeviceEvent

variable {R M : Type}

/-- What the event would store of the configuration, as a request. -/
def request? : DeviceEvent R M → Option (Request R M × Option SqlFault)
  | .save request fault => some (request, fault)
  | .saveSettings config fault => some (.putSettings config, fault)
  | _ => none

/-- Whole settings that are stored carry a network and peers that the VPN starts with. -/
def Acceptable (env : VpnEnv) (hex : Text.Codec AddressHash) : DeviceEvent R M → Prop
  | .save (.putSettings config) _ | .saveSettings config _ => config.toVpn.Accepted env hex
  | _ => True

/-- Settings are saved where the VPN is told, no statement fails meanwhile, and changes are applied in
the order in which they were saved. -/
def Orderly : DeviceEvent R M → Prop
  | .save _ fault => fault = none
  | .saveSettings _ _ => False
  | .apply k _ => k = 0
  | _ => True

theorem Acceptable.request {env : VpnEnv} {hex : Text.Codec AddressHash} {e : DeviceEvent R M}
    (acceptable : e.Acceptable env hex) {request : Request R M} {fault : Option SqlFault}
    (saves : e.request? = some (request, fault)) :
    (DeviceEvent.save request fault).Acceptable env hex := by
  cases e with
  | save request' fault' =>
    cases saves
    exact acceptable
  | saveSettings config fault' =>
    cases saves
    exact acceptable
  | boot | saveRadio | saveCodename | apply | tunnel | stop => cases saves

end DeviceEvent

namespace Device

variable {R M : Type} {codec : SettingsCodec R M} {env : VpnEnv} {hex : Text.Codec AddressHash}
  {reader : FrameReader} {msgpack : Msgpack} {s : Device R M} {e : DeviceEvent R M}
  {old : GatewayConfig R M}

theorem sameVpn_asyncMain (start : Start) (db : Database) :
    SameVpn db (asyncMain codec env hex start db : Database × Option (Running R M)).1 := by
  have named := @SameVpn.tryLoadOrCreate db codenameKey (by decide) start.codenameFault
    (generateCodename start.codename)
  unfold asyncMain
  split
  · exact .refl db
  split
  · exact .refl db
  split
  · rename_i outcome
    rwa [outcome] at named
  · rename_i db' _ outcome
    rw [outcome] at named
    have seeded := @SameVpn.tryLoadOrCreate db' seedKey (by decide) start.seedFault
      (generateSeed start.seed)
    split
    · exact named
    split
    · rename_i outcome'
      rw [outcome'] at seeded
      exact named.trans seeded
    · rename_i outcome'
      rw [outcome'] at seeded
      split <;> exact named.trans seeded

/-- An event leaves what the VPN is started with, or it is a save. -/
theorem step_db (s : Device R M) (e : DeviceEvent R M) :
    SameVpn s.db (s.step codec env hex reader msgpack e).db ∨
    ∃ request fault change, e.request? = some (request, fault) ∧
      request.read codec hex = .ok change ∧
      (s.step codec env hex reader msgpack e).db = (change.save codec fault s.db).1 := by
  have same : SameVpn s.db s.db := .refl s.db
  cases e with
  | boot start => exact Or.inl (sameVpn_asyncMain start s.db)
  | save request fault =>
    dsimp only [step]
    split
    · exact Or.inl same
    · rename_i p _
      unfold Device.save
      cases read : request.read codec hex with
      | error reply => exact Or.inl same
      | ok change =>
        right
        refine ⟨request, fault, change, rfl, read, ?_⟩
        dsimp only
        split <;> rename_i outcome <;> rw [outcome]
  | saveSettings config fault =>
    dsimp only [step]
    split
    · exact Or.inl same
    · right
      refine ⟨.putSettings config, fault, .settings config, rfl, rfl, ?_⟩
      have target : (Change.settings config).target codec s.db = .ok config := rfl
      exact (Change.save_of_target target).1.symm
  | saveRadio module cfg fault =>
    left
    dsimp only [step]
    split
    · exact same
    · exact SameVpn.saveModuleConfig fault module cfg
  | saveCodename codename fault =>
    left
    dsimp only [step]
    split
    · exact same
    · exact SameVpn.saveCodename fault codename
  | apply k out => exact Or.inl same
  | tunnel event =>
    dsimp only [step]
    split <;> exact Or.inl same
  | stop => exact Or.inl same

/-- A database that loads goes on to do so. -/
theorem step_loads (loaded : ∃ config, storedVpn codec s.db = some config) (e : DeviceEvent R M) :
    ∃ config, storedVpn codec (s.step codec env hex reader msgpack e).db = some config := by
  rcases @step_db _ _ codec env hex reader msgpack s e with
    same | ⟨request, fault, change, _, _, after⟩
  · rwa [same.storedVpn]
  rw [after]
  rcases change.save_upTo fault s.db with same | ⟨config, k, _, written⟩
  · rwa [same]
  · obtain ⟨_, before⟩ := loaded
    obtain ⟨old, loaded, _⟩ := storedVpn_eq_some.mp before
    rw [written]
    exact ⟨_, storedVpn_eq_some.mpr ⟨_, loadConfig_upTo loaded config k, rfl⟩⟩

/-- What a request aims at is accepted, if what is stored is. -/
theorem target_accepted {request : Request R M} {change : Change R M} {db : Database}
    {fault : Option SqlFault} {config : GatewayConfig R M}
    (acceptable : (DeviceEvent.save request fault).Acceptable env hex)
    (read : request.read codec hex = .ok change) (loaded : db.loadConfig codec = .ok old)
    (accepted : old.toVpn.Accepted env hex) (target : change.target codec db = .ok config) :
    config.toVpn.Accepted env hex := by
  cases request with
  | putSettings submitted =>
    obtain rfl := Except.ok.inj read
    obtain rfl := Except.ok.inj target
    exact acceptable
  | putVpnRoutes routes =>
    dsimp only [Request.read] at read
    split at read
    · obtain rfl := Except.ok.inj read
      rw [Change.target, loaded] at target
      obtain rfl := Except.ok.inj target
      exact accepted
    · cases read
  | putVpnAccess allowAllPeers peers =>
    dsimp only [Request.read] at read
    split at read
    · rename_i names normal
      obtain rfl := Except.ok.inj read
      rw [Change.target, loaded] at target
      obtain rfl := Except.ok.inj target
      rw [VpnConfig.accepted_iff] at accepted ⊢
      exact ⟨accepted.1, normalizeVpnPeerHashes_parse normal⟩
    · cases read

theorem step_accepted {config : VpnConfig} (stored : storedVpn codec s.db = some config)
    (accepted : config.Accepted env hex) (acceptable : e.Acceptable env hex) :
    ∃ config, storedVpn codec (s.step codec env hex reader msgpack e).db = some config ∧
      config.Accepted env hex := by
  rcases @step_db _ _ codec env hex reader msgpack s e with
    same | ⟨request, fault, change, saves, read, after⟩
  · rw [same.storedVpn]
    exact ⟨config, stored, accepted⟩
  rw [after]
  rcases change.save_upTo fault s.db with same | ⟨target, k, aimed, written⟩
  · rw [same]
    exact ⟨config, stored, accepted⟩
  · obtain ⟨old, loaded, rfl⟩ := storedVpn_eq_some.mp stored
    have new := target_accepted (acceptable.request saves) read loaded accepted aimed
    rw [written]
    exact ⟨_, storedVpn_eq_some.mpr ⟨_, loadConfig_upTo loaded target k, rfl⟩,
      accepted_onto new accepted k⟩

/-! ### A start on what is stored -/

/-- A configuration that is accepted starts the VPN whenever the TUN can be set up. -/
theorem start_isSome {config : VpnConfig} (accepted : config.Accepted env hex)
    (boot : VpnRuntime.Boot) (host : Host) :
    (VpnRuntime.start env hex boot config host).toOption.isSome = boot.attach.isOk := by
  have short := (VpnConfig.accepted_iff.mp accepted).1
  have validated : validateNetwork env config.network = .ok () := validateNetwork_of_le short
  obtain ⟨hashes, parsed⟩ := Traverse.isOk_iff_exists.mp accepted.2
  have derived : deriveTunnelIp env config.network boot.destination =
      .ok (tunnelIp config.network boot.destination) := by
    rw [deriveTunnelIp, validated]
  have seeded := @VpnRuntime.seedPeers_ok env config.network short boot.destination hashes ∅
  unfold VpnRuntime.start
  rw [validated, parsed, derived]
  cases attached : boot.attach with
  | error err => rfl
  | ok interfaceName =>
    simp only [bind, Except.bind, seeded]
    rfl

/-- The codename does not get in the way of the seed. -/
theorem creationFailing_codename (fault : Option SqlFault) (generated : String) (db : Database) :
    (db.loadOrCreate codenameKey generated).1.creationFailing fault seedKey =
      db.creationFailing fault seedKey := by
  have other : seedKey ≠ codenameKey := by decide
  unfold Database.creationFailing
  rw [Database.get_loadOrCreate, if_neg other]

/-- On a database that loads, a process that comes up has the VPN with what is stored, if that starts
and is wanted. -/
theorem boot_spec {config : VpnConfig} (stored : storedVpn codec s.db = some config) (start : Start) :
    (s.boot codec env hex start).process =
      if start.comesUp s.db then
        some
          { vpn :=
              if start.webappOnly then none
              else
                (VpnRuntime.start env hex start.boot config start.host).toOption.map
                  VpnSystem.started }
      else none := by
  obtain ⟨whole, loaded, rfl⟩ := storedVpn_eq_some.mp stored
  unfold Device.boot asyncMain Start.comesUp
  rw [loaded]
  cases start.unreadable with
  | some err => rfl
  | none =>
    simp only [Option.isSome_none, Option.isNone_none, Bool.false_eq_true, if_false, Bool.true_and,
      Database.tryLoadOrCreate]
    cases s.db.creationFailing start.codenameFault codenameKey with
    | some f => rfl
    | none =>
      cases start.webappOnly with
      | true => rfl
      | false =>
        simp only [creationFailing_codename, Bool.false_eq_true, if_false, Option.isNone_none,
          Bool.true_and, Bool.false_or]
        cases s.db.creationFailing start.seedFault seedKey with
        | some f => rfl
        | none =>
          simp only [Option.isNone_none, Bool.true_and]
          split <;> rfl

theorem started_enforces {boot : VpnRuntime.Boot} {config : VpnConfig} {host : Host}
    {rt : VpnRuntime} {after : Host}
    (started : (VpnRuntime.start env hex boot config host).toOption = some (rt, after)) :
    rt.enforced.network = config.network ∧ vpnPolicy hex config = some rt.enforced.policy ∧
      config.advertisedRoutes = rt.enforced.advertisedRoutes ∧
      rt.network.networkLength ≤ 30 := by
  have done : VpnRuntime.start env hex boot config host = .ok (rt, after) := by
    cases outcome : VpnRuntime.start env hex boot config host with
    | error err =>
      rw [outcome] at started
      cases started
    | ok started' =>
      rw [outcome] at started
      exact congrArg Except.ok (Option.some.inj started)
  obtain ⟨accepted, hashes, parsed, enforced⟩ := VpnRuntime.start_ok done
  have network : rt.network = config.network := congrArg Enforced.network enforced
  refine ⟨network, ?_, ?_, ?_⟩
  · rw [enforced]
    exact policyOf_eq_some parsed
  · rw [enforced]
  · rw [network]
    exact (VpnConfig.accepted_iff.mp accepted).1

/-! ### The VPN between two starts -/

/-- The VPN, once it has applied what waits, enforces what is stored. -/
structure Upheld (codec : SettingsCodec R M) (hex : Text.Codec AddressHash) (db : Database)
    (waiting : List (Change R M)) (rt : VpnRuntime) : Prop where
  short : rt.network.networkLength ≤ 30
  parse : ∀ change ∈ waiting, (∃ cidrs, change = .routes cidrs) ∨ (change.policy hex).isSome
  policy : persistedPolicy codec hex db =
    (lastWrite (Change.policy hex) waiting).or (some rt.enforced.policy)
  routes : persistedRoutes codec db =
    (lastWrite Change.advertisedRoutes waiting).or (some rt.enforced.advertisedRoutes)

section

variable {db db' : Database} {waiting : List (Change R M)} {rt : VpnRuntime} {host : Host}
  {change : Change R M}

theorem Upheld.same (upheld : Upheld codec hex db waiting rt) (same : SameVpn db db') :
    Upheld codec hex db' waiting rt := by
  obtain ⟨policy, routes⟩ := @persisted_storedVpn _ _ codec hex db
  obtain ⟨policy', routes'⟩ := @persisted_storedVpn _ _ codec hex db'
  rw [same.storedVpn] at policy' routes'
  exact ⟨upheld.short, upheld.parse, (policy'.trans policy.symm).trans upheld.policy,
    (routes'.trans routes.symm).trans upheld.routes⟩

theorem Upheld.started {config : VpnConfig} (stored : storedVpn codec db = some config)
    {boot : VpnRuntime.Boot} {before after : Host}
    (started : (VpnRuntime.start env hex boot config before).toOption = some (rt, after)) :
    Upheld codec hex db [] rt := by
  obtain ⟨policy, routes⟩ := @persisted_storedVpn _ _ codec hex db
  obtain ⟨_, enforced, advertised, short⟩ := started_enforces started
  rw [stored] at policy routes
  refine ⟨short, List.forall_mem_nil _, policy.trans enforced, ?_⟩
  rw [routes]
  exact congrArg some advertised

theorem Upheld.save {fault : Option SqlFault} (upheld : Upheld codec hex db waiting rt)
    (parses : (∃ cidrs, change = .routes cidrs) ∨ (change.policy hex).isSome)
    (saved : (change.save codec fault db).2 = .ok ()) :
    Upheld codec hex (change.save codec fault db).1 (waiting ++ [change]) rt := by
  obtain ⟨policy, routes⟩ := @persisted_save _ _ codec hex fault db change saved parses
  refine ⟨upheld.short, ?_, ?_, ?_⟩
  · intro other member
    rcases List.mem_append.mp member with before | last
    · exact upheld.parse other before
    · rwa [List.mem_singleton.mp last]
  · rw [policy, upheld.policy, lastWrite_concat, Option.or_assoc]
  · rw [routes, upheld.routes, lastWrite_concat, Option.or_assoc]

/-- A change whose peers parse is applied, to the same network. -/
theorem apply_valid (out : Outside) (short : rt.network.networkLength ≤ 30)
    (parses : (∃ cidrs, change = .routes cidrs) ∨ (change.policy hex).isSome) :
    (change.apply env hex out rt host).2 = .ok () ∧
      (change.apply env hex out rt host).1.1.network = rt.network := by
  have taken : ∀ allowAllPeers peers, (policyOf hex allowAllPeers peers).isSome →
      (rt.replacePeerPolicy env hex out.platform out.now allowAllPeers peers host).2 = .ok () ∧
        (rt.replacePeerPolicy env hex out.platform out.now allowAllPeers peers host).1.1.network =
          rt.network := by
    intro allowAllPeers peers some_
    cases parsed : parseConfiguredPeers hex peers with
    | error err =>
      rw [policyOf, parsed] at some_
      cases some_
    | ok hashes =>
      have taken := @VpnRuntime.replacePeerPolicy_valid env hex out.platform out.now rt host short
        allowAllPeers peers hashes parsed
      obtain ⟨_, _, enforced⟩ := VpnRuntime.enforced_replacePeerPolicy taken
      exact ⟨taken, congrArg Enforced.network enforced⟩
  cases change with
  | settings config =>
    obtain ⟨_, other⟩ | some_ := parses
    · cases other
    obtain ⟨done, network⟩ := taken config.allowAllPeers config.peers some_
    dsimp only [Change.apply]
    split <;> rename_i outcome <;> rw [outcome] at done network
    · cases done
    · refine ⟨rfl, Eq.trans ?_ network⟩
      exact congrArg Enforced.network (VpnRuntime.enforced_replaceAdvertisedRoutes _ _)
  | routes cidrs =>
    exact ⟨rfl, congrArg Enforced.network (VpnRuntime.enforced_replaceAdvertisedRoutes _ _)⟩
  | access allowAllPeers peers =>
    obtain ⟨_, other⟩ | some_ := parses
    · cases other
    obtain ⟨done, network⟩ := taken allowAllPeers peers some_
    dsimp only [Change.apply]
    split <;> rename_i outcome <;> rw [outcome] at done network
    · cases done
    · exact ⟨rfl, network⟩

theorem Upheld.apply (upheld : Upheld codec hex db (change :: waiting) rt) (out : Outside) :
    Upheld codec hex db waiting (change.apply env hex out rt host).1.1 := by
  obtain ⟨done, network⟩ := @apply_valid _ _ env hex rt host change out upheld.short
    (upheld.parse change List.mem_cons_self)
  obtain ⟨_, policy, routes⟩ := enforced_apply done
  refine ⟨?_, ?_, ?_, ?_⟩
  · rw [network]
    exact upheld.short
  · exact fun other member => upheld.parse other (List.mem_cons_of_mem _ member)
  · rw [upheld.policy, policy, lastWrite_cons_or]
  · rw [upheld.routes, routes, lastWrite_cons_or]

/-- The VPN's own tasks leave what it enforces alone. -/
theorem Upheld.tunnel {rt' : VpnRuntime} (upheld : Upheld codec hex db waiting rt)
    (same : rt'.enforced = rt.enforced) : Upheld codec hex db waiting rt' := by
  refine ⟨?_, upheld.parse, ?_, ?_⟩
  · have network : rt'.network = rt.network := congrArg Enforced.network same
    rw [network]
    exact upheld.short
  · rw [same]
    exact upheld.policy
  · rw [same]
    exact upheld.routes

end

/-- In force: what is stored is accepted, and the VPN that runs enforces it or is about to. -/
structure InForce (codec : SettingsCodec R M) (env : VpnEnv) (hex : Text.Codec AddressHash)
    (s : Device R M) : Prop where
  stored : ∃ config, storedVpn codec s.db = some config ∧ config.Accepted env hex
  upheld : ∀ p vpn, s.process = some p → p.vpn = some vpn → Upheld codec hex s.db p.waiting vpn.rt

theorem InForce.keep (inForce : InForce codec env hex s) {db : Database} (same : SameVpn s.db db) :
    ∀ p vpn, s.process = some p → p.vpn = some vpn → Upheld codec hex db p.waiting vpn.rt :=
  fun p vpn running attached => (inForce.upheld p vpn running attached).same same

theorem read_parses {request : Request R M} {change : Change R M} {fault : Option SqlFault}
    (acceptable : (DeviceEvent.save request fault).Acceptable env hex)
    (read : request.read codec hex = .ok change) :
    (∃ cidrs, change = .routes cidrs) ∨ (change.policy hex).isSome := by
  have some_ : ∀ allowAllPeers peers, (∀ p ∈ peers, (hex.parse p).isOk = true) →
      (policyOf hex allowAllPeers peers).isSome := by
    intro allowAllPeers peers parse
    obtain ⟨hashes, parsed⟩ := Traverse.isOk_iff_exists.mp (parseConfiguredPeers_isOk.mpr parse)
    rw [policyOf_eq_some parsed]
    rfl
  cases request with
  | putSettings config =>
    obtain rfl := Except.ok.inj read
    exact Or.inr (some_ _ _ (VpnConfig.accepted_iff.mp acceptable).2)
  | putVpnRoutes routes =>
    dsimp only [Request.read] at read
    split at read
    · obtain rfl := Except.ok.inj read
      exact Or.inl ⟨_, rfl⟩
    · cases read
  | putVpnAccess allowAllPeers peers =>
    dsimp only [Request.read] at read
    split at read
    · rename_i names normal
      obtain rfl := Except.ok.inj read
      exact Or.inr (some_ _ _ (normalizeVpnPeerHashes_parse normal))
    · cases read

/-- A save of which no statement fails is done, since the stored configuration loads. -/
theorem save_done {db : Database} {config : VpnConfig} (stored : storedVpn codec db = some config)
    (change : Change R M) : (change.save codec none db).2 = .ok () := by
  obtain ⟨old, loaded, _⟩ := storedVpn_eq_some.mp stored
  rw [Change.save_ok_iff]
  cases change with
  | settings config => exact ⟨config, rfl, rfl⟩
  | routes cidrs => exact ⟨_, Traverse.map_eq_ok.mpr ⟨old, loaded, rfl⟩, rfl⟩
  | access allowAllPeers peers => exact ⟨_, Traverse.map_eq_ok.mpr ⟨old, loaded, rfl⟩, rfl⟩

/-- A start brings into force what is stored. -/
theorem InForce.boot
    (stored : ∃ config, storedVpn codec s.db = some config ∧ config.Accepted env hex)
    (start : Start) :
    InForce codec env hex (s.step codec env hex reader msgpack (.boot start)) := by
  obtain ⟨config, stored, accepted⟩ := stored
  refine ⟨step_accepted stored accepted trivial, ?_⟩
  intro p vpn running started
  have spec := @boot_spec _ _ codec env hex s config stored start
  rw [show (s.boot codec env hex start).process = some p from running] at spec
  split at spec
  · obtain rfl := Option.some.inj spec
    dsimp only at started
    split at started
    · cases started
    obtain ⟨⟨rt, after⟩, up, rfl⟩ := Option.map_eq_some_iff.mp started
    have upheld := @Upheld.started _ _ codec env hex s.db rt config stored _ _ _ up
    exact upheld.same (sameVpn_asyncMain start s.db)
  · cases spec

/-- A change that is saved waits. -/
theorem InForce.save {request : Request R M} (inForce : InForce codec env hex s)
    (acceptable : (DeviceEvent.save request none).Acceptable env hex) :
    ∀ p vpn, (s.step codec env hex reader msgpack (.save request none)).process = some p →
      p.vpn = some vpn →
      Upheld codec hex (s.step codec env hex reader msgpack (.save request none)).db p.waiting
        vpn.rt := by
  obtain ⟨config, stored, _⟩ := inForce.stored
  intro p vpn running attached
  cases process : s.process with
  | none =>
    simp only [Device.step, process] at running
    cases running
  | some p' =>
    cases read : request.read codec hex with
    | error reply =>
      simp only [Device.step, process, Device.save, read, Option.some.injEq] at running ⊢
      subst running
      exact inForce.upheld _ vpn process attached
    | ok change =>
      have done := save_done stored change
      have parses := read_parses acceptable read
      have upheld := fun attached =>
        (inForce.upheld p' vpn process attached).save parses done
      cases outcome : change.save codec none s.db with
      | mk db result =>
        rw [outcome] at done upheld
        obtain rfl : result = .ok () := done
        simp only [Device.step, process, Device.save, read, outcome, Option.some.injEq]
          at running ⊢
        subst running
        exact upheld attached

theorem InForce.step (inForce : InForce codec env hex s) (acceptable : e.Acceptable env hex)
    (orderly : e.Orderly) : InForce codec env hex (s.step codec env hex reader msgpack e) := by
  obtain ⟨config, stored, accepted⟩ := inForce.stored
  refine ⟨step_accepted stored accepted acceptable, ?_⟩
  cases e with
  | boot start => exact (InForce.boot inForce.stored start).upheld
  | save request fault =>
    obtain rfl : fault = none := orderly
    exact inForce.save acceptable
  | saveSettings config fault => exact orderly.elim
  | saveRadio module cfg fault =>
    dsimp only [Device.step]
    split
    · exact inForce.upheld
    · exact inForce.keep (.saveModuleConfig fault module cfg)
  | saveCodename codename fault =>
    dsimp only [Device.step]
    split
    · exact inForce.upheld
    · exact inForce.keep (.saveCodename fault codename)
  | apply k out =>
    obtain rfl : k = 0 := orderly
    intro p vpn running attached
    cases process : s.process with
    | none =>
      simp only [Device.step, process, Option.map_none] at running
      cases running
    | some p' =>
      simp only [Device.step, process, Option.map_some, Option.some.injEq] at running ⊢
      subst running
      obtain ⟨before, waiting⟩ := p'
      cases waiting with
      | nil => exact inForce.upheld _ vpn process attached
      | cons change waiting =>
        obtain ⟨old, here, rfl⟩ := Option.map_eq_some_iff.mp attached
        exact (inForce.upheld _ old process here).apply out
  | tunnel event =>
    intro p vpn running attached
    cases configures : event.configures with
    | true =>
      simp only [Device.step, configures, if_true] at running ⊢
      exact inForce.upheld p vpn running attached
    | false =>
      simp only [Device.step, configures, Bool.false_eq_true, if_false] at running ⊢
      obtain ⟨p', process, rfl⟩ := Option.map_eq_some_iff.mp running
      obtain ⟨old, here, rfl⟩ := Option.map_eq_some_iff.mp attached
      exact (inForce.upheld p' old process here).tunnel (enforced_step configures)
  | stop =>
    intro p vpn running
    cases running

/-! ### Runs -/

theorem run_loads (loaded : ∃ config, storedVpn codec s.db = some config)
    (events : List (DeviceEvent R M)) :
    ∃ config,
      storedVpn codec ((machine codec env hex reader msgpack).run s events).db = some config :=
  @Machine.run_invariant _ _ _ (machine codec env hex reader msgpack)
    (fun s => ∃ config, storedVpn codec s.db = some config)
    (fun _ e loaded => step_loads loaded e) s loaded events

theorem run_accepted
    (stored : ∃ config, storedVpn codec s.db = some config ∧ config.Accepted env hex)
    {events : List (DeviceEvent R M)} (acceptable : ∀ e ∈ events, e.Acceptable env hex) :
    ∃ config,
      storedVpn codec ((machine codec env hex reader msgpack).run s events).db = some config ∧
        config.Accepted env hex := by
  refine @Machine.run_invariant_of _ _ _ (machine codec env hex reader msgpack)
    (fun s => ∃ config, storedVpn codec s.db = some config ∧ config.Accepted env hex)
    (fun e => e.Acceptable env hex) ?_ s stored events acceptable
  intro s e here ⟨config, stored, accepted⟩
  exact step_accepted stored accepted here

theorem InForce.run (inForce : InForce codec env hex s) {events : List (DeviceEvent R M)}
    (acceptable : ∀ e ∈ events, e.Acceptable env hex) (orderly : ∀ e ∈ events, e.Orderly) :
    InForce codec env hex ((machine codec env hex reader msgpack).run s events) := by
  refine @Machine.run_invariant_of _ _ _ (machine codec env hex reader msgpack)
    (InForce codec env hex) (fun e => e.Acceptable env hex ∧ e.Orderly) ?_ s inForce events ?_
  · exact fun s e here inForce => inForce.step here.1 here.2
  · exact fun e member => ⟨acceptable e member, orderly e member⟩

/-- What the last start of a run brought into force stays so. -/
theorem inForce_since
    (stored : ∃ config, storedVpn codec s.db = some config ∧ config.Accepted env hex)
    {before later : List (DeviceEvent R M)} (start : Start)
    (acceptable : ∀ e ∈ before ++ .boot start :: later, e.Acceptable env hex)
    (orderly : ∀ e ∈ later, e.Orderly) :
    InForce codec env hex ((machine codec env hex reader msgpack).run s
      (before ++ .boot start :: later)) := by
  rw [List.forall_mem_append, List.forall_mem_cons] at acceptable
  obtain ⟨first, _, rest⟩ := acceptable
  have up := @run_accepted R M codec env hex reader msgpack s stored before first
  have started := @InForce.boot R M codec env hex reader msgpack _ up start
  rw [Machine.run_append]
  exact started.run rest orderly

end Device

/-! ### Power cycles -/

section

variable {R M : Type}

/-- Whatever happens to a gateway whose database loads, its settings load at the next start, which
comes up unless the database or the radio fails it. If nobody has stored a network or a peer that the
VPN refuses, the VPN comes up with what is stored wherever it is wanted and the TUN can be set up,
even if saves were cut short anywhere. And if since the last start all settings were saved where the
VPN is told, no statement of a save has failed and changes were applied in the order of their saves,
a restart brings back the policy and the routes that are in force once nothing waits any more. -/
theorem settings_survive (codec : SettingsCodec R M) (env : VpnEnv) (hex : Text.Codec AddressHash)
    (reader : FrameReader) (msgpack : Msgpack) (db : Database) (config : VpnConfig)
    (stored : storedVpn codec db = some config) (events : List (DeviceEvent R M)) (start : Start) :
    let s := (Device.machine codec env hex reader msgpack).run { db } events
    let next := s.boot codec env hex start
    ∃ now, storedVpn codec s.db = some now ∧ next.process.isSome = start.comesUp s.db ∧
      (config.Accepted env hex → (∀ e ∈ events, e.Acceptable env hex) →
        ∀ p, next.process = some p →
          p.vpn.isSome = (!start.webappOnly && start.boot.attach.isOk) ∧
          (∀ vpn, p.vpn = some vpn → vpnPolicy hex now = some vpn.rt.enforced.policy ∧
            vpn.rt.enforced = ⟨now.network, vpn.rt.enforced.policy, now.advertisedRoutes⟩) ∧
          ∀ before start' later, events = before ++ .boot start' :: later →
            (∀ e ∈ later, e.Orderly) →
            ∀ old vpn, s.process = some old → old.vpn = some vpn → old.waiting = [] →
              ∀ vpn', p.vpn = some vpn' →
                vpn'.rt.enforced = { vpn.rt.enforced with network := now.network }) := by
  intro s next
  obtain ⟨now, kept⟩ :=
    @Device.run_loads _ _ codec env hex reader msgpack { db } ⟨config, stored⟩ events
  have spec := @Device.boot_spec _ _ codec env hex s now kept start
  refine ⟨now, kept, ?_, ?_⟩
  · rw [spec]
    split
    · rename_i up
      exact up.symm
    · rename_i down
      exact (Bool.eq_false_of_not_eq_true down).symm
  intro accepted acceptable p running
  rw [running] at spec
  have up : p.vpn = if start.webappOnly then none
      else
        (VpnRuntime.start env hex start.boot now start.host).toOption.map VpnSystem.started := by
    split at spec
    · exact congrArg Running.vpn (Option.some.inj spec)
    · cases spec
  have enforces : ∀ vpn, p.vpn = some vpn → vpnPolicy hex now = some vpn.rt.enforced.policy ∧
      vpn.rt.enforced = ⟨now.network, vpn.rt.enforced.policy, now.advertisedRoutes⟩ := by
    intro vpn started
    rw [up] at started
    split at started
    · cases started
    obtain ⟨⟨rt, after⟩, up, rfl⟩ := Option.map_eq_some_iff.mp started
    obtain ⟨network, policy, routes, _⟩ := Device.started_enforces up
    refine ⟨policy, ?_⟩
    rw [← network, routes]
    rfl
  have begin_ : ∃ config, storedVpn codec ({ db } : Device R M).db = some config ∧
      config.Accepted env hex := ⟨config, stored, accepted⟩
  refine ⟨?_, enforces, ?_⟩
  · obtain ⟨now', same, accepted⟩ := Device.run_accepted begin_ acceptable
    obtain rfl := Option.some.inj (kept.symm.trans same)
    rw [up]
    cases start.webappOnly with
    | true => rfl
    | false =>
      rw [if_neg Bool.false_ne_true, Option.isSome_map]
      exact Device.start_isSome accepted start.boot start.host
  · rintro before start' later rfl orderly old vpn running' attached applied vpn' started
    have inForce : Device.InForce codec env hex s :=
      Device.inForce_since begin_ start' acceptable orderly
    obtain ⟨_, _, policies, advertised⟩ := inForce.upheld old vpn running' attached
    obtain ⟨policy, routes⟩ := @persisted_storedVpn _ _ codec hex s.db
    obtain ⟨policy', same⟩ := enforces vpn' started
    rw [applied, policy, kept] at policies
    rw [applied, routes, kept] at advertised
    have policySame : vpn'.rt.enforced.policy = vpn.rt.enforced.policy :=
      Option.some.inj (policy'.symm.trans policies)
    have routesSame : now.advertisedRoutes = vpn.rt.enforced.advertisedRoutes :=
      Option.some.inj advertised
    rw [same, policySame, routesSame]

end

def sampleStart (codename seed : List UInt8) : Start where
  codename
  seed
  boot :=
    { destination := .repeated 9
      openTun := .ok none
      configureTun := .ok ()
      enableForwarding := .ok ()
      routeAliasing := false
      ifaces := []
      platform := SyncCall.working
      now := 0 }
  host := {}

/-- The power fails in the middle of a save, the radio does not answer at first, and the next request
goes through. -/
def sampleCycles : List (DeviceEvent String String) :=
  [.boot (sampleStart [1] [2]), .save (.putSettings (configOf [allowedPeer])) (some ⟨3, ""⟩), .stop,
    .boot { sampleStart [3] [4] with radioConnects := false }, .boot (sampleStart [3] [4]),
    .save (.putVpnRoutes ["10.0.1.0/24"]) none, .saveCodename "basement" none,
    .tunnel (.announceTick []), .apply 0 undisturbed]

def sampleDevice : Device String String :=
  (Device.machine plainCodec plainEnv AddressHash.hexCodec VpnRuntime.headerReader .short).run
    { db := {} } sampleCycles

theorem sampleDevice_running :
    ∃ old vpn, sampleDevice.process = some old ∧ old.vpn = some vpn ∧ old.waiting = [] := by
  have running : sampleDevice.process.map (fun p => (p.vpn.isSome, p.waiting.length)) =
      some (true, 0) := by decide +kernel
  obtain ⟨⟨vpn, waiting⟩, process, shape⟩ := Option.map_eq_some_iff.mp running
  obtain ⟨attached, empty⟩ := Prod.mk.inj shape
  obtain ⟨vpn, attached⟩ := Option.isSome_iff_exists.mp attached
  exact ⟨_, vpn, process, attached, List.length_eq_zero_iff.mp empty⟩

theorem settings_survive_sample :
    let next := sampleDevice.boot plainCodec plainEnv AddressHash.hexCodec (sampleStart [] [])
    ∃ old vpn p vpn', sampleDevice.process = some old ∧ old.vpn = some vpn ∧
      next.process = some p ∧ p.vpn = some vpn' ∧
      vpn'.rt.enforced.policy = vpn.rt.enforced.policy ∧
      vpn'.rt.enforced.advertisedRoutes = vpn.rt.enforced.advertisedRoutes := by
  obtain ⟨old, vpn, process, attached, applied⟩ := sampleDevice_running
  have fresh : storedVpn plainCodec {} =
      some (({} : Database).loadRest plainCodec (.net16 10 20)).toVpn := rfl
  obtain ⟨now, _, serves, rest⟩ := settings_survive plainCodec plainEnv AddressHash.hexCodec
    VpnRuntime.headerReader .short {} _ fresh sampleCycles (sampleStart [] [])
  have accepted : (({} : Database).loadRest plainCodec (.net16 10 20)).toVpn.Accepted plainEnv
      AddressHash.hexCodec := by
    rw [VpnConfig.accepted_iff]
    refine ⟨by decide, ?_⟩
    have nobody : (({} : Database).loadRest plainCodec (.net16 10 20)).toVpn.peers = [] :=
      Text.sorted_empty
    rw [nobody]
    exact List.forall_mem_nil _
  have acceptable : ∀ e ∈ sampleCycles, e.Acceptable plainEnv AddressHash.hexCodec := by
    simp only [sampleCycles, List.forall_mem_cons, List.not_mem_nil, DeviceEvent.Acceptable,
      VpnConfig.accepted_iff, false_imp_iff, implies_true, true_and, and_true]
    decide
  have up : (sampleStart [] []).comesUp sampleDevice.db = true := rfl
  obtain ⟨p, running⟩ := Option.isSome_iff_exists.mp (serves.trans up)
  obtain ⟨started, _, same⟩ := rest accepted acceptable p running
  obtain ⟨vpn', attached'⟩ := Option.isSome_iff_exists.mp (started.trans rfl)
  have orderly : ∀ e ∈ sampleCycles.drop 5, e.Orderly := by
    simp [sampleCycles, DeviceEvent.Orderly]
  have enforced := same (sampleCycles.take 4) (sampleStart [3] [4]) _ rfl orderly old vpn process
    attached applied vpn' attached'
  have policies := congrArg Enforced.policy enforced
  have routes := congrArg Enforced.advertisedRoutes enforced
  exact ⟨old, vpn, p, vpn', process, attached, running, attached', policies, routes⟩

end Kaonic.Gateway
