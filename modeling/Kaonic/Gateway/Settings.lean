import Kaonic.Gateway.Handlers

/-!
# Histories of the settings

What a failed save leaves behind, and what the database answers after any history of operations
that succeed: each column holds what was last written to it.
-/

namespace Kaonic.Gateway
open Net Register

/-! ### A save that fails -/

namespace Database

/-- A failed save leaves the loaded configuration as it was exactly if the failing statement is
the first one, or the statements in front of it repeat what is stored. -/
theorem saveConfig_unchanged_iff {R M : Type} (codec : SettingsCodec R M) (fault : Option SqlFault)
    (config : GatewayConfig R M) (db : Database) :
    ((db.saveConfig codec fault config).2 ≠ .ok () →
      (db.saveConfig codec fault config).1.loadConfig codec = db.loadConfig codec) ↔
    ∀ f, config.failing fault = some f →
      f.index = 0 ∨ ∃ old, db.loadConfig codec = .ok old ∧ config.Repeats old f.index := by
  cases failing : config.failing fault with
  | none =>
    rw [saveConfig_through failing]
    refine ⟨fun _ f same => (by cases same), fun _ failed => (failed rfl).elim⟩
  | some f =>
    rw [saveConfig_failing failing]
    simp only [Option.some.injEq, forall_eq', ← loadConfig_saveUpTo_eq_iff]
    exact ⟨fun unchanged => unchanged (by simp), fun same _ => same⟩

end Database

def allowedPeer : String := "07070707070707070707070707070707"

def allowlisted : Database := ({} : Database).saveConfig plainCodec none (configOf [allowedPeer]) |>.1

/-- The same configuration again, and the insert of its peer fails: nobody is allowed any more. -/
theorem saveConfig_empties_allowlist :
    let failed := allowlisted.saveConfig plainCodec (some ⟨5, "disk full"⟩) (configOf [allowedPeer])
    failed.2 = .error (.failed "disk full") ∧
      (allowlisted.loadConfig plainCodec).map GatewayConfig.peers = .ok [allowedPeer] ∧
      (failed.1.loadConfig plainCodec).map GatewayConfig.peers = .ok [] := by
  have failing : (configOf [allowedPeer]).failing (some ⟨5, "disk full"⟩) =
      some ⟨5, "disk full"⟩ := rfl
  have before : allowlisted.loadConfig plainCodec = .ok (configOf [allowedPeer]).stored :=
    Database.loadConfig_saved
  dsimp only
  rw [Database.saveConfig_failing failing, Database.loadConfig_saveUpTo 5 (by decide), before]
  refine ⟨rfl, ?_, ?_⟩
  · exact congrArg Except.ok (Text.sorted_singleton allowedPeer)
  · exact congrArg Except.ok Text.sorted_empty

/-! ### Operations -/

def seedKey : String := "identity_seed"

def codenameKey : String := "system_codename"

def codenameAlphabet : List Char := "abcdefghijklmnopqrstuvwxyz0123456789".toList

theorem codenameAlphabet_pos : 0 < codenameAlphabet.length := by decide

/-- `generate_codename`, given what the random generator fills in. -/
def generateCodename (bytes : List UInt8) : String :=
  String.ofList (bytes.map fun byte =>
    codenameAlphabet.get ⟨byte.toNat % codenameAlphabet.length, Nat.mod_lt _ codenameAlphabet_pos⟩)

def generateSeed (bytes : List UInt8) : String :=
  String.ofList (bytes.flatMap AddressHash.byteHex)

namespace Database

def loadOrCreate (key generated : String) (db : Database) : Database × String :=
  match db.get key with
  | some value => (db, value)
  | none => (db.exec (.set key generated), generated)

def loadOrCreateNamedSeed (key : String) (random : List UInt8) (db : Database) :
    Database × String := db.loadOrCreate key (generateSeed random)

def loadOrCreateSeed (random : List UInt8) (db : Database) : Database × String :=
  db.loadOrCreateNamedSeed seedKey random

def loadOrCreateCodename (random : List UInt8) (db : Database) : Database × String :=
  db.loadOrCreate codenameKey (generateCodename random)

/-- The failure that a read runs into, or the write where there is nothing to read. -/
def creationFailing (fault : Option SqlFault) (key : String) (db : Database) : Option SqlFault :=
  fault.filter fun f => decide (f.index < if (db.get key).isSome then 1 else 2)

def tryLoadOrCreate (fault : Option SqlFault) (key generated : String) (db : Database) :
    Database × Except SqlError String :=
  match db.creationFailing fault key with
  | some f => (db, .error (.failed f.err))
  | none => ((db.loadOrCreate key generated).1, .ok (db.loadOrCreate key generated).2)

def saveCodename (fault : Option SqlFault) (codename : String) (db : Database) :
    Database × Except SqlError Unit := db.execAll fault [.set codenameKey codename]

def saveModuleConfig {R M : Type} (codec : SettingsCodec R M) (fault : Option SqlFault)
    (module : Nat) (cfg : RadioModuleConfig R M) (db : Database) : Database × Except SqlError Unit :=
  db.execAll fault (moduleStatements codec module cfg)

end Database

inductive SettingsOp (R M : Type) where
  | saveConfig (config : GatewayConfig R M)
  | saveModuleConfig (module : Fin 2) (cfg : RadioModuleConfig R M)
  | saveCodename (codename : String)
  | loadOrCreateCodename (random : List UInt8)
  | loadOrCreateSeed (random : List UInt8)

namespace SettingsOp

variable {R M : Type}

/-- An operation of which no statement fails. -/
def run (codec : SettingsCodec R M) (db : Database) : SettingsOp R M → Database
  | .saveConfig config => (db.saveConfig codec none config).1
  | .saveModuleConfig module cfg => (db.saveModuleConfig codec none module cfg).1
  | .saveCodename codename => (db.saveCodename none codename).1
  | .loadOrCreateCodename random => (db.loadOrCreateCodename random).1
  | .loadOrCreateSeed random => (db.loadOrCreateSeed random).1

def config? : SettingsOp R M → Option (GatewayConfig R M)
  | .saveConfig config => some config
  | _ => none

def module? (i : Fin 2) : SettingsOp R M → Option (RadioModuleConfig R M)
  | .saveConfig config => some (config.radio.moduleConfigs i)
  | .saveModuleConfig module cfg => if module = i then some cfg else none
  | _ => none

def codename? : SettingsOp R M → Option String
  | .saveCodename codename => some codename
  | _ => none

/-- The codename that an operation sets or answers. -/
def codenameShown (db : Database) : SettingsOp R M → Option String
  | .saveCodename codename => some codename
  | .loadOrCreateCodename random => some (db.loadOrCreateCodename random).2
  | _ => none

def seedShown (db : Database) : SettingsOp R M → Option String
  | .loadOrCreateSeed random => some (db.loadOrCreateSeed random).2
  | _ => none

end SettingsOp

section

variable {R M : Type} (codec : SettingsCodec R M)

/-- The database after operations on a new one. -/
def history (ops : List (SettingsOp R M)) : Database := ops.foldl (SettingsOp.run codec) {}

/-- The texts of the built-in defaults read as the values they show. -/
structure SettingsCodec.ReadsDefaults : Prop where
  network : codec.network.parse defaultNetwork = .ok (.net16 10 20)
  routes : codec.routes.parse defaultAdvertisedRoutes = .ok [.net24 192 168 10]

def builtin : GatewayConfig R M where
  network := .net16 10 20
  allowAllPeers := defaultAllowAllPeers
  peers := []
  advertisedRoutes := [.net24 192 168 10]
  announceFreqSecs := defaultAnnounceFreqSecs
  radio := codec.defaults

/-- The configuration of a history: the last one saved, with each module as last written. -/
def settled (ops : List (SettingsOp R M)) : GatewayConfig R M :=
  { ((lastWrite SettingsOp.config? ops).getD (builtin codec)).stored with
    radio := { moduleConfigs := fun i =>
      (lastWrite (SettingsOp.module? i) ops).getD (codec.defaults.moduleConfigs i) } }

end

/-! ### What an operation does to a key -/

section

variable {R M : Type} {codec : SettingsCodec R M} {db : Database} {op : SettingsOp R M}

namespace Database

theorem get_foldl_absent {key : String} {statements : List Statement}
    (absent : key ∉ statements.filterMap Statement.key) :
    (statements.foldl exec db).get key = db.get key := by
  rw [get_foldl, lastWrite_eq_none.mpr (Statement.textFor_eq_none absent), Option.none_or]

theorem get_loadOrCreate (key other generated : String) (db : Database) :
    (db.loadOrCreate key generated).1.get other =
      if other = key then some (db.loadOrCreate key generated).2 else db.get other := by
  unfold loadOrCreate
  cases found : db.get key with
  | some value =>
    by_cases same : other = key
    · simp [same, found]
    · simp [same]
  | none =>
    dsimp only
    rw [get_exec, Statement.textFor]
    split <;> rfl

theorem loadOrCreate_of_get {key value : String} (found : db.get key = some value)
    (generated : String) : (db.loadOrCreate key generated).2 = value := by
  rw [loadOrCreate, found]

theorem saveConfig_eq (config : GatewayConfig R M) :
    (db.saveConfig codec none config).1 = saveUpTo codec (config.peers.length + 9) config db := by
  rw [saveUpTo, List.take_of_length_le (Nat.le_of_eq length_configStatements)]
  rfl

theorem get_saveConfig {config : GatewayConfig R M} {key value : String}
    {before after : List Statement}
    (split : configStatements codec config = before ++ .set key value :: after) :
    (db.saveConfig codec none config).1.get key = some value := by
  have length := congrArg List.length split
  rw [length_configStatements, List.length_append, List.length_cons] at length
  rw [saveConfig_eq, get_saveUpTo split rfl, if_pos (by omega)]

end Database

namespace SettingsOp

/-- The keys of a module, and the keys of names. -/
def otherKeys : List String :=
  [moduleKey radioConfigKey 0, moduleKey modulationKey 0, moduleKey radioConfigKey 1,
    moduleKey modulationKey 1, seedKey, codenameKey]

theorem moduleKey_mem (i : Fin 2) :
    moduleKey radioConfigKey i ∈ otherKeys ∧ moduleKey modulationKey i ∈ otherKeys := by
  revert i
  decide

theorem get_run_other {key : String} (absent : key ∉ otherKeys)
    (other : ∀ config, op = .saveConfig config → False) : (op.run codec db).get key = db.get key := by
  have seed : key ≠ seedKey := fun same => absent (same ▸ by decide)
  have codename : key ≠ codenameKey := fun same => absent (same ▸ by decide)
  cases op with
  | saveConfig config => exact (other config rfl).elim
  | saveModuleConfig i cfg =>
    refine Database.get_foldl_absent ?_
    intro member
    rcases List.mem_pair.mp member with rfl | rfl
    · exact absent (moduleKey_mem i).1
    · exact absent (moduleKey_mem i).2
  | saveCodename name =>
    refine Database.get_foldl_absent ?_
    simpa [Statement.key] using codename
  | loadOrCreateCodename random => exact (Database.get_loadOrCreate _ _ _ _).trans (if_neg codename)
  | loadOrCreateSeed random => exact (Database.get_loadOrCreate _ _ _ _).trans (if_neg seed)

theorem get_run_config {key : String} {print : GatewayConfig R M → String}
    (absent : key ∉ otherKeys) (written : ∀ config, ∃ before after,
      Database.configStatements codec config = before ++ .set key (print config) :: after)
    (db : Database) (op : SettingsOp R M) :
    (op.run codec db).get key = (op.config?.map print).or (db.get key) := by
  cases op with
  | saveConfig config =>
    obtain ⟨before, after, split⟩ := written config
    exact Database.get_saveConfig split
  | saveModuleConfig i cfg => exact get_run_other absent fun _ same => by cases same
  | saveCodename name => exact get_run_other absent fun _ same => by cases same
  | loadOrCreateCodename random => exact get_run_other absent fun _ same => by cases same
  | loadOrCreateSeed random => exact get_run_other absent fun _ same => by cases same

theorem get_run_module {base : String} {i : Fin 2} {print : RadioModuleConfig R M → String}
    (names : moduleKey base i ≠ seedKey ∧ moduleKey base i ≠ codenameKey)
    (saved : ∀ config, ∃ before after, Database.configStatements codec config =
      before ++ .set (moduleKey base i) (print (config.radio.moduleConfigs i)) :: after)
    (written : ∀ (module : Fin 2) cfg, lastWrite (Statement.textFor (moduleKey base i))
      (Database.moduleStatements codec module cfg) = if module = i then some (print cfg) else none)
    (db : Database) (op : SettingsOp R M) :
    (op.run codec db).get (moduleKey base i) =
      ((op.module? i).map print).or (db.get (moduleKey base i)) := by
  cases op with
  | saveConfig config =>
    obtain ⟨before, after, split⟩ := saved config
    exact Database.get_saveConfig split
  | saveModuleConfig m cfg =>
    refine (Database.get_foldl _ _ _).trans ?_
    rw [written, module?]
    split <;> rfl
  | saveCodename name =>
    refine Database.get_foldl_absent ?_
    simpa [Statement.key] using names.2
  | loadOrCreateCodename random => exact (Database.get_loadOrCreate _ _ _ _).trans (if_neg names.2)
  | loadOrCreateSeed random => exact (Database.get_loadOrCreate _ _ _ _).trans (if_neg names.1)

theorem lastWrite_pair (key first second a b : String) :
    lastWrite (Statement.textFor key) [.set first a, .set second b] =
      if key = second then some b else if key = first then some a else none := by
  have split := lastWrite_concat (Statement.textFor key) [.set first a] (.set second b)
  refine split.trans ?_
  unfold lastWrite Statement.textFor
  by_cases last : key = second
  · simp [last]
  · by_cases here : key = first
    · subst here
      simp [last]
    · simp [last, here]

theorem written_radioConfig (i module : Fin 2) (cfg : RadioModuleConfig R M) :
    lastWrite (Statement.textFor (moduleKey radioConfigKey i))
      (Database.moduleStatements codec module cfg) =
        if module = i then some (codec.radioConfig.print cfg.radioConfig) else none := by
  have keys : moduleKey radioConfigKey i ≠ moduleKey modulationKey module ∧
      (moduleKey radioConfigKey i = moduleKey radioConfigKey module ↔ module = i) := by
    revert i module
    decide
  rw [Database.moduleStatements, lastWrite_pair, if_neg keys.1]
  simp only [keys.2]

theorem written_modulation (i module : Fin 2) (cfg : RadioModuleConfig R M) :
    lastWrite (Statement.textFor (moduleKey modulationKey i))
      (Database.moduleStatements codec module cfg) =
        if module = i then some (codec.modulation.print cfg.modulation) else none := by
  have keys : moduleKey modulationKey i ≠ moduleKey radioConfigKey module ∧
      (moduleKey modulationKey i = moduleKey modulationKey module ↔ module = i) := by
    revert i module
    decide
  rw [Database.moduleStatements, lastWrite_pair, if_neg keys.1]
  simp only [keys.2]

theorem peers_run (db : Database) (op : SettingsOp R M) :
    (op.run codec db).peers = (op.config?.map fun c => c.peers.toFinset).getD db.peers := by
  cases op with
  | saveConfig config =>
    have all : config.peers.take (config.peers.length + 9 - 5) = config.peers :=
      List.take_of_length_le (by omega)
    show (db.saveConfig codec none config).1.peers = config.peers.toFinset
    rw [Database.saveConfig_eq, Database.peers_saveUpTo, if_pos (by omega), all]
  | saveModuleConfig i cfg => rfl
  | saveCodename name => rfl
  | loadOrCreateCodename random =>
    show (Database.loadOrCreate _ _ db).1.peers = db.peers
    unfold Database.loadOrCreate
    split <;> rfl
  | loadOrCreateSeed random =>
    show (Database.loadOrCreate _ _ db).1.peers = db.peers
    unfold Database.loadOrCreate
    split <;> rfl

end SettingsOp

/-! ### Histories -/

theorem get_history {key : String} {value : SettingsOp R M → Option String}
    (stepped : ∀ db op, (SettingsOp.run codec db op).get key = (value op).or (db.get key))
    (ops : List (SettingsOp R M)) : (history codec ops).get key = lastWrite value ops := by
  have run := @view_foldl _ _ _ (SettingsOp.run codec) (Database.get · key) value stepped ops {}
  exact run.trans (Option.or_none)

theorem get_history_config {key : String} {print : GatewayConfig R M → String}
    (absent : key ∉ SettingsOp.otherKeys) (written : ∀ config, ∃ before after,
      Database.configStatements codec config = before ++ .set key (print config) :: after)
    (ops : List (SettingsOp R M)) :
    (history codec ops).get key = (lastWrite SettingsOp.config? ops).map print := by
  rw [get_history (SettingsOp.get_run_config absent written), lastWrite_map]

theorem peers_history (ops : List (SettingsOp R M)) : (history codec ops).peers =
    ((lastWrite SettingsOp.config? ops).map fun c => c.peers.toFinset).getD ∅ := by
  have stepped : ∀ db (op : SettingsOp R M), some (op.run codec db).peers =
      (op.config?.map fun c => c.peers.toFinset).or (some db.peers) := by
    intro db op
    rw [SettingsOp.peers_run]
    cases op.config? <;> rfl
  have run := @view_foldl _ _ _ (SettingsOp.run codec) (fun db => some db.peers) _ stepped ops {}
  rw [lastWrite_map] at run
  have same := congrArg (fun view => view.getD ∅) run
  cases saved : lastWrite SettingsOp.config? ops with
  | none => simpa [saved, history] using same
  | some config => simpa [saved, history] using same

theorem loadNetwork_history (defaults : codec.ReadsDefaults) (ops : List (SettingsOp R M)) :
    (history codec ops).loadNetwork codec =
      .ok ((lastWrite SettingsOp.config? ops).getD (builtin codec)).network := by
  have text := @get_history_config R M codec "network" (fun c => codec.network.print c.network)
    (by decide) (fun config => ⟨[], _, rfl⟩) ops
  rw [Database.loadNetwork, text]
  cases lastWrite SettingsOp.config? ops with
  | none =>
    simp only [Option.map_none, Option.getD_none, defaults.network]
    rfl
  | some config => simp only [Option.map_some, Option.getD_some, codec.network.parse_print]

theorem loadAdvertisedRoutes_history (defaults : codec.ReadsDefaults)
    (ops : List (SettingsOp R M)) : (history codec ops).loadAdvertisedRoutes codec =
      ((lastWrite SettingsOp.config? ops).getD (builtin codec)).advertisedRoutes := by
  have text := @get_history_config R M codec "advertised_routes"
    (fun c => codec.routes.print c.advertisedRoutes) (by decide) (fun config => ⟨[_], _, rfl⟩) ops
  rw [Database.loadAdvertisedRoutes, text]
  cases lastWrite SettingsOp.config? ops with
  | none =>
    simp only [Option.map_none, Option.getD_none, defaults.routes]
    rfl
  | some config => simp only [Option.map_some, Option.getD_some, Database.toOption_parse_print]

theorem loadAllowAllPeers_history (ops : List (SettingsOp R M)) :
    (history codec ops).loadAllowAllPeers =
      ((lastWrite SettingsOp.config? ops).getD (builtin codec)).allowAllPeers := by
  have text := @get_history_config R M codec "allow_all_peers"
    (fun c => printBool c.allowAllPeers) (by decide) (fun config => ⟨[_, _], _, rfl⟩) ops
  rw [Database.loadAllowAllPeers, text]
  cases lastWrite SettingsOp.config? ops with
  | none => rfl
  | some config => simp only [Option.map_some, Option.bind_some, Database.parseBool_printBool,
      Option.getD_some]

theorem loadAnnounceFreqSecs_history (ops : List (SettingsOp R M)) :
    (history codec ops).loadAnnounceFreqSecs =
      ((lastWrite SettingsOp.config? ops).getD (builtin codec)).announceFreqSecs := by
  have text := @get_history_config R M codec "announce_freq_secs"
    (fun c => String.ofList (Text.printU32 c.announceFreqSecs)) (by decide)
    (fun config => ⟨[_, _, _], _, rfl⟩) ops
  rw [Database.loadAnnounceFreqSecs, text]
  cases lastWrite SettingsOp.config? ops with
  | none => rfl
  | some config => simp only [Option.map_some, Option.bind_some, String.toList_ofList,
      Text.parseU32_printU32, Option.getD_some]

theorem get_history_radioConfig (i : Fin 2) (ops : List (SettingsOp R M)) :
    (history codec ops).get (moduleKey radioConfigKey i) =
      (lastWrite (SettingsOp.module? i) ops).map fun c => codec.radioConfig.print c.radioConfig := by
  have names : moduleKey radioConfigKey i ≠ seedKey ∧ moduleKey radioConfigKey i ≠ codenameKey := by
    revert i
    decide
  rw [get_history (SettingsOp.get_run_module names ?_ (SettingsOp.written_radioConfig i)),
    lastWrite_map]
  intro config
  obtain ⟨before, after, _, statements⟩ := Database.configStatements_module codec config i
  rw [List.append_assoc] at statements
  exact ⟨before, _, statements⟩

theorem get_history_modulation (i : Fin 2) (ops : List (SettingsOp R M)) :
    (history codec ops).get (moduleKey modulationKey i) =
      (lastWrite (SettingsOp.module? i) ops).map fun c => codec.modulation.print c.modulation := by
  have names : moduleKey modulationKey i ≠ seedKey ∧ moduleKey modulationKey i ≠ codenameKey := by
    revert i
    decide
  rw [get_history (SettingsOp.get_run_module names ?_ (SettingsOp.written_modulation i)),
    lastWrite_map]
  intro config
  obtain ⟨before, after, _, statements⟩ := Database.configStatements_module codec config i
  refine ⟨before ++ [.set (moduleKey radioConfigKey i)
    (codec.radioConfig.print (config.radio.moduleConfigs i).radioConfig)], after, ?_⟩
  rw [statements, List.append_assoc, List.append_assoc]
  rfl

/-- Nothing is ever written under a module's key without a number. -/
theorem get_history_bare {key : String} (absent : key ∉ SettingsOp.otherKeys)
    (unused : ∀ config, key ∉ (Database.configStatements codec config).filterMap Statement.key)
    (ops : List (SettingsOp R M)) : (history codec ops).get key = none := by
  have kept : ∀ db (op : SettingsOp R M),
      (op.run codec db).get key = (none : Option String).or (db.get key) := by
    intro db op
    rw [Option.none_or]
    cases op with
    | saveConfig config => exact Database.get_foldl_absent (unused config)
    | saveModuleConfig i cfg => exact SettingsOp.get_run_other absent fun _ same => by cases same
    | saveCodename name => exact SettingsOp.get_run_other absent fun _ same => by cases same
    | loadOrCreateCodename random =>
      exact SettingsOp.get_run_other absent fun _ same => by cases same
    | loadOrCreateSeed random => exact SettingsOp.get_run_other absent fun _ same => by cases same
  rw [get_history kept, lastWrite_eq_none]
  exact fun _ _ => rfl

theorem loadModule_history (i : Fin 2) (ops : List (SettingsOp R M)) :
    (history codec ops).loadModule codec i =
      (lastWrite (SettingsOp.module? i) ops).getD (codec.defaults.moduleConfigs i) := by
  have bareRadio : (history codec ops).get radioConfigKey = none := by
    refine get_history_bare (by decide) (fun config => ?_) ops
    rw [Database.configStatements_keys]
    decide
  have bareModulation : (history codec ops).get modulationKey = none := by
    refine get_history_bare (by decide) (fun config => ?_) ops
    rw [Database.configStatements_keys]
    decide
  rw [Database.loadModule, Database.moduleText, Database.moduleText, get_history_radioConfig,
    get_history_modulation, bareRadio, bareModulation, ite_self, Option.or_none, Option.or_none]
  cases lastWrite (SettingsOp.module? i) ops with
  | none => rfl
  | some cfg =>
    simp only [Option.map_some, Option.bind_some, Database.toOption_parse_print, Option.getD_some]

theorem loadConfig_history (defaults : codec.ReadsDefaults) (ops : List (SettingsOp R M)) :
    (history codec ops).loadConfig codec = .ok (settled codec ops) := by
  have peers : Text.sorted (history codec ops).peers = (settled codec ops).peers := by
    rw [peers_history, settled]
    cases lastWrite SettingsOp.config? ops <;> rfl
  have modules : (history codec ops).loadModule codec =
      (settled codec ops).radio.moduleConfigs := funext fun i => loadModule_history i ops
  rw [Database.loadConfig, loadNetwork_history defaults]
  show Except.ok _ = _
  rw [Database.loadRest, loadAllowAllPeers_history, loadAdvertisedRoutes_history defaults,
    loadAnnounceFreqSecs_history, peers, modules]
  rfl

/-! ### Names -/

theorem get_run_seed (db : Database) (op : SettingsOp R M) :
    (op.run codec db).get seedKey = (op.seedShown db).or (db.get seedKey) := by
  cases op with
  | saveConfig config =>
    refine Database.get_foldl_absent ?_
    rw [Database.configStatements_keys]
    decide
  | saveModuleConfig i cfg =>
    refine Database.get_foldl_absent ?_
    show seedKey ∉ [moduleKey radioConfigKey i, moduleKey modulationKey i]
    revert i
    decide
  | saveCodename name =>
    refine Database.get_foldl_absent ?_
    simp [Statement.key, seedKey, codenameKey]
  | loadOrCreateCodename random =>
    exact (Database.get_loadOrCreate _ _ _ _).trans (if_neg (by decide))
  | loadOrCreateSeed random => exact (Database.get_loadOrCreate _ _ _ _).trans (if_pos rfl)

theorem get_run_codename (db : Database) (op : SettingsOp R M) :
    (op.run codec db).get codenameKey = (op.codenameShown db).or (db.get codenameKey) := by
  cases op with
  | saveConfig config =>
    refine Database.get_foldl_absent ?_
    rw [Database.configStatements_keys]
    decide
  | saveModuleConfig i cfg =>
    refine Database.get_foldl_absent ?_
    show codenameKey ∉ [moduleKey radioConfigKey i, moduleKey modulationKey i]
    revert i
    decide
  | saveCodename name =>
    show (db.exec (.set codenameKey name)).get codenameKey = _
    rw [Database.get_exec, Statement.textFor, if_pos rfl]
    rfl
  | loadOrCreateCodename random => exact (Database.get_loadOrCreate _ _ _ _).trans (if_pos rfl)
  | loadOrCreateSeed random => exact (Database.get_loadOrCreate _ _ _ _).trans (if_neg (by decide))

theorem get_foldl_kept {key : String} {write : SettingsOp R M → Option String}
    (stepped : ∀ db op value, db.get key = some value →
      (SettingsOp.run codec db op).get key = (write op).or (some value))
    {db : Database} {value : String} (found : db.get key = some value)
    (ops : List (SettingsOp R M)) :
    (ops.foldl (SettingsOp.run codec) db).get key = (lastWrite write ops).or (some value) := by
  induction ops generalizing db value with
  | nil => exact found
  | cons op rest ih =>
    have next := stepped db op value found
    rw [List.foldl_cons, lastWrite_cons_or]
    cases written : write op with
    | none => exact ih (next.trans (by rw [written]; rfl))
    | some new => exact ih (next.trans (by rw [written]; rfl))

theorem get_foldl_seed {seed : String} (found : db.get seedKey = some seed)
    (ops : List (SettingsOp R M)) :
    (ops.foldl (SettingsOp.run codec) db).get seedKey = some seed := by
  have kept := @get_foldl_kept R M codec seedKey (fun _ => none) ?_ db seed found ops
  · rw [kept, lastWrite_eq_none.mpr fun _ _ => rfl, Option.none_or]
  · intro db op seed found
    rw [get_run_seed, found]
    cases op with
    | loadOrCreateSeed random =>
      exact congrArg some (Database.loadOrCreate_of_get found _)
    | saveConfig _ | saveModuleConfig _ _ | saveCodename _ | loadOrCreateCodename _ => rfl

theorem get_foldl_codename {name : String} (found : db.get codenameKey = some name)
    (ops : List (SettingsOp R M)) : (ops.foldl (SettingsOp.run codec) db).get codenameKey =
      some ((lastWrite SettingsOp.codename? ops).getD name) := by
  have kept := @get_foldl_kept R M codec codenameKey SettingsOp.codename? ?_ db name found ops
  · rw [kept]
    cases lastWrite SettingsOp.codename? ops <;> rfl
  · intro db op name found
    rw [get_run_codename, found]
    cases op with
    | loadOrCreateCodename random =>
      exact congrArg some (Database.loadOrCreate_of_get found _)
    | saveConfig _ | saveModuleConfig _ _ | saveCodename _ | loadOrCreateSeed _ => rfl

/-- After any operations that succeed the configuration loaded is the last one saved with the
modules last written, the seed is the one first shown, and the codename is the one last saved, or
else the one shown before. -/
theorem history_answers (codec : SettingsCodec R M) (defaults : codec.ReadsDefaults)
    (ops : List (SettingsOp R M)) :
    (history codec ops).loadConfig codec = .ok (settled codec ops) ∧
    (∀ before op between seed random, ops = before ++ op :: between →
      op.seedShown (history codec before) = some seed →
        ((history codec ops).loadOrCreateSeed random).2 = seed) ∧
    ∀ before op between name random, ops = before ++ op :: between →
      op.codenameShown (history codec before) = some name →
        ((history codec ops).loadOrCreateCodename random).2 =
          (lastWrite SettingsOp.codename? between).getD name := by
  have split : ∀ before (op : SettingsOp R M) between, history codec (before ++ op :: between) =
      between.foldl (SettingsOp.run codec) (op.run codec (history codec before)) := by
    intro before op between
    rw [history, List.foldl_append, List.foldl_cons]
    rfl
  refine ⟨loadConfig_history defaults ops, ?_, ?_⟩
  · rintro before op between seed random rfl shown
    refine Database.loadOrCreate_of_get ?_ _
    rw [split]
    refine get_foldl_seed ?_ between
    rw [get_run_seed, shown, Option.some_or]
  · rintro before op between name random rfl shown
    refine Database.loadOrCreate_of_get ?_ _
    rw [split]
    refine get_foldl_codename ?_ between
    rw [get_run_codename, shown, Option.some_or]

end

/-- A module written twice, and a codename that is created and then saved. -/
def sampleOps : List (SettingsOp String String) :=
  [.loadOrCreateSeed [0xAB], .loadOrCreateCodename [0, 27], .saveConfig (configOf [allowedPeer]),
    .saveModuleConfig (Fin.last 1) ⟨"tx", "OFDM"⟩, .saveCodename "base0001"]

theorem history_answers_sample :
    (history plainCodec sampleOps).loadConfig plainCodec = .ok (settled plainCodec sampleOps) ∧
      ((settled plainCodec sampleOps).radio.moduleConfigs 1).modulation = "OFDM" ∧
      ((history plainCodec sampleOps).loadOrCreateSeed []).2 = "ab" ∧
      ((history plainCodec sampleOps).loadOrCreateCodename []).2 = "base0001" := by
  have answers := history_answers plainCodec ⟨by decide, by decide⟩ sampleOps
  exact ⟨answers.1, rfl, answers.2.1 [] _ _ "ab" [] rfl rfl,
    answers.2.2 [.loadOrCreateSeed [0xAB]] _ _ "a1" [] rfl (by decide)⟩

end Kaonic.Gateway
