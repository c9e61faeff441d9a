import Kaonic.Base.HashMap
import Kaonic.Base.Register
import Kaonic.Base.Text
import Kaonic.Net.Ipv4

/-!
# Settings database

The tables `settings` and `peers`, the statements that lay a configuration down in them, and the
configuration read back. The radio types belong to the radio's own crates and are parameters.
-/

namespace Kaonic.Gateway
open Net

@[ext] structure RadioModuleConfig (R M : Type) where
  radioConfig : R
  modulation : M

@[ext] structure HardwareRadioConfig (R M : Type) where
  moduleConfigs : Fin 2 → RadioModuleConfig R M

@[ext] structure GatewayConfig (R M : Type) where
  network : Ipv4Cidr
  allowAllPeers : Bool
  peers : List String
  advertisedRoutes : List Ipv4Cidr
  announceFreqSecs : UInt32
  radio : HardwareRadioConfig R M

/-- The statement that fails, by its place, and its error. -/
structure SqlFault where
  index : Nat
  err : String

namespace GatewayConfig

variable {R M : Type}

/-- What the database gives back for a configuration. -/
def stored (config : GatewayConfig R M) : GatewayConfig R M :=
  { config with peers := Text.sorted config.peers.toFinset }

/-- The configuration with the fields that the first `k` statements of a save write, and those of
an old one beyond. -/
def onto (config old : GatewayConfig R M) (k : Nat) : GatewayConfig R M where
  network := if 0 < k then config.network else old.network
  allowAllPeers := if 2 < k then config.allowAllPeers else old.allowAllPeers
  peers := if 4 < k then Text.sorted (config.peers.take (k - 5)).toFinset else old.peers
  advertisedRoutes := if 1 < k then config.advertisedRoutes else old.advertisedRoutes
  announceFreqSecs := if 3 < k then config.announceFreqSecs else old.announceFreqSecs
  radio := { moduleConfigs := fun i =>
    { radioConfig :=
        if 5 + config.peers.length + 2 * i < k then (config.radio.moduleConfigs i).radioConfig
        else (old.radio.moduleConfigs i).radioConfig
      modulation :=
        if 6 + config.peers.length + 2 * i < k then (config.radio.moduleConfigs i).modulation
        else (old.radio.moduleConfigs i).modulation } }

/-- The failure that a save of the configuration, of nine statements and one for each peer, runs
into. -/
def failing (fault : Option SqlFault) (config : GatewayConfig R M) : Option SqlFault :=
  fault.filter fun f => decide (f.index < config.peers.length + 9)

/-- What the first `k` statements of a save write is there already. -/
structure Repeats (config old : GatewayConfig R M) (k : Nat) : Prop where
  network : 0 < k → config.network = old.network
  advertisedRoutes : 1 < k → config.advertisedRoutes = old.advertisedRoutes
  allowAllPeers : 2 < k → config.allowAllPeers = old.allowAllPeers
  announceFreqSecs : 3 < k → config.announceFreqSecs = old.announceFreqSecs
  peers : 4 < k → Text.sorted (config.peers.take (k - 5)).toFinset = old.peers
  radioConfig : ∀ i : Fin 2, 5 + config.peers.length + 2 * i < k →
    (config.radio.moduleConfigs i).radioConfig = (old.radio.moduleConfigs i).radioConfig
  modulation : ∀ i : Fin 2, 6 + config.peers.length + 2 * i < k →
    (config.radio.moduleConfigs i).modulation = (old.radio.moduleConfigs i).modulation

theorem onto_eq_iff {config old : GatewayConfig R M} {k : Nat} :
    config.onto old k = old ↔ config.Repeats old k := by
  rw [GatewayConfig.ext_iff, HardwareRadioConfig.ext_iff, funext_iff]
  simp only [onto, RadioModuleConfig.ext_iff, ite_eq_right_iff, forall_and]
  constructor
  · intro ⟨network, allow, peers, routes, announce, radio, modulation⟩
    exact ⟨network, routes, allow, announce, peers, radio, modulation⟩
  · intro ⟨network, routes, allow, announce, peers, radio, modulation⟩
    exact ⟨network, allow, peers, routes, announce, radio, modulation⟩

theorem onto_all (config old : GatewayConfig R M) :
    config.onto old (config.peers.length + 9) = config.stored := by
  have all : config.peers.take (config.peers.length + 9 - 5) = config.peers :=
    List.take_of_length_le (by omega)
  have peers : (config.onto old (config.peers.length + 9)).peers = config.stored.peers := by
    simp only [onto, stored]
    rw [if_pos (by omega), all]
  have radio : (config.onto old (config.peers.length + 9)).radio = config.stored.radio := by
    ext i
    · exact if_pos (by omega)
    · exact if_pos (by omega)
  refine GatewayConfig.ext ?_ ?_ peers ?_ ?_ radio <;> simp [onto, stored]

end GatewayConfig

/-- What the code makes of `rusqlite::Error`. -/
inductive SqlError where
  | invalidParameterName (name : String)
  | failed (err : String)
  deriving DecidableEq

/-- The texts that other crates print and read, and the built-in radio settings. -/
structure SettingsCodec (R M : Type) where
  network : Text.Codec Ipv4Cidr
  routes : Text.Codec (List Ipv4Cidr)
  radioConfig : Text.Codec R
  modulation : Text.Codec M
  defaults : HardwareRadioConfig R M
  displayError : SqlError → String

structure Database where
  settings : HashMap String String := ∅
  peers : Finset String := ∅

inductive Statement where
  | set (key value : String)
  | deletePeers
  | insertPeer (peer : String)
  deriving DecidableEq

namespace Statement

def key : Statement → Option String
  | .set key _ => some key
  | .deletePeers | .insertPeer _ => none

def textFor (key : String) : Statement → Option String
  | .set name value => if key = name then some value else none
  | .deletePeers | .insertPeer _ => none

theorem textFor_eq_none {key : String} {statements : List Statement}
    (absent : key ∉ statements.filterMap Statement.key) :
    ∀ s ∈ statements, s.textFor key = none := by
  intro s member
  cases s with
  | set name value =>
    refine if_neg fun same => absent ?_
    exact List.mem_filterMap.mpr ⟨_, member, congrArg some same.symm⟩
  | deletePeers => rfl
  | insertPeer peer => rfl

end Statement

def defaultNetwork : String := "10.20.0.0/16"

def defaultAnnounceFreqSecs : UInt32 := 5

def defaultAdvertisedRoutes : String := "[\"192.168.10.0/24\"]"

def defaultAllowAllPeers : Bool := true

def radioConfigKey : String := "kaonic_ctrl_radio_config"

def modulationKey : String := "kaonic_ctrl_modulation"

def moduleKey (key : String) (module : Nat) : String := key ++ "_" ++ toString module

def printBool (b : Bool) : String := if b then "true" else "false"

/-- `str::parse::<bool>`. -/
def parseBool (text : String) : Option Bool :=
  if text = "true" then some true else if text = "false" then some false else none

namespace Database

def get (db : Database) (key : String) : Option String := db.settings.lookup key

def exec (db : Database) : Statement → Database
  | .set key value => { db with settings := db.settings.insert key value }
  | .deletePeers => { db with peers := ∅ }
  | .insertPeer peer => { db with peers := insert peer db.peers }

def execAll (fault : Option SqlFault) (statements : List Statement) (db : Database) :
    Database × Except SqlError Unit :=
  match fault with
  | none => (statements.foldl exec db, .ok ())
  | some f =>
    if f.index < statements.length then
      ((statements.take f.index).foldl exec db, .error (.failed f.err))
    else (statements.foldl exec db, .ok ())

section

variable {R M : Type} (codec : SettingsCodec R M)

def moduleStatements (module : Nat) (cfg : RadioModuleConfig R M) : List Statement :=
  [.set (moduleKey radioConfigKey module) (codec.radioConfig.print cfg.radioConfig),
    .set (moduleKey modulationKey module) (codec.modulation.print cfg.modulation)]

/-- The statements of `save_config` up to the peers. -/
def vpnStatements (config : GatewayConfig R M) : List Statement :=
  [.set "network" (codec.network.print config.network),
    .set "advertised_routes" (codec.routes.print config.advertisedRoutes),
    .set "allow_all_peers" (printBool config.allowAllPeers),
    .set "announce_freq_secs" (String.ofList (Text.printU32 config.announceFreqSecs)),
    .deletePeers]

def configStatements (config : GatewayConfig R M) : List Statement :=
  vpnStatements codec config ++ config.peers.map .insertPeer ++
    (List.finRange 2).flatMap fun i : Fin 2 =>
      moduleStatements codec i (config.radio.moduleConfigs i)

def saveConfig (fault : Option SqlFault) (config : GatewayConfig R M) (db : Database) :
    Database × Except SqlError Unit := db.execAll fault (configStatements codec config)

/-! ### The columns of `load_config` -/

def loadNetwork (db : Database) : Except SqlError Ipv4Cidr :=
  let text := (db.get "network").getD defaultNetwork
  match codec.network.parse text with
  | .ok network => .ok network
  | .error e => .error (.invalidParameterName ("invalid network '" ++ text ++ "': " ++ e))

def loadAnnounceFreqSecs (db : Database) : UInt32 :=
  ((db.get "announce_freq_secs").bind fun v => Text.parseU32 v.toList).getD
    defaultAnnounceFreqSecs

def loadAllowAllPeers (db : Database) : Bool :=
  ((db.get "allow_all_peers").bind parseBool).getD defaultAllowAllPeers

def loadAdvertisedRoutes (db : Database) : List Ipv4Cidr :=
  let text := (db.get "advertised_routes").getD defaultAdvertisedRoutes
  (codec.routes.parse text).toOption.getD []

/-- The text of a module's column. Module 0 falls back on the key without a number. -/
def moduleText (db : Database) (key : String) (i : Fin 2) : Option String :=
  (db.get (moduleKey key i)).or (if i = 0 then db.get key else none)

def loadModule (db : Database) (i : Fin 2) : RadioModuleConfig R M where
  radioConfig := ((db.moduleText radioConfigKey i).bind fun v =>
    (codec.radioConfig.parse v).toOption).getD (codec.defaults.moduleConfigs i).radioConfig
  modulation := ((db.moduleText modulationKey i).bind fun v =>
    (codec.modulation.parse v).toOption).getD (codec.defaults.moduleConfigs i).modulation

def loadRest (db : Database) (network : Ipv4Cidr) : GatewayConfig R M where
  network := network
  allowAllPeers := db.loadAllowAllPeers
  peers := Text.sorted db.peers
  advertisedRoutes := db.loadAdvertisedRoutes codec
  announceFreqSecs := db.loadAnnounceFreqSecs
  radio := { moduleConfigs := db.loadModule codec }

def loadConfig (db : Database) : Except SqlError (GatewayConfig R M) :=
  (db.loadNetwork codec).map (db.loadRest codec)

end

/-! ### What statements leave behind -/

theorem get_exec (key : String) (db : Database) (s : Statement) :
    (db.exec s).get key = (s.textFor key).or (db.get key) := by
  cases s with
  | set name value =>
    show (AList.insert name value db.settings).lookup key = _
    rw [HashMap.lookup_insert_eq]
    by_cases same : key = name
    · simp [Statement.textFor, same]
    · simp [Statement.textFor, same, get]
  | deletePeers => rfl
  | insertPeer peer => rfl

theorem get_foldl (key : String) (statements : List Statement) (db : Database) :
    (statements.foldl exec db).get key =
      (Register.lastWrite (Statement.textFor key) statements).or (db.get key) :=
  @Register.view_foldl Database Statement String exec (get · key) (Statement.textFor key)
    (get_exec key) statements db

theorem peers_foldl_of_set {statements : List Statement}
    (sets : ∀ s ∈ statements, ∃ key value, s = .set key value) (db : Database) :
    (statements.foldl exec db).peers = db.peers := by
  induction statements generalizing db with
  | nil => rfl
  | cons s rest ih =>
    obtain ⟨⟨key, value, rfl⟩, later⟩ := List.forall_mem_cons.mp sets
    exact ih later _

theorem peers_foldl_insert (peers : List String) (db : Database) :
    ((peers.map Statement.insertPeer).foldl exec db).peers = peers.toFinset ∪ db.peers := by
  induction peers generalizing db with
  | nil => simp
  | cons peer rest ih =>
    rw [List.map_cons, List.foldl_cons, ih, List.toFinset_cons, Finset.insert_union,
      ← Finset.union_insert]
    rfl

section

variable {R M : Type} {codec : SettingsCodec R M} {config : GatewayConfig R M} {db : Database}

def saveUpTo (codec : SettingsCodec R M) (k : Nat) (config : GatewayConfig R M) (db : Database) :
    Database := ((configStatements codec config).take k).foldl exec db

theorem configStatements_keys : (configStatements codec config).filterMap Statement.key =
    ["network", "advertised_routes", "allow_all_peers", "announce_freq_secs",
      moduleKey radioConfigKey 0, moduleKey modulationKey 0, moduleKey radioConfigKey 1,
      moduleKey modulationKey 1] := by
  have inserts : (config.peers.map Statement.insertPeer).filterMap Statement.key = [] := by
    simp [Statement.key]
  rw [configStatements, List.filterMap_append, List.filterMap_append, inserts]
  rfl

theorem get_saveUpTo {key value : String} {before after : List Statement} {place : Nat}
    (split : configStatements codec config = before ++ .set key value :: after)
    (length : before.length = place) (k : Nat) :
    (saveUpTo codec k config db).get key = if place < k then some value else db.get key := by
  have once : ((configStatements codec config).filterMap Statement.key).Nodup := by
    rw [configStatements_keys]
    decide
  have named : Statement.key (.set key value) = some key := rfl
  rw [split, List.filterMap_append, List.filterMap_cons_some named, List.nodup_middle,
    List.nodup_cons, List.mem_append, not_or] at once
  obtain ⟨⟨notBefore, notAfter⟩, _⟩ := once
  have here : Statement.textFor key (.set key value) = some value := if_pos rfl
  rw [saveUpTo, get_foldl, split, Register.lastWrite_take here
    (Statement.textFor_eq_none notBefore) (Statement.textFor_eq_none notAfter), length]
  split <;> rfl

theorem get_saveUpTo_other {key : String}
    (absent : key ∉ (configStatements codec config).filterMap Statement.key) (k : Nat) :
    (saveUpTo codec k config db).get key = db.get key := by
  have quiet : Register.lastWrite (Statement.textFor key)
      ((configStatements codec config).take k) = none := by
    rw [Register.lastWrite_eq_none]
    exact fun s member => Statement.textFor_eq_none absent s (List.mem_of_mem_take member)
  rw [saveUpTo, get_foldl, quiet, Option.none_or]

theorem parseBool_printBool (b : Bool) : parseBool (printBool b) = some b := by cases b <;> decide

theorem toOption_parse_print {α : Type} (c : Text.Codec α) (a : α) :
    (c.parse (c.print a)).toOption = some a := by
  rw [c.parse_print]
  rfl

variable (k : Nat)

theorem loadNetwork_saveUpTo (started : 0 < k) :
    (saveUpTo codec k config db).loadNetwork codec = .ok config.network := by
  have text := @get_saveUpTo _ _ codec config db _ _ [] _ _ rfl rfl k
  rw [List.length_nil, if_pos started] at text
  rw [loadNetwork, text, Option.getD_some, codec.network.parse_print]

theorem loadAdvertisedRoutes_saveUpTo : (saveUpTo codec k config db).loadAdvertisedRoutes codec =
    if 1 < k then config.advertisedRoutes else db.loadAdvertisedRoutes codec := by
  have text := @get_saveUpTo _ _ codec config db _ _ [_] _ 1 rfl rfl k
  rw [loadAdvertisedRoutes, text]
  split
  · rw [Option.getD_some, toOption_parse_print, Option.getD_some]
  · rfl

theorem loadAllowAllPeers_saveUpTo : (saveUpTo codec k config db).loadAllowAllPeers =
    if 2 < k then config.allowAllPeers else db.loadAllowAllPeers := by
  have text := @get_saveUpTo _ _ codec config db _ _ [_, _] _ 2 rfl rfl k
  rw [loadAllowAllPeers, text]
  split
  · rw [Option.bind_some, parseBool_printBool, Option.getD_some]
  · rfl

theorem loadAnnounceFreqSecs_saveUpTo : (saveUpTo codec k config db).loadAnnounceFreqSecs =
    if 3 < k then config.announceFreqSecs else db.loadAnnounceFreqSecs := by
  have text := @get_saveUpTo _ _ codec config db _ _ [_, _, _] _ 3 rfl rfl k
  rw [loadAnnounceFreqSecs, text]
  split
  · rw [Option.bind_some, String.toList_ofList, Text.parseU32_printU32, Option.getD_some]
  · rfl

theorem configStatements_module (codec : SettingsCodec R M) (config : GatewayConfig R M)
    (i : Fin 2) : ∃ before after, before.length = 5 + config.peers.length + 2 * i ∧
      configStatements codec config =
        before ++ moduleStatements codec i (config.radio.moduleConfigs i) ++ after := by
  match i with
  | 0 =>
    refine ⟨vpnStatements codec config ++ config.peers.map .insertPeer,
      moduleStatements codec 1 (config.radio.moduleConfigs 1), ?_, ?_⟩
    · simp only [vpnStatements, List.length_append, List.length_cons, List.length_nil,
        List.length_map]
      rfl
    · rw [List.append_assoc _ (moduleStatements _ _ _)]
      rfl
  | 1 =>
    refine ⟨vpnStatements codec config ++ config.peers.map .insertPeer ++
      moduleStatements codec 0 (config.radio.moduleConfigs 0), [], ?_, ?_⟩
    · simp only [vpnStatements, moduleStatements, List.length_append, List.length_cons,
        List.length_nil, List.length_map]
      rfl
    · rw [List.append_assoc, List.append_assoc]
      rfl

theorem moduleText_saveUpTo {key value : String} {i : Fin 2} {before after : List Statement}
    {place : Nat} (bare : key ∉ (configStatements codec config).filterMap Statement.key)
    (split : configStatements codec config = before ++ .set (moduleKey key i) value :: after)
    (length : before.length = place) (k : Nat) :
    (saveUpTo codec k config db).moduleText key i =
      if place < k then some value else db.moduleText key i := by
  rw [moduleText, get_saveUpTo split length, get_saveUpTo_other bare]
  split <;> rfl

theorem loadModule_radioConfig (i : Fin 2) :
    ((saveUpTo codec k config db).loadModule codec i).radioConfig =
      if 5 + config.peers.length + 2 * i < k then (config.radio.moduleConfigs i).radioConfig
      else (db.loadModule codec i).radioConfig := by
  obtain ⟨before, after, length, statements⟩ := configStatements_module codec config i
  have bare : radioConfigKey ∉ (configStatements codec config).filterMap Statement.key := by
    rw [configStatements_keys]
    decide
  rw [List.append_assoc] at statements
  rw [loadModule, moduleText_saveUpTo bare statements length]
  split
  · rw [Option.bind_some, toOption_parse_print, Option.getD_some]
  · rfl

theorem loadModule_modulation (i : Fin 2) :
    ((saveUpTo codec k config db).loadModule codec i).modulation =
      if 6 + config.peers.length + 2 * i < k then (config.radio.moduleConfigs i).modulation
      else (db.loadModule codec i).modulation := by
  obtain ⟨before, after, length, statements⟩ := configStatements_module codec config i
  have bare : modulationKey ∉ (configStatements codec config).filterMap Statement.key := by
    rw [configStatements_keys]
    decide
  have later : (before ++ [Statement.set (moduleKey radioConfigKey i)
      (codec.radioConfig.print (config.radio.moduleConfigs i).radioConfig)]).length =
        6 + config.peers.length + 2 * i := by
    rw [List.length_append, length, List.length_singleton]
    omega
  have split : configStatements codec config = (before ++ [Statement.set (moduleKey radioConfigKey i)
      (codec.radioConfig.print (config.radio.moduleConfigs i).radioConfig)]) ++
        .set (moduleKey modulationKey i)
          (codec.modulation.print (config.radio.moduleConfigs i).modulation) :: after := by
    rw [statements, List.append_assoc, List.append_assoc]
    rfl
  rw [loadModule, moduleText_saveUpTo bare split later]
  split
  · rw [Option.bind_some, toOption_parse_print, Option.getD_some]
  · rfl

theorem peers_saveUpTo : (saveUpTo codec k config db).peers =
    if 4 < k then (config.peers.take (k - 5)).toFinset else db.peers := by
  have vpnLength : (vpnStatements codec config).length = 5 := rfl
  split
  · rename_i emptied
    have start : (configStatements codec config).take k = vpnStatements codec config ++
        (config.peers.take (k - 5)).map .insertPeer ++
          ((List.finRange 2).flatMap fun i : Fin 2 =>
            moduleStatements codec i (config.radio.moduleConfigs i)).take
              (k - (5 + config.peers.length)) := by
      rw [configStatements, List.take_append, List.take_append, List.take_of_length_le (by omega),
        List.map_take, List.length_append, List.length_map, vpnLength]
    rw [saveUpTo, start, List.foldl_append, List.foldl_append, peers_foldl_of_set,
      peers_foldl_insert]
    · exact Finset.union_empty _
    · intro s member
      obtain ⟨i, _, inside⟩ := List.mem_flatMap.mp (List.mem_of_mem_take member)
      rw [moduleStatements, List.mem_pair] at inside
      rcases inside with rfl | rfl <;> exact ⟨_, _, rfl⟩
  · rename_i kept
    have start : (configStatements codec config).take k =
        ((vpnStatements codec config).take 4).take k := by
      rw [configStatements, List.append_assoc, List.take_append_of_le_length (by omega),
        List.take_take, Nat.min_eq_left (by omega)]
    rw [saveUpTo, start]
    apply peers_foldl_of_set
    intro s member
    have inside : s ∈ (vpnStatements codec config).take 4 := List.mem_of_mem_take member
    simp only [vpnStatements, List.take_succ_cons, List.take_zero, List.mem_cons,
      List.not_mem_nil, or_false] at inside
    rcases inside with rfl | rfl | rfl | rfl <;> exact ⟨_, _, rfl⟩

theorem loadConfig_saveUpTo (started : 0 < k) :
    (saveUpTo codec k config db).loadConfig codec =
      .ok (config.onto (db.loadRest codec config.network) k) := by
  have modules : (saveUpTo codec k config db).loadModule codec =
      (config.onto (db.loadRest codec config.network) k).radio.moduleConfigs := by
    funext i
    rw [RadioModuleConfig.ext_iff, loadModule_radioConfig, loadModule_modulation]
    exact ⟨rfl, rfl⟩
  have peers : Text.sorted (saveUpTo codec k config db).peers =
      (config.onto (db.loadRest codec config.network) k).peers := by
    rw [peers_saveUpTo, GatewayConfig.onto]
    split <;> rfl
  have network : config.network = (config.onto (db.loadRest codec config.network) k).network :=
    (if_pos started).symm
  rw [loadConfig, loadNetwork_saveUpTo k started]
  show Except.ok _ = _
  rw [loadRest, modules, peers, loadAllowAllPeers_saveUpTo, loadAdvertisedRoutes_saveUpTo,
    loadAnnounceFreqSecs_saveUpTo]
  exact congrArg _ (GatewayConfig.ext network rfl rfl rfl rfl rfl)

theorem length_configStatements :
    (configStatements codec config).length = config.peers.length + 9 := by
  rw [configStatements, List.length_append, List.length_append, List.length_map]
  show 5 + config.peers.length + 4 = _
  omega

/-- A save without a failing statement leaves the configuration, its peers in order and once. -/
theorem loadConfig_saved :
    ((configStatements codec config).foldl exec db).loadConfig codec = .ok config.stored := by
  have all : (configStatements codec config).foldl exec db =
      saveUpTo codec (config.peers.length + 9) config db := by
    rw [saveUpTo, List.take_of_length_le (Nat.le_of_eq length_configStatements)]
  rw [all, loadConfig_saveUpTo _ (by omega), GatewayConfig.onto_all]

/-! ### The outcome of a save -/

theorem saveConfig_failing {fault : Option SqlFault} {f : SqlFault}
    (failing : config.failing fault = some f) : db.saveConfig codec fault config =
      (saveUpTo codec f.index config db, .error (.failed f.err)) := by
  obtain ⟨rfl, reached⟩ := Option.filter_eq_some_iff.mp failing
  unfold saveConfig execAll
  rw [length_configStatements]
  exact if_pos (of_decide_eq_true reached)

theorem saveConfig_through {fault : Option SqlFault} (through : config.failing fault = none) :
    db.saveConfig codec fault config =
      ((configStatements codec config).foldl exec db, .ok ()) := by
  cases fault with
  | none => rfl
  | some f =>
    have beyond : config.peers.length + 9 ≤ f.index := by
      simpa [GatewayConfig.failing] using through
    unfold saveConfig execAll
    rw [length_configStatements]
    exact if_neg (Nat.not_lt.mpr beyond)

/-- A save that breaks off leaves the loaded configuration as it was exactly if it broke off at
once, or had only written what was there. -/
theorem loadConfig_saveUpTo_eq_iff :
    (saveUpTo codec k config db).loadConfig codec = db.loadConfig codec ↔
      k = 0 ∨ ∃ old, db.loadConfig codec = .ok old ∧ config.Repeats old k := by
  rcases Nat.eq_zero_or_pos k with rfl | started
  · exact iff_of_true rfl (Or.inl rfl)
  rw [loadConfig_saveUpTo k started, or_iff_right (Nat.ne_of_gt started)]
  cases read : db.loadNetwork codec with
  | error err =>
    have failed : db.loadConfig codec = .error err := by rw [loadConfig, read]; rfl
    simp [failed]
  | ok network =>
    have loaded : db.loadConfig codec = .ok (db.loadRest codec network) := by
      rw [loadConfig, read]
      rfl
    have same : config.onto (db.loadRest codec config.network) k =
        config.onto (db.loadRest codec network) k := by
      simp only [GatewayConfig.onto, started, if_true, loadRest]
    simp only [loaded, same, Except.ok.injEq, exists_eq_left', GatewayConfig.onto_eq_iff]

end

end Database

end Kaonic.Gateway
