import Kaonic.Base.Text
import Kaonic.Base.Traverse
import Kaonic.Plugin.Interface

/-!
# The start of the plugin

What `main` makes of its command line and its environment, up to the tasks that it starts. Every call
that leaves the program has its outcome as a parameter.
-/

namespace Kaonic.Plugin

open Net

/-! ### Socket addresses -/

/-- `IpAddr`, with an IPv6 address as the number it stands for. -/
inductive IpAddr where
  | v4 (addr : Ipv4Addr)
  | v6 (addr : BitVec 128)
  deriving DecidableEq

/-- `127.0.0.0/8` and `::1`. -/
def IpAddr.isLoopback : IpAddr → Bool
  | .v4 addr => addr.octets.head? == some 127
  | .v6 addr => addr == 1

structure SocketAddr where
  ip : IpAddr
  port : UInt16
  deriving DecidableEq

/-! ### The channels -/

inductive AtakChannel where
  | cot
  | geochat
  deriving DecidableEq

namespace AtakChannel

def group : AtakChannel → Ipv4Addr
  | .cot => .new 239 2 3 1
  | .geochat => .new 224 10 10 1

def port : AtakChannel → UInt16
  | .cot => 6969
  | .geochat => 17012

end AtakChannel

def atakChannels : List AtakChannel := [.cot, .geochat]

/-! ### The environment -/

def defaultDbPath : String := "/kaonic-gateway.db"
def defaultSeedKey : String := "atak_plugin_identity_seed"
def defaultCtrlServer : SocketAddr := ⟨.v4 (.new 192 168 10 1), 9090⟩
def atakInterfaceEnv : String := "KAONIC_ATAK_INTERFACE"
def atakInterfaceIpEnv : String := "KAONIC_ATAK_INTERFACE_IP"
def opaqueForwardingEnv : String := "KAONIC_ATAK_ALLOW_OPAQUE_FORWARDING"
def diagnosticsUnixSocketEnv : String := "KAONIC_ATAK_DIAGNOSTICS_UNIX_SOCKET"
def disableLocalDiagnosticsControlEnv : String := "KAONIC_ATAK_DISABLE_LOCAL_DIAGNOSTICS_CONTROL"
def requireDiagnosticsControlEnv : String := "KAONIC_ATAK_REQUIRE_DIAGNOSTICS_CONTROL"
def diagnosticsControlListenEnv : String := "KAONIC_ATAK_DIAGNOSTICS_CONTROL_LISTEN"
def insecureDiagnosticsControlListenEnv : String :=
  "KAONIC_ATAK_ALLOW_INSECURE_DIAGNOSTICS_CONTROL_LISTEN"
def unauthenticatedDiagnosticsMeshControlEnv : String :=
  "KAONIC_ATAK_ENABLE_UNAUTHENTICATED_DIAGNOSTICS_MESH_CONTROL"
def defaultDiagnosticsUnixSocket : String := "/run/kaonic-atak-plugin/diagnostics.sock"

/-- The parsed command line. -/
structure Command where
  kaonicCtrlServer : Option SocketAddr := none
  rnsModule : Nat := 0
  seedKey : String := defaultSeedKey
  localInterface : Option String := none
  localAddress : Option Ipv4Addr := none
  allowUnvalidatedPayloads : Bool := false
  diagnosticsUnixSocket : Option String := none
  disableLocalDiagnosticsControl : Bool := false
  requireDiagnosticsControl : Bool := false
  diagnosticsControlListen : Option SocketAddr := none
  allowInsecureDiagnosticsControlListen : Bool := false
  enableUnauthenticatedDiagnosticsMeshControl : Bool := false

/-- `Ipv4Addr::from_str`, which reads what it would print. -/
def ipv4FromStr (text : String) : Option Ipv4Addr :=
  (Ipv4Addr.parse text.toList).filter fun ip => ip.print == text.toList

/-- What the process finds: its variables, the interfaces of the host, and the standard library's
way to read and to write socket addresses. -/
structure Process where
  var : String → Option String
  candidates : List InterfaceCandidate
  parseSocketAddr : String → Option SocketAddr
  printSocketAddr : SocketAddr → String

namespace Process

variable (p : Process)

def nonEmptyEnv (name : String) : Option String :=
  ((p.var name).map fun value => String.ofList (Text.trim value.toList)).filter fun value =>
    value != ""

def envFlagEnabled (name : String) : Bool :=
  match p.nonEmptyEnv name with
  | some value =>
    ["1", "true", "yes", "on"].contains (String.ofList (value.toList.map Char.toLower))
  | none => false

def configuredIpv4 (cliValue : Option Ipv4Addr) (envName : String) :
    Except String (Option Ipv4Addr) :=
  if cliValue.isSome then .ok cliValue
  else
    match p.nonEmptyEnv envName with
    | some value =>
      match ipv4FromStr value with
      | some addr => .ok (some addr)
      | none => .error ("invalid " ++ envName ++ " value '" ++ value ++
          "': invalid IPv4 address syntax")
    | none => .ok none

def validateDiagnosticsUnixSocketPath (path : String) : Except String Unit :=
  if path = "" then .error "socket path is empty"
  else if path.toList.head? ≠ some '/' then .error ("socket path must be absolute: " ++ path)
  else .ok ()

def configuredDiagnosticsUnixSocket (cliValue : Option String) : Option String :=
  let path := (cliValue.or (p.nonEmptyEnv diagnosticsUnixSocketEnv)).getD defaultDiagnosticsUnixSocket
  match validateDiagnosticsUnixSocketPath path with
  | .ok () => some path
  | .error _ => none

def validateDiagnosticsControlListen (listenAddr : SocketAddr) (allowInsecure : Bool) :
    Except String Unit :=
  if listenAddr.ip.isLoopback || allowInsecure then .ok ()
  else .error ("diagnostics local control socket must bind to loopback unless " ++
    "--allow-insecure-diagnostics-control-listen or " ++ insecureDiagnosticsControlListenEnv ++
    "=true is set")

def configuredDiagnosticsUdpAddr (cliValue : Option SocketAddr) (allowInsecure : Bool) :
    Option SocketAddr :=
  let configured := match cliValue with
    | some value => some value
    | none => (p.nonEmptyEnv diagnosticsControlListenEnv).bind p.parseSocketAddr
  configured.bind fun listenAddr =>
    match validateDiagnosticsControlListen listenAddr allowInsecure with
    | .ok () => some listenAddr
    | .error _ => none

end Process

/-! ### Diagnostics control -/

structure DiagnosticsControlConfig where
  unixSocket : Option String
  udpAddr : Option SocketAddr
  requireControl : Bool

/-- The errors of `remove_file` that `bind_unix_diagnostics_socket` tells apart. -/
inductive RemoveError where
  | notFound
  | other (err : String)

/-- How the calls to the system end on which diagnostics control depends. `createParent` is
`create_dir_all` for the parent of a path, and does nothing if there is none. -/
structure ControlCalls where
  createParent : String → Except String Unit
  removeFile : String → Except RemoveError Unit
  bindUnix : String → Except String Unit
  setPermissions : String → Nat → Except String Unit
  bindUdp : SocketAddr → Except String Unit

structure UnixSocket where
  path : String
  mode : Nat
  deriving DecidableEq

/-- The endpoints that control is served at: the sockets, and the destination on the mesh. -/
structure Control where
  unix : Option UnixSocket
  udp : Option SocketAddr
  mesh : Bool
  deriving DecidableEq

/-- The `match` on the outcome of `remove_file`. -/
def ignoreMissing : Except RemoveError Unit → Except String Unit
  | .ok () => .ok ()
  | .error .notFound => .ok ()
  | .error (.other err) => .error err

def bindUnixDiagnosticsSocket (calls : ControlCalls) (path : String) : Except String UnixSocket := do
  calls.createParent path
  ignoreMissing (calls.removeFile path)
  calls.bindUnix path
  calls.setPermissions path 0o600
  pure ⟨path, 0o600⟩

/-- One of the two attempts of `start_diagnostics_control` to open a configured socket. -/
def openEndpoint {α β : Type} (requireControl : Bool) (configured : Option α)
    (bind : α → Except String β) (message : α → String → String) : Except String (Option β) :=
  match configured with
  | none => .ok none
  | some address =>
    match bind address with
    | .ok socket => .ok (some socket)
    | .error err => if requireControl then .error (message address err) else .ok none

/-- `start_diagnostics_control` on Unix. -/
def startDiagnosticsControl (p : Process) (calls : ControlCalls) (config : DiagnosticsControlConfig)
    (enableMeshControl : Bool) : Except String Control := do
  let unix ← openEndpoint config.requireControl config.unixSocket (bindUnixDiagnosticsSocket calls)
    fun path err => "diagnostics Unix socket " ++ path ++ " unavailable: " ++ err
  let udp ← openEndpoint config.requireControl config.udpAddr
    (fun addr => (calls.bindUdp addr).map fun _ => addr)
    fun addr err => "diagnostics UDP control " ++ p.printSocketAddr addr ++ " unavailable: " ++ err
  if !(unix.isSome || udp.isSome) && config.requireControl then
    throw "no local diagnostics control endpoint is available"
  return ⟨unix, udp, enableMeshControl⟩

/-! ### `main` -/

/-- How the other calls end that a start depends on: the database, the radio and the channels. -/
structure StartCalls where
  openDb : String → Except String Unit
  /-- The number of radio modules in the configuration. -/
  loadConfig : Except String Nat
  loadOrCreateNamedSeed : String → Except String Unit
  connectRadioClient : SocketAddr → Except String Unit
  attachRadioInterface : Nat → Except String Unit
  openMulticastSockets : AtakChannel → LocalInterface → Except String Unit

/-- What the tasks go by once the plugin has started. -/
structure Started where
  localInterface : LocalInterface
  allowUnvalidatedPayloads : Bool
  control : Control
  deriving DecidableEq

namespace Command

/-- The options of `other` for diagnostics, and otherwise those of `cmd`. -/
def withDiagnostics (cmd other : Command) : Command :=
  { other with
    kaonicCtrlServer := cmd.kaonicCtrlServer
    rnsModule := cmd.rnsModule
    seedKey := cmd.seedKey
    localInterface := cmd.localInterface
    localAddress := cmd.localAddress
    allowUnvalidatedPayloads := cmd.allowUnvalidatedPayloads }

variable (cmd : Command) (p : Process)

def selectInterface : Except String LocalInterface := do
  let localAddr ← p.configuredIpv4 cmd.localAddress atakInterfaceIpEnv
  let selection : InterfaceSelection :=
    ⟨cmd.localInterface.or (p.nonEmptyEnv atakInterfaceEnv), localAddr⟩
  match selectLocalInterface p.candidates selection with
  | .ok localInterface => .ok localInterface
  | .error err => .error ("local ATAK interface selection failed: " ++ err.display)

def allowsUnvalidated : Bool :=
  cmd.allowUnvalidatedPayloads || p.envFlagEnabled opaqueForwardingEnv

def disablesLocalControl : Bool :=
  cmd.disableLocalDiagnosticsControl || p.envFlagEnabled disableLocalDiagnosticsControlEnv

def allowsInsecureListen : Bool :=
  cmd.allowInsecureDiagnosticsControlListen ||
    p.envFlagEnabled insecureDiagnosticsControlListenEnv

def requiresControl : Bool :=
  cmd.requireDiagnosticsControl || p.envFlagEnabled requireDiagnosticsControlEnv

def enablesMeshControl : Bool :=
  cmd.enableUnauthenticatedDiagnosticsMeshControl ||
    p.envFlagEnabled unauthenticatedDiagnosticsMeshControlEnv

def diagnosticsControl : DiagnosticsControlConfig where
  unixSocket :=
    if cmd.disablesLocalControl p then none
    else p.configuredDiagnosticsUnixSocket cmd.diagnosticsUnixSocket
  udpAddr := p.configuredDiagnosticsUdpAddr cmd.diagnosticsControlListen (cmd.allowsInsecureListen p)
  requireControl := cmd.requiresControl p

/-- The part of `main` between the interface and diagnostics control. -/
def openRadio (calls : StartCalls) : Except String Unit := do
  let dbPath := (p.var "KAONIC_GATEWAY_DB_PATH").getD defaultDbPath
  (calls.openDb dbPath).mapError fun err => "failed to open database " ++ dbPath ++ ": " ++ err
  let modules ← calls.loadConfig.mapError fun err =>
    "failed to load config from database: " ++ err
  if modules ≤ cmd.rnsModule then
    throw ("radio module " ++ String.ofList (Nat.toDigits 10 cmd.rnsModule) ++ " not found")
  (calls.loadOrCreateNamedSeed cmd.seedKey).mapError fun err =>
    "failed to load/create ATAK identity seed '" ++ cmd.seedKey ++ "': " ++ err
  (calls.connectRadioClient (cmd.kaonicCtrlServer.getD defaultCtrlServer)).mapError fun err =>
    "kaonic-ctrl connect error: " ++ err
  (calls.attachRadioInterface cmd.rnsModule).mapError fun err =>
    "radio interface attach error: " ++ err

/-- The start of every channel, of which the sockets can fail. -/
def startBridges (calls : StartCalls) (localInterface : LocalInterface) : Except String Unit :=
  atakChannels.forM fun channel =>
    (calls.openMulticastSockets channel localInterface).mapError fun err =>
      "failed to start ATAK channel " ++ String.ofList channel.group.print ++ ":" ++
        String.ofList (Nat.toDigits 10 channel.port.toNat) ++ ": " ++ err

/-- `main` up to `shutdown_signal`, with the message that a failed start logs. -/
def main (calls : StartCalls) (controlCalls : ControlCalls) : Except String Started := do
  let localInterface ← cmd.selectInterface p
  cmd.openRadio p calls
  let control ← (startDiagnosticsControl p controlCalls (cmd.diagnosticsControl p)
    (cmd.enablesMeshControl p)).mapError fun err =>
      "failed to start required diagnostics control channel: " ++ err
  startBridges calls localInterface
  return ⟨localInterface, cmd.allowsUnvalidated p, control⟩

end Command

/-! ### What has been opened -/

section

variable {p : Process}

theorem configuredDiagnosticsUnixSocket_some {cliValue : Option String} {path : String}
    (configured : p.configuredDiagnosticsUnixSocket cliValue = some path) :
    path.toList.head? = some '/' := by
  unfold Process.configuredDiagnosticsUnixSocket at configured
  dsimp only at configured
  split at configured
  · rename_i valid
    obtain rfl := Option.some.inj configured
    unfold Process.validateDiagnosticsUnixSocketPath at valid
    split at valid
    · cases valid
    split at valid
    · cases valid
    · rename_i absolute
      exact not_not.mp absolute
  · cases configured

theorem configuredDiagnosticsUdpAddr_some {cliValue : Option SocketAddr} {allowInsecure : Bool}
    {addr : SocketAddr}
    (configured : p.configuredDiagnosticsUdpAddr cliValue allowInsecure = some addr) :
    addr.ip.isLoopback = true ∨ allowInsecure = true := by
  unfold Process.configuredDiagnosticsUdpAddr at configured
  obtain ⟨listenAddr, _, checked⟩ := Option.bind_eq_some_iff.mp configured
  split at checked
  · rename_i valid
    obtain rfl := Option.some.inj checked
    unfold Process.validateDiagnosticsControlListen at valid
    split at valid
    · rename_i either
      exact Bool.or_eq_true_iff.mp either
    · cases valid
  · cases checked

variable {α β : Type} {requireControl : Bool} {configured : Option α} {bind : α → Except String β}
  {message : α → String → String}

/-- An endpoint that is open was configured and bound. One that is not was not configured, or its
failure was allowed. -/
theorem openEndpoint_ok {endpoint : Option β}
    (opened : openEndpoint requireControl configured bind message = .ok endpoint) :
    (∀ socket ∈ endpoint, ∃ address ∈ configured, bind address = .ok socket) ∧
    (endpoint = none → configured = none ∨ requireControl = false) := by
  unfold openEndpoint at opened
  cases configured with
  | none =>
    obtain rfl := Except.ok.inj opened
    exact ⟨fun _ member => (Option.not_mem_none _ member).elim, fun _ => Or.inl rfl⟩
  | some address =>
    dsimp only at opened
    cases bound : bind address with
    | ok socket =>
      rw [bound] at opened
      obtain rfl := Except.ok.inj opened
      refine ⟨?_, fun none => by cases none⟩
      intro _ same
      obtain rfl := Option.some.inj same
      exact ⟨address, rfl, bound⟩
    | error err =>
      rw [bound] at opened
      cases requireControl with
      | true => cases opened
      | false =>
        obtain rfl := Except.ok.inj opened
        exact ⟨fun _ member => (Option.not_mem_none _ member).elim, fun _ => Or.inr rfl⟩

theorem openEndpoint_unrequired :
    ∃ endpoint, openEndpoint false configured bind message = .ok endpoint := by
  unfold openEndpoint
  cases configured with
  | none => exact ⟨none, rfl⟩
  | some address =>
    dsimp only
    cases bind address with
    | ok socket => exact ⟨some socket, rfl⟩
    | error err => exact ⟨none, rfl⟩

theorem bindUnixDiagnosticsSocket_ok {calls : ControlCalls} {path : String} {socket : UnixSocket}
    (bound : bindUnixDiagnosticsSocket calls path = .ok socket) : socket = ⟨path, 0o600⟩ := by
  unfold bindUnixDiagnosticsSocket at bound
  obtain ⟨_, _, bound⟩ := Traverse.bind_eq_ok.mp bound
  obtain ⟨_, _, bound⟩ := Traverse.bind_eq_ok.mp bound
  obtain ⟨_, _, bound⟩ := Traverse.bind_eq_ok.mp bound
  obtain ⟨_, _, bound⟩ := Traverse.bind_eq_ok.mp bound
  exact (Except.ok.inj bound).symm

end

/-- What is open agrees with what is configured. -/
structure Control.Follows (control : Control) (config : DiagnosticsControlConfig) (mesh : Bool) :
    Prop where
  unix : ∀ socket ∈ control.unix, config.unixSocket = some socket.path ∧ socket.mode = 0o600
  udp : ∀ addr ∈ control.udp, config.udpAddr = some addr
  mesh : control.mesh = mesh
  required : config.requireControl = true →
    control.unix.map (·.path) = config.unixSocket ∧ control.udp = config.udpAddr ∧
      (control.unix.isSome || control.udp.isSome) = true

theorem startDiagnosticsControl_ok {p : Process} {calls : ControlCalls}
    {config : DiagnosticsControlConfig} {mesh : Bool} {control : Control}
    (opened : startDiagnosticsControl p calls config mesh = .ok control) :
    control.Follows config mesh := by
  unfold startDiagnosticsControl at opened
  obtain ⟨unix, unixOpened, opened⟩ := Traverse.bind_eq_ok.mp opened
  obtain ⟨udp, udpOpened, opened⟩ := Traverse.bind_eq_ok.mp opened
  obtain ⟨available, opened⟩ := Traverse.throw_if_eq_ok.mp opened
  obtain rfl := Except.ok.inj opened
  obtain ⟨unixBound, unixMissing⟩ := openEndpoint_ok unixOpened
  obtain ⟨udpBound, udpMissing⟩ := openEndpoint_ok udpOpened
  have unixFrom : ∀ socket ∈ unix, config.unixSocket = some socket.path ∧ socket.mode = 0o600 := by
    intro socket member
    obtain ⟨path, configured, bound⟩ := unixBound socket member
    obtain rfl := bindUnixDiagnosticsSocket_ok bound
    exact ⟨configured, rfl⟩
  have udpFrom : ∀ addr ∈ udp, config.udpAddr = some addr := by
    intro addr member
    obtain ⟨configuredAddr, configured, bound⟩ := udpBound addr member
    obtain ⟨_, _, rfl⟩ := Traverse.map_eq_ok.mp bound
    exact configured
  refine ⟨unixFrom, udpFrom, rfl, fun required => ⟨?_, ?_, ?_⟩⟩
  · cases unix with
    | none => exact ((unixMissing rfl).resolve_right (by simp [required])).symm
    | some socket => exact (unixFrom socket rfl).1.symm
  · cases udp with
    | none => exact ((udpMissing rfl).resolve_right (by simp [required])).symm
    | some addr => exact (udpFrom addr rfl).symm
  · cases unix with
    | some socket => rfl
    | none => cases udp with
      | some addr => rfl
      | none => exact (available (by simp [required])).elim

theorem startDiagnosticsControl_unrequired {p : Process} {calls : ControlCalls}
    {config : DiagnosticsControlConfig} {mesh : Bool} (free : config.requireControl = false) :
    ∃ control, startDiagnosticsControl p calls config mesh = .ok control := by
  unfold startDiagnosticsControl
  rw [free]
  obtain ⟨unix, unixOpened⟩ := openEndpoint_unrequired
  obtain ⟨udp, udpOpened⟩ := openEndpoint_unrequired
  refine ⟨⟨unix, udp, mesh⟩, ?_⟩
  refine Traverse.bind_eq_ok.mpr ⟨unix, unixOpened, Traverse.bind_eq_ok.mpr ⟨udp, udpOpened, ?_⟩⟩
  exact Traverse.throw_if_eq_ok.mpr ⟨by simp, rfl⟩

namespace Command

variable {cmd : Command} {p : Process} {calls : StartCalls} {controlCalls : ControlCalls}
  {started : Started}

/-- A start goes through its stages in order, and each has to succeed. -/
theorem main_ok : cmd.main p calls controlCalls = .ok started ↔
    cmd.selectInterface p = .ok started.localInterface ∧ cmd.openRadio p calls = .ok () ∧
    startDiagnosticsControl p controlCalls (cmd.diagnosticsControl p) (cmd.enablesMeshControl p) =
      .ok started.control ∧
    startBridges calls started.localInterface = .ok () ∧
    started.allowUnvalidatedPayloads = cmd.allowsUnvalidated p := by
  unfold main
  constructor
  · intro ran
    obtain ⟨localInterface, selected, ran⟩ := Traverse.bind_eq_ok.mp ran
    obtain ⟨_, radio, ran⟩ := Traverse.bind_eq_ok.mp ran
    obtain ⟨control, opened, ran⟩ := Traverse.bind_eq_ok.mp ran
    obtain ⟨_, bridged, ran⟩ := Traverse.bind_eq_ok.mp ran
    obtain rfl := Except.ok.inj ran
    exact ⟨selected, radio, Traverse.mapError_eq_ok.mp opened, bridged, rfl⟩
  · intro ⟨selected, radio, opened, bridged, allowed⟩
    refine Traverse.bind_eq_ok.mpr ⟨_, selected, Traverse.bind_eq_ok.mpr ⟨_, radio, ?_⟩⟩
    refine Traverse.bind_eq_ok.mpr ⟨_, Traverse.mapError_eq_ok.mpr opened, ?_⟩
    refine Traverse.bind_eq_ok.mpr ⟨_, bridged, ?_⟩
    rw [← allowed]
    rfl

/-- A start that does not require control succeeds or fails whatever is configured for it and whatever
becomes of its endpoints. -/
theorem main_unrequired {other : Command}
    (free : (cmd.withDiagnostics other).requiresControl p = false)
    (ran : cmd.main p calls controlCalls = .ok started) (otherCalls : ControlCalls) :
    ∃ control, (cmd.withDiagnostics other).main p calls otherCalls = .ok { started with control } := by
  obtain ⟨selected, radio, _, bridged, allowed⟩ := main_ok.mp ran
  obtain ⟨control, opened⟩ := @startDiagnosticsControl_unrequired p otherCalls
    ((cmd.withDiagnostics other).diagnosticsControl p) ((cmd.withDiagnostics other).enablesMeshControl p)
    free
  exact ⟨control, main_ok.mpr ⟨selected, radio, opened, bridged, allowed⟩⟩

end Command

end Kaonic.Plugin
