import Kaonic.Plugin.Bounds
import Kaonic.Plugin.CotNet
import Kaonic.Plugin.LocalControl
import Kaonic.Plugin.Startup

/-!
# A plugin that runs

The bridges of the channels and the tasks of diagnostics control beside each other. A request holds
the diagnostics lock once to apply a command or to list records and once more for the status, and it
sends in between.
-/

namespace Kaonic.Plugin

open Kaonic.Net (AddressHash)

def diagnosticsPortTag : List UInt8 := Text.toUtf8 "atak-diag-control-v1".toList
def defaultMaxRecords : Nat := 512

inductive Endpoint where
  | unix
  | udp
  deriving DecidableEq

def Control.serves (control : Control) : Endpoint → Bool
  | .unix => control.unix.isSome
  | .udp => control.udp.isSome

/-- Where the task of an endpoint stands between two of its locks. -/
inductive RequestPhase where
  | idle
  | announcing (command : DiagnosticCommand)
  | reporting (listed : List DiagnosticRecord)
  | refusing (err : String)
  deriving DecidableEq

/-- What the tasks of a node go by. -/
structure NodeEnv where
  bridge : BridgeEnv AtakChannel
  width : Text.PointerWidth
  printF64 : F64 → List Char
  control : Control
  diagnosticsDestination : AddressHash

def NodeEnv.local (env : NodeEnv) : LocalControl.Env := ⟨env.width, env.printF64, env.control.mesh⟩

structure Node where
  bridge : Bridge AtakChannel
  request : Endpoint → RequestPhase
  /-- The command that the `network_control` task is about to broadcast. -/
  relaying : Option DiagnosticCommand
  diagnosticPeers : Finset AddressHash
  /-- The announces of the diagnostics destination so far. -/
  announces : Nat
  /-- The payloads sent to the in-links of the diagnostics destination. -/
  sent : List (List UInt8)
  replies : List (Endpoint × List Char)

inductive NodeEvent where
  /-- What the tasks of the channels see and do. -/
  | traffic (e : BridgeEvent AtakChannel)
  | request (endpoint : Endpoint) (datagram : List UInt8) (issued : SystemTime) (random : UInt64)
      (now : SystemTime)
  /-- The next step of a request. A Unix socket without a name cannot be replied to. -/
  | proceed (endpoint : Endpoint) (named : Bool) (now : SystemTime)
  | control (source : AddressHash) (event : LinkEvent) (now : SystemTime)
  | relay
  | announce (appData : List UInt8) (peer : AddressHash)
  | reannounce
  | cleanup (now : SystemTime)

/-- The event of the channels' tasks that an event of the node is. -/
def NodeEvent.seen : NodeEvent → Option (BridgeEvent AtakChannel)
  | .traffic e => some e
  | _ => none

namespace Node

variable (env : NodeEnv)

def diagnostics (s : Node) : DiagnosticState := s.bridge.stores.diagnostics

def setDiagnostics (s : Node) (diagnostics : DiagnosticState) : Node :=
  { s with bridge := { s.bridge with stores := { s.bridge.stores with diagnostics } } }

def setRequest (s : Node) (endpoint : Endpoint) (phase : RequestPhase) : Node :=
  { s with request := Function.update s.request endpoint phase }

def reply (s : Node) (endpoint : Endpoint) (named : Bool) (text : List Char) : Node :=
  if endpoint = .udp ∨ named then { s with replies := s.replies ++ [(endpoint, text)] } else s

/-- The first lock of the arms for `enable` and for `disable`. -/
def issue (s : DiagnosticState) (action : DiagnosticAction) (issued : SystemTime) (random : UInt64)
    (now : SystemTime) : DiagnosticState × RequestPhase :=
  match DiagnosticCommand.new (newCommandId issued random) action with
  | .ok command => ((s.applyOnceAt command now).1, .announcing command)
  | .error err => (s, .refusing err.display)

/-- A request as far as it goes under its first lock. -/
def receive (s : DiagnosticState) (datagram : List UInt8) (issued : SystemTime) (random : UInt64)
    (now : SystemTime) : DiagnosticState × RequestPhase :=
  match LocalControl.parseLocalDiagnosticRequest env.local (LocalControl.recvFrom datagram) with
  | .ok (.enable seconds) => issue s (.enable seconds) issued random now
  | .ok .disable => issue s .disable issued random now
  -- The status takes the only lock of its request last.
  | .ok .status => (s, .reporting [])
  | .ok (.recent limit) => ((s.recentAt limit now).1, .reporting (s.recentAt limit now).2)
  | .error err => (s, .refusing err)

def step (s : Node) : NodeEvent → Option Node
  | .traffic e =>
    if Bridge.visible e then (s.bridge.step env.bridge e).map fun bridge => { s with bridge }
    else none
  | .request endpoint datagram issued random now =>
    if env.control.serves endpoint ∧ s.request endpoint = .idle then
      let r := receive env s.diagnostics datagram issued random now
      some ((s.setDiagnostics r.1).setRequest endpoint r.2)
    else none
  | .proceed endpoint named now =>
    match s.request endpoint with
    | .idle => none
    | .announcing command =>
      some { s.setRequest endpoint (.reporting []) with
        sent := if env.control.mesh then s.sent ++ [command.encode] else s.sent }
    | .reporting listed =>
      let status := LocalControl.formatDiagnosticStatus s.diagnostics now
      some (((s.setDiagnostics status.1).setRequest endpoint .idle).reply endpoint named
        (status.2 ++ listed.flatMap (LocalControl.formatDiagnosticRecord env.local)))
    | .refusing err =>
      some ((s.setRequest endpoint .idle).reply endpoint named (LocalControl.errorReply err))
  | .control source event now =>
    if env.control.mesh ∧ s.relaying = none then
      let r := networkControl s.diagnostics s.diagnosticPeers source event now
      some { s.setDiagnostics r.1 with diagnosticPeers := r.2.1, relaying := r.2.2 }
    else none
  | .relay =>
    s.relaying.map fun command => { s with relaying := none, sent := s.sent ++ [command.encode] }
  | .announce appData peer =>
    if env.control.mesh then
      if appData ≠ diagnosticsPortTag ∨ peer = env.diagnosticsDestination then some s
      else some { s with diagnosticPeers := insert peer s.diagnosticPeers }
    else none
  | .reannounce => if env.control.mesh then some { s with announces := s.announces + 1 } else none
  | .cleanup now => some (s.setDiagnostics (s.diagnostics.prune now))

def run (s : Node) (events : List NodeEvent) : Option Node := events.foldlM (step env) s

/-- The state in which `main` starts the tasks. -/
def start : Node where
  bridge := Bridge.start
    ⟨.new defaultMaxLocationRecords defaultRecordRetention, .new defaultMaxRecords⟩
  request _ := .idle
  relaying := none
  diagnosticPeers := ∅
  announces := if env.control.mesh then 1 else 0
  sent := []
  replies := []

end Node

/-! ### Where a store's content comes from -/

namespace DiagnosticState

variable {s : DiagnosticState} {op : Op}

/-- No window is open, and nothing is kept. -/
structure Dark (s : DiagnosticState) : Prop where
  enabledUntil : s.enabledUntil = none
  records : s.records = []

instance (s : DiagnosticState) : Decidable s.Dark :=
  decidable_of_iff (s.enabledUntil = none ∧ s.records = [])
    ⟨fun h => ⟨h.1, h.2⟩, fun h => ⟨h.enabledUntil, h.records⟩⟩

theorem Dark.new (maxRecords : Nat) : Dark (.new maxRecords) := ⟨rfl, rfl⟩

theorem Dark.prune (dark : Dark s) (now : SystemTime) : Dark (s.prune now) := by
  refine ⟨?_, ?_⟩
  · rw [prune_enabledUntil, dark.enabledUntil, Option.filter_none]
  · rw [prune_records, dark.records, ite_self]

/-- A command that enables. -/
def Op.Enables : Op → Prop
  | .applyOnce command _ => ∃ seconds, command.action = .enable seconds
  | _ => False

/-- Only a command opens a window, and without one nothing is kept. -/
theorem Dark.step (dark : Dark s) (other : ¬ op.Enables) : Dark (machine.step s op).1 := by
  cases op with
  | applyOnce command now =>
    change Dark (s.applyOnceAt command now).1
    cases fresh : (s.applyOnceAt command now).2 with
    | false =>
      rw [applyOnceAt_rejected fresh]
      exact dark.prune now
    | true =>
      obtain ⟨empty, _, window⟩ := applyOnceAt_fresh fresh
      refine ⟨?_, empty⟩
      rw [window]
      cases action : command.action with
      | enable seconds => exact (other ⟨seconds, action⟩).elim
      | disable => rfl
  | recordRemote peerHash channelPort event now =>
    have shut : (s.prune now).isEnabled now = false := by
      rw [isEnabled, (dark.prune now).enabledUntil]
    change Dark (s.recordRemoteAt peerHash channelPort event now).1
    unfold DiagnosticState.recordRemoteAt
    simp only [shut]
    exact dark.prune now
  | status now | recent limit now | pruneExpired now => exact dark.prune now

/-- What is kept was there before, or is what is being recorded. -/
theorem step_records {r : DiagnosticRecord} (kept : r ∈ (machine.step s op).1.records) :
    r ∈ s.records ∨ ∃ peerHash channelPort event now,
      op = .recordRemote peerHash channelPort event now ∧
        r = DiagnosticRecord.of peerHash channelPort event now := by
  have pruned : ∀ now, r ∈ (s.prune now).records → r ∈ s.records := by
    intro now member
    rw [prune_records] at member
    split at member
    · cases member
    · exact member
  cases op with
  | applyOnce command now =>
    change r ∈ (s.applyOnceAt command now).1.records at kept
    cases fresh : (s.applyOnceAt command now).2 with
    | false =>
      rw [applyOnceAt_rejected fresh] at kept
      exact Or.inl (pruned now kept)
    | true =>
      rw [(applyOnceAt_fresh fresh).1] at kept
      cases kept
  | recordRemote peerHash channelPort event now =>
    change r ∈ (s.recordRemoteAt peerHash channelPort event now).1.records at kept
    unfold DiagnosticState.recordRemoteAt at kept
    dsimp only at kept
    split at kept
    · dsimp only at kept
      rw [List.rtake_eq_reverse_take_reverse, List.mem_reverse] at kept
      have member := List.mem_reverse.mp (List.mem_of_mem_take kept)
      rcases List.mem_append.mp member with before | last
      · exact Or.inl (pruned now before)
      · exact Or.inr ⟨_, _, _, _, rfl, List.mem_singleton.mp last⟩
    · exact Or.inl (pruned now kept)
  | status now | recent limit now | pruneExpired now => exact Or.inl (pruned now kept)

end DiagnosticState

namespace Bridge

variable {ι : Type} {env : BridgeEnv ι}

/-- The one access of a lane to the diagnostics store. -/
theorem advance_diagnostics {n : ι} {source : PacketSource} {updatedAt now : SystemTime} {sent : Bool}
    {lane lane' : Lane} {stores stores' : Stores}
    (advanced : advance env n source updatedAt now sent lane stores = some (lane', stores')) :
    stores'.diagnostics = stores.diagnostics ∨ ∃ payload event peerHash,
      lane.phase = .diagnosing payload event peerHash ∧ stores'.diagnostics =
        (DiagnosticState.machine.step stores.diagnostics
          (.recordRemote peerHash (env.port n) event now)).1 := by
  unfold advance at advanced
  cases phase : lane.phase with
  | idle | closing => rw [phase] at advanced; cases advanced
  | diagnosing payload event peerHash =>
    rw [phase] at advanced
    obtain ⟨rfl, rfl⟩ := Prod.mk.inj (Option.some.inj advanced)
    exact Or.inr ⟨payload, event, peerHash, rfl, rfl⟩
  | locating | counting | forwarding =>
    rw [phase] at advanced
    obtain ⟨rfl, rfl⟩ := Prod.mk.inj (Option.some.inj advanced)
    exact Or.inl rfl

theorem advance_diagnosing {n : ι} {source : PacketSource} {updatedAt now : SystemTime} {sent : Bool}
    {lane lane' : Lane} {stores stores' : Stores} {payload : List UInt8} {event : CotEvent}
    {peerHash : String}
    (advanced : advance env n source updatedAt now sent lane stores = some (lane', stores')) :
    lane'.phase ≠ .diagnosing payload event peerHash := by
  unfold advance at advanced
  intro phase'
  cases phase : lane.phase with
  | idle | closing => rw [phase] at advanced; cases advanced
  | locating =>
    rw [phase] at advanced
    obtain ⟨rfl, rfl⟩ := Prod.mk.inj (Option.some.inj advanced)
    dsimp only at phase'
    split at phase' <;> cases phase'
  | diagnosing | counting | forwarding =>
    rw [phase] at advanced
    obtain ⟨rfl, rfl⟩ := Prod.mk.inj (Option.some.inj advanced)
    cases phase'

theorem acceptPayload_diagnosing {lane : Lane} {data payload : List UInt8} {event : CotEvent}
    {peerHash : String} {remotePeerHash : Option String}
    (phase : (acceptPayload env data remotePeerHash lane).phase = .diagnosing payload event peerHash) :
    remotePeerHash = some peerHash ∧ data = payload ∧
      env.reader.parseCotPayload payload = .ok event := by
  unfold acceptPayload at phase
  cases parsed : env.reader.parseCotPayload data with
  | ok read =>
    rw [parsed] at phase
    cases remotePeerHash with
    | some hash =>
      cases phase
      exact ⟨rfl, rfl, parsed⟩
    | none => cases phase
  | error err =>
    rw [parsed] at phase
    dsimp only at phase
    split at phase <;> cases phase

variable [DecidableEq ι] {s s' : Bridge ι} {n : ι} {source : PacketSource}

theorem setLane_phase {m : ι} {source' : PacketSource} {lane : Lane} {phase : Phase}
    (found : ((s.setLane m source' lane).lane n source).phase = phase) :
    (n = m ∧ source = source') ∧ lane.phase = phase ∨ (s.lane n source).phase = phase := by
  by_cases here : n = m ∧ source = source'
  · obtain ⟨rfl, rfl⟩ := here
    rw [setLane_lane_same] at found
    exact Or.inl ⟨⟨rfl, rfl⟩, found⟩
  · rw [setLane_lane_other s lane here] at found
    exact Or.inr found

/-- A lane is about to record a payload that a tracked peer of its channel has sent. -/
theorem step_diagnosing {e : BridgeEvent ι} {payload : List UInt8} {event : CotEvent}
    {peerHash : String} (stepped : s.step env e = some s')
    (phase : (s'.lane n source).phase = .diagnosing payload event peerHash) :
    (s.lane n source).phase = .diagnosing payload event peerHash ∨
    ∃ peer ∈ s.peerHashes n, e = .link n peer (.data payload) ∧
      env.reader.parseCotPayload payload = .ok event ∧ peerHash = env.printHash peer := by
  cases e with
  | udp m data =>
    unfold step at stepped
    dsimp only at stepped
    split at stepped
    · obtain rfl := Option.some.inj stepped
      rcases setLane_phase phase with ⟨_, accepted⟩ | before
      · cases (acceptPayload_diagnosing accepted).1
      · exact Or.inl before
    · cases stepped
  | link m peer linkEvent =>
    unfold step at stepped
    dsimp only at stepped
    split at stepped
    · split at stepped
      · obtain rfl := Option.some.inj stepped
        exact Or.inl phase
      · rename_i tracked
        cases linkEvent with
        | activated | proof =>
          obtain rfl := Option.some.inj stepped
          exact Or.inl phase
        | closed =>
          obtain rfl := Option.some.inj stepped
          rcases setLane_phase phase with ⟨_, closing⟩ | before
          · cases closing
          · exact Or.inl before
        | data data =>
          obtain rfl := Option.some.inj stepped
          rcases setLane_phase phase with ⟨⟨rfl, rfl⟩, accepted⟩ | before
          · obtain ⟨same, rfl, parsed⟩ := acceptPayload_diagnosing accepted
            exact Or.inr ⟨peer, not_not.mp tracked, rfl, parsed, (Option.some.inj same).symm⟩
          · exact Or.inl before
    · cases stepped
  | advance m source' updatedAt now sent =>
    obtain ⟨⟨lane, stores⟩, advanced, rfl⟩ := Option.map_eq_some_iff.mp stepped
    rcases setLane_phase phase with ⟨_, moved⟩ | before
    · exact (advance_diagnosing advanced moved).elim
    · exact Or.inl before
  | close m =>
    unfold step at stepped
    dsimp only at stepped
    split at stepped
    · obtain rfl := Option.some.inj stepped
      rcases setLane_phase phase with ⟨_, idle⟩ | before
      · cases idle
      · exact Or.inl before
    · cases stepped
  | announce m appData peer =>
    unfold step at stepped
    dsimp only at stepped
    split at stepped
    · obtain rfl := Option.some.inj stepped
      exact Or.inl phase
    · split at stepped <;> obtain rfl := Option.some.inj stepped <;> exact Or.inl phase
  | diagnostics op =>
    obtain rfl := Option.some.inj stepped
    exact Or.inl phase

/-- What a step does to the diagnostics store is one operation on it, or nothing. -/
theorem step_diagnostics {e : BridgeEvent ι} (stepped : s.step env e = some s') :
    s'.stores.diagnostics = s.stores.diagnostics ∨
    ∃ op, s'.stores.diagnostics = (DiagnosticState.machine.step s.stores.diagnostics op).1 ∧
      (e = .diagnostics op ∨ ∃ n source payload event peerHash now,
        (s.lane n source).phase = .diagnosing payload event peerHash ∧
        op = .recordRemote peerHash (env.port n) event now) := by
  rcases step_stores stepped with same | ⟨n, source, _, now, _, _, advanced⟩ | ⟨op, rfl, same⟩
  · exact Or.inl (congrArg Stores.diagnostics same)
  · rcases advance_diagnostics advanced with same | ⟨payload, event, peerHash, phase, recorded⟩
    · exact Or.inl same
    · exact Or.inr ⟨_, recorded, Or.inr ⟨n, source, payload, event, peerHash, now, phase, rfl⟩⟩
  · exact Or.inr ⟨op, congrArg Stores.diagnostics same, Or.inl rfl⟩

end Bridge

namespace Node

variable {env : NodeEnv}

/-! ### One request -/

/-- The task of an endpoint is done with a request, and the node shows what the handler makes of it. -/
structure Served (s : Node) (endpoint : Endpoint) (outcome : LocalControl.Outcome) (s' : Node) :
    Prop where
  done : s'.request endpoint = .idle
  diagnostics : s'.diagnostics = outcome.state
  replies : s'.replies = s.replies ++ [(endpoint, outcome.reply)]
  sent : s'.sent = s.sent ++ outcome.sent

section

variable {s : Node} {endpoint : Endpoint}

theorem run_cons {mid : Node} {e : NodeEvent} (stepped : s.step env e = some mid)
    (rest : List NodeEvent) : s.run env (e :: rest) = mid.run env rest := by
  rw [run, List.foldlM_cons, stepped]
  rfl

theorem setRequest_same (s : Node) (endpoint : Endpoint) (phase : RequestPhase) :
    (s.setRequest endpoint phase).request endpoint = phase := Function.update_self ..

theorem reply_named (s : Node) (endpoint : Endpoint) (text : List Char) :
    s.reply endpoint true text = { s with replies := s.replies ++ [(endpoint, text)] } :=
  if_pos (Or.inr rfl)

theorem refusing_served {err : String} (refusing : s.request endpoint = .refusing err)
    (now : SystemTime) : ∃ s', s.step env (.proceed endpoint true now) = some s' ∧
      Served s endpoint ⟨s.diagnostics, LocalControl.errorReply err, []⟩ s' := by
  refine ⟨(s.setRequest endpoint .idle).reply endpoint true (LocalControl.errorReply err), ?_, ?_⟩
  · rw [step, refusing]
  · rw [reply_named]
    exact ⟨setRequest_same .., rfl, rfl, (List.append_nil _).symm⟩

theorem reporting_served {listed : List DiagnosticRecord}
    (reporting : s.request endpoint = .reporting listed) (now : SystemTime) :
    let status := LocalControl.formatDiagnosticStatus s.diagnostics now
    ∃ s', s.step env (.proceed endpoint true now) = some s' ∧ Served s endpoint ⟨status.1,
      status.2 ++ listed.flatMap (LocalControl.formatDiagnosticRecord env.local), []⟩ s' := by
  intro status
  refine ⟨((s.setDiagnostics status.1).setRequest endpoint .idle).reply endpoint true
    (status.2 ++ listed.flatMap (LocalControl.formatDiagnosticRecord env.local)), ?_, ?_⟩
  · rw [step, reporting]
  · rw [reply_named]
    exact ⟨setRequest_same .., rfl, rfl, (List.append_nil _).symm⟩

/-- A command is sent before its status is taken. -/
theorem announcing_served {command : DiagnosticCommand}
    (announcing : s.request endpoint = .announcing command) (now : SystemTime) :
    let status := LocalControl.formatDiagnosticStatus s.diagnostics now
    ∃ s', s.run env [.proceed endpoint true now, .proceed endpoint true now] = some s' ∧
      Served s endpoint ⟨status.1, status.2, if env.control.mesh then [command.encode] else []⟩ s' := by
  intro status
  obtain ⟨mid, stepped, reporting, same⟩ : ∃ mid, s.step env (.proceed endpoint true now) = some mid ∧
      mid.request endpoint = .reporting [] ∧ mid = { s.setRequest endpoint (.reporting []) with
        sent := if env.control.mesh then s.sent ++ [command.encode] else s.sent } := by
    refine ⟨_, ?_, ?_, rfl⟩
    · rw [step, announcing]
    · exact setRequest_same ..
  obtain ⟨s', reported, served⟩ := @reporting_served env _ _ _ reporting now
  refine ⟨s', ?_, ?_⟩
  · rw [run_cons stepped, run_cons reported]
    rfl
  · obtain ⟨done, diagnostics, replies, sent⟩ := served
    rw [same] at diagnostics replies sent
    refine ⟨done, diagnostics, ?_, ?_⟩
    · rw [replies, List.flatMap_nil, List.append_nil]
      rfl
    · rw [sent, List.append_nil]
      cases env.control.mesh with
      | true => rfl
      | false => exact (List.append_nil _).symm

/-- A request that no other task comes between is what the handler makes of it. -/
theorem request_alone (datagram : List UInt8) (serves : env.control.serves endpoint = true)
    (idle : s.request endpoint = .idle) (issued now status : SystemTime) (random : UInt64) :
    ∃ k s', s.run env (.request endpoint datagram issued random now ::
      List.replicate k (.proceed endpoint true status)) = some s' ∧
      Served s endpoint (LocalControl.serve env.local datagram s.diagnostics
        ⟨issued, random, now, now, status⟩) s' := by
  have taken : ∀ r, receive env s.diagnostics datagram issued random now = r →
      s.step env (.request endpoint datagram issued random now) =
        some ((s.setDiagnostics r.1).setRequest endpoint r.2) := by
    rintro _ rfl
    exact if_pos ⟨serves, idle⟩
  have once : ∀ r outcome, receive env s.diagnostics datagram issued random now = r →
      (∃ s', ((s.setDiagnostics r.1).setRequest endpoint r.2).step env
          (.proceed endpoint true status) = some s' ∧
        Served ((s.setDiagnostics r.1).setRequest endpoint r.2) endpoint outcome s') →
      ∃ k s', s.run env (.request endpoint datagram issued random now ::
        List.replicate k (.proceed endpoint true status)) = some s' ∧ Served s endpoint outcome s' := by
    intro r outcome received ⟨s', stepped, served⟩
    refine ⟨1, s', ?_, served.done, served.diagnostics, served.replies, served.sent⟩
    rw [run_cons (taken r received), List.replicate_one, run_cons stepped]
    rfl
  have command : ∀ action,
      receive env s.diagnostics datagram issued random now =
        issue s.diagnostics action issued random now →
      ∃ k s', s.run env (.request endpoint datagram issued random now ::
        List.replicate k (.proceed endpoint true status)) = some s' ∧
        Served s endpoint (LocalControl.handleCommand env.local s.diagnostics action
          ⟨issued, random, now, now, status⟩) s' := by
    intro action received
    unfold LocalControl.handleCommand
    unfold issue at received
    cases made : DiagnosticCommand.new (newCommandId issued random) action with
    | error err =>
      rw [made] at received
      exact once _ _ received (refusing_served (setRequest_same ..) status)
    | ok command =>
      rw [made] at received
      obtain ⟨s', ran, served⟩ := @announcing_served env _ _ _ (setRequest_same
        (s.setDiagnostics (s.diagnostics.applyOnceAt command now).1) endpoint (.announcing command)) status
      refine ⟨2, s', ?_, served.done, served.diagnostics, served.replies, served.sent⟩
      rw [run_cons (taken _ received)]
      exact ran
  unfold LocalControl.serve LocalControl.handleLocalDiagnosticRequest
  cases parsed : LocalControl.parseLocalDiagnosticRequest env.local
      (LocalControl.recvFrom datagram) with
  | error err =>
    refine once _ _ (by rw [receive, parsed]) (refusing_served (setRequest_same ..) status)
  | ok request =>
    cases request with
    | enable seconds => exact command (.enable seconds) (by rw [receive, parsed])
    | disable => exact command .disable (by rw [receive, parsed])
    | status =>
      obtain ⟨s', stepped, served⟩ := @reporting_served env _ _ _ (setRequest_same
        (s.setDiagnostics s.diagnostics) endpoint (.reporting [])) status
      rw [List.flatMap_nil, List.append_nil] at served
      exact once _ _ (by rw [receive, parsed]) ⟨s', stepped, served⟩
    | recent limit => exact once _ _ (by rw [receive, parsed]) (reporting_served (setRequest_same ..) status)

end

/-! ### What a step does to the bridges -/

/-- The accesses of an event to the diagnostics store. A command is applied if an endpoint that is
open was asked for it, or if mesh control is on and a tracked peer sent it. -/
def Caused (env : NodeEnv) (s : Node) (e : NodeEvent) : DiagnosticState.Op → Prop
  | .applyOnce command now =>
    (∃ endpoint datagram issued random, e = .request endpoint datagram issued random now ∧
      env.control.serves endpoint = true ∧ command.Valid ∧
      ∃ request, LocalControl.Asks datagram request ∧
        LocalControl.action request = some command.action) ∨
    ∃ source payload, e = .control source (.data payload) now ∧ env.control.mesh = true ∧
      source ∈ s.diagnosticPeers ∧ DiagnosticCommand.parse payload = .ok command
  | .recordRemote .. => False
  | .status _ | .recent .. | .pruneExpired _ => True

theorem new_action {id : String} {action : DiagnosticAction} {command : DiagnosticCommand}
    (made : DiagnosticCommand.new id action = .ok command) :
    command.action = action ∧ command.Valid := by
  cases action with
  | enable seconds =>
    obtain ⟨rfl, valid⟩ := DiagnosticCommand.enable_ok_iff.mp made
    exact ⟨rfl, valid⟩
  | disable =>
    obtain ⟨rfl, valid⟩ := DiagnosticCommand.disable_ok_iff.mp made
    exact ⟨rfl, valid⟩

section

variable {s : DiagnosticState} {datagram : List UInt8} {issued now : SystemTime} {random : UInt64}

theorem issue_cases (action : DiagnosticAction) : (issue s action issued random now).1 = s ∨
    ∃ command, command.action = action ∧ command.Valid ∧
      (issue s action issued random now).1 = (s.applyOnceAt command now).1 := by
  unfold issue
  cases made : DiagnosticCommand.new (newCommandId issued random) action with
  | error err => exact Or.inl rfl
  | ok command =>
    obtain ⟨wanted, valid⟩ := new_action made
    exact Or.inr ⟨command, wanted, valid, rfl⟩

theorem receive_cases : (receive env s datagram issued random now).1 = s ∨
    (∃ limit, (receive env s datagram issued random now).1 = (s.recentAt limit now).1) ∨
    ∃ request action, LocalControl.Asks datagram request ∧
      LocalControl.action request = some action ∧
      (receive env s datagram issued random now).1 = (issue s action issued random now).1 := by
  unfold receive
  cases parsed : LocalControl.parseLocalDiagnosticRequest env.local
      (LocalControl.recvFrom datagram) with
  | error err => exact Or.inl rfl
  | ok request =>
    have asks := LocalControl.recvFrom_asks.mp (LocalControl.parseLocalDiagnosticRequest_eq_ok.mp parsed)
    cases request with
    | enable seconds => exact Or.inr (Or.inr ⟨_, _, asks, rfl, rfl⟩)
    | disable => exact Or.inr (Or.inr ⟨_, _, asks, rfl, rfl⟩)
    | status => exact Or.inl rfl
    | recent limit => exact Or.inr (Or.inl ⟨limit, rfl⟩)

end

/-- A step is one of the channels' tasks, or leaves the bridges alone, or is an access to the
diagnostics store that has a cause. -/
theorem step_bridge {s s' : Node} {e : NodeEvent} (stepped : s.step env e = some s') :
    (∃ b, e = .traffic b ∧ Bridge.visible b = true ∧
      s.bridge.step env.bridge b = some s'.bridge) ∨
    e.seen = none ∧ (s'.bridge = s.bridge ∨ ∃ op, Caused env s e op ∧
      s.bridge.step env.bridge (.diagnostics op) = some s'.bridge) := by
  cases e with
  | traffic b =>
    left
    unfold step at stepped
    dsimp only at stepped
    split at stepped
    · rename_i seen
      obtain ⟨bridge, moved, rfl⟩ := Option.map_eq_some_iff.mp stepped
      exact ⟨b, rfl, seen, moved⟩
    · cases stepped
  | request endpoint datagram issued random now =>
    refine Or.inr ⟨rfl, ?_⟩
    unfold step at stepped
    dsimp only at stepped
    split at stepped
    · rename_i serves
      obtain rfl := Option.some.inj stepped
      rcases @receive_cases env s.diagnostics datagram issued now random with
        kept | ⟨limit, pruned⟩ | ⟨request, action, asks, wanted, issues⟩
      · left
        rw [kept]
        rfl
      · refine Or.inr ⟨.recent limit now, trivial, ?_⟩
        rw [pruned]
        rfl
      · rw [issues]
        rcases @issue_cases s.diagnostics issued now random action with
          kept | ⟨command, rfl, valid, applied⟩
        · left
          rw [kept]
          rfl
        · refine Or.inr ⟨.applyOnce command now,
            Or.inl ⟨endpoint, datagram, issued, random, rfl, serves.1, valid, request, asks, wanted⟩, ?_⟩
          rw [applied]
          rfl
    · cases stepped
  | proceed endpoint named now =>
    refine Or.inr ⟨rfl, ?_⟩
    have replied : ∀ (s : Node) text, (s.reply endpoint named text).bridge = s.bridge := by
      intro s text
      unfold reply
      split <;> rfl
    unfold step at stepped
    dsimp only at stepped
    split at stepped
    · cases stepped
    · obtain rfl := Option.some.inj stepped
      exact Or.inl rfl
    · obtain rfl := Option.some.inj stepped
      refine Or.inr ⟨.status now, trivial, ?_⟩
      rw [replied]
      rfl
    · obtain rfl := Option.some.inj stepped
      exact Or.inl (replied _ _)
  | control source event now =>
    refine Or.inr ⟨rfl, ?_⟩
    unfold step at stepped
    dsimp only at stepped
    split at stepped
    · rename_i free
      obtain rfl := Option.some.inj stepped
      unfold networkControl
      by_cases tracked : source ∈ s.diagnosticPeers
      · cases event with
        | activated | closed | proof =>
          simp only [tracked, not_true_eq_false, if_false]
          exact Or.inl rfl
        | data payload =>
          simp only [tracked, not_true_eq_false, if_false]
          cases parsed : DiagnosticCommand.parse payload with
          | error err => exact Or.inl rfl
          | ok command => exact Or.inr ⟨.applyOnce command now,
              Or.inr ⟨source, payload, rfl, free.1, tracked, parsed⟩, rfl⟩
      · simp only [tracked, not_false_eq_true, if_true]
        exact Or.inl rfl
    · cases stepped
  | relay =>
    obtain ⟨command, _, rfl⟩ := Option.map_eq_some_iff.mp stepped
    exact Or.inr ⟨rfl, Or.inl rfl⟩
  | announce appData peer =>
    unfold step at stepped
    dsimp only at stepped
    split at stepped
    · split at stepped <;> obtain rfl := Option.some.inj stepped <;> exact Or.inr ⟨rfl, Or.inl rfl⟩
    · cases stepped
  | reannounce =>
    unfold step at stepped
    dsimp only at stepped
    split at stepped
    · obtain rfl := Option.some.inj stepped
      exact Or.inr ⟨rfl, Or.inl rfl⟩
    · cases stepped
  | cleanup now =>
    obtain rfl := Option.some.inj stepped
    exact Or.inr ⟨rfl, Or.inr ⟨.pruneExpired now, trivial, rfl⟩⟩

/-! ### Whole runs -/

/-- The event asks to enable diagnostics: at an endpoint that is open, or over the mesh, if that is
on, from a host that has announced itself for it. -/
def Enables (env : NodeEnv) (earlier : List NodeEvent) : NodeEvent → Prop
  | .request endpoint datagram _ _ _ =>
    env.control.serves endpoint = true ∧ ∃ seconds, LocalControl.Asks datagram (.enable seconds)
  | .control source (.data payload) _ =>
    env.control.mesh = true ∧ .announce diagnosticsPortTag source ∈ earlier ∧
      ∃ id seconds, DiagnosticCommand.parse payload = .ok ⟨id, .enable seconds⟩
  | _ => False

/-- Channel `n` got a payload from a peer that has announced itself to it, and could parse it. -/
def Heard (env : NodeEnv) (n : AtakChannel) (payload : List UInt8) (event : CotEvent)
    (peerHash : String) (earlier : List NodeEvent) (e : NodeEvent) : Prop :=
  ∃ peer, e = .traffic (.link n peer (.data payload)) ∧
    .traffic (.announce n (portTag (env.bridge.port n)) peer) ∈ earlier ∧
    env.bridge.reader.parseCotPayload payload = .ok event ∧ peerHash = env.bridge.printHash peer

/-- What a record shows is what channel `n` has heard. -/
def Attests (env : NodeEnv) (events : List NodeEvent) (r : DiagnosticRecord) : Prop :=
  ∃ n payload event peerHash now, Happened (Heard env n payload event peerHash) events ∧
    r = DiagnosticRecord.of peerHash (env.bridge.port n) event now

/-- What a node holds goes back to what has happened at it. -/
structure Sound (env : NodeEnv) (events : List NodeEvent) (s : Node) : Prop where
  channels : ∀ n, ∀ peer ∈ s.bridge.peerHashes n,
    .traffic (.announce n (portTag (env.bridge.port n)) peer) ∈ events
  peers : ∀ peer ∈ s.diagnosticPeers, .announce diagnosticsPortTag peer ∈ events
  heard : ∀ n source payload event peerHash,
    (s.bridge.lane n source).phase = .diagnosing payload event peerHash →
      Happened (Heard env n payload event peerHash) events
  records : ∀ r ∈ s.diagnostics.records, Attests env events r
  asked : s.diagnostics.Dark ∨ Happened (Enables env) events

section

variable {s s' : Node} {e : NodeEvent} {events : List NodeEvent}

theorem Sound.start : Sound env [] (start env) where
  channels _ _ member := (Finset.notMem_empty _ member).elim
  peers _ member := (Finset.notMem_empty _ member).elim
  heard _ _ _ _ _ phase := by cases phase
  records _ member := by cases member
  asked := Or.inl (.new _)

theorem Attests.append {r : DiagnosticRecord} (attests : Attests env events r)
    (more : List NodeEvent) : Attests env (events ++ more) r := by
  obtain ⟨n, payload, event, peerHash, now, heard, same⟩ := attests
  exact ⟨n, payload, event, peerHash, now, heard.append more, same⟩

/-- Mesh peers come from announces with the tag of diagnostics control. -/
theorem step_diagnosticPeers (stepped : s.step env e = some s') {peer : AddressHash}
    (member : peer ∈ s'.diagnosticPeers) :
    peer ∈ s.diagnosticPeers ∨ e = .announce diagnosticsPortTag peer := by
  cases e with
  | traffic b =>
    unfold step at stepped
    dsimp only at stepped
    split at stepped
    · obtain ⟨bridge, _, rfl⟩ := Option.map_eq_some_iff.mp stepped
      exact Or.inl member
    · cases stepped
  | request endpoint datagram issued random now =>
    unfold step at stepped
    dsimp only at stepped
    split at stepped
    · obtain rfl := Option.some.inj stepped
      exact Or.inl member
    · cases stepped
  | proceed endpoint named now =>
    have replied : ∀ (s : Node) text, (s.reply endpoint named text).diagnosticPeers = s.diagnosticPeers := by
      intro s text
      unfold reply
      split <;> rfl
    unfold step at stepped
    dsimp only at stepped
    split at stepped
    · cases stepped
    · obtain rfl := Option.some.inj stepped
      exact Or.inl member
    · obtain rfl := Option.some.inj stepped
      rw [replied] at member
      exact Or.inl member
    · obtain rfl := Option.some.inj stepped
      rw [replied] at member
      exact Or.inl member
  | control source event now =>
    unfold step at stepped
    dsimp only at stepped
    split at stepped
    · obtain rfl := Option.some.inj stepped
      left
      unfold networkControl at member
      dsimp only at member
      split at member
      · exact member
      · cases event with
        | activated | proof => exact member
        | closed => exact Finset.mem_of_mem_erase member
        | data payload =>
          dsimp only at member
          split at member <;> exact member
    · cases stepped
  | relay =>
    obtain ⟨command, _, rfl⟩ := Option.map_eq_some_iff.mp stepped
    exact Or.inl member
  | announce appData announced =>
    unfold step at stepped
    dsimp only at stepped
    split at stepped
    · split at stepped
      · obtain rfl := Option.some.inj stepped
        exact Or.inl member
      · rename_i tagged
        obtain rfl := Option.some.inj stepped
        rcases Finset.mem_insert.mp member with rfl | before
        · exact Or.inr (by rw [not_not.mp (not_or.mp tagged).1])
        · exact Or.inl before
    · cases stepped
  | reannounce =>
    unfold step at stepped
    dsimp only at stepped
    split at stepped
    · obtain rfl := Option.some.inj stepped
      exact Or.inl member
    · cases stepped
  | cleanup now =>
    obtain rfl := Option.some.inj stepped
    exact Or.inl member

/-- A command that enables has been asked for. -/
theorem Caused.enables {op : DiagnosticState.Op} (sound : Sound env events s)
    (caused : Caused env s e op) (enables : op.Enables) : Enables env events e := by
  cases op with
  | applyOnce command now =>
    obtain ⟨seconds, action⟩ := enables
    rcases caused with ⟨endpoint, datagram, issued, random, rfl, serves, _, request, asks, wanted⟩ |
      ⟨source, payload, rfl, mesh, tracked, parsed⟩
    · rw [action] at wanted
      cases request with
      | enable asked => exact ⟨serves, asked, asks⟩
      | disable | status | recent => cases wanted
    · obtain ⟨id, commandAction⟩ := command
      obtain rfl := action
      exact ⟨mesh, sound.peers source tracked, id, seconds, parsed⟩
  | recordRemote | status | recent | pruneExpired => exact enables.elim

/-- Every change of the bridges is a step of theirs: of a channel's task, or an access with a cause. -/
theorem step_bridge_or (stepped : s.step env e = some s') : s'.bridge = s.bridge ∨
    ∃ b, s.bridge.step env.bridge b = some s'.bridge ∧
      (e = .traffic b ∧ Bridge.visible b = true ∨ ∃ op, b = .diagnostics op ∧ Caused env s e op) := by
  rcases step_bridge stepped with ⟨b, rfl, seen, moved⟩ | ⟨_, same | ⟨op, caused, moved⟩⟩
  · exact Or.inr ⟨b, moved, Or.inl ⟨rfl, seen⟩⟩
  · exact Or.inl same
  · exact Or.inr ⟨_, moved, Or.inr ⟨op, rfl, caused⟩⟩

/-- The records of a node, and whether it is dark, change with one operation at most. -/
theorem step_diagnostics (stepped : s.step env e = some s') : s'.diagnostics = s.diagnostics ∨
    ∃ op, s'.diagnostics = (DiagnosticState.machine.step s.diagnostics op).1 ∧
      (Caused env s e op ∨ ∃ n source payload event peerHash now,
        (s.bridge.lane n source).phase = .diagnosing payload event peerHash ∧
        op = .recordRemote peerHash (env.bridge.port n) event now) := by
  rcases step_bridge_or stepped with same | ⟨b, moved, origin⟩
  · exact Or.inl (congrArg (fun bridge => bridge.stores.diagnostics) same)
  rcases Bridge.step_diagnostics moved with same | ⟨op, changed, rfl | phase⟩
  · exact Or.inl same
  · rcases origin with ⟨_, seen⟩ | ⟨_, same, caused⟩
    · cases seen
    · obtain rfl := BridgeEvent.diagnostics.inj same
      exact Or.inr ⟨op, changed, Or.inl caused⟩
  · exact Or.inr ⟨op, changed, Or.inr phase⟩

theorem Sound.step (sound : Sound env events s) (stepped : s.step env e = some s') :
    Sound env (events ++ [e]) s' := by
  refine ⟨?_, ?_, ?_, ?_, ?_⟩
  · intro n peer member
    rcases step_bridge_or stepped with same | ⟨b, moved, origin⟩
    · rw [same] at member
      exact List.mem_append_left _ (sound.channels n peer member)
    rcases Bridge.step_peers moved member with before | ⟨rfl, _⟩
    · exact List.mem_append_left _ (sound.channels n peer before)
    · rcases origin with ⟨rfl, _⟩ | ⟨_, same, _⟩
      · exact List.mem_append_right _ (List.mem_singleton_self _)
      · cases same
  · intro peer member
    rcases step_diagnosticPeers stepped member with before | rfl
    · exact List.mem_append_left _ (sound.peers peer before)
    · exact List.mem_append_right _ (List.mem_singleton_self _)
  · intro n source payload event peerHash phase
    rcases step_bridge_or stepped with same | ⟨b, moved, origin⟩
    · rw [same] at phase
      exact (sound.heard n source payload event peerHash phase).append _
    rcases Bridge.step_diagnosing moved phase with before | ⟨peer, tracked, rfl, parsed, shown⟩
    · exact (sound.heard n source payload event peerHash before).append _
    · rcases origin with ⟨rfl, _⟩ | ⟨_, same, _⟩
      · exact .now ⟨peer, rfl, sound.channels n peer tracked, parsed, shown⟩
      · cases same
  · intro r kept
    rcases step_diagnostics stepped with same | ⟨op, changed, origin⟩
    · rw [same] at kept
      exact (sound.records r kept).append _
    rw [changed] at kept
    rcases DiagnosticState.step_records kept with before | ⟨_, _, _, _, rfl, rfl⟩
    · exact (sound.records r before).append _
    · rcases origin with caused | ⟨n, source, payload, event, peerHash, now, phase, same⟩
      · exact caused.elim
      · obtain ⟨rfl, rfl, rfl, rfl⟩ := DiagnosticState.Op.recordRemote.inj same
        have heard := sound.heard n source payload _ _ phase
        exact ⟨n, payload, _, _, _, heard.append _, rfl⟩
  · rcases sound.asked with dark | asked
    · rcases step_diagnostics stepped with same | ⟨op, changed, origin⟩
      · rw [same]
        exact Or.inl dark
      rw [changed]
      by_cases enables : op.Enables
      · rcases origin with caused | ⟨_, _, _, _, _, _, _, rfl⟩
        · exact Or.inr (.now (caused.enables sound enables))
        · exact enables.elim
      · exact Or.inl (dark.step enables)
    · exact Or.inr (asked.append _)

theorem Sound.run (sound : Sound env events s) {more : List NodeEvent}
    (ran : s.run env more = some s') : Sound env (events ++ more) s' := by
  induction more generalizing s events with
  | nil =>
    obtain rfl := Option.some.inj ran
    rwa [List.append_nil]
  | cons e rest ih =>
    obtain ⟨mid, stepped, ran⟩ := Option.bind_eq_some_iff.mp ran
    have sound := ih (sound.step stepped) ran
    rwa [List.append_assoc] at sound

/-- The node takes no part in mesh control. -/
structure Silent (s : Node) : Prop where
  announces : s.announces = 0
  sent : s.sent = []
  peers : s.diagnosticPeers = ∅
  relaying : s.relaying = none

theorem Silent.reply (silent : Silent s) (endpoint : Endpoint) (named : Bool) (text : List Char) :
    Silent (s.reply endpoint named text) := by
  unfold Node.reply
  split
  · exact ⟨silent.announces, silent.sent, silent.peers, silent.relaying⟩
  · exact silent

theorem Silent.step (off : env.control.mesh = false) (silent : Silent s)
    (stepped : s.step env e = some s') : Silent s' := by
  cases e with
  | traffic b =>
    unfold Node.step at stepped
    dsimp only at stepped
    split at stepped
    · obtain ⟨bridge, _, rfl⟩ := Option.map_eq_some_iff.mp stepped
      exact ⟨silent.announces, silent.sent, silent.peers, silent.relaying⟩
    · cases stepped
  | request endpoint datagram issued random now =>
    unfold Node.step at stepped
    dsimp only at stepped
    split at stepped
    · obtain rfl := Option.some.inj stepped
      exact ⟨silent.announces, silent.sent, silent.peers, silent.relaying⟩
    · cases stepped
  | proceed endpoint named now =>
    unfold Node.step at stepped
    dsimp only at stepped
    split at stepped
    · cases stepped
    · obtain rfl := Option.some.inj stepped
      rw [off]
      exact ⟨silent.announces, silent.sent, silent.peers, silent.relaying⟩
    · obtain rfl := Option.some.inj stepped
      refine Silent.reply ?_ endpoint named _
      exact ⟨silent.announces, silent.sent, silent.peers, silent.relaying⟩
    · obtain rfl := Option.some.inj stepped
      refine Silent.reply ?_ endpoint named _
      exact ⟨silent.announces, silent.sent, silent.peers, silent.relaying⟩
  | control source event now =>
    unfold Node.step at stepped
    rw [off] at stepped
    cases stepped
  | relay =>
    unfold Node.step at stepped
    rw [silent.relaying] at stepped
    cases stepped
  | announce appData peer =>
    unfold Node.step at stepped
    rw [off] at stepped
    cases stepped
  | reannounce =>
    unfold Node.step at stepped
    rw [off] at stepped
    cases stepped
  | cleanup now =>
    obtain rfl := Option.some.inj stepped
    exact ⟨silent.announces, silent.sent, silent.peers, silent.relaying⟩

theorem Silent.run (off : env.control.mesh = false) (silent : Silent s)
    (ran : s.run env events = some s') : Silent s' := by
  induction events generalizing s with
  | nil =>
    obtain rfl := Option.some.inj ran
    exact silent
  | cons e rest ih =>
    obtain ⟨mid, stepped, ran⟩ := Option.bind_eq_some_iff.mp ran
    exact ih (silent.step off stepped) ran

/-- The bridges of a node run as they would alone, with the accesses of diagnostics control among the
events of their tasks. -/
theorem run_bridge (ran : s.run env events = some s') :
    ∃ bs, s.bridge.run env.bridge bs = some s'.bridge ∧
      bs.filter Bridge.visible = events.filterMap NodeEvent.seen := by
  induction events generalizing s with
  | nil =>
    obtain rfl := Option.some.inj ran
    exact ⟨[], rfl, rfl⟩
  | cons e rest ih =>
    obtain ⟨mid, stepped, ran⟩ := Option.bind_eq_some_iff.mp ran
    obtain ⟨bs, later, seen⟩ := ih ran
    have next : ∀ b, s.bridge.step env.bridge b = some mid.bridge →
        s.bridge.run env.bridge (b :: bs) = some s'.bridge := by
      intro b moved
      rw [Bridge.run, List.foldlM_cons, moved]
      exact later
    rcases step_bridge stepped with ⟨b, rfl, visible, moved⟩ | ⟨unseen, same | ⟨op, _, moved⟩⟩
    · refine ⟨b :: bs, next b moved, ?_⟩
      rw [List.filter_cons_of_pos visible, seen]
      rfl
    · refine ⟨bs, same ▸ later, ?_⟩
      rw [seen, List.filterMap_cons_none unseen]
    · refine ⟨.diagnostics op :: bs, next _ moved, ?_⟩
      rw [List.filter_cons_of_neg (by simp [Bridge.visible]), seen, List.filterMap_cons_none unseen]

end

end Node

/-! ### Plugins that have started -/

/-- What the host and the libraries decide for a node. -/
structure Host where
  reader : CotReader
  printHash : AddressHash → String
  order : HashMap.IterOrder (PacketSource × String) LocationRecord
  destination : AtakChannel → AddressHash
  diagnosticsDestination : AddressHash
  width : Text.PointerWidth
  printF64 : F64 → List Char

def Started.env (started : Started) (host : Host) : NodeEnv where
  bridge :=
    { reader := host.reader
      printHash := host.printHash
      order := host.order
      port := AtakChannel.port
      destination := host.destination
      allowUnvalidatedPayloads := started.allowUnvalidatedPayloads }
  width := host.width
  printF64 := host.printF64
  control := started.control
  diagnosticsDestination := host.diagnosticsDestination

/-- The request came in where the operator has let diagnostics be controlled from: at a socket of
the user that the plugin runs as, on the loopback interface, or anywhere it was told to. -/
def Authorized (cmd : Command) (p : Process) (control : Control) : NodeEvent → Prop
  | .request .unix .. => cmd.disablesLocalControl p = false ∧
      ∃ socket ∈ control.unix, socket.path.toList.head? = some '/' ∧ socket.mode = 0o600
  | .request .udp .. => ∃ addr ∈ control.udp,
      addr.ip.isLoopback = true ∨ cmd.allowsInsecureListen p = true
  | .control .. => cmd.enablesMeshControl p = true
  | _ => False

theorem Node.Enables.authorized {cmd : Command} {p : Process} {calls : StartCalls}
    {controlCalls : ControlCalls} {started : Started} {host : Host} {earlier : List NodeEvent}
    {e : NodeEvent} (ran : cmd.main p calls controlCalls = .ok started)
    (enables : Node.Enables (started.env host) earlier e) :
    Authorized cmd p started.control e := by
  obtain ⟨_, _, opened, _, _⟩ := Command.main_ok.mp ran
  have follows := startDiagnosticsControl_ok opened
  cases e with
  | request endpoint datagram issued random now =>
    obtain ⟨serves, _⟩ := enables
    cases endpoint with
    | unix =>
      obtain ⟨socket, found⟩ := Option.isSome_iff_exists.mp serves
      obtain ⟨configured, mode⟩ := follows.unix socket found
      dsimp only [Command.diagnosticsControl] at configured
      split at configured
      · cases configured
      · rename_i allowed
        exact ⟨Bool.eq_false_iff.mpr allowed, socket, found,
          configuredDiagnosticsUnixSocket_some configured, mode⟩
    | udp =>
      obtain ⟨addr, found⟩ := Option.isSome_iff_exists.mp serves
      exact ⟨addr, found, configuredDiagnosticsUdpAddr_some (follows.udp addr found)⟩
  | control source event now =>
    cases event with
    | data payload => exact follows.mesh.symm.trans enables.1
    | activated | closed | proof => exact enables.elim
  | traffic | proceed | relay | announce | reannounce | cleanup => exact enables.elim

/-! A plugin started without options on a host whose only interface is in the Kaonic LAN. Someone at
the host enables diagnostics, and a peer that has announced itself sends a payload. -/

def sampleProcess : Process where
  var _ := none
  candidates := [⟨"br0", .new 192 168 10 1⟩]
  parseSocketAddr _ := none
  printSocketAddr _ := ""

def sampleStartCalls : StartCalls where
  openDb _ := .ok ()
  loadConfig := .ok 2
  loadOrCreateNamedSeed _ := .ok ()
  connectRadioClient _ := .ok ()
  attachRadioInterface _ := .ok ()
  openMulticastSockets _ _ := .ok ()

/-- The socket is left from an earlier run. -/
def sampleControlCalls : ControlCalls where
  createParent _ := .ok ()
  removeFile _ := .ok ()
  bindUnix _ := .ok ()
  setPermissions _ _ := .ok ()
  bindUdp _ := .error "Address already in use (os error 98)"

def sampleStarted : Started where
  localInterface := ⟨"br0", .new 192 168 10 1⟩
  allowUnvalidatedPayloads := false
  control := ⟨some ⟨defaultDiagnosticsUnixSocket, 0o600⟩, none, false⟩

def sampleHost : Host where
  reader := sampleReader
  printHash _ := "/01010101010101010101010101010101/"
  order := .entries
  destination
    | .cot => .repeated 2
    | .geochat => .repeated 3
  diagnosticsDestination := .repeated 4
  width := .w32
  printF64 _ := ['0']

def sampleNodeEvents : List NodeEvent :=
  [.traffic (.announce .cot [0x1B, 0x39] (.repeated 1)),
    .request .unix (Text.toUtf8 "enable 60\n".toList) (.ofSecs 1) 10 (.ofSecs 1),
    .proceed .unix true (.ofSecs 1), .proceed .unix true (.ofSecs 1),
    .traffic (.link .cot (.repeated 1) (.data samplePayload)),
    .traffic (.advance .cot .remoteReticulum (.ofSecs 2) (.ofSecs 2) true)]

theorem sample_started :
    ({} : Command).main sampleProcess sampleStartCalls sampleControlCalls = .ok sampleStarted := by
  rfl

theorem sample_runs : ∃ s, (Node.start (sampleStarted.env sampleHost)).run
    (sampleStarted.env sampleHost) sampleNodeEvents = some s ∧ s.diagnostics.records.length = 1 := by
  refine ⟨_, rfl, ?_⟩
  decide +kernel

/-- Whatever command line and environment a plugin has started with and whatever has happened since:
every association it holds is with what a peer of a channel sent, none is held and no window is open
unless an enable request came in where that was allowed, and without the override nothing about
diagnostics is sent to the mesh. -/
theorem associations_asked (cmd : Command) (p : Process) (calls : StartCalls)
    (controlCalls : ControlCalls) (started : Started)
    (ran : cmd.main p calls controlCalls = .ok started) (host : Host) (events : List NodeEvent)
    (s : Node) (served : (Node.start (started.env host)).run (started.env host) events = some s) :
    (∀ r ∈ s.diagnostics.records, Node.Attests (started.env host) events r) ∧
    (¬ s.diagnostics.Dark → Happened (fun earlier e =>
      Node.Enables (started.env host) earlier e ∧ Authorized cmd p started.control e) events) ∧
    (cmd.enablesMeshControl p = false → s.Silent) := by
  have sound : Node.Sound (started.env host) events s := Node.Sound.start.run served
  refine ⟨sound.records, ?_, ?_⟩
  · intro lit
    obtain ⟨earlier, e, later, same, enables⟩ := sound.asked.resolve_left lit
    exact ⟨earlier, e, later, same, enables, enables.authorized ran⟩
  · intro off
    obtain ⟨_, _, opened, _, _⟩ := Command.main_ok.mp ran
    have mesh : (started.env host).control.mesh = false := (startDiagnosticsControl_ok opened).mesh.trans off
    have start : (Node.start (started.env host)).Silent :=
      ⟨if_neg (by simp [mesh]), rfl, rfl, rfl⟩
    exact start.run mesh served

theorem associations_asked_sample : ∃ s, (Node.start (sampleStarted.env sampleHost)).run
      (sampleStarted.env sampleHost) sampleNodeEvents = some s ∧
    (∃ r ∈ s.diagnostics.records, Node.Attests (sampleStarted.env sampleHost) sampleNodeEvents r) ∧
    Happened (fun earlier e => Node.Enables (sampleStarted.env sampleHost) earlier e ∧
      Authorized {} sampleProcess sampleStarted.control e) sampleNodeEvents ∧ s.Silent := by
  obtain ⟨s, ran, one⟩ := sample_runs
  obtain ⟨attested, asked, silent⟩ := associations_asked {} sampleProcess sampleStartCalls
    sampleControlCalls sampleStarted sample_started sampleHost sampleNodeEvents s ran
  obtain ⟨r, only⟩ := List.length_eq_one_iff.mp one
  have kept : r ∈ s.diagnostics.records := by rw [only]; exact List.mem_singleton_self r
  refine ⟨s, ran, ⟨r, kept, attested r kept⟩, asked fun dark => ?_, silent rfl⟩
  rw [dark.records] at one
  cases one

/-- A plugin that starts also starts with other options for diagnostics, if they do not require it to
be controlled, whatever becomes of its endpoints. Whatever comes in at them, both forward the same. -/
theorem forwarding_survives (cmd other : Command) (p : Process) (calls : StartCalls)
    (controlCalls otherCalls : ControlCalls)
    (free : (cmd.withDiagnostics other).requiresControl p = false)
    (started : Started) (ran : cmd.main p calls controlCalls = .ok started) :
    ∃ control, (cmd.withDiagnostics other).main p calls otherCalls = .ok { started with control } ∧
      ∀ (host : Host) (events others : List NodeEvent) (s s' : Node),
        (Node.start (started.env host)).run (started.env host) events = some s →
        (Node.start ({ started with control }.env host)).run ({ started with control }.env host)
          others = some s' →
        events.filterMap NodeEvent.seen = others.filterMap NodeEvent.seen →
        s'.bridge.toTraffic = s.bridge.toTraffic := by
  obtain ⟨control, restarted⟩ := Command.main_unrequired free ran otherCalls
  refine ⟨control, restarted, fun host events others s s' first second agree => ?_⟩
  obtain ⟨bs, bridged, seen⟩ := Node.run_bridge first
  obtain ⟨bs', bridged', seen'⟩ := Node.run_bridge second
  have runs := (@Bridge.unwinds AtakChannel (started.env host).bridge _).run_agree
    ((seen'.trans agree.symm).trans seen.symm)
    (@rfl _ (Node.start (started.env host)).bridge.toTraffic)
  have alone : (bs.foldlM (Bridge.step (started.env host).bridge)
      (Node.start (started.env host)).bridge) = some s.bridge := bridged
  have beside : (bs'.foldlM (Bridge.step (started.env host).bridge)
      (Node.start (started.env host)).bridge) = some s'.bridge := bridged'
  rw [alone, beside] at runs
  exact Option.some.inj runs

/-- A plugin without diagnostics control, which only sees the traffic, forwards what the other does. -/
theorem forwarding_survives_sample : ∃ s s',
    (Node.start (sampleStarted.env sampleHost)).run (sampleStarted.env sampleHost)
      sampleNodeEvents = some s ∧
    (Node.start ({ sampleStarted with control := ⟨none, none, false⟩ }.env sampleHost)).run
      ({ sampleStarted with control := ⟨none, none, false⟩ }.env sampleHost)
      (sampleNodeEvents.filter fun e => e.seen.isSome) = some s' ∧
    s'.bridge.toTraffic = s.bridge.toTraffic ∧ s'.diagnostics.records ≠ s.diagnostics.records := by
  let other : Command := { disableLocalDiagnosticsControl := true }
  obtain ⟨control, restarted, same⟩ := forwarding_survives {} other sampleProcess sampleStartCalls
    sampleControlCalls sampleControlCalls rfl sampleStarted sample_started
  have without : (({} : Command).withDiagnostics other).main sampleProcess sampleStartCalls
      sampleControlCalls = .ok { sampleStarted with control := ⟨none, none, false⟩ } := rfl
  obtain rfl : ⟨none, none, false⟩ = control :=
    congrArg Started.control (Except.ok.inj (without.symm.trans restarted))
  obtain ⟨s, ran, one⟩ := sample_runs
  obtain ⟨s', alone, none⟩ : ∃ s', (Node.start ({ sampleStarted with
      control := ⟨none, none, false⟩ }.env sampleHost)).run ({ sampleStarted with
      control := ⟨none, none, false⟩ }.env sampleHost)
      (sampleNodeEvents.filter fun e => e.seen.isSome) = some s' ∧
      s'.diagnostics.records.length = 0 := ⟨_, rfl, by decide +kernel⟩
  refine ⟨s, s', ran, alone, same sampleHost _ _ s s' ran alone rfl, fun equal => ?_⟩
  rw [equal, one] at none
  cases none

end Kaonic.Plugin
