import Kaonic.Base.Unwinding
import Kaonic.Plugin.Location
import Kaonic.Plugin.Mesh

/-!
# Bridging ATAK channels

The two forwarding tasks of each channel and the task that tracks its peers. Between two locks of
a task the others run, so that the way of a payload through a task is a phase of its own.
-/

namespace Kaonic.Plugin

open Kaonic.Net (AddressHash)

/-- What the tasks of all channels go by. -/
structure BridgeEnv (ι : Type) where
  reader : CotReader
  printHash : AddressHash → String
  order : HashMap.IterOrder (PacketSource × String) LocationRecord
  port : ι → UInt16
  destination : ι → AddressHash
  allowUnvalidatedPayloads : Bool

/-- Where a forwarding task stands. -/
inductive Phase where
  | idle
  | diagnosing (payload : List UInt8) (event : CotEvent) (remotePeerHash : String)
  | locating (payload : List UInt8) (event : CotEvent)
  | counting (payload : List UInt8)
  | forwarding (payload : List UInt8)
  | closing (source : AddressHash)
  deriving DecidableEq

/-- One direction of a channel: its task, its part of the `BridgeMetrics`, which wraps around, and
the payloads it has handed on, with the outcome of the send. -/
structure Lane where
  phase : Phase := .idle
  packets : UInt64 := 0
  invalidPackets : UInt64 := 0
  locations : UInt64 := 0
  sends : List (List UInt8 × Bool) := []

/-- The stores that all tasks of the plugin share. -/
structure Stores where
  location : LocationState
  diagnostics : DiagnosticState

/-- What traffic passes and by whom, without the stores. -/
structure Traffic (ι : Type) where
  lane : ι → PacketSource → Lane
  peerHashes : ι → Finset AddressHash

structure Bridge (ι : Type) extends Traffic ι where
  stores : Stores

inductive BridgeEvent (ι : Type) where
  | udp (n : ι) (data : List UInt8)
  | link (n : ι) (source : AddressHash) (event : LinkEvent)
  | advance (n : ι) (source : PacketSource) (updatedAt now : SystemTime) (sent : Bool)
  | close (n : ι)
  | announce (n : ι) (appData : List UInt8) (peer : AddressHash)
  | diagnostics (op : DiagnosticState.Op)

section

variable {ι : Type} (env : BridgeEnv ι)

/-- `accept_payload` up to its first lock. -/
def acceptPayload (data : List UInt8) (remotePeerHash : Option String) (lane : Lane) : Lane :=
  match env.reader.parseCotPayload data with
  | .ok event =>
    match remotePeerHash with
    | some peerHash => { lane with phase := .diagnosing data event peerHash }
    | none => { lane with phase := .locating data event }
  | .error _ =>
    { lane with
      invalidPackets := lane.invalidPackets + 1
      phase := if env.allowUnvalidatedPayloads then .forwarding data else .idle }

/-- The rest of `accept_payload`, one lock at a time, and the send after it. -/
def advance (n : ι) (source : PacketSource) (updatedAt now : SystemTime) (sent : Bool)
    (lane : Lane) (stores : Stores) : Option (Lane × Stores) :=
  match lane.phase with
  | .diagnosing data event peerHash =>
    let r := stores.diagnostics.recordRemoteAt peerHash (env.port n) event now
    some ({ lane with phase := .locating data event }, { stores with diagnostics := r.1 })
  | .locating data event =>
    let r := stores.location.record env.order source (env.port n) event updatedAt now
    some ({ lane with phase := if r.2.isSome then .counting data else .forwarding data },
      { stores with location := r.1 })
  | .counting data =>
    some ({ lane with phase := .forwarding data, locations := lane.locations + 1 },
      { stores with location := (stores.location.len now).1 })
  | .forwarding data =>
    some ({ lane with
      phase := .idle
      packets := if sent then lane.packets + 1 else lane.packets
      sends := lane.sends ++ [(data, sent)] }, stores)
  | .idle | .closing _ => none

def portTag (port : UInt16) : List UInt8 := [(port >>> 8).toUInt8, port.toUInt8]

namespace Bridge

variable [DecidableEq ι]

def setLane (s : Bridge ι) (n : ι) (source : PacketSource) (lane : Lane) : Bridge ι :=
  { s with lane := Function.update s.lane n (Function.update (s.lane n) source lane) }

def setPeers (s : Bridge ι) (n : ι) (peers : Finset AddressHash) : Bridge ι :=
  { s with peerHashes := Function.update s.peerHashes n peers }

/-- One step of one task, if it can take it. Sends to in-links have no outcome. -/
def step (s : Bridge ι) : BridgeEvent ι → Option (Bridge ι)
  | .udp n data =>
    let lane := s.lane n .localUdp
    if lane.phase = .idle then some (s.setLane n .localUdp (acceptPayload env data none lane))
    else none
  | .link n source event =>
    let lane := s.lane n .remoteReticulum
    if lane.phase = .idle then
      if source ∉ s.peerHashes n then some s
      else
        match event with
        | .activated | .proof => some s
        | .closed => some (s.setLane n .remoteReticulum { lane with phase := .closing source })
        | .data payload => some (s.setLane n .remoteReticulum
            (acceptPayload env payload (some (env.printHash source)) lane))
    else none
  | .advance n source updatedAt now sent =>
    (advance env n source updatedAt now (sent || source == .localUdp) (s.lane n source)
      s.stores).map fun r => { s.setLane n source r.1 with stores := r.2 }
  | .close n =>
    let lane := s.lane n .remoteReticulum
    match lane.phase with
    | .closing source => some ((s.setLane n .remoteReticulum { lane with phase := .idle }).setPeers n
        ((s.peerHashes n).erase source))
    | _ => none
  | .announce n appData peer =>
    if appData ≠ portTag (env.port n) then some s
    else if peer = env.destination n then some s
    else some (s.setPeers n (insert peer (s.peerHashes n)))
  | .diagnostics op =>
    some { s with stores :=
      { s.stores with diagnostics := (DiagnosticState.machine.step s.stores.diagnostics op).1 } }

def run (s : Bridge ι) (events : List (BridgeEvent ι)) : Option (Bridge ι) :=
  events.foldlM (step env) s

def start (stores : Stores) : Bridge ι where
  lane _ _ := {}
  peerHashes _ := ∅
  stores := stores

end Bridge

/-! ### What the channels should forward -/

namespace BridgeEvent

variable [DecidableEq ι]

/-- The payload that a lane takes in with an event: every datagram, and the data of the links that
the channel tracks at that time. -/
def input (s : Bridge ι) (n : ι) (source : PacketSource) : BridgeEvent ι → Option (List UInt8)
  | .udp m data => if m = n ∧ source = .localUdp then some data else none
  | .link m peer (.data payload) =>
    if m = n ∧ source = .remoteReticulum ∧ peer ∈ s.peerHashes n then some payload else none
  | _ => none

/-- The payloads that a lane takes in during a run, in order. -/
def inputs (n : ι) (source : PacketSource) : Bridge ι → List (BridgeEvent ι) → List (List UInt8)
  | _, [] => []
  | s, e :: rest =>
    (e.input s n source).toList ++
      match s.step env e with
      | some s' => inputs n source s' rest
      | none => []

end BridgeEvent

namespace Lane

/-- The payloads handed on, whatever became of them, and those whose send succeeded. -/
def attempted (lane : Lane) : List (List UInt8) := lane.sends.map Prod.fst

def delivered (lane : Lane) : List (List UInt8) := (lane.sends.filter Prod.snd).map Prod.fst

end Lane

/-- The payload that the task is still working on. -/
def Phase.pending : Phase → List (List UInt8)
  | .diagnosing payload _ _ | .locating payload _ | .counting payload | .forwarding payload =>
    [payload]
  | .idle | .closing _ => []

def BridgeEnv.valid (payload : List UInt8) : Bool := (env.reader.parseCotPayload payload).isOk

/-! ### One lane -/

section Lanes

variable {env}

/-- What a step does to a lane: nothing, the arrival of a payload, one more lock or the send, or
the removal of a peer. -/
inductive LaneStep (env : BridgeEnv ι) (source : PacketSource) :
    Lane → Option (List UInt8) → Lane → Prop where
  | stay (lane : Lane) : LaneStep env source lane none lane
  | arrive {lane : Lane} (idle : lane.phase = .idle) (data : List UInt8)
      (remotePeerHash : Option String) :
      LaneStep env source lane (some data) (acceptPayload env data remotePeerHash lane)
  | advance {lane lane' : Lane} {n : ι} {updatedAt now : SystemTime} {sent : Bool}
      {stores stores' : Stores} (outcome : source = .localUdp → sent = true)
      (advanced : advance env n source updatedAt now sent lane stores = some (lane', stores')) :
      LaneStep env source lane none lane'
  | close {lane : Lane} (quiet : lane.phase.pending = []) {phase : Phase} (free : phase.pending = []) :
      LaneStep env source lane none { lane with phase }

/-- A lane has passed on the valid payloads of its inputs and counted the others. -/
structure Forwards (env : BridgeEnv ι) (source : PacketSource) (lane : Lane)
    (inputs : List (List UInt8)) : Prop where
  passed : lane.attempted ++ lane.phase.pending = inputs.filter env.valid
  invalid : lane.invalidPackets = .ofNat (inputs.countP fun payload => !env.valid payload)
  packets : lane.packets = .ofNat (lane.sends.countP Prod.snd)
  outcome : source = .localUdp → ∀ send ∈ lane.sends, send.2 = true

variable {source : PacketSource} {lane lane' : Lane} {inputs : List (List UInt8)}

/-- A new task has handed on what it has taken in: nothing. -/
theorem Forwards.start : Forwards env source {} [] :=
  ⟨rfl, rfl, rfl, fun _ _ member => (List.not_mem_nil member).elim⟩

theorem Forwards.arrive (safe : env.allowUnvalidatedPayloads = false)
    (forwards : Forwards env source lane inputs) (idle : lane.phase = .idle) (data : List UInt8)
    (remotePeerHash : Option String) :
    Forwards env source (acceptPayload env data remotePeerHash lane) (inputs ++ [data]) := by
  have passed := forwards.passed
  rw [idle] at passed
  unfold acceptPayload
  cases parsed : env.reader.parseCotPayload data with
  | error err =>
    have rejected : env.valid data = false := by rw [BridgeEnv.valid, parsed]; rfl
    dsimp only
    rw [safe]
    refine ⟨?_, ?_, forwards.packets, forwards.outcome⟩
    · rw [List.filter_append, ← passed]
      simp [rejected, Lane.attempted, Phase.pending]
    · rw [List.countP_append, UInt64.ofNat_add, ← forwards.invalid]
      simp [rejected]
  | ok event =>
    have accepted : env.valid data = true := by rw [BridgeEnv.valid, parsed]; rfl
    have valid : (inputs ++ [data]).filter env.valid = lane.attempted ++ [data] := by
      rw [List.filter_append, ← passed]
      simp [accepted, Phase.pending]
    have rejected : .ofNat ((inputs ++ [data]).countP fun payload => !env.valid payload) =
        lane.invalidPackets := by
      rw [List.countP_append, UInt64.ofNat_add, ← forwards.invalid]
      simp [accepted]
    cases remotePeerHash with
    | some peerHash => exact ⟨valid.symm, rejected.symm, forwards.packets, forwards.outcome⟩
    | none => exact ⟨valid.symm, rejected.symm, forwards.packets, forwards.outcome⟩

theorem Forwards.advance (forwards : Forwards env source lane inputs) {n : ι}
    {updatedAt now : SystemTime} {sent : Bool} {stores stores' : Stores}
    (outcome : source = .localUdp → sent = true)
    (advanced : advance env n source updatedAt now sent lane stores = some (lane', stores')) :
    Forwards env source lane' inputs := by
  have passed := forwards.passed
  unfold Plugin.advance at advanced
  cases phase : lane.phase with
  | idle => rw [phase] at advanced; cases advanced
  | closing peer => rw [phase] at advanced; cases advanced
  | diagnosing data event peerHash =>
    rw [phase] at advanced passed
    obtain ⟨rfl, rfl⟩ := Prod.mk.inj (Option.some.inj advanced)
    exact ⟨passed, forwards.invalid, forwards.packets, forwards.outcome⟩
  | locating data event =>
    rw [phase] at advanced passed
    obtain ⟨rfl, rfl⟩ := Prod.mk.inj (Option.some.inj advanced)
    refine ⟨?_, forwards.invalid, forwards.packets, forwards.outcome⟩
    dsimp only
    split <;> exact passed
  | counting data =>
    rw [phase] at advanced passed
    obtain ⟨rfl, rfl⟩ := Prod.mk.inj (Option.some.inj advanced)
    exact ⟨passed, forwards.invalid, forwards.packets, forwards.outcome⟩
  | forwarding data =>
    rw [phase] at advanced passed
    obtain ⟨rfl, rfl⟩ := Prod.mk.inj (Option.some.inj advanced)
    refine ⟨?_, forwards.invalid, ?_, ?_⟩
    · rw [← passed]
      simp [Lane.attempted, Phase.pending]
    · dsimp only
      rw [List.countP_append, UInt64.ofNat_add, ← forwards.packets]
      cases sent <;> simp
    · intro loc send member
      rcases List.mem_append.mp member with before | last
      · exact forwards.outcome loc send before
      · rw [List.mem_singleton.mp last]
        exact outcome loc

theorem Forwards.step (safe : env.allowUnvalidatedPayloads = false)
    (forwards : Forwards env source lane inputs) {input : Option (List UInt8)}
    (step : LaneStep env source lane input lane') :
    Forwards env source lane' (inputs ++ input.toList) := by
  cases step with
  | stay => rwa [Option.toList_none, List.append_nil]
  | arrive idle data remotePeerHash => exact forwards.arrive safe idle data remotePeerHash
  | advance outcome advanced =>
    rw [Option.toList_none, List.append_nil]
    exact forwards.advance outcome advanced
  | close quiet free =>
    rw [Option.toList_none, List.append_nil]
    have passed := forwards.passed
    rw [quiet, ← free] at passed
    exact ⟨passed, forwards.invalid, forwards.packets, forwards.outcome⟩

/-- No lock of the way of a payload looks at what the stores hold. -/
theorem advance_lane (n : ι) (source : PacketSource) (updatedAt now : SystemTime) (sent : Bool)
    (lane : Lane) (stores stores' : Stores) :
    (advance env n source updatedAt now sent lane stores).map Prod.fst =
      (advance env n source updatedAt now sent lane stores').map Prod.fst := by
  unfold advance
  cases phase : lane.phase with
  | idle | closing | diagnosing | counting | forwarding => rfl
  | locating data event =>
    dsimp only
    rw [Option.map_some, Option.map_some, LocationState.record_isSome,
      LocationState.record_isSome]

/-- Nothing fails that is sent to in-links. -/
theorem Forwards.delivered (forwards : Forwards env .localUdp lane inputs) :
    lane.delivered = lane.attempted := by
  unfold Lane.delivered Lane.attempted
  rw [List.filter_eq_self.mpr (forwards.outcome rfl)]

end Lanes

/-! ### Runs of all channels -/

namespace Bridge

variable [DecidableEq ι] {env}

theorem setLane_lane_same (s : Bridge ι) (n : ι) (source : PacketSource) (lane : Lane) :
    (s.setLane n source lane).lane n source = lane := by
  simp [setLane]

theorem setLane_lane_other (s : Bridge ι) {n m : ι} {source source' : PacketSource} (lane : Lane)
    (other : ¬(m = n ∧ source' = source)) :
    (s.setLane n source lane).lane m source' = s.lane m source' := by
  unfold setLane
  by_cases same : m = n
  · subst same
    have distinct : source' ≠ source := fun same => other ⟨rfl, same⟩
    simp [distinct]
  · simp [same]

/-- What one lane does is a step of every lane, if the others take nothing in. -/
theorem setLane_step (s : Bridge ι) {n : ι} {source : PacketSource} {lane : Lane}
    (input : ι → PacketSource → Option (List UInt8))
    (step : LaneStep env source (s.lane n source) (input n source) lane)
    (nothing : ∀ m source', ¬(m = n ∧ source' = source) → input m source' = none) (m : ι)
    (source' : PacketSource) :
    LaneStep env source' (s.lane m source') (input m source')
      ((s.setLane n source lane).lane m source') := by
  by_cases here : m = n ∧ source' = source
  · obtain ⟨rfl, rfl⟩ := here
    rwa [setLane_lane_same]
  · rw [setLane_lane_other s lane here, nothing m source' here]
    exact .stay _

/-- A payload arrives in one lane, and the others take nothing in. -/
theorem arrive_step (s : Bridge ι) {n : ι} {source : PacketSource} {data : List UInt8}
    (idle : (s.lane n source).phase = .idle) (remotePeerHash : Option String)
    (input : ι → PacketSource → Option (List UInt8)) (taken : input n source = some data)
    (nothing : ∀ m source', ¬(m = n ∧ source' = source) → input m source' = none) (m : ι)
    (source' : PacketSource) :
    LaneStep env source' (s.lane m source') (input m source')
      ((s.setLane n source (acceptPayload env data remotePeerHash (s.lane n source))).lane m
        source') := by
  refine setLane_step s input ?_ nothing m source'
  rw [taken]
  exact .arrive idle data remotePeerHash

theorem step_udp_lane {s s' : Bridge ι} {n : ι} {data : List UInt8}
    (stepped : s.step env (.udp n data) = some s') (m : ι) (source' : PacketSource) :
    LaneStep env source' (s.lane m source') ((BridgeEvent.udp n data).input s m source')
      (s'.lane m source') := by
  unfold step at stepped
  dsimp only at stepped
  split at stepped
  · rename_i idle
    obtain rfl := Option.some.inj stepped
    refine arrive_step s idle none (fun m source' => (BridgeEvent.udp n data).input s m source')
      ?_ ?_ m source'
    · exact if_pos ⟨rfl, rfl⟩
    · exact fun m source' other => if_neg fun same => other ⟨same.1.symm, same.2⟩
  · cases stepped

theorem step_link_lane {s s' : Bridge ι} {n : ι} {peer : AddressHash} {event : LinkEvent}
    (stepped : s.step env (.link n peer event) = some s') (m : ι) (source' : PacketSource) :
    LaneStep env source' (s.lane m source') ((BridgeEvent.link n peer event).input s m source')
      (s'.lane m source') := by
  unfold step at stepped
  dsimp only at stepped
  split at stepped
  · rename_i idle
    split at stepped
    · rename_i untracked
      obtain rfl := Option.some.inj stepped
      have nothing : (BridgeEvent.link n peer event).input s m source' = none := by
        cases event with
        | data payload =>
          refine if_neg ?_
          rintro ⟨rfl, _, tracked⟩
          exact untracked tracked
        | activated | closed | proof => rfl
      rw [nothing]
      exact .stay _
    · rename_i tracked
      cases event with
      | activated | proof =>
        obtain rfl := Option.some.inj stepped
        exact .stay _
      | closed =>
        obtain rfl := Option.some.inj stepped
        exact setLane_step s (fun _ _ => none)
          (.close (by rw [idle]; rfl) rfl) (fun _ _ _ => rfl) m source'
      | data payload =>
        obtain rfl := Option.some.inj stepped
        refine arrive_step s idle _
          (fun m source' => (BridgeEvent.link n peer (.data payload)).input s m source')
          ?_ ?_ m source'
        · exact if_pos ⟨rfl, rfl, not_not.mp tracked⟩
        · exact fun m source' other => if_neg fun same => other ⟨same.1.symm, same.2.1⟩
  · cases stepped

theorem step_lane {s s' : Bridge ι} {e : BridgeEvent ι} (stepped : s.step env e = some s') (m : ι)
    (source' : PacketSource) :
    LaneStep env source' (s.lane m source') (e.input s m source') (s'.lane m source') := by
  cases e with
  | udp n data => exact step_udp_lane stepped m source'
  | link n peer event => exact step_link_lane stepped m source'
  | advance n source updatedAt now sent =>
    obtain ⟨⟨lane, stores⟩, advanced, rfl⟩ := Option.map_eq_some_iff.mp stepped
    refine setLane_step s (fun _ _ => none) (.advance ?_ advanced) (fun _ _ _ => rfl) m
      source'
    rintro rfl
    exact Bool.or_true sent
  | close n =>
    unfold step at stepped
    dsimp only at stepped
    split at stepped
    · rename_i peer closing
      obtain rfl := Option.some.inj stepped
      exact setLane_step s (fun _ _ => none) (.close (by rw [closing]; rfl) rfl)
        (fun _ _ _ => rfl) m source'
    · cases stepped
  | announce n appData peer =>
    unfold step at stepped
    dsimp only at stepped
    split at stepped
    · obtain rfl := Option.some.inj stepped
      exact .stay _
    · split at stepped
      · obtain rfl := Option.some.inj stepped
        exact .stay _
      · obtain rfl := Option.some.inj stepped
        exact .stay _
  | diagnostics op =>
    obtain rfl := Option.some.inj stepped
    exact .stay _

theorem run_forwards (safe : env.allowUnvalidatedPayloads = false) {events : List (BridgeEvent ι)}
    {s s' : Bridge ι} (ran : s.run env events = some s') (n : ι) (source : PacketSource)
    {inputs : List (List UInt8)} (forwards : Forwards env source (s.lane n source) inputs) :
    Forwards env source (s'.lane n source)
      (inputs ++ BridgeEvent.inputs env n source s events) := by
  unfold run at ran
  induction events generalizing s inputs with
  | nil =>
    obtain rfl := Option.some.inj ran
    rwa [BridgeEvent.inputs, List.append_nil]
  | cons e rest ih =>
    rw [List.foldlM_cons] at ran
    obtain ⟨mid, stepped, ran⟩ := Option.bind_eq_some_iff.mp ran
    have next := ih ran (forwards.step safe (step_lane stepped n source))
    rw [List.append_assoc] at next
    rw [BridgeEvent.inputs, stepped]
    exact next

def visible : BridgeEvent ι → Bool
  | .diagnostics _ => false
  | _ => true

/-- What the plugin forwards does not show anything of the stores. -/
theorem unwinds : Unwinding.Unwinds (step (ι := ι) env) toTraffic visible where
  silent s e unseen := by
    cases e with
    | diagnostics op => rfl
    | udp | link | advance | close | announce => cases unseen
  respects s s' e seen same := by
    obtain ⟨⟨lane, peerHashes⟩, stores⟩ := s
    obtain ⟨traffic, stores'⟩ := s'
    obtain rfl : Traffic.mk lane peerHashes = traffic := same
    cases e with
    | diagnostics op => cases seen
    | udp n data =>
      dsimp only [step]
      split <;> rfl
    | link n peer event =>
      dsimp only [step]
      split
      · split
        · rfl
        · cases event <;> rfl
      · rfl
    | close n =>
      dsimp only [step]
      cases (lane n .remoteReticulum).phase <;> rfl
    | announce n appData peer =>
      dsimp only [step]
      split
      · rfl
      · split <;> rfl
    | advance n source updatedAt now sent =>
      have lanes := @advance_lane ι env n source updatedAt now (sent || source == .localUdp)
        (lane n source) stores stores'
      dsimp only [step]
      have both := congrArg (Option.map fun lane' : Lane =>
        Traffic.mk (Function.update lane n (Function.update (lane n) source lane')) peerHashes) lanes
      rw [Option.map_map, Option.map_map] at both
      rw [Option.map_map, Option.map_map]
      exact both

end Bridge

/-- With unvalidated payloads refused, each channel hands on what it takes in and can parse, in
order and once, and counts the rest modulo 2^64, whatever the diagnostics and the location state
hold. -/
theorem forwards_valid_payloads [DecidableEq ι] (safe : env.allowUnvalidatedPayloads = false)
    (stores : Stores) (events : List (BridgeEvent ι)) (s : Bridge ι)
    (ran : (Bridge.start stores).run env events = some s) :
    (∀ n,
      let received := BridgeEvent.inputs env n .localUdp (Bridge.start stores) events
      let lane := s.lane n .localUdp
      lane.delivered ++ lane.phase.pending = received.filter env.valid ∧
        lane.invalidPackets = .ofNat (received.countP fun payload => !env.valid payload)) ∧
    (∀ n,
      let tracked := BridgeEvent.inputs env n .remoteReticulum (Bridge.start stores) events
      let lane := s.lane n .remoteReticulum
      lane.attempted ++ lane.phase.pending = tracked.filter env.valid ∧
        lane.invalidPackets = .ofNat (tracked.countP fun payload => !env.valid payload)) ∧
    ∀ (stores' : Stores) (events' : List (BridgeEvent ι)),
      events'.filter Bridge.visible = events.filter Bridge.visible →
        ∃ s', (Bridge.start stores').run env events' = some s' ∧ s'.toTraffic = s.toTraffic := by
  refine ⟨fun n => ?_, fun n => ?_, ?_⟩
  · have forwards := Bridge.run_forwards safe ran n .localUdp .start
    rw [List.nil_append] at forwards
    exact ⟨by rw [forwards.delivered]; exact forwards.passed, forwards.invalid⟩
  · have forwards := Bridge.run_forwards safe ran n .remoteReticulum .start
    rw [List.nil_append] at forwards
    exact ⟨forwards.passed, forwards.invalid⟩
  · intro stores' events' agree
    have same : (Bridge.start stores' : Bridge ι).toTraffic = (Bridge.start stores).toTraffic := rfl
    have runs : ((Bridge.start stores').run env events').map Bridge.toTraffic =
        ((Bridge.start stores).run env events).map Bridge.toTraffic :=
      Bridge.unwinds.run_agree agree same
    rw [ran] at runs
    exact Option.map_eq_some_iff.mp runs

/-! A channel with a tracked peer, from which it hears an event, while it hears an event and a
payload that is none from ATAK. -/

def sampleText : String := "<event uid='u' type='a-f'/>"
def samplePayload : List UInt8 := Text.toUtf8 sampleText.toList

/-- Reads the one document, and no numbers. -/
def sampleReader : CotReader where
  document text :=
    if text = sampleText then .ok (.element "event" [("uid", "u"), ("type", "a-f")] [])
    else .error "the document does not have a root node"
  parseF64 _ := none
  le x y := decide (x.bits ≤ y.bits)

def sampleBridge : BridgeEnv Unit where
  reader := sampleReader
  printHash _ := "/01010101010101010101010101010101/"
  order := .entries
  port _ := 6969
  destination _ := .repeated 2
  allowUnvalidatedPayloads := false

def sampleStores : Stores := ⟨.new 4 defaultRecordRetention, .new 4⟩

def sampleEvents : List (BridgeEvent Unit) :=
  [.announce () [0x1B, 0x39] (.repeated 1), .udp () samplePayload,
    .link () (.repeated 1) (.data samplePayload), .advance () .localUdp (.ofSecs 1) (.ofSecs 1) true,
    .diagnostics (.applyOnce ⟨"c", .enable 60⟩ (.ofSecs 1)),
    .advance () .remoteReticulum (.ofSecs 2) (.ofSecs 2) true,
    .advance () .localUdp (.ofSecs 2) (.ofSecs 2) true, .udp () [0x3C]]

theorem forwards_valid_payloads_sample :
    ∃ s, (Bridge.start sampleStores).run sampleBridge sampleEvents = some s ∧
      (s.lane () .localUdp).delivered ++ (s.lane () .localUdp).phase.pending = [samplePayload] ∧
      (s.lane () .localUdp).invalidPackets = 1 ∧
      (s.lane () .remoteReticulum).attempted ++ (s.lane () .remoteReticulum).phase.pending =
        [samplePayload] := by
  have runs : ((Bridge.start sampleStores).run sampleBridge sampleEvents).isSome = true := by decide
  obtain ⟨s, ran⟩ := Option.isSome_iff_exists.mp runs
  obtain ⟨heard, linked, _⟩ := forwards_valid_payloads sampleBridge rfl sampleStores
    sampleEvents s ran
  refine ⟨s, ran, (heard ()).1.trans ?_, (heard ()).2.trans ?_, (linked ()).1.trans ?_⟩
  · decide
  · decide
  · decide

end

end Kaonic.Plugin
