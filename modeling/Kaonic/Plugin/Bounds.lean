import Kaonic.Plugin.Bridge
import Kaonic.Plugin.CotRules
import Kaonic.Plugin.LocationRuns
import Kaonic.Plugin.SeenQueue

/-!
# What the plugin can be made to hold

Every text that a sender chooses is measured before it is kept, and every collection is cut after it
has grown. Neither asks the clock.
-/

namespace Kaonic.Plugin

open Kaonic.Net (AddressHash)

def maxTextLen : Nat := 128
def maxCommandIdLen : Nat := 96

structure CotEvent.Short (e : CotEvent) : Prop where
  uid : byteLength e.uid ≤ maxTextLen
  eventType : byteLength e.eventType ≤ maxTextLen
  how : ∀ how ∈ e.how, byteLength how ≤ maxTextLen
  callsign : ∀ callsign ∈ e.callsign, byteLength callsign ≤ maxTextLen

structure LocationRecord.Short (r : LocationRecord) : Prop where
  uid : byteLength r.uid ≤ maxTextLen
  eventType : byteLength r.eventType ≤ maxTextLen
  how : ∀ how ∈ r.how, byteLength how ≤ maxTextLen
  callsign : ∀ callsign ∈ r.callsign, byteLength callsign ≤ maxTextLen

structure DiagnosticRecord.Short (r : DiagnosticRecord) : Prop where
  uid : byteLength r.uid ≤ maxTextLen
  eventType : byteLength r.eventType ≤ maxTextLen
  callsign : ∀ callsign ∈ r.callsign, byteLength callsign ≤ maxTextLen

/-- The stores are within their bounds, and so is every text in them. -/
structure Stores.Within (maxLocations maxRecords : Nat) (s : Stores) : Prop where
  locations : s.location.records.keys.length ≤ maxLocations
  located : ∀ k r, s.location.records.lookup k = some r → byteLength k.2 ≤ maxTextLen ∧ r.Short
  records : s.diagnostics.records.length ≤ maxRecords
  recorded : ∀ r ∈ s.diagnostics.records, r.Short
  seenCommands : s.diagnostics.seenCommands.keys.length ≤ defaultMaxSeenCommands
  seenOrder : s.diagnostics.seenOrder.length ≤ defaultMaxSeenCommands
  ids : ∀ id, id ∈ s.diagnostics.seenCommands ∨ id ∈ s.diagnostics.seenOrder →
    byteLength id ≤ maxCommandIdLen

/-! ### What is measured -/

theorem CotReader.copies_short {a b : Option String} (copied : Option.Rel CotReader.Copies a b) :
    ∀ text ∈ b, byteLength text ≤ maxTextLen := by
  intro text kept
  cases copied with
  | none => cases kept
  | some copies =>
    obtain rfl := Option.some.inj kept
    exact copies.short

theorem CotReader.parse_short {reader : CotReader} {payload : List UInt8} {e : CotEvent}
    (parsed : reader.parseCotPayload payload = .ok e) : e.Short := by
  obtain ⟨_, _, _, _, described⟩ := (reader.parseCotPayload_eq_ok payload e).mp parsed
  obtain ⟨_, _, uid⟩ := described.uid
  obtain ⟨_, _, eventType⟩ := described.eventType
  exact ⟨uid.short, eventType.short.trans (by decide), copies_short described.how,
    copies_short described.callsign⟩

theorem DiagnosticCommand.parse_id {payload : List UInt8} {command : DiagnosticCommand}
    (parsed : parse payload = .ok command) : byteLength command.id ≤ maxCommandIdLen :=
  (validateId_ok (parse_valid parsed).id_ok).2.1

/-! ### The two stores -/

namespace LocationState

/-- The store is within its bound, and every text in it has been measured. -/
structure Limited (bound : Nat) (s : LocationState) : Prop where
  bounded : Bounded s
  limit : s.maxRecords = bound
  short : ∀ k r, s.records.lookup k = some r → byteLength k.2 ≤ maxTextLen ∧ r.Short

variable {bound : Nat} {s : LocationState}

theorem Limited.new (maxRecords retention : Nat) :
    Limited (max maxRecords 1) (LocationState.new maxRecords retention) :=
  ⟨Bounded.new maxRecords retention, rfl, fun _ _ found => by cases found⟩

theorem Limited.len (limited : Limited bound s) (now : SystemTime) : Limited bound (s.len now).1 :=
  ⟨limited.bounded.prune now, limited.limit, fun k r found => limited.short k r (prune_lookup.mp found).1⟩

theorem Limited.record (limited : Limited bound s) (it : IterOrder) (source : PacketSource)
    (channelPort : UInt16) {event : CotEvent} (short : event.Short) (updatedAt now : SystemTime) :
    Limited bound (s.record it source channelPort event updatedAt now).1 := by
  refine ⟨limited.bounded.record .., (record_limits ..).1.trans limited.limit, ?_⟩
  intro k r found
  cases located : event.point with
  | none =>
    rw [record_none located] at found
    exact limited.short k r found
  | some point =>
    rw [record_some located] at found
    have kept := dropOldest_lookup found
    rw [HashMap.lookup_insert_eq] at kept
    split at kept
    · rename_i same
      obtain rfl := Option.some.inj kept
      rw [same]
      exact ⟨short.uid, short.uid, short.eventType, short.how, short.callsign⟩
    · exact limited.short k r (prune_lookup.mp kept).1

end LocationState

namespace DiagnosticState

/-- Records and ids are within their bounds, and every text in them has been measured. -/
structure Limited (bound : Nat) (s : DiagnosticState) : Prop where
  ordered : Ordered s
  limit : s.maxRecords = bound
  records : s.records.length ≤ bound
  recorded : ∀ r ∈ s.records, r.Short
  seenOrder : s.seenOrder.length ≤ defaultMaxSeenCommands
  ids : ∀ id ∈ s.seenOrder, byteLength id ≤ maxCommandIdLen

/-- The texts that an operation brings with it have been measured. -/
def Op.Measured : Op → Prop
  | .applyOnce command _ => byteLength command.id ≤ maxCommandIdLen
  | .recordRemote _ _ event _ => event.Short
  | .status _ | .recent _ _ | .pruneExpired _ => True

section Operations

variable {bound : Nat} {now : SystemTime} {s : DiagnosticState} {command : DiagnosticCommand}

theorem Limited.new (maxRecords : Nat) :
    Limited (max maxRecords 1) (DiagnosticState.new maxRecords) where
  ordered := Ordered.new maxRecords
  limit := rfl
  records := Nat.zero_le _
  recorded _ member := by cases member
  seenOrder := Nat.zero_le _
  ids _ member := by cases member

theorem Limited.prune (limited : Limited bound s) (now : SystemTime) : Limited bound (s.prune now) := by
  obtain ⟨n, dropped⟩ := prune_seenOrder now s
  have part : (s.prune now).records.Sublist s.records := by
    rw [prune_records]
    split
    · exact List.nil_sublist _
    · exact List.Sublist.refl _
  refine ⟨limited.ordered.prune now, prune_maxRecords.trans limited.limit,
    part.length_le.trans limited.records, fun r member => limited.recorded r (part.subset member), ?_, ?_⟩
  · exact prune_length.trans limited.seenOrder
  · intro id member
    rw [dropped] at member
    exact limited.ids id (List.mem_of_mem_drop member)

theorem Limited.accept (limited : Limited bound s) (short : byteLength command.id ≤ maxCommandIdLen)
    (fresh : (s.applyOnceAt command now).2 = true) : Limited bound (s.applyOnceAt command now).1 := by
  have pruned := limited.prune now
  obtain ⟨empty, same, _⟩ := applyOnceAt_fresh fresh
  refine ⟨limited.ordered.accept fresh, same.trans limited.limit, ?_, ?_, ?_, ?_⟩
  · rw [empty]
    exact Nat.zero_le _
  · intro r member
    rw [empty] at member
    cases member
  · rw [← limited.ordered.capacity]
    exact limited.ordered.accept_length fresh
  · intro id member
    rw [limited.ordered.accept_seenOrder fresh] at member
    rcases List.mem_append.mp (List.mem_of_mem_drop member) with before | last
    · exact pruned.ids id before
    · rwa [List.mem_singleton.mp last]

theorem Limited.applyOnceAt (limited : Limited bound s)
    (short : byteLength command.id ≤ maxCommandIdLen) (now : SystemTime) :
    Limited bound (s.applyOnceAt command now).1 := by
  cases fresh : (s.applyOnceAt command now).2 with
  | true => exact limited.accept short fresh
  | false =>
    rw [applyOnceAt_rejected fresh]
    exact limited.prune now

theorem Limited.recordRemoteAt (limited : Limited bound s) (peerHash : String)
    (channelPort : UInt16) {event : CotEvent} (short : event.Short) (now : SystemTime) :
    Limited bound (s.recordRemoteAt peerHash channelPort event now).1 := by
  have pruned := limited.prune now
  unfold DiagnosticState.recordRemoteAt
  dsimp only
  split
  · refine ⟨⟨pruned.ordered.queued, pruned.ordered.capacity⟩, pruned.limit, ?_, ?_, pruned.seenOrder,
      pruned.ids⟩
    · dsimp only
      rw [List.rtake_eq_reverse_take_reverse, List.length_reverse, pruned.limit]
      exact List.length_take_le _ _
    · intro r member
      rw [List.rtake_eq_reverse_take_reverse, List.mem_reverse] at member
      have kept := List.mem_reverse.mp (List.mem_of_mem_take member)
      rcases List.mem_append.mp kept with before | last
      · exact pruned.recorded r before
      · rw [List.mem_singleton.mp last]
        exact ⟨short.uid, short.eventType, short.callsign⟩
  · exact pruned

theorem Limited.step (limited : Limited bound s) {op : Op} (measured : op.Measured) :
    Limited bound (machine.step s op).1 := by
  cases op with
  | applyOnce command now => exact limited.applyOnceAt measured now
  | recordRemote peerHash channelPort event now =>
    exact limited.recordRemoteAt peerHash channelPort measured now
  | status now => exact limited.prune now
  | recent limit now => exact limited.prune now
  | pruneExpired now => exact limited.prune now

end Operations

end DiagnosticState

/-! ### The tasks between the stores -/

/-- The event that a task has parsed and not yet handed to the stores. -/
def Phase.event : Phase → Option CotEvent
  | .diagnosing _ event _ | .locating _ event => some event
  | .idle | .counting _ | .forwarding _ | .closing _ => none

/-- Commands come from payloads, and only the tasks of the channels record events. -/
def BridgeEvent.Served {ι : Type} : BridgeEvent ι → Prop
  | .diagnostics (.applyOnce command _) => ∃ payload, DiagnosticCommand.parse payload = .ok command
  | .diagnostics (.recordRemote ..) => False
  | _ => True

namespace Bridge

variable {ι : Type} {env : BridgeEnv ι} {maxLocations maxRecords : Nat}

structure Limited (maxLocations maxRecords : Nat) (s : Bridge ι) : Prop where
  location : s.stores.location.Limited maxLocations
  diagnostics : s.stores.diagnostics.Limited maxRecords
  parsed : ∀ n source, ∀ event ∈ (s.lane n source).phase.event, event.Short

theorem Limited.within {s : Bridge ι} (limited : Limited maxLocations maxRecords s) :
    s.stores.Within maxLocations maxRecords where
  locations := limited.location.limit ▸ limited.location.bounded.within
  located := limited.location.short
  records := limited.diagnostics.records
  recorded := limited.diagnostics.recorded
  seenCommands := limited.diagnostics.ordered.queued.length.trans_le limited.diagnostics.seenOrder
  seenOrder := limited.diagnostics.seenOrder
  ids := by
    intro id known
    rw [← limited.diagnostics.ordered.queued.mem, or_self] at known
    exact limited.diagnostics.ids id known

/-- A task keeps the event it has parsed until it lets go of it. -/
theorem advance_event {n : ι} {source : PacketSource} {updatedAt now : SystemTime} {sent : Bool}
    {lane lane' : Lane} {stores stores' : Stores}
    (advanced : advance env n source updatedAt now sent lane stores = some (lane', stores')) :
    ∀ event ∈ lane'.phase.event, event ∈ lane.phase.event := by
  unfold advance at advanced
  intro event kept
  cases phase : lane.phase with
  | idle | closing => rw [phase] at advanced; cases advanced
  | diagnosing | counting | forwarding =>
    rw [phase] at advanced
    obtain ⟨rfl, rfl⟩ := Prod.mk.inj (Option.some.inj advanced)
    exact kept
  | locating data located =>
    rw [phase] at advanced
    obtain ⟨rfl, rfl⟩ := Prod.mk.inj (Option.some.inj advanced)
    dsimp only at kept
    split at kept <;> cases kept

theorem advance_stores {n : ι} {source : PacketSource} {updatedAt now : SystemTime} {sent : Bool}
    {lane lane' : Lane} {stores stores' : Stores}
    (advanced : advance env n source updatedAt now sent lane stores = some (lane', stores'))
    (short : ∀ event ∈ lane.phase.event, event.Short) (location : stores.location.Limited maxLocations)
    (diagnostics : stores.diagnostics.Limited maxRecords) :
    stores'.location.Limited maxLocations ∧ stores'.diagnostics.Limited maxRecords := by
  unfold advance at advanced
  cases phase : lane.phase with
  | idle | closing => rw [phase] at advanced; cases advanced
  | diagnosing data event peerHash =>
    rw [phase] at advanced short
    obtain ⟨rfl, rfl⟩ := Prod.mk.inj (Option.some.inj advanced)
    exact ⟨location, diagnostics.recordRemoteAt peerHash _ (short event rfl) now⟩
  | locating data event =>
    rw [phase] at advanced short
    obtain ⟨rfl, rfl⟩ := Prod.mk.inj (Option.some.inj advanced)
    exact ⟨location.record _ _ _ (short event rfl) _ _, diagnostics⟩
  | counting data =>
    rw [phase] at advanced
    obtain ⟨rfl, rfl⟩ := Prod.mk.inj (Option.some.inj advanced)
    exact ⟨location.len now, diagnostics⟩
  | forwarding data =>
    rw [phase] at advanced
    obtain ⟨rfl, rfl⟩ := Prod.mk.inj (Option.some.inj advanced)
    exact ⟨location, diagnostics⟩

theorem lane_event_short {source : PacketSource} {lane lane' : Lane} {input : Option (List UInt8)}
    (short : ∀ event ∈ lane.phase.event, event.Short) (step : LaneStep env source lane input lane') :
    ∀ event ∈ lane'.phase.event, event.Short := by
  cases step with
  | stay => exact short
  | arrive idle data remotePeerHash =>
    unfold acceptPayload
    cases parsed : env.reader.parseCotPayload data with
    | ok event =>
      have measured := CotReader.parse_short parsed
      cases remotePeerHash <;> simpa [Phase.event] using measured
    | error err => cases env.allowUnvalidatedPayloads <;> simp [Phase.event]
  | advance outcome advanced => exact fun event kept => short event (advance_event advanced event kept)
  | @close quiet phase free =>
    intro event kept
    cases phase with
    | idle | closing => cases kept
    | diagnosing | locating | counting | forwarding => cases free

variable [DecidableEq ι]

/-- Whose turn it is at the stores: no one's, a task's, or a command's or a query's. -/
theorem step_stores {s s' : Bridge ι} {e : BridgeEvent ι} (stepped : s.step env e = some s') :
    s'.stores = s.stores ∨
    (∃ n source updatedAt now sent lane',
      advance env n source updatedAt now sent (s.lane n source) s.stores = some (lane', s'.stores)) ∨
    ∃ op, e = .diagnostics op ∧ s'.stores =
      { s.stores with diagnostics := (DiagnosticState.machine.step s.stores.diagnostics op).1 } := by
  cases e with
  | udp n data =>
    unfold step at stepped
    dsimp only at stepped
    split at stepped
    · obtain rfl := Option.some.inj stepped
      exact Or.inl rfl
    · cases stepped
  | link n source event =>
    unfold step at stepped
    dsimp only at stepped
    split at stepped
    · split at stepped
      · obtain rfl := Option.some.inj stepped
        exact Or.inl rfl
      · cases event <;> obtain rfl := Option.some.inj stepped <;> exact Or.inl rfl
    · cases stepped
  | advance n source updatedAt now sent =>
    obtain ⟨⟨lane, stores⟩, advanced, rfl⟩ := Option.map_eq_some_iff.mp stepped
    exact Or.inr (Or.inl ⟨_, _, _, _, _, _, advanced⟩)
  | close n =>
    unfold step at stepped
    dsimp only at stepped
    split at stepped
    · obtain rfl := Option.some.inj stepped
      exact Or.inl rfl
    · cases stepped
  | announce n appData peer =>
    unfold step at stepped
    dsimp only at stepped
    split at stepped
    · obtain rfl := Option.some.inj stepped
      exact Or.inl rfl
    · split at stepped <;> obtain rfl := Option.some.inj stepped <;> exact Or.inl rfl
  | diagnostics op =>
    obtain rfl := Option.some.inj stepped
    exact Or.inr (Or.inr ⟨op, rfl, rfl⟩)

theorem Limited.step {s s' : Bridge ι} {e : BridgeEvent ι}
    (limited : Limited maxLocations maxRecords s) (served : e.Served)
    (stepped : s.step env e = some s') : Limited maxLocations maxRecords s' := by
  have parsed : ∀ n source, ∀ event ∈ (s'.lane n source).phase.event, event.Short :=
    fun n source => lane_event_short (limited.parsed n source) (step_lane stepped n source)
  rcases step_stores stepped with same | ⟨n, source, _, _, _, _, advanced⟩ | ⟨op, rfl, same⟩
  · exact ⟨same ▸ limited.location, same ▸ limited.diagnostics, parsed⟩
  · obtain ⟨location, diagnostics⟩ :=
      advance_stores advanced (limited.parsed n source) limited.location limited.diagnostics
    exact ⟨location, diagnostics, parsed⟩
  · have measured : op.Measured := by
      cases op with
      | applyOnce command now =>
        obtain ⟨payload, read⟩ := served
        exact DiagnosticCommand.parse_id read
      | recordRemote => exact served.elim
      | status | recent | pruneExpired => trivial
    refine ⟨?_, ?_, parsed⟩
    · rw [same]
      exact limited.location
    · rw [same]
      exact limited.diagnostics.step measured

theorem Limited.run {events : List (BridgeEvent ι)} {s s' : Bridge ι}
    (limited : Limited maxLocations maxRecords s) (served : ∀ e ∈ events, e.Served)
    (ran : s.run env events = some s') : Limited maxLocations maxRecords s' := by
  induction events generalizing s with
  | nil =>
    obtain rfl := Option.some.inj ran
    exact limited
  | cons e rest ih =>
    obtain ⟨next, stepped, ran⟩ := Option.bind_eq_some_iff.mp ran
    obtain ⟨here, later⟩ := List.forall_mem_cons.mp served
    exact ih (limited.step here stepped) later ran

end Bridge

/-- Whatever the channels are sent, in whatever order their tasks come to the stores and whatever the
clock shows there, the stores stay within their bounds. -/
theorem run_stores_within {ι : Type} [DecidableEq ι] (env : BridgeEnv ι)
    (maxLocations retention maxRecords : Nat) (events : List (BridgeEvent ι))
    (served : ∀ e ∈ events, e.Served) (s : Bridge ι)
    (ran : (Bridge.start ⟨.new maxLocations retention, .new maxRecords⟩).run env events = some s) :
    s.stores.Within (max maxLocations 1) (max maxRecords 1) := by
  have start : @Bridge.Limited ι (max maxLocations 1) (max maxRecords 1)
      (Bridge.start ⟨.new maxLocations retention, .new maxRecords⟩) :=
    ⟨LocationState.Limited.new maxLocations retention, DiagnosticState.Limited.new maxRecords,
      fun _ _ _ kept => by cases kept⟩
  exact (start.run served ran).within

theorem run_stores_within_sample :
    ∃ s, (Bridge.start sampleStores).run sampleBridge sampleEvents = some s ∧
      s.stores.Within 4 4 ∧ s.stores.diagnostics.records.length = 1 := by
  have runs : ∃ s, (Bridge.start sampleStores).run sampleBridge sampleEvents = some s ∧
      s.stores.diagnostics.records.length = 1 := ⟨_, rfl, by decide⟩
  have valid : DiagnosticCommand.Valid ⟨"c", .enable 60⟩ := by
    refine ⟨by decide, ?_⟩
    rintro seconds ⟨⟩
    decide
  have served : ∀ e ∈ sampleEvents, e.Served := by
    simp only [sampleEvents, List.forall_mem_cons, List.not_mem_nil, false_imp_iff, implies_true]
    exact ⟨trivial, trivial, trivial, trivial, ⟨_, DiagnosticCommand.parse_encode valid⟩, trivial,
      trivial, trivial, trivial⟩
  obtain ⟨s, ran, one⟩ := runs
  exact ⟨s, ran, run_stores_within sampleBridge 4 defaultRecordRetention 4 sampleEvents served s ran,
    one⟩

end Kaonic.Plugin
