import Kaonic.Base.Broadcast
import Kaonic.Base.Recency
import Kaonic.Gateway.LinkTracker

/-!
# The tracker and its tasks

Four tasks hand what they receive of the transport to the tracker, and the radio interface reports
its errors to it. They come to its lock in any order, and each task may be too late for some of what
the transport sends.
-/

namespace Kaonic.Gateway

open Kaonic.Net (AddressHash)

inductive InterfaceErrorKind where
  | rxLdpcDecode
  | rxReassembly
  | rxDeserialize
  | txLdpcEncode
  | txTransmit
  | txSerialize
  deriving DecidableEq

def interfaceErrorLabel : InterfaceErrorKind → String
  | .rxLdpcDecode => "rx ldpc decode"
  | .rxReassembly => "rx reassembly"
  | .rxDeserialize => "rx deserialize"
  | .txLdpcEncode => "tx ldpc encode"
  | .txTransmit => "tx transmit"
  | .txSerialize => "tx serialize"

/-- The counters wrap around. -/
structure ReticulumInterfaceStatsDto where
  rxErrors : UInt64 := 0
  txErrors : UInt64 := 0
  rxLdpcErrors : UInt64 := 0
  rxReassemblyErrors : UInt64 := 0
  rxDeserializeErrors : UInt64 := 0
  txLdpcErrors : UInt64 := 0
  txTransmitErrors : UInt64 := 0
  txSerializeErrors : UInt64 := 0
  deriving DecidableEq

structure ReticulumSnapshotDto where
  interfaceStats : ReticulumInterfaceStatsDto
  incomingLinks : List ReticulumLinkDto
  outgoingLinks : List ReticulumLinkDto
  events : List ReticulumEventDto

/-- The counters of `record_interface_error`. -/
def ReticulumInterfaceStatsDto.count (stats : ReticulumInterfaceStatsDto) :
    InterfaceErrorKind → ReticulumInterfaceStatsDto
  | .rxLdpcDecode =>
    { stats with rxErrors := stats.rxErrors + 1, rxLdpcErrors := stats.rxLdpcErrors + 1 }
  | .rxReassembly =>
    { stats with
      rxErrors := stats.rxErrors + 1
      rxReassemblyErrors := stats.rxReassemblyErrors + 1 }
  | .rxDeserialize =>
    { stats with
      rxErrors := stats.rxErrors + 1
      rxDeserializeErrors := stats.rxDeserializeErrors + 1 }
  | .txLdpcEncode =>
    { stats with txErrors := stats.txErrors + 1, txLdpcErrors := stats.txLdpcErrors + 1 }
  | .txTransmit =>
    { stats with txErrors := stats.txErrors + 1, txTransmitErrors := stats.txTransmitErrors + 1 }
  | .txSerialize =>
    { stats with txErrors := stats.txErrors + 1, txSerializeErrors := stats.txSerializeErrors + 1 }

/-- `GatewayReticulumState`: the interface statistics beside links and events. -/
structure Tracker extends GatewayReticulum where
  interfaceStats : ReticulumInterfaceStatsDto := {}

/-- Links are listed with the latest first, and by their ids where they were seen in one second. -/
def listedBefore (a b : ReticulumLinkDto) : Bool :=
  b.lastSeenTs < a.lastSeenTs || a.lastSeenTs == b.lastSeenTs && decide (a.id ≤ b.id)

def sortedLinks (it : HashMap.IterOrder String ReticulumLinkDto)
    (links : HashMap String ReticulumLinkDto) : List ReticulumLinkDto :=
  ((it.order links).map Prod.snd).mergeSort listedBefore

def Tracker.snapshot (it : HashMap.IterOrder String ReticulumLinkDto) (s : Tracker) :
    ReticulumSnapshotDto where
  interfaceStats := s.interfaceStats
  incomingLinks := sortedLinks it s.incomingLinks
  outgoingLinks := sortedLinks it s.outgoingLinks
  events := s.events

/-! ### The tasks -/

/-- What the transport tells of, as far as the tracker reads it. -/
inductive TransportEvent where
  | link (incoming : Bool) (event : LinkEventData)
  | data (destination : AddressHash) (payload : List UInt8)
  | announce (destination : AddressHash) (appData : List UInt8)

/-- The channels of the transport that `attach` subscribes to. -/
inductive Feed where
  | link (incoming : Bool)
  | data
  | announce
  deriving DecidableEq

def TransportEvent.feed : TransportEvent → Feed
  | .link incoming _ => .link incoming
  | .data .. => .data
  | .announce .. => .announce

/-- One hold of the tracker's lock that writes. -/
inductive Commit where
  | link (h : GatewayReticulum.Handling)
  | data (ts : Nat) (destination : AddressHash) (payload : List UInt8)
  | announce (ts : Nat) (destination : AddressHash) (appData : List UInt8)
  | error (ts : Nat) (module : Nat) (kind : InterfaceErrorKind)

namespace Commit

def note : Commit → ReticulumEventDto
  | .link h => h.note
  | .data ts destination payload =>
    { ts
      direction := "transport"
      kind := "received-data"
      linkId := ""
      destination := destination.toHexString
      details := toString payload.length ++ " B" }
  | .announce ts destination appData =>
    { ts
      direction := "transport"
      kind := "announce"
      linkId := ""
      destination := destination.toHexString
      details := "app data " ++ toString appData.length ++ " B" }
  | .error ts module kind =>
    { ts
      direction := "interface"
      kind := "error"
      linkId := ""
      destination := ""
      details := "module " ++ toString module ++ ": " ++ interfaceErrorLabel kind }

def apply (s : Tracker) (c : Commit) : Tracker :=
  match c with
  | .link h => { s with toGatewayReticulum := s.toGatewayReticulum.handleLinkEvent h }
  | .data .. | .announce .. => { s with events := pushEvent s.events c.note }
  | .error _ _ kind =>
    { s with events := pushEvent s.events c.note, interfaceStats := s.interfaceStats.count kind }

/-- The event of the transport that has been handled. -/
def event : Commit → Option TransportEvent
  | .link h => some (.link h.incoming h.event)
  | .data _ destination payload => some (.data destination payload)
  | .announce _ destination appData => some (.announce destination appData)
  | .error .. => none

def handling : Commit → Option GatewayReticulum.Handling
  | .link h => some h
  | _ => none

def error? : Commit → Option InterfaceErrorKind
  | .error _ _ kind => some kind
  | _ => none

end Commit

/-- Where the task of a feed stands. A link event is dated when it is received. -/
inductive TrackerTask where
  | idle
  | received (event : TransportEvent) (ts : Nat)
  | resolved (h : GatewayReticulum.Handling)

/-- The event that the task has not handed on yet. -/
def TrackerTask.pending : TrackerTask → List TransportEvent
  | .idle => []
  | .received event _ => [event]
  | .resolved h => [.link h.incoming h.event]

structure Tracking where
  tracker : Tracker := {}
  sent : Feed → List TransportEvent := fun _ => []
  receiver : Feed → Broadcast.Receiver TransportEvent := fun _ => Broadcast.subscribe []
  task : Feed → TrackerTask := fun _ => .idle
  /-- The holds of the lock so far. -/
  log : List Commit := []

inductive TrackingEvent where
  | send (event : TransportEvent)
  | recv (feed : Feed) (ts : Nat)
  | resolve (feed : Feed) (table : LinkTable)
  | hand (feed : Feed) (ts : Nat)
  | error (ts : Nat) (module : Nat) (kind : InterfaceErrorKind)

namespace Tracking

def commit (s : Tracking) (c : Commit) : Tracking :=
  { s with tracker := c.apply s.tracker, log := s.log ++ [c] }

def setTask (s : Tracking) (feed : Feed) (task : TrackerTask) : Tracking :=
  { s with task := Function.update s.task feed task }

/-- The task after a call of `recv`: it has read one more value, or goes on waiting. -/
def afterRecv (before after : List TransportEvent) (ts : Nat) : TrackerTask :=
  match after.drop before.length with
  | event :: _ => .received event ts
  | [] => .idle

def step (poll : Broadcast.Poll TransportEvent) (capacity : Feed → Nat) (s : Tracking) :
    TrackingEvent → Option Tracking
  | .send event => some { s with
      sent := Function.update s.sent event.feed (s.sent event.feed ++ [event]) }
  | .recv feed ts =>
    match s.task feed with
    | .idle =>
      let r := Broadcast.recv poll (capacity feed) (s.sent feed) (s.receiver feed)
      some ({ s with receiver := Function.update s.receiver feed r }.setTask feed
        (afterRecv (s.receiver feed).received r.received ts))
    | _ => none
  | .resolve feed table =>
    match s.task feed with
    | .received (.link incoming event) ts =>
      some (s.setTask feed (.resolved ⟨incoming, event, table, ts⟩))
    | _ => none
  | .hand feed ts =>
    match s.task feed with
    | .resolved h => some ((s.setTask feed .idle).commit (.link h))
    | .received (.data destination payload) _ =>
      some ((s.setTask feed .idle).commit (.data ts destination payload))
    | .received (.announce destination appData) _ =>
      some ((s.setTask feed .idle).commit (.announce ts destination appData))
    | _ => none
  | .error ts module kind => some (s.commit (.error ts module kind))

def run (poll : Broadcast.Poll TransportEvent) (capacity : Feed → Nat) (s : Tracking)
    (events : List TrackingEvent) : Option Tracking :=
  events.foldlM (step poll capacity) s

end Tracking

/-! ### What the log says -/

/-- The tracker that the holds of its lock make, one after the other. -/
def replay (log : List Commit) : Tracker := log.foldl Commit.apply {}

theorem replay_concat (log : List Commit) (c : Commit) :
    replay (log ++ [c]) = c.apply (replay log) := by
  rw [replay, List.foldl_append]
  rfl

theorem apply_events (s : Tracker) (c : Commit) :
    (c.apply s).events = pushEvent s.events c.note := by
  cases c with
  | link h =>
    obtain ⟨incoming, event, table, ts⟩ := h
    cases incoming <;> rfl
  | data | announce | error => rfl

/-- The events shown are the last ones, the latest first. -/
theorem replay_events (log : List Commit) :
    (replay log).events = (log.map Commit.note).reverse.take reticulumEventBufSize := by
  induction log using List.reverseRecOn with
  | nil => rfl
  | append_singleton log c ih =>
    rw [replay_concat, apply_events, ih, pushEvent, Recency.take_cons_take, List.map_append,
      List.reverse_append]
    rfl

/-- Links and statistics do not look at the events, nor at each other. -/
theorem apply_links (s : Tracker) (c : Commit) (incoming : Bool) :
    (c.apply s).links incoming =
      match c with
      | .link h => (s.toGatewayReticulum.handleLinkEvent h).links incoming
      | _ => s.links incoming := by
  cases c with
  | link h => rfl
  | data | announce | error => cases incoming <;> rfl

theorem handleLinkEvent_links {s t : GatewayReticulum} (same : ∀ incoming, s.links incoming =
    t.links incoming) (h : GatewayReticulum.Handling) (incoming : Bool) :
    (s.handleLinkEvent h).links incoming = (t.handleLinkEvent h).links incoming := by
  change (s.setLinks h.incoming _).links incoming = (t.setLinks h.incoming _).links incoming
  rw [GatewayReticulum.links_setLinks, GatewayReticulum.links_setLinks, same, same]

/-- The links are those that the link events alone make. -/
theorem replay_links (log : List Commit) (incoming : Bool) : (replay log).links incoming =
    (GatewayReticulum.run {} (log.filterMap Commit.handling)).links incoming := by
  induction log using List.reverseRecOn generalizing incoming with
  | nil => rfl
  | append_singleton log c ih =>
    rw [replay_concat, apply_links, List.filterMap_append]
    cases c with
    | link h =>
      rw [GatewayReticulum.run, List.foldl_append]
      exact handleLinkEvent_links ih h incoming
    | data | announce | error =>
      rw [ih, List.filterMap_cons_none rfl, List.filterMap_nil, List.append_nil]

def ReticulumInterfaceStatsDto.counter (stats : ReticulumInterfaceStatsDto) :
    InterfaceErrorKind → UInt64
  | .rxLdpcDecode => stats.rxLdpcErrors
  | .rxReassembly => stats.rxReassemblyErrors
  | .rxDeserialize => stats.rxDeserializeErrors
  | .txLdpcEncode => stats.txLdpcErrors
  | .txTransmit => stats.txTransmitErrors
  | .txSerialize => stats.txSerializeErrors

theorem counter_count (stats : ReticulumInterfaceStatsDto) (kind other : InterfaceErrorKind) :
    (stats.count kind).counter other = stats.counter other + if kind = other then 1 else 0 := by
  cases kind <;> cases other <;>
    simp [ReticulumInterfaceStatsDto.count, ReticulumInterfaceStatsDto.counter]

/-- The counters of the kinds count them, and the other two sum up one side each, all modulo
2^64. -/
structure Tallies (stats : ReticulumInterfaceStatsDto) (errors : List InterfaceErrorKind) :
    Prop where
  counters : ∀ kind, stats.counter kind = .ofNat (errors.count kind)
  rx : stats.rxErrors = stats.rxLdpcErrors + stats.rxReassemblyErrors + stats.rxDeserializeErrors
  tx : stats.txErrors = stats.txLdpcErrors + stats.txTransmitErrors + stats.txSerializeErrors

theorem Tallies.count {stats : ReticulumInterfaceStatsDto} {errors : List InterfaceErrorKind}
    (tallies : Tallies stats errors) (kind : InterfaceErrorKind) :
    Tallies (stats.count kind) (errors ++ [kind]) := by
  refine ⟨?_, ?_, ?_⟩
  · intro other
    rw [counter_count, tallies.counters, List.count_append, List.count_singleton,
      UInt64.ofNat_add]
    by_cases same : kind = other <;> simp [same]
  · have before := tallies.rx
    cases kind <;> dsimp only [ReticulumInterfaceStatsDto.count] <;> rw [before] <;> ac_rfl
  · have before := tallies.tx
    cases kind <;> dsimp only [ReticulumInterfaceStatsDto.count] <;> rw [before] <;> ac_rfl

theorem replay_stats (log : List Commit) :
    Tallies (replay log).interfaceStats (log.filterMap Commit.error?) := by
  induction log using List.reverseRecOn with
  | nil => exact ⟨fun kind => by cases kind <;> rfl, rfl, rfl⟩
  | append_singleton log c ih =>
    rw [replay_concat, List.filterMap_append]
    cases c with
    | error ts module kind => exact ih.count kind
    | link | data | announce =>
      rw [List.filterMap_cons_none rfl, List.filterMap_nil, List.append_nil]
      exact ih

/-! ### The order of the links -/

section Sorting

variable {a b c : ReticulumLinkDto} {it it' : HashMap.IterOrder String ReticulumLinkDto}
  {links : HashMap String ReticulumLinkDto}

theorem listedBefore_iff : listedBefore a b = true ↔
    b.lastSeenTs < a.lastSeenTs ∨ a.lastSeenTs = b.lastSeenTs ∧ a.id ≤ b.id := by
  simp [listedBefore]

theorem listedBefore_trans (ab : listedBefore a b = true) (bc : listedBefore b c = true) :
    listedBefore a c = true := by
  rw [listedBefore_iff] at *
  rcases ab with ab | ⟨same, ab⟩
  · rcases bc with bc | ⟨same, _⟩
    · exact Or.inl (bc.trans ab)
    · exact Or.inl (same ▸ ab)
  · rcases bc with bc | ⟨same', bc⟩
    · exact Or.inl (same ▸ bc)
    · exact Or.inr ⟨same.trans same', ab.trans bc⟩

theorem listedBefore_total (a b : ReticulumLinkDto) :
    (listedBefore a b || listedBefore b a) = true := by
  rw [Bool.or_eq_true, listedBefore_iff, listedBefore_iff]
  rcases lt_trichotomy a.lastSeenTs b.lastSeenTs with less | same | more
  · exact Or.inr (Or.inl less)
  · rcases le_total a.id b.id with le | le
    · exact Or.inl (Or.inr ⟨same, le⟩)
    · exact Or.inr (Or.inr ⟨same.symm, le⟩)
  · exact Or.inl (Or.inl more)

theorem listedBefore_antisymm (ab : listedBefore a b = true) (ba : listedBefore b a = true) :
    a.id = b.id := by
  rw [listedBefore_iff] at *
  rcases ab with ab | ⟨same, ab⟩
  · rcases ba with ba | ⟨same, _⟩
    · exact (lt_asymm ab ba).elim
    · exact (ab.ne same).elim
  · rcases ba with ba | ⟨_, ba⟩
    · exact (ba.ne same).elim
    · exact le_antisymm ab ba

theorem sortedLinks_ordered :
    (sortedLinks it links).Pairwise fun a b => listedBefore a b = true := by
  apply List.pairwise_mergeSort
  · exact fun a b c => listedBefore_trans
  · exact listedBefore_total

/-- Every entry is filed under its own id. -/
def Keyed (links : HashMap String ReticulumLinkDto) : Prop :=
  ∀ key dto, links.lookup key = some dto → dto.id = key

theorem mem_sortedLinks (keyed : Keyed links) {dto : ReticulumLinkDto} :
    dto ∈ sortedLinks it links ↔ links.lookup dto.id = some dto := by
  rw [sortedLinks, List.mem_mergeSort, List.mem_map]
  constructor
  · rintro ⟨⟨key, _⟩, member, rfl⟩
    have found := it.mem_order.mp member
    rwa [← keyed _ _ found] at found
  · exact fun found => ⟨(dto.id, dto), it.mem_order.mpr found, rfl⟩

/-- The order in which the map is gone through does not show. -/
theorem sortedLinks_unique (keyed : Keyed links) :
    sortedLinks it links = sortedLinks it' links := by
  have same : ((it.order links).map Prod.snd).Perm ((it'.order links).map Prod.snd) :=
    ((it.perm links).trans (it'.perm links).symm).map _
  refine List.Perm.eq_of_pairwise ?_ sortedLinks_ordered sortedLinks_ordered
    ((List.mergeSort_perm _ _).trans (same.trans (List.mergeSort_perm _ _).symm))
  intro a b listed listed' ab ba
  have here := (mem_sortedLinks keyed).mp listed
  have there := (mem_sortedLinks keyed).mp listed'
  rw [listedBefore_antisymm ab ba, there] at here
  exact (Option.some.inj here).symm

/-- Each entry is listed once. -/
theorem sortedLinks_nodup (keyed : Keyed links) :
    ((sortedLinks it links).map ReticulumLinkDto.id).Nodup := by
  have sorted := (List.mergeSort_perm ((it.order links).map Prod.snd) listedBefore).map
    ReticulumLinkDto.id
  have keys : ((it.order links).map Prod.snd).map ReticulumLinkDto.id =
      (it.order links).map Prod.fst := by
    rw [List.map_map]
    refine List.map_congr_left ?_
    intro ⟨key, dto⟩ member
    exact keyed key dto (it.mem_order.mp member)
  have distinct := ((it.perm links).map Prod.fst).nodup_iff.mpr (HashMap.toList_keys_nodup links)
  rw [← keys] at distinct
  exact sorted.nodup_iff.mpr distinct

theorem find_sortedLinks (keyed : Keyed links) (key : String) :
    (sortedLinks it links).find? (fun dto => dto.id = key) = links.lookup key := by
  cases found : links.lookup key with
  | none =>
    rw [List.find?_eq_none]
    intro dto member same
    rw [mem_sortedLinks keyed, of_decide_eq_true same, found] at member
    cases member
  | some dto =>
    obtain rfl := keyed key dto found
    have listed : dto ∈ sortedLinks it links := (mem_sortedLinks keyed).mpr found
    cases shown : (sortedLinks it links).find? fun other => other.id = dto.id with
    | none =>
      rw [List.find?_eq_none] at shown
      exact (shown dto listed (decide_eq_true rfl)).elim
    | some other =>
      have member := (mem_sortedLinks keyed).mp (List.mem_of_find?_eq_some shown)
      have same := List.find?_some shown
      rw [of_decide_eq_true same, found] at member
      exact member.symm

end Sorting

theorem Keyed.handleLinkEvent {s : GatewayReticulum} (keyed : ∀ incoming, Keyed (s.links incoming))
    (h : GatewayReticulum.Handling) (incoming : Bool) :
    Keyed ((s.handleLinkEvent h).links incoming) := by
  intro key dto found
  change ((s.setLinks h.incoming _).links incoming).lookup key = some dto at found
  rw [GatewayReticulum.links_setLinks] at found
  split at found
  · rw [HashMap.lookup_insert_eq] at found
    split at found
    · rename_i same
      obtain rfl := Option.some.inj found
      change ((((s.links h.incoming).lookup h.snapshot.id).getD h.snapshot).id) = key
      cases before : (s.links h.incoming).lookup h.snapshot.id with
      | none => exact same.symm
      | some entry => exact (keyed _ _ entry before).trans same.symm
    · rename_i direction _
      rw [← direction] at found
      exact keyed _ key dto found
  · exact keyed _ key dto found

theorem replay_keyed (log : List Commit) (incoming : Bool) :
    Keyed ((replay log).links incoming) := by
  induction log using List.reverseRecOn generalizing incoming with
  | nil =>
    intro key dto found
    cases incoming <;> cases found
  | append_singleton log c ih =>
    rw [replay_concat, apply_links]
    cases c with
    | link h => exact Keyed.handleLinkEvent ih h incoming
    | data | announce | error => exact ih incoming

/-! ### What the tasks have handed on -/

/-- The events of a feed that have come to the tracker, in their order. -/
def handled (log : List Commit) (feed : Feed) : List TransportEvent :=
  (log.filterMap Commit.event).filter fun event => event.feed = feed

theorem handled_concat (log : List Commit) {c : Commit} {event : TransportEvent}
    (handles : c.event = some event) (feed : Feed) : handled (log ++ [c]) feed =
      handled log feed ++ if event.feed = feed then [event] else [] := by
  rw [handled, List.filterMap_append, List.filterMap_cons_some handles, List.filter_append]
  by_cases own : event.feed = feed
  · simp [handled, own]
  · simp [handled, own]

theorem handled_error (log : List Commit) {c : Commit} (none : c.event = none) (feed : Feed) :
    handled (log ++ [c]) feed = handled log feed := by
  rw [handled, List.filterMap_append, List.filterMap_cons_none none, List.filterMap_nil,
    List.append_nil]
  rfl

/-- The events of a link among those its feed has brought. -/
def linkEvents (events : List TransportEvent) (id : AddressHash) : List LinkEvent :=
  events.filterMap fun
    | .link _ event => if event.id = id then some event.event else none
    | _ => none

theorem eventsOf_handling (log : List Commit) (incoming : Bool) (id : AddressHash) :
    GatewayReticulum.eventsOf (log.filterMap Commit.handling) incoming id =
      linkEvents (handled log (.link incoming)) id := by
  induction log using List.reverseRecOn with
  | nil => rfl
  | append_singleton log c ih =>
    rw [List.filterMap_append]
    cases c with
    | link h =>
      have told : (Commit.link h).event = some (.link h.incoming h.event) := rfl
      rw [handled_concat log told, linkEvents, List.filterMap_append, ← linkEvents, ← ih]
      change GatewayReticulum.eventsOf (_ ++ [h]) incoming id = _
      rw [GatewayReticulum.eventsOf_append]
      congr 1
      by_cases own : h.incoming = incoming
      · subst own
        by_cases same : id = h.event.id
        · subst same
          simp [TransportEvent.feed]
        · simp [TransportEvent.feed, same, Ne.symm same]
      · simp [TransportEvent.feed, own, Ne.symm own]
    | data | announce =>
      rw [handled_concat log rfl, if_neg nofun, List.append_nil, ← ih, List.filterMap_cons_none rfl,
        List.filterMap_nil, List.append_nil]
    | error =>
      rw [handled_error log rfl, ← ih, List.filterMap_cons_none rfl, List.filterMap_nil,
        List.append_nil]

namespace Tracking

variable {capacity : Feed → Nat} {s s' : Tracking}

/-- The tracker is what its log makes of it, and each task has handed on what it has received of its
feed, but for the event it is busy with. -/
structure Kept (capacity : Feed → Nat) (s : Tracking) : Prop where
  tracker : s.tracker = replay s.log
  handled : ∀ feed, handled s.log feed ++ (s.task feed).pending = (s.receiver feed).received
  fed : ∀ feed, ∀ event ∈ s.sent feed, event.feed = feed
  busy : ∀ feed, ∀ event ∈ (s.task feed).pending, event.feed = feed
  tracks : ∀ feed, Broadcast.Tracks (capacity feed) (s.sent feed) 0 (s.receiver feed)

theorem Kept.initial : Kept capacity {} where
  tracker := rfl
  handled _ := rfl
  fed := nofun
  busy := nofun
  tracks _ := Broadcast.Tracks.subscribed []

theorem Kept.send (kept : Kept capacity s) (event : TransportEvent) :
    Kept capacity { s with
      sent := Function.update s.sent event.feed (s.sent event.feed ++ [event]) } := by
  refine ⟨kept.tracker, kept.handled, ?_, kept.busy, ?_⟩
  · intro feed other member
    dsimp only at member
    by_cases own : feed = event.feed
    · subst own
      rw [Function.update_self, List.mem_append, List.mem_singleton] at member
      rcases member with before | rfl
      · exact kept.fed _ _ before
      · rfl
    · rw [Function.update_of_ne own] at member
      exact kept.fed feed other member
  · intro feed
    dsimp only
    by_cases own : feed = event.feed
    · subst own
      rw [Function.update_self]
      exact (kept.tracks _).send event
    · rw [Function.update_of_ne own]
      exact kept.tracks feed

/-- The task is busy with what the call has read, if it has read anything. -/
theorem afterRecv_pending {sent before after : List TransportEvent} (ts : Nat)
    (read : after = before ∨ ∃ event ∈ sent, after = before ++ [event]) :
    after = before ++ (afterRecv before after ts).pending ∧
      ∀ event ∈ (afterRecv before after ts).pending, event ∈ sent := by
  rcases read with rfl | ⟨event, member, rfl⟩
  · rw [afterRecv, List.drop_length, TrackerTask.pending, List.append_nil]
    exact ⟨rfl, nofun⟩
  · rw [afterRecv, List.drop_left, TrackerTask.pending]
    refine ⟨rfl, ?_⟩
    intro other same
    rwa [List.mem_singleton.mp same]

theorem Kept.recv {poll : Broadcast.Poll TransportEvent} (documented : poll.Documented)
    (kept : Kept capacity s) {feed : Feed} (idle : s.task feed = .idle) (ts : Nat) :
    let r := Broadcast.recv poll (capacity feed) (s.sent feed) (s.receiver feed)
    Kept capacity ({ s with receiver := Function.update s.receiver feed r }.setTask feed
      (afterRecv (s.receiver feed).received r.received ts)) := by
  intro r
  have read := Broadcast.recv_received documented (capacity feed) (s.sent feed) (s.receiver feed)
  obtain ⟨whole, sent⟩ := afterRecv_pending ts read
  have before := kept.handled feed
  rw [idle, TrackerTask.pending, List.append_nil] at before
  refine ⟨kept.tracker, ?_, kept.fed, ?_, ?_⟩
  · intro other
    dsimp only [setTask]
    by_cases own : other = feed
    · subst own
      rw [Function.update_self, Function.update_self, before]
      exact whole.symm
    · rw [Function.update_of_ne own, Function.update_of_ne own]
      exact kept.handled other
  · intro other event member
    dsimp only [setTask] at member
    by_cases own : other = feed
    · subst own
      rw [Function.update_self] at member
      exact kept.fed other event (sent event member)
    · rw [Function.update_of_ne own] at member
      exact kept.busy other event member
  · intro other
    dsimp only [setTask]
    by_cases own : other = feed
    · subst own
      rw [Function.update_self]
      exact (kept.tracks other).recv documented
    · rw [Function.update_of_ne own]
      exact kept.tracks other

theorem Kept.resolve (kept : Kept capacity s) {feed : Feed} {task : TrackerTask}
    (same : task.pending = (s.task feed).pending) : Kept capacity (s.setTask feed task) := by
  have pending : ∀ other, ((s.setTask feed task).task other).pending = (s.task other).pending := by
    intro other
    dsimp only [setTask]
    by_cases own : other = feed
    · subst own
      rw [Function.update_self, same]
    · rw [Function.update_of_ne own]
  refine ⟨kept.tracker, ?_, kept.fed, ?_, kept.tracks⟩
  · intro other
    rw [pending]
    exact kept.handled other
  · intro other
    rw [pending]
    exact kept.busy other

/-- A task hands on the event it is busy with. -/
theorem Kept.hand (kept : Kept capacity s) {feed : Feed} {c : Commit} {event : TransportEvent}
    (pending : (s.task feed).pending = [event]) (handles : c.event = some event) :
    Kept capacity ((s.setTask feed .idle).commit c) := by
  have fed : event.feed = feed := by
    apply kept.busy feed event
    rw [pending]
    exact List.mem_singleton_self event
  refine ⟨?_, ?_, kept.fed, ?_, kept.tracks⟩
  · dsimp only [commit, setTask]
    rw [replay_concat, kept.tracker]
  · intro other
    dsimp only [commit, setTask]
    rw [handled_concat _ handles, fed, ← kept.handled]
    by_cases own : other = feed
    · subst own
      rw [Function.update_self, if_pos rfl, pending, TrackerTask.pending, List.append_nil]
    · rw [Function.update_of_ne own, if_neg (Ne.symm own), List.append_nil]
  · intro other waiting member
    dsimp only [commit, setTask] at member
    by_cases own : other = feed
    · subst own
      rw [Function.update_self] at member
      cases member
    · rw [Function.update_of_ne own] at member
      exact kept.busy other waiting member

theorem Kept.error (kept : Kept capacity s) (ts module : Nat) (kind : InterfaceErrorKind) :
    Kept capacity (s.commit (.error ts module kind)) := by
  refine ⟨?_, ?_, kept.fed, kept.busy, kept.tracks⟩
  · dsimp only [commit]
    rw [replay_concat, kept.tracker]
  · intro feed
    dsimp only [commit]
    rw [handled_error _ rfl]
    exact kept.handled feed

section

variable {poll : Broadcast.Poll TransportEvent} (documented : poll.Documented)

include documented

theorem Kept.step (kept : Kept capacity s) {event : TrackingEvent}
    (stepped : s.step poll capacity event = some s') : Kept capacity s' := by
  cases event with
  | send event =>
    obtain rfl := Option.some.inj stepped
    exact kept.send event
  | recv feed ts =>
    dsimp only [Tracking.step] at stepped
    cases task : s.task feed with
    | idle =>
      rw [task] at stepped
      obtain rfl := Option.some.inj stepped
      exact kept.recv documented task ts
    | received | resolved =>
      rw [task] at stepped
      cases stepped
  | resolve feed table =>
    dsimp only [Tracking.step] at stepped
    cases task : s.task feed with
    | received waiting ts =>
      rw [task] at stepped
      cases waiting with
      | link incoming event =>
        obtain rfl := Option.some.inj stepped
        exact kept.resolve (by rw [task]; rfl)
      | data | announce => cases stepped
    | idle | resolved =>
      rw [task] at stepped
      cases stepped
  | hand feed ts =>
    dsimp only [Tracking.step] at stepped
    cases task : s.task feed with
    | idle =>
      rw [task] at stepped
      cases stepped
    | resolved h =>
      rw [task] at stepped
      obtain rfl := Option.some.inj stepped
      exact kept.hand (by rw [task]; rfl) rfl
    | received waiting _ =>
      rw [task] at stepped
      cases waiting with
      | link => cases stepped
      | data destination payload =>
        obtain rfl := Option.some.inj stepped
        exact kept.hand (by rw [task]; rfl) rfl
      | announce destination appData =>
        obtain rfl := Option.some.inj stepped
        exact kept.hand (by rw [task]; rfl) rfl
  | error ts module kind =>
    obtain rfl := Option.some.inj stepped
    exact kept.error ts module kind

theorem Kept.run {events : List TrackingEvent} (kept : Kept capacity s)
    (ran : s.run poll capacity events = some s') : Kept capacity s' := by
  induction events generalizing s with
  | nil =>
    obtain rfl := Option.some.inj ran
    exact kept
  | cons event events ih =>
    rw [Tracking.run, List.foldlM_cons, Option.bind_eq_bind, Option.bind_eq_some_iff] at ran
    obtain ⟨next, stepped, rest⟩ := ran
    exact ih (kept.step documented stepped) rest

end

end Tracking

/-! ### What a snapshot tells -/

def ReticulumSnapshotDto.links (shown : ReticulumSnapshotDto) (incoming : Bool) :
    List ReticulumLinkDto :=
  if incoming then shown.incomingLinks else shown.outgoingLinks

theorem snapshot_links (it : HashMap.IterOrder String ReticulumLinkDto) (s : Tracker)
    (incoming : Bool) : (s.snapshot it).links incoming = sortedLinks it (s.links incoming) := by
  cases incoming <;> rfl

theorem snapshot_unique (it it' : HashMap.IterOrder String ReticulumLinkDto) {s : Tracker}
    (keyed : ∀ incoming, Keyed (s.links incoming)) : s.snapshot it = s.snapshot it' := by
  have same : ∀ incoming, sortedLinks it (s.links incoming) = sortedLinks it' (s.links incoming) :=
    fun incoming => sortedLinks_unique (keyed incoming)
  have into : sortedLinks it s.incomingLinks = sortedLinks it' s.incomingLinks := same true
  have out : sortedLinks it s.outgoingLinks = sortedLinks it' s.outgoingLinks := same false
  rw [Tracker.snapshot, Tracker.snapshot, into, out]

/-- The links as they are listed, each once. -/
structure Listed (shown : List ReticulumLinkDto) : Prop where
  ordered : shown.Pairwise fun a b => listedBefore a b = true
  once : (shown.map ReticulumLinkDto.id).Nodup

/-- However the tasks take turns at the lock, a snapshot shows one history: the newest events of it,
its errors by kind, and the links by its link events. In that history each task has handed on, in
order, what it has received of its feed but for the event it is busy with, and that is all that has
been sent unless it was too late for some. -/
theorem snapshot_tells (poll : Broadcast.Poll TransportEvent) (documented : poll.Documented)
    (capacity : Feed → Nat) (events : List TrackingEvent) (s : Tracking)
    (ran : Tracking.run poll capacity {} events = some s)
    (it : HashMap.IterOrder String ReticulumLinkDto) :
    let shown := s.tracker.snapshot it
    shown.events = (s.log.map Commit.note).reverse.take reticulumEventBufSize ∧
    Tallies shown.interfaceStats (s.log.filterMap Commit.error?) ∧
    (∀ it', s.tracker.snapshot it' = shown) ∧
    (∀ incoming, Listed (shown.links incoming)) ∧
    ((∀ h, .link h ∈ s.log → h.Own) → ∀ incoming id,
      GatewayReticulum.Reflects
        ((shown.links incoming).find? fun dto => dto.id = id.toHexString)
        (linkEvents (handled s.log (.link incoming)) id)) ∧
    ∀ feed, handled s.log feed ++ (s.task feed).pending = (s.receiver feed).received ∧
      ((s.receiver feed).missed = [] →
        (s.receiver feed).received = (s.sent feed).take (s.receiver feed).next) := by
  have kept := Tracking.Kept.initial.run documented ran
  have keyed : ∀ incoming, Keyed (s.tracker.links incoming) := by
    rw [kept.tracker]
    exact replay_keyed s.log
  refine ⟨?_, ?_, ?_, ?_, ?_, ?_⟩
  · rw [← replay_events, ← kept.tracker]
    rfl
  · have stats := replay_stats s.log
    rwa [← kept.tracker] at stats
  · exact fun it' => snapshot_unique it' it keyed
  · intro incoming
    rw [snapshot_links]
    exact ⟨sortedLinks_ordered, sortedLinks_nodup (keyed incoming)⟩
  · intro own incoming id
    have handlings : ∀ h ∈ s.log.filterMap Commit.handling, h.Own := by
      intro h member
      obtain ⟨c, logged, handled⟩ := List.mem_filterMap.mp member
      cases c with
      | link h' =>
        obtain rfl := Option.some.inj handled
        exact own h' logged
      | data | announce | error => cases handled
    have reflects := GatewayReticulum.run_reflects handlings incoming id
    rw [GatewayReticulum.entry, ← replay_links, ← kept.tracker, eventsOf_handling] at reflects
    rw [snapshot_links, find_sortedLinks (keyed incoming)]
    exact reflects
  · intro feed
    refine ⟨kept.handled feed, ?_⟩
    intro missed
    have all := (kept.tracks feed).unmissed (fun _ => true) (by rw [missed]; exact nofun)
    rwa [List.filter_true, List.filter_true, List.drop_zero] at all

open GatewayReticulum in
/-- The transport knows out-links only. -/
def sampleTable : LinkTable := outLinkTable (linkTo 3)

def sampleEvent (event : LinkEvent) : TransportEvent :=
  .link true ⟨.repeated 1, .repeated 2, event⟩

/-- A link is seen to open and to close while an error is reported and data waits. -/
def sampleTracking : List TrackingEvent :=
  [.send (sampleEvent .activated), .send (.data (.repeated 2) [7]), .recv (.link true) 3,
    .recv .data 3, .error 4 1 .rxReassembly, .send (sampleEvent .closed),
    .resolve (.link true) sampleTable, .hand (.link true) 5, .recv (.link true) 6,
    .resolve (.link true) sampleTable, .hand (.link true) 6]

theorem snapshot_tells_sample : ∃ s,
    Tracking.run Broadcast.retained (fun _ => 16) {} sampleTracking = some s ∧
    let shown := s.tracker.snapshot .entries
    shown.events.map (·.kind) = ["closed", "activated", "error"] ∧
    Tallies shown.interfaceStats [.rxReassembly] ∧
    GatewayReticulum.Reflects
      ((shown.links true).find? fun dto => dto.id = (AddressHash.repeated 1).toHexString)
      [.activated, .closed] := by
  refine ⟨_, rfl, ?_⟩
  obtain ⟨events, stats, _, _, links, _⟩ :=
    snapshot_tells Broadcast.retained Broadcast.retained_documented (fun _ => 16) sampleTracking _ rfl
      .entries
  refine ⟨?_, stats, links ?_ true (.repeated 1)⟩
  · rw [events]
    rfl
  · intro h member
    have direction : h.incoming ∈ [true, true] :=
      (@List.mem_filterMap _ _ (fun c => (Commit.handling c).map (·.incoming)) _ _).mpr
        ⟨_, member, rfl⟩
    exact Or.inl (by simpa using direction)

end Kaonic.Gateway
