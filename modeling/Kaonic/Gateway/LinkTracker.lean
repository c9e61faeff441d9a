import Kaonic.Base.HashMap
import Kaonic.Net.Notation

/-!
# The link tracker of the gateway

What the dashboard shows of each link is gathered from the events of the transport. Which link an
event belongs to is looked up in the link table of the transport, which goes on changing while
events wait to be handled.
-/

namespace Kaonic.Gateway

open Kaonic.Net (AddressHash)

def reticulumEventBufSize : Nat := 256

inductive LinkEvent where
  | activated
  | data (payload : List UInt8)
  /-- A proof by the text of its packet hash. -/
  | proof (hash : String)
  | closed
  deriving DecidableEq

structure LinkEventData where
  id : AddressHash
  addressHash : AddressHash
  event : LinkEvent

inductive LinkStatus where
  | pending | handshake | active | stale | closed

/-- What the tracker reads of a link of the transport. -/
structure Link where
  id : AddressHash
  destination : AddressHash
  status : LinkStatus
  rttMs : Nat

/-- The links of the transport at one time. In-links are filed under their ids, out-links under the
address they lead to. -/
structure LinkTable where
  findInLink : AddressHash → Option Link
  findOutLink : AddressHash → Option Link
  filed : ∀ id link, findInLink id = some link → link.id = id

/-- The counters of a link wrap around. -/
structure ReticulumLinkDto where
  id : String
  destination : String
  status : String
  lastEvent : String
  packets : UInt64
  bytes : UInt64
  rttMs : Option Nat
  lastSeenTs : Nat

structure ReticulumEventDto where
  ts : Nat
  direction : String
  kind : String
  linkId : String
  destination : String
  details : String

structure GatewayReticulum where
  incomingLinks : HashMap String ReticulumLinkDto := ∅
  outgoingLinks : HashMap String ReticulumLinkDto := ∅
  events : List ReticulumEventDto := []

def linkStatusLabel : LinkStatus → String
  | .pending => "pending"
  | .handshake => "handshake"
  | .active => "active"
  | .stale => "stale"
  | .closed => "closed"

def linkEventKind : LinkEvent → String
  | .activated => "activated"
  | .data _ => "data"
  | .proof _ => "proof"
  | .closed => "closed"

def linkEventDetails : LinkEvent → String
  | .activated => "Link activated"
  | .data payload => toString payload.length ++ " B"
  | .proof hash => hash
  | .closed => "Link closed"

def linkEventPacketLen : LinkEvent → Option Nat
  | .data payload => some payload.length
  | _ => none

def linkEventStatus : LinkEvent → String
  | .activated | .data _ | .proof _ => "active"
  | .closed => "closed"

def pushEvent (events : List ReticulumEventDto) (event : ReticulumEventDto) :
    List ReticulumEventDto :=
  (event :: events).take reticulumEventBufSize

def linkSnapshot (link : Link) (lastEvent : String) (ts : Nat) : ReticulumLinkDto where
  id := link.id.toHexString
  destination := link.destination.toHexString
  status := linkStatusLabel link.status
  lastEvent
  packets := 0
  bytes := 0
  rttMs := some link.rttMs
  lastSeenTs := ts

def resolveLinkSnapshot (table : LinkTable) (incoming : Bool) (event : LinkEventData)
    (lastEvent : String) (ts : Nat) : ReticulumLinkDto :=
  let link := if incoming then table.findInLink event.id else table.findOutLink event.addressHash
  match link with
  | some link => linkSnapshot link lastEvent ts
  | none =>
    { id := event.id.toHexString
      destination := event.addressHash.toHexString
      status := linkEventStatus event.event
      lastEvent
      packets := 0
      bytes := 0
      rttMs := none
      lastSeenTs := ts }

/-- The entry of a snapshot once the event has been counted. -/
def countEvent (entry snapshot : ReticulumLinkDto) (packetLen : Option Nat) : ReticulumLinkDto :=
  { entry with
    destination := snapshot.destination
    status := snapshot.status
    rttMs := snapshot.rttMs
    lastEvent := snapshot.lastEvent
    lastSeenTs := snapshot.lastSeenTs
    packets := if packetLen.isSome then entry.packets + 1 else entry.packets
    bytes := entry.bytes + .ofNat (packetLen.getD 0) }

namespace GatewayReticulum

def links (s : GatewayReticulum) (incoming : Bool) : HashMap String ReticulumLinkDto :=
  if incoming then s.incomingLinks else s.outgoingLinks

def setLinks (s : GatewayReticulum) (incoming : Bool) (links : HashMap String ReticulumLinkDto) :
    GatewayReticulum :=
  if incoming then { s with incomingLinks := links } else { s with outgoingLinks := links }

/-- One link event with the link table and the clock at the time it is handled. -/
structure Handling where
  incoming : Bool
  event : LinkEventData
  table : LinkTable
  ts : Nat

def Handling.snapshot (h : Handling) : ReticulumLinkDto :=
  { resolveLinkSnapshot h.table h.incoming h.event (linkEventKind h.event.event) h.ts with
    status := linkEventStatus h.event.event
    lastEvent := linkEventKind h.event.event
    lastSeenTs := h.ts }

def Handling.note (h : Handling) : ReticulumEventDto where
  ts := h.ts
  direction := if h.incoming then "incoming" else "outgoing"
  kind := linkEventKind h.event.event
  linkId := h.event.id.toHexString
  destination := h.event.addressHash.toHexString
  details := linkEventDetails h.event.event

def handleLinkEvent (s : GatewayReticulum) (h : Handling) : GatewayReticulum :=
  let snapshot := h.snapshot
  let links := s.links h.incoming
  let entry := (links.lookup snapshot.id).getD snapshot
  let s := s.setLinks h.incoming
    (links.insert snapshot.id (countEvent entry snapshot (linkEventPacketLen h.event.event)))
  { s with events := pushEvent s.events h.note }

def run (s : GatewayReticulum) (handlings : List Handling) : GatewayReticulum :=
  handlings.foldl handleLinkEvent s

/-! ### Entries and the events of their links -/

/-- The entry of a link among those of its direction. -/
def entry (s : GatewayReticulum) (incoming : Bool) (id : AddressHash) : Option ReticulumLinkDto :=
  (s.links incoming).lookup id.toHexString

/-- The events of one direction that carry one id, in order. -/
def eventsOf (handlings : List Handling) (incoming : Bool) (id : AddressHash) : List LinkEvent :=
  (handlings.filter fun h => h.incoming = incoming ∧ h.event.id = id).map fun h => h.event.event

/-- An entry tells of the events of its link, and of no others. It counts modulo 2^64. -/
structure Reflects (entry : Option ReticulumLinkDto) (events : List LinkEvent) : Prop where
  present : entry = none ↔ events = []
  packets : ∀ e ∈ entry, e.packets = .ofNat (events.filterMap linkEventPacketLen).length
  bytes : ∀ e ∈ entry, e.bytes = .ofNat (events.filterMap linkEventPacketLen).sum
  status : ∀ e ∈ entry, e.status = "closed" ↔ events.getLast? = some .closed

/-- The link that is looked up is the one the event is about, or is gone. -/
def Handling.Own (h : Handling) : Prop :=
  h.incoming = true ∨ ∀ link, h.table.findOutLink h.event.addressHash = some link → link.id = h.event.id

section Steps

variable {s : GatewayReticulum} {h : Handling} {incoming : Bool} {id : AddressHash}
  {kind : String} {ts : Nat}

theorem toHexString_inj {a b : AddressHash} : a.toHexString = b.toHexString ↔ a = b := by
  constructor
  · intro same
    have read := congrArg AddressHash.hexCodec.parse same
    exact Except.ok.inj ((AddressHash.hexCodec.parse_print a).symm.trans
      (read.trans (AddressHash.hexCodec.parse_print b)))
  · rintro rfl
    rfl

theorem snapshot_id (own : h.Own) : h.snapshot.id = h.event.id.toHexString := by
  show (resolveLinkSnapshot h.table h.incoming h.event _ h.ts).id = _
  unfold resolveLinkSnapshot
  dsimp only
  split
  · rename_i link found
    rw [linkSnapshot, toHexString_inj]
    cases direction : h.incoming with
    | true =>
      rw [direction, if_pos rfl] at found
      exact h.table.filed _ _ found
    | false =>
      rw [direction] at found
      rcases own with incoming | same
      · rw [direction] at incoming
        cases incoming
      · exact same link found
  · rfl

/-- A snapshot has counted nothing yet. -/
theorem snapshot_counts : h.snapshot.packets = 0 ∧ h.snapshot.bytes = 0 := by
  show (resolveLinkSnapshot h.table h.incoming h.event _ h.ts).packets = 0 ∧
    (resolveLinkSnapshot h.table h.incoming h.event _ h.ts).bytes = 0
  unfold resolveLinkSnapshot
  dsimp only
  split <;> exact ⟨rfl, rfl⟩

@[simp] theorem links_setLinks (links : HashMap String ReticulumLinkDto) (direction : Bool) :
    (s.setLinks direction links).links incoming =
      if incoming = direction then links else s.links incoming := by
  cases incoming <;> cases direction <;> rfl

/-- What an event does to the entries: it counts towards the one of its own link. -/
theorem handle_entry (own : h.Own) (incoming : Bool) (id : AddressHash) :
    (s.handleLinkEvent h).entry incoming id =
      if incoming = h.incoming ∧ id = h.event.id then
        some (countEvent ((s.entry incoming id).getD h.snapshot) h.snapshot
          (linkEventPacketLen h.event.event))
      else s.entry incoming id := by
  show ((s.setLinks h.incoming _).links incoming).lookup id.toHexString = _
  rw [links_setLinks, snapshot_id own]
  by_cases direction : incoming = h.incoming
  · subst direction
    rw [if_pos rfl, HashMap.lookup_insert_eq]
    by_cases link : id = h.event.id
    · subst link
      rw [if_pos rfl, if_pos ⟨rfl, rfl⟩]
      rfl
    · rw [if_neg (mt toHexString_inj.mp link), if_neg fun both => link both.2]
      rfl
  · rw [if_neg direction, if_neg fun both => direction both.1]
    rfl

theorem eventsOf_append (handlings : List Handling) (h : Handling) (incoming : Bool)
    (id : AddressHash) : eventsOf (handlings ++ [h]) incoming id = eventsOf handlings incoming id ++
      if incoming = h.incoming ∧ id = h.event.id then [h.event.event] else [] := by
  rw [eventsOf, List.filter_append, List.map_append, eventsOf]
  congr 1
  by_cases own : incoming = h.incoming ∧ id = h.event.id
  · obtain ⟨rfl, rfl⟩ := own
    simp
  · have other : ¬ (h.incoming = incoming ∧ h.event.id = id) := fun same => own ⟨same.1.symm, same.2.symm⟩
    simp [own, other]

theorem linkEventStatus_closed {event : LinkEvent} :
    linkEventStatus event = "closed" ↔ event = .closed := by
  cases event <;> simp [linkEventStatus]

/-- One more event, counted: the entry tells of it as of the ones before. -/
theorem Reflects.count {entry : Option ReticulumLinkDto} {events : List LinkEvent}
    (reflects : Reflects entry events) (h : Handling) :
    Reflects (some (countEvent (entry.getD h.snapshot) h.snapshot (linkEventPacketLen h.event.event)))
      (events ++ [h.event.event]) := by
  obtain ⟨noPackets, noBytes⟩ := @snapshot_counts h
  have packets : (entry.getD h.snapshot).packets =
      .ofNat (events.filterMap linkEventPacketLen).length := by
    cases present : entry with
    | none => rw [reflects.present.mp present, Option.getD_none, noPackets]; rfl
    | some e => exact reflects.packets e present
  have bytes : (entry.getD h.snapshot).bytes =
      .ofNat (events.filterMap linkEventPacketLen).sum := by
    cases present : entry with
    | none => rw [reflects.present.mp present, Option.getD_none, noBytes]; rfl
    | some e => exact reflects.bytes e present
  refine ⟨by simp, ?_, ?_, ?_⟩
  · rintro _ ⟨⟩
    rw [List.filterMap_append, List.length_append, UInt64.ofNat_add, ← packets]
    cases h.event.event <;> simp [countEvent, linkEventPacketLen, List.filterMap_cons]
  · rintro _ ⟨⟩
    rw [List.filterMap_append, List.sum_append, UInt64.ofNat_add, ← bytes]
    cases h.event.event <;> simp [countEvent, linkEventPacketLen, List.filterMap_cons]
  · rintro _ ⟨⟩
    rw [List.getLast?_concat, Option.some.injEq]
    exact linkEventStatus_closed

end Steps

/-! ### Runs -/

theorem run_reflects {handlings : List Handling} (own : ∀ h ∈ handlings, h.Own) (incoming : Bool)
    (id : AddressHash) : Reflects ((run {} handlings).entry incoming id)
      (eventsOf handlings incoming id) := by
  induction handlings using List.reverseRecOn with
  | nil =>
    have empty : (run {} []).entry incoming id = none := by cases incoming <;> rfl
    rw [empty]
    exact ⟨iff_of_true rfl rfl, nofun, nofun, nofun⟩
  | append_singleton handlings h ih =>
    have before := ih fun h' member => own h' (List.mem_append_left _ member)
    have here : h.Own := own h (List.mem_append_right _ (List.mem_singleton_self h))
    rw [run, List.foldl_append, List.foldl_cons, List.foldl_nil, ← run, handle_entry here,
      eventsOf_append]
    split
    · exact before.count h
    · rwa [List.append_nil]

/-- When each event finds its own link or none, every entry tells of the events of its link, and no
event touches the entry of another link. -/
theorem run_entries (handlings : List Handling) (own : ∀ h ∈ handlings, h.Own) :
    (∀ incoming id, Reflects ((run {} handlings).entry incoming id)
      (eventsOf handlings incoming id)) ∧
    ∀ earlier h later, handlings = earlier ++ h :: later → ∀ incoming id,
      ¬ (incoming = h.incoming ∧ id = h.event.id) →
        ((run {} earlier).handleLinkEvent h).entry incoming id = (run {} earlier).entry incoming id := by
  refine ⟨run_reflects own, ?_⟩
  rintro earlier h later rfl incoming id other
  have here : h.Own := own h (List.mem_append_right _ List.mem_cons_self)
  rw [handle_entry here, if_neg other]

/-! A link to the second address is replaced by one with another id. -/

def linkTo (id : UInt8) : Link := ⟨.repeated id, .repeated 2, .active, 5⟩

def outLinkTable (link : Link) : LinkTable where
  findInLink _ := none
  findOutLink address := if address = .repeated 2 then some link else none
  filed _ _ found := by cases found

def outgoing (event : LinkEvent) (id current : UInt8) : Handling where
  incoming := false
  event := ⟨.repeated id, .repeated 2, event⟩
  table := outLinkTable (linkTo current)
  ts := 7

theorem run_entries_single :
    ((run {} [outgoing .activated 1 1, outgoing (.data [0, 1]) 1 1, outgoing .closed 1 1]).entry
      false (.repeated 1)).map (fun e => (e.status, e.packets, e.bytes)) = some ("closed", 1, 2) := by
  have own : ∀ h ∈ [outgoing .activated 1 1, outgoing (.data [0, 1]) 1 1, outgoing .closed 1 1],
      h.Own := by
    intro h member
    simp only [List.mem_cons, List.not_mem_nil, or_false] at member
    rcases member with rfl | rfl | rfl <;>
      exact Or.inr fun link found => by cases found; rfl
  have shown := (run_entries _ own).1 false (.repeated 1)
  cases present : (run {} [outgoing .activated 1 1, outgoing (.data [0, 1]) 1 1,
      outgoing .closed 1 1]).entry false (.repeated 1) with
  | none =>
    have events := shown.present.mp present
    revert events
    decide
  | some e =>
    have packets := shown.packets e present
    have bytes := shown.bytes e present
    have closed := (shown.status e present).mpr (by decide)
    rw [Option.map_some, closed, packets, bytes]
    decide

/-- The old link has closed when the new one is already in place: it is the new one that is shown as
closed, and the old one goes on as active. -/
theorem run_entries_replaced :
    let s := run {} [outgoing .activated 1 1, outgoing .activated 2 2, outgoing .closed 1 2]
    (s.entry false (.repeated 1)).map (·.status) = some "active" ∧
      (s.entry false (.repeated 2)).map (·.status) = some "closed" := by
  decide

end GatewayReticulum

end Kaonic.Gateway
