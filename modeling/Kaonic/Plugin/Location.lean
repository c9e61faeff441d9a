import Kaonic.Base.Clock
import Kaonic.Base.HashMap
import Kaonic.Plugin.Cot

/-!
# Known locations

The last position of each sender, by where it was heard. The map is bounded in number and in age.
-/

namespace Kaonic.Plugin

def defaultMaxLocationRecords : Nat := 512
def defaultRecordRetention : Nat := Duration.fromSecs (60 * 60)

inductive PacketSource where
  | localUdp | remoteReticulum
  deriving DecidableEq

structure LocationRecord where
  uid : String
  eventType : String
  how : Option String
  callsign : Option String
  point : CotPoint
  source : PacketSource
  channelPort : UInt16
  updatedAt : SystemTime
  deriving DecidableEq

abbrev LocationRecords := HashMap (PacketSource × String) LocationRecord

structure LocationState where
  records : LocationRecords := ∅
  maxRecords : Nat
  retention : Nat

namespace LocationState

def new (maxRecords retention : Nat) : LocationState :=
  { maxRecords := max maxRecords 1, retention }

def prune (s : LocationState) (now : SystemTime) : LocationState :=
  { s with records := s.records.retain fun r =>
      decide ((now.durationSince r.updatedAt).getD 0 ≤ s.retention) }

/-- `min_by_key`: the first of the entries with the least time. -/
def oldestKey (it : HashMap.IterOrder (PacketSource × String) LocationRecord)
    (records : LocationRecords) : Option (PacketSource × String) :=
  ((it.order records).argmin fun e => e.2.updatedAt).map Prod.fst

/-- The loop of `record` over the oldest entries. Each turn takes one, so the number of entries is
fuel enough. -/
def dropOldest (it : HashMap.IterOrder (PacketSource × String) LocationRecord) (maxRecords : Nat) :
    Nat → LocationRecords → LocationRecords
  | 0, records => records
  | fuel + 1, records =>
    if maxRecords < records.keys.length then
      match oldestKey it records with
      | some key => dropOldest it maxRecords fuel (records.erase key)
      | none => records
    else records

/-- `LocationState::record` at its two clock readings. -/
def record (it : HashMap.IterOrder (PacketSource × String) LocationRecord) (s : LocationState)
    (source : PacketSource) (channelPort : UInt16) (event : CotEvent) (updatedAt now : SystemTime) :
    LocationState × Option LocationRecord :=
  match event.point with
  | none => (s, none)
  | some point =>
    let r : LocationRecord :=
      { uid := event.uid
        eventType := event.eventType
        how := event.how
        callsign := event.callsign
        point
        source
        channelPort
        updatedAt }
    let s := s.prune now
    let records := s.records.insert (source, r.uid) r
    ({ s with records := dropOldest it s.maxRecords records.keys.length records }, some r)

def len (s : LocationState) (now : SystemTime) : LocationState × Nat :=
  let s := s.prune now
  (s, s.records.keys.length)

/-- Whether there is something to record is for the event alone to say. -/
theorem record_isSome (it : HashMap.IterOrder (PacketSource × String) LocationRecord)
    (s : LocationState) (source : PacketSource) (channelPort : UInt16) (event : CotEvent)
    (updatedAt now : SystemTime) :
    (s.record it source channelPort event updatedAt now).2.isSome = event.point.isSome := by
  unfold record
  cases event.point <;> rfl

end LocationState

end Kaonic.Plugin
