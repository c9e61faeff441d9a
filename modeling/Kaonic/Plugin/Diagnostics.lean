import Kaonic.Base.Clock
import Kaonic.Base.HashMap
import Kaonic.Base.Machine
import Kaonic.Plugin.Command
import Kaonic.Plugin.Cot

/-!
# Diagnostic state

The window, the bounded record queue and the set of command ids already seen. Every operation
first prunes at its own clock reading.
-/

namespace Kaonic.Plugin

def defaultMaxSeenCommands : Nat := 2048
def seenCommandRetention : Nat := Duration.fromSecs (24 * 60 * 60)

structure DiagnosticRecord where
  remotePeerHash : String
  channelPort : UInt16
  uid : String
  callsign : Option String
  eventType : String
  point : Option (F64 × F64)
  observedAt : SystemTime
  deriving DecidableEq

def DiagnosticRecord.of (peerHash : String) (channelPort : UInt16) (event : CotEvent)
    (now : SystemTime) : DiagnosticRecord where
  remotePeerHash := peerHash
  channelPort := channelPort
  uid := event.uid
  callsign := event.callsign
  eventType := event.eventType
  point := event.point.map fun p => (p.lat, p.lon)
  observedAt := now

structure DiagnosticStatus where
  enabled : Bool
  remainingSeconds : Nat
  recordCount : Nat
  deriving DecidableEq

/-- `DiagnosticState` with its locked part. Both queues have their front first. -/
structure DiagnosticState where
  enabledUntil : Option SystemTime := none
  records : List DiagnosticRecord := []
  seenCommands : HashMap String SystemTime := ∅
  seenOrder : List String := []
  maxRecords : Nat
  maxSeenCommands : Nat

namespace DiagnosticState

def new (maxRecords : Nat) : DiagnosticState :=
  { maxRecords := max maxRecords 1, maxSeenCommands := defaultMaxSeenCommands }

def isEnabled (s : DiagnosticState) (now : SystemTime) : Bool :=
  match s.enabledUntil with
  | some until_ => decide (now < until_)
  | none => false

def pruneWindow (s : DiagnosticState) (now : SystemTime) : DiagnosticState :=
  match s.enabledUntil with
  | some until_ => if until_ ≤ now then { s with enabledUntil := none, records := [] } else s
  | none => s

/-- The loop of `prune_locked` over the ids, oldest first. -/
def pruneSeen (now : SystemTime) (seen : HashMap String SystemTime) :
    List String → HashMap String SystemTime × List String
  | [] => (seen, [])
  | id :: rest =>
    let keep := match seen.lookup id with
      | some observedAt => decide ((now.durationSince observedAt).getD 0 ≤ seenCommandRetention)
      | none => false
    if keep then (seen, id :: rest) else pruneSeen now (seen.erase id) rest

def prune (s : DiagnosticState) (now : SystemTime) : DiagnosticState :=
  let s := s.pruneWindow now
  let seen := pruneSeen now s.seenCommands s.seenOrder
  { s with seenCommands := seen.1, seenOrder := seen.2 }

/-- The loop of `enforce_seen_bound_locked`. -/
def enforceSeenBound (bound : Nat) (seen : HashMap String SystemTime) :
    List String → HashMap String SystemTime × List String
  | [] => (seen, [])
  | id :: rest =>
    if bound < seen.keys.length then enforceSeenBound bound (seen.erase id) rest
    else (seen, id :: rest)

def applyOnceAt (s : DiagnosticState) (command : DiagnosticCommand) (now : SystemTime) :
    DiagnosticState × Bool :=
  let s := s.prune now
  if (s.seenCommands.lookup command.id).isSome then (s, false)
  else
    let seen := enforceSeenBound s.maxSeenCommands (s.seenCommands.insert command.id now)
      (s.seenOrder ++ [command.id])
    let s := { s with seenCommands := seen.1, seenOrder := seen.2 }
    match command.action with
    | .enable seconds =>
      ({ s with records := [], enabledUntil := now.checkedAdd (Duration.fromSecs seconds) }, true)
    | .disable => ({ s with enabledUntil := none, records := [] }, true)

def recordRemoteAt (s : DiagnosticState) (peerHash : String) (channelPort : UInt16)
    (event : CotEvent) (now : SystemTime) : DiagnosticState × Bool :=
  let s := s.prune now
  if s.isEnabled now then
    let records := s.records ++ [DiagnosticRecord.of peerHash channelPort event now]
    ({ s with records := records.rtake s.maxRecords }, true)
  else (s, false)

def statusAt (s : DiagnosticState) (now : SystemTime) : DiagnosticState × DiagnosticStatus :=
  let s := s.prune now
  let remaining := ((s.enabledUntil.bind fun until_ => until_.durationSince now).map
    fun d => d / 1000000000).getD 0
  (s, ⟨decide (0 < remaining), remaining, s.records.length⟩)

def recentAt (s : DiagnosticState) (limit : Nat) (now : SystemTime) :
    DiagnosticState × List DiagnosticRecord :=
  let s := s.prune now
  (s, s.records.reverse.take limit)

/-! ### Runs -/

inductive Op where
  | applyOnce (command : DiagnosticCommand) (now : SystemTime)
  | recordRemote (peerHash : String) (channelPort : UInt16) (event : CotEvent) (now : SystemTime)
  | status (now : SystemTime)
  | recent (limit : Nat) (now : SystemTime)
  | pruneExpired (now : SystemTime)

inductive Answer where
  | applied (fresh : Bool)
  | recorded (kept : Bool)
  | status (status : DiagnosticStatus)
  | recent (records : List DiagnosticRecord)
  | pruned
  deriving DecidableEq

def Op.now : Op → SystemTime
  | .applyOnce _ now | .recordRemote _ _ _ now | .status now | .recent _ now | .pruneExpired now =>
    now

/-- Each operation holds the lock throughout. -/
def machine : Machine DiagnosticState Op Answer where
  step s
    | .applyOnce command now => ((s.applyOnceAt command now).1, .applied (s.applyOnceAt command now).2)
    | .recordRemote peerHash channelPort event now =>
      ((s.recordRemoteAt peerHash channelPort event now).1,
        .recorded (s.recordRemoteAt peerHash channelPort event now).2)
    | .status now => ((s.statusAt now).1, .status (s.statusAt now).2)
    | .recent limit now => ((s.recentAt limit now).1, .recent (s.recentAt limit now).2)
    | .pruneExpired now => (s.prune now, .pruned)

end DiagnosticState

end Kaonic.Plugin
