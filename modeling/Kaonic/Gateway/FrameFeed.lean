import Kaonic.Base.Broadcast
import Kaonic.Base.Machine
import Kaonic.Base.Recency
import Kaonic.Net.Notation
import Kaonic.Radio.ReceiveTask

/-!
# The frame feed of the dashboard

The frame listener of the gateway files what the radio modules receive and transmit into a buffer
and counters per module, and publishes them on the channel from which every dashboard is served. A
dashboard subscribes to the channel, then reads buffers and counters, and is from then on sent what
the channel hands out.
-/

namespace Kaonic.Gateway

open Net.AddressHash (byteHex)
open Radio (RecvError)

def rxBufSize : Nat := 256

/-- The capacity of `ws_event_bus`. -/
def wsEventCapacity : Nat := 256

structure RxFrameDto where
  module : Nat
  direction : String
  rssi : Int8
  len : UInt16
  hex : String
  ascii : String
  crc32 : String
  ts : UInt64
  deriving DecidableEq

/-- `FrameStatsDto` without the rates, which are sampled by the wall clock. -/
structure FrameStatsDto where
  rxFrames : UInt64
  rxBytes : UInt64
  txFrames : UInt64
  txBytes : UInt64
  lastRssi : Option Int8
  deriving DecidableEq

structure WsRadioFramesDto where
  module : Nat
  frames : List RxFrameDto
  stats : FrameStatsDto
  deriving DecidableEq

/-- The events of `publish_periodic_events`, without what they carry. -/
inductive PeriodicEvent where
  | interfaces | system | services | networkPorts | vpn | reticulum
  deriving DecidableEq

inductive WsStatusEvent where
  | periodic (event : PeriodicEvent)
  | radioFrames (dto : WsRadioFramesDto)
  deriving DecidableEq

def WsStatusEvent.about (m : Nat) : WsStatusEvent → Bool
  | .periodic _ => false
  | .radioFrames dto => dto.module == m

def framePreview (data : List UInt8) : String :=
  String.ofList ([' '].intercalate ((data.take 16).map byteHex))

def frameAsciiPreview (data : List UInt8) : String :=
  String.ofList ((data.take 16).map fun b =>
    if 0x20 ≤ b ∧ b ≤ 0x7e then Char.ofNat b.toNat else '.')

def frameCrc32 (crc32Hash : List UInt8 → UInt32) (data : List UInt8) : String :=
  String.ofList ((Nat.toDigits 16 (crc32Hash data).toNat).leftpad 8 '0')

/-- `Frame::as_slice`, the length of which is the frame's `len`. -/
structure RadioFrame where
  bytes : List UInt8
  short : bytes.length < 2 ^ 16

/-- What the client hands to the listener. -/
structure ReceivedFrame where
  module : Nat
  rssi : Int8
  frame : RadioFrame

/-- What the listener takes, and when. -/
inductive Heard where
  | received (now : UInt64) (recv : ReceivedFrame)
  | sent (now : UInt64) (module : Nat) (payload : List UInt8)

def Heard.module : Heard → Nat
  | .received _ recv => min recv.module 1
  | .sent _ module _ => min module 1

theorem Heard.module_le (h : Heard) : h.module ≤ 1 := by
  cases h with
  | received now recv => exact Nat.min_le_right _ _
  | sent now module payload => exact Nat.min_le_right _ _

def Heard.entry (crc32Hash : List UInt8 → UInt32) : Heard → RxFrameDto
  | .received now recv =>
    { module := min recv.module 1
      direction := "rx"
      rssi := recv.rssi
      len := .ofNat recv.frame.bytes.length
      hex := framePreview recv.frame.bytes
      ascii := frameAsciiPreview recv.frame.bytes
      crc32 := frameCrc32 crc32Hash recv.frame.bytes
      ts := now }
  | .sent now module payload =>
    { module := min module 1
      direction := "tx"
      rssi := 0
      len := .ofNat payload.length
      hex := framePreview payload
      ascii := frameAsciiPreview payload
      crc32 := frameCrc32 crc32Hash payload
      ts := now }

/-! ### Counters -/

structure FrameStats where
  rxFrames : UInt64 := 0
  rxBytes : UInt64 := 0
  txFrames : UInt64 := 0
  txBytes : UInt64 := 0
  lastRssi : Int32 := 0
  deriving DecidableEq

/-- An atomic write to the counters. -/
inductive Count where
  | rxFrame
  | rxBytes (n : UInt64)
  | rssi (value : Int8)
  | txFrame
  | txBytes (n : UInt64)

def FrameStats.count (s : FrameStats) : Count → FrameStats
  | .rxFrame => { s with rxFrames := s.rxFrames + 1 }
  | .rxBytes n => { s with rxBytes := s.rxBytes + n }
  | .rssi value => { s with lastRssi := value.toInt32 }
  | .txFrame => { s with txFrames := s.txFrames + 1 }
  | .txBytes n => { s with txBytes := s.txBytes + n }

def Heard.counts : Heard → List Count
  | .received _ recv =>
    [.rxFrame, .rxBytes (UInt16.ofNat recv.frame.bytes.length).toUInt64, .rssi recv.rssi]
  | .sent _ _ payload => [.txFrame, .txBytes (.ofNat payload.length)]

/-- An atomic read of `build_frame_stats`; it looks at the number of received frames twice. -/
inductive Load where
  | rxBytes | txBytes | rxFrames | txFrames | anyReceived | lastRssi

def statsLoads : List Load := [.rxBytes, .txBytes, .rxFrames, .txFrames, .anyReceived, .lastRssi]

def FrameStatsDto.read (s : FrameStats) (dto : FrameStatsDto) : Load → FrameStatsDto
  | .rxBytes => { dto with rxBytes := s.rxBytes }
  | .txBytes => { dto with txBytes := s.txBytes }
  | .rxFrames => { dto with rxFrames := s.rxFrames }
  | .txFrames => { dto with txFrames := s.txFrames }
  | .anyReceived => { dto with lastRssi := if s.rxFrames > 0 then some 0 else none }
  | .lastRssi => { dto with lastRssi := dto.lastRssi.map fun _ => s.lastRssi.toInt8 }

def FrameStatsDto.blank : FrameStatsDto := ⟨0, 0, 0, 0, none⟩

/-- `build_frame_stats` where nobody writes meanwhile. -/
def buildFrameStats (s : FrameStats) : FrameStatsDto :=
  statsLoads.foldl (FrameStatsDto.read s) .blank

/-! ### The listener and its dashboards -/

/-- The access the listener makes next. -/
inductive Listener where
  | waiting
  | filing (module : Nat) (entry : RxFrameDto) (counts : List Count)
  | publishing (module : Nat) (frames : List RxFrameDto)
  | stopped

/-- What a dashboard that is being set up reads next. -/
inductive Gather where
  | frames
  | stats (frames : List RxFrameDto) (loads : List Load) (dto : FrameStatsDto)

/-- A connection: `initial_events` module by module, and the loop behind it. -/
inductive Dashboard where
  | closed
  | gathering (rx : Broadcast.Receiver WsStatusEvent) (built : List WsRadioFramesDto)
    (gather : Gather)
  | live (rx : Broadcast.Receiver WsStatusEvent) (initial : List WsStatusEvent)

structure FrameFeed (ι : Type) where
  listener : Listener := .waiting
  rxBuffers : Nat → List RxFrameDto := fun _ => []
  frameStats : Nat → FrameStats := fun _ => {}
  wsEvents : List WsStatusEvent := []
  dashboards : ι → Dashboard := fun _ => .closed

namespace FrameFeed

variable {ι : Type}

inductive Event (ι : Type) where
  | recv (now : UInt64) (result : Except RecvError ReceivedFrame)
  | txEvent (now : UInt64) (result : Option (Nat × List UInt8))
  | listen
  | periodic (event : PeriodicEvent)
  | connect (i : ι)
  | advance (i : ι)
  | disconnect (i : ι)

def push (buffer : List RxFrameDto) (entry : RxFrameDto) : List RxFrameDto :=
  (entry :: buffer).take rxBufSize

def file (crc32Hash : List UInt8 → UInt32) (heard : Heard) : Listener :=
  .filing heard.module (heard.entry crc32Hash) heard.counts

/-- The next access of a listener that has taken something. -/
def listen (s : FrameFeed ι) : FrameFeed ι :=
  match s.listener with
  | .filing m entry (count :: counts) =>
    { s with
      listener := .filing m entry counts
      frameStats := Function.update s.frameStats m ((s.frameStats m).count count) }
  | .filing m entry [] =>
    { s with
      listener := .publishing m (push (s.rxBuffers m) entry)
      rxBuffers := Function.update s.rxBuffers m (push (s.rxBuffers m) entry) }
  | .publishing m frames =>
    { s with
      listener := .waiting
      wsEvents := s.wsEvents ++ [.radioFrames ⟨min m 1, frames, buildFrameStats (s.frameStats m)⟩] }
  | .waiting | .stopped => s

/-- The events ahead of the frames in `initial_events`. -/
def initialStatus : List WsStatusEvent :=
  [.periodic .interfaces, .periodic .system, .periodic .services, .periodic .networkPorts,
    .periodic .vpn, .periodic .reticulum]

def advance (poll : Broadcast.Poll WsStatusEvent) (s : FrameFeed ι) : Dashboard → Dashboard
  | .closed => .closed
  | .gathering rx built .frames =>
    .gathering rx built (.stats (s.rxBuffers built.length) statsLoads .blank)
  | .gathering rx built (.stats frames (load :: loads) dto) =>
    .gathering rx built (.stats frames loads (dto.read (s.frameStats built.length) load))
  | .gathering rx built (.stats frames [] dto) =>
    let next := built ++ [⟨built.length, frames, dto⟩]
    if next.length < 2 then .gathering rx next .frames
    else .live rx (initialStatus ++ next.map .radioFrames)
  | .live rx initial => .live (Broadcast.recv poll wsEventCapacity s.wsEvents rx) initial

/-- What happens, with what the listener has taken then. -/
def step [DecidableEq ι] (crc32Hash : List UInt8 → UInt32) (poll : Broadcast.Poll WsStatusEvent)
    (s : FrameFeed ι) : Event ι → FrameFeed ι × Option Heard
  | .recv now result =>
    match s.listener, result with
    | .waiting, .ok recv =>
      ({ s with listener := file crc32Hash (.received now recv) }, some (.received now recv))
    | .waiting, .error .closed => ({ s with listener := .stopped }, none)
    | _, _ => (s, none)
  | .txEvent now result =>
    match s.listener, result with
    | .waiting, some (module, payload) =>
      ({ s with listener := file crc32Hash (.sent now module payload) },
        some (.sent now module payload))
    | .waiting, none => ({ s with listener := .stopped }, none)
    | _, _ => (s, none)
  | .listen => (s.listen, none)
  | .periodic event => ({ s with wsEvents := s.wsEvents ++ [.periodic event] }, none)
  | .connect i =>
    match s.dashboards i with
    | .closed =>
      ({ s with
        dashboards := Function.update s.dashboards i
          (.gathering (Broadcast.subscribe s.wsEvents) [] .frames) }, none)
    | _ => (s, none)
  | .advance i =>
    ({ s with
      dashboards := Function.update s.dashboards i (advance poll s (s.dashboards i)) }, none)
  | .disconnect i => ({ s with dashboards := Function.update s.dashboards i .closed }, none)

def machine [DecidableEq ι] (crc32Hash : List UInt8 → UInt32)
    (poll : Broadcast.Poll WsStatusEvent) : Machine (FrameFeed ι) (Event ι) (Option Heard) :=
  ⟨step crc32Hash poll⟩

/-! ### What has been heard -/

def taken (trace : List (Event ι × Option Heard)) : List Heard := trace.filterMap (·.2)

def own (m : Nat) (heard : List Heard) : List Heard := heard.filter fun h => h.module == m

def received (heard : List Heard) : List ReceivedFrame :=
  heard.filterMap fun
    | .received _ recv => some recv
    | .sent _ _ _ => none

def transmitted (heard : List Heard) : List (List UInt8) :=
  heard.filterMap fun
    | .received _ _ => none
    | .sent _ _ payload => some payload

def tally (heard : List Heard) : FrameStats where
  rxFrames := .ofNat (received heard).length
  rxBytes := .ofNat ((received heard).map (·.frame.bytes.length)).sum
  txFrames := .ofNat (transmitted heard).length
  txBytes := .ofNat ((transmitted heard).map List.length).sum
  lastRssi := ((received heard).getLast?.map (·.rssi.toInt32)).getD 0

theorem tally_append (heard : List Heard) (h : Heard) :
    tally (heard ++ [h]) = h.counts.foldl FrameStats.count (tally heard) := by
  cases h with
  | received now recv =>
    have received_append : received (heard ++ [.received now recv]) = received heard ++ [recv] := by
      rw [received, List.filterMap_append]
      rfl
    have transmitted_append :
        transmitted (heard ++ [.received now recv]) = transmitted heard := by
      rw [transmitted, List.filterMap_append, List.filterMap_cons_none rfl, List.filterMap_nil,
        List.append_nil]
      rfl
    have len : (UInt16.ofNat recv.frame.bytes.length).toUInt64 =
        UInt64.ofNat recv.frame.bytes.length := by
      apply UInt64.toNat.inj
      have short := recv.frame.short
      rw [UInt16.toNat_toUInt64, UInt16.toNat_ofNat_of_lt' short,
        UInt64.toNat_ofNat_of_lt' (Nat.lt_trans short (by decide))]
    simp [tally, received_append, transmitted_append, Heard.counts, FrameStats.count, len]
  | sent now module payload =>
    have received_append : received (heard ++ [.sent now module payload]) = received heard := by
      rw [received, List.filterMap_append, List.filterMap_cons_none rfl, List.filterMap_nil,
        List.append_nil]
      rfl
    have transmitted_append : transmitted (heard ++ [.sent now module payload]) =
        transmitted heard ++ [payload] := by
      rw [transmitted, List.filterMap_append]
      rfl
    simp [tally, received_append, transmitted_append, Heard.counts, FrameStats.count]

/-- What a dashboard is to show of a module. -/
def current (s : FrameFeed ι) (m : Nat) : WsRadioFramesDto :=
  ⟨m, s.rxBuffers m, buildFrameStats (s.frameStats m)⟩

/-- The newest entries of a module, newest first. -/
def recent (crc32Hash : List UInt8 → UInt32) (m : Nat) (heard : List Heard) : List RxFrameDto :=
  (((own m heard).map (Heard.entry crc32Hash)).reverse).take rxBufSize

theorem recent_append_own (crc32Hash : List UInt8 → UInt32) (heard : List Heard) (h : Heard) :
    recent crc32Hash h.module (heard ++ [h]) =
      push (recent crc32Hash h.module heard) (h.entry crc32Hash) := by
  have mine : own h.module (heard ++ [h]) = own h.module heard ++ [h] := by
    simp [own, List.filter_append]
  rw [recent, mine, List.map_append, List.reverse_append, push, recent, Recency.take_cons_take]
  rfl

theorem own_append_other {m : Nat} {h : Heard} (other : m ≠ h.module) (heard : List Heard) :
    own m (heard ++ [h]) = own m heard := by
  simp [own, List.filter_append, other.symm]

end FrameFeed

/-! ### The listener -/

namespace Listener

/-- The module whose buffer and counters are on their way into an event. -/
def busyWith : Listener → Option Nat
  | .waiting | .stopped => none
  | .filing m _ _ | .publishing m _ => some m

def unfiled (m : Nat) : Listener → List RxFrameDto
  | .filing n entry _ => if n = m then [entry] else []
  | .waiting | .publishing _ _ | .stopped => []

def uncounted (m : Nat) : Listener → List Count
  | .filing n _ counts => if n = m then counts else []
  | .waiting | .publishing _ _ | .stopped => []

end Listener

namespace FrameFeed

variable {ι : Type} {crc32Hash : List UInt8 → UInt32} {s s' : FrameFeed ι} {heard : List Heard}

open Broadcast (lastOf lastOf_append lastOf_singleton)

/-- Buffers and counters hold what has been heard, but for what the listener still has in hand, and
the last event of a module tells of both. -/
structure Filed (crc32Hash : List UInt8 → UInt32) (s : FrameFeed ι) (heard : List Heard) :
    Prop where
  slot : ∀ m, s.listener.busyWith = some m → m ≤ 1
  buffers : ∀ m, (s.listener.unfiled m ++ s.rxBuffers m).take rxBufSize = recent crc32Hash m heard
  short : ∀ m, (s.rxBuffers m).length ≤ rxBufSize
  counted : ∀ m, (s.listener.uncounted m).foldl FrameStats.count (s.frameStats m) =
    tally (own m heard)
  frames : ∀ m frames, s.listener = .publishing m frames → frames = s.rxBuffers m
  published : ∀ m, s.listener.busyWith = some m ∨ lastOf (·.about m) s.wsEvents = none ∨
    lastOf (·.about m) s.wsEvents = some (.radioFrames (s.current m))

theorem Filed.initial : Filed crc32Hash ({} : FrameFeed ι) [] where
  slot := nofun
  buffers := fun _ => rfl
  short := fun _ => Nat.zero_le _
  counted := fun _ => rfl
  frames := nofun
  published := fun _ => Or.inr (Or.inl rfl)

theorem Filed.file (filed : Filed crc32Hash s heard) (waiting : s.listener = .waiting) (h : Heard) :
    Filed crc32Hash { s with listener := file crc32Hash h } (heard ++ [h]) where
  slot := by
    intro m busy
    obtain rfl := Option.some.inj busy
    exact h.module_le
  buffers := by
    intro m
    have before := filed.buffers m
    rw [waiting] at before
    by_cases same : m = h.module
    · subst same
      rw [recent_append_own, ← before, push, Recency.take_cons_take]
      simp [FrameFeed.file, Listener.unfiled]
    · rw [recent, own_append_other same, ← recent, ← before]
      simp [FrameFeed.file, Listener.unfiled, Ne.symm same]
  short := filed.short
  counted := by
    intro m
    have before := filed.counted m
    rw [waiting] at before
    by_cases same : m = h.module
    · subst same
      have mine : own h.module (heard ++ [h]) = own h.module heard ++ [h] := by
        simp [own, List.filter_append]
      rw [mine, tally_append, ← before]
      simp [FrameFeed.file, Listener.uncounted]
    · rw [own_append_other same, ← before]
      simp [FrameFeed.file, Listener.uncounted, Ne.symm same]
  frames := nofun
  published := by
    intro m
    rcases filed.published m with busy | settled
    · rw [waiting] at busy
      cases busy
    · exact Or.inr settled

section
variable {m : Nat} {entry : RxFrameDto}

theorem Filed.elsewhere (filed : Filed crc32Hash s heard) (busy : s.listener.busyWith = some m)
    {n : Nat} (other : n ≠ m) : lastOf (·.about n) s.wsEvents = none ∨
      lastOf (·.about n) s.wsEvents = some (.radioFrames (s.current n)) := by
  rcases filed.published n with same | settled
  · exact (other (Option.some.inj (same.symm.trans busy))).elim
  · exact settled

theorem Filed.count {count : Count} {counts : List Count} (filed : Filed crc32Hash s heard)
    (filing : s.listener = .filing m entry (count :: counts)) :
    Filed crc32Hash { s with
      listener := .filing m entry counts
      frameStats := Function.update s.frameStats m ((s.frameStats m).count count) } heard := by
  have busy : s.listener.busyWith = some m := congrArg Listener.busyWith filing
  refine ⟨fun n same => filed.slot n (busy.trans same), ?_, filed.short, ?_, nofun, ?_⟩
  · intro n
    have before := filed.buffers n
    rw [filing] at before
    exact before
  · intro n
    have before := filed.counted n
    rw [filing] at before
    dsimp only
    by_cases same : n = m
    · subst same
      rw [Function.update_self, ← before]
      simp [Listener.uncounted]
    · rw [Function.update_of_ne same, ← before]
      simp [Listener.uncounted, Ne.symm same]
  · intro n
    by_cases same : n = m
    · exact Or.inl (congrArg some same.symm)
    · right
      dsimp only [current]
      rw [Function.update_of_ne same]
      exact filed.elsewhere busy same

theorem Filed.push (filed : Filed crc32Hash s heard) (filing : s.listener = .filing m entry []) :
    Filed crc32Hash { s with
      listener := .publishing m (push (s.rxBuffers m) entry)
      rxBuffers := Function.update s.rxBuffers m (push (s.rxBuffers m) entry) } heard := by
  have busy : s.listener.busyWith = some m := congrArg Listener.busyWith filing
  refine ⟨fun n same => filed.slot n (busy.trans same), ?_, ?_, ?_, ?_, ?_⟩
  · intro n
    have before := filed.buffers n
    rw [filing] at before
    dsimp only
    by_cases same : n = m
    · subst same
      rw [Function.update_self, ← before]
      simp [Listener.unfiled, FrameFeed.push, List.take_take]
    · rw [Function.update_of_ne same, ← before]
      simp [Listener.unfiled, Ne.symm same]
  · intro n
    dsimp only
    by_cases same : n = m
    · subst same
      rw [Function.update_self]
      exact List.length_take_le _ _
    · rw [Function.update_of_ne same]
      exact filed.short n
  · intro n
    have before := filed.counted n
    rw [filing] at before
    by_cases same : n = m
    · simpa [Listener.uncounted, same] using before
    · simpa [Listener.uncounted, Ne.symm same] using before
  · intro n frames publishing
    obtain ⟨rfl, rfl⟩ := Listener.publishing.inj publishing
    dsimp only
    rw [Function.update_self]
  · intro n
    by_cases same : n = m
    · exact Or.inl (congrArg some same.symm)
    · right
      dsimp only [current]
      rw [Function.update_of_ne same]
      exact filed.elsewhere busy same

theorem about_radioFrames {n : Nat} (le : m ≤ 1) (frames : List RxFrameDto)
    (stats : FrameStatsDto) :
    WsStatusEvent.about n (.radioFrames ⟨min m 1, frames, stats⟩) = (m == n) := by
  rw [WsStatusEvent.about, Nat.min_eq_left le]

theorem Filed.publish {frames : List RxFrameDto} (filed : Filed crc32Hash s heard)
    (publishing : s.listener = .publishing m frames) :
    Filed crc32Hash { s with
      listener := .waiting
      wsEvents :=
        s.wsEvents ++ [.radioFrames ⟨min m 1, frames, buildFrameStats (s.frameStats m)⟩] } heard := by
  have busy : s.listener.busyWith = some m := congrArg Listener.busyWith publishing
  have le : m ≤ 1 := filed.slot m busy
  refine ⟨nofun, ?_, filed.short, ?_, nofun, ?_⟩
  · intro n
    have before := filed.buffers n
    rw [publishing] at before
    exact before
  · intro n
    have before := filed.counted n
    rw [publishing] at before
    exact before
  · intro n
    right
    dsimp only
    rw [lastOf_append, lastOf_singleton, about_radioFrames le]
    by_cases same : n = m
    · right
      subst same
      rw [if_pos (beq_self_eq_true n), Option.some_or, filed.frames n frames publishing,
        Nat.min_eq_left le]
      rfl
    · have other : ¬ (m == n) = true := fun equal => same (beq_iff_eq.mp equal).symm
      rw [if_neg other, Option.none_or]
      exact filed.elsewhere busy same

end

theorem Filed.listen (filed : Filed crc32Hash s heard) : Filed crc32Hash s.listen heard := by
  unfold FrameFeed.listen
  cases state : s.listener with
  | waiting => exact filed
  | stopped => exact filed
  | publishing m frames => exact filed.publish state
  | filing m entry counts =>
    cases counts with
    | nil => exact filed.push state
    | cons count counts => exact filed.count state

/-! ### What a step leaves to read -/

structure Onward (s s' : FrameFeed ι) : Prop where
  sent : s'.wsEvents = s.wsEvents ∨ ∃ e, s'.wsEvents = s.wsEvents ++ [e]
  moved : ∀ m, s'.listener.busyWith = some m ∨
    (∃ e ∈ s'.wsEvents.drop s.wsEvents.length, e.about m = true) ∨
    s.listener.busyWith ≠ some m ∧ s'.rxBuffers m = s.rxBuffers m ∧
      s'.frameStats m = s.frameStats m

theorem Onward.dashboards (d : ι → Dashboard) : Onward s { s with dashboards := d } where
  sent := Or.inl rfl
  moved := by
    intro m
    by_cases busy : s.listener.busyWith = some m
    · exact Or.inl busy
    · exact Or.inr (Or.inr ⟨busy, rfl, rfl⟩)

theorem Onward.listening (waiting : s.listener = .waiting) (l : Listener) :
    Onward s { s with listener := l } where
  sent := Or.inl rfl
  moved := by
    intro m
    right
    right
    rw [waiting]
    exact ⟨nofun, rfl, rfl⟩

theorem Onward.periodic (event : PeriodicEvent) :
    Onward s { s with wsEvents := s.wsEvents ++ [.periodic event] } where
  sent := Or.inr ⟨_, rfl⟩
  moved := by
    intro m
    by_cases busy : s.listener.busyWith = some m
    · exact Or.inl busy
    · exact Or.inr (Or.inr ⟨busy, rfl, rfl⟩)

theorem Onward.filing {m : Nat} (busy : s.listener.busyWith = some m)
    (still : s'.listener.busyWith = some m) (sent : s'.wsEvents = s.wsEvents)
    (others : ∀ n, n ≠ m → s'.rxBuffers n = s.rxBuffers n ∧ s'.frameStats n = s.frameStats n) :
    Onward s s' where
  sent := Or.inl sent
  moved := by
    intro n
    by_cases same : n = m
    · exact Or.inl (same ▸ still)
    · rw [busy]
      exact Or.inr (Or.inr ⟨fun equal => same (Option.some.inj equal).symm, others n same⟩)

theorem Onward.listen (filed : Filed crc32Hash s heard) : Onward s s.listen := by
  unfold FrameFeed.listen
  cases state : s.listener with
  | waiting => exact .dashboards _
  | stopped => exact .dashboards _
  | publishing m frames =>
    have busy : s.listener.busyWith = some m := congrArg Listener.busyWith state
    refine ⟨Or.inr ⟨_, rfl⟩, ?_⟩
    intro n
    right
    by_cases same : n = m
    · left
      subst same
      have mine := about_radioFrames (n := n) (filed.slot n busy) frames
        (buildFrameStats (s.frameStats n))
      rw [beq_self_eq_true] at mine
      refine ⟨_, ?_, mine⟩
      dsimp only
      rw [List.drop_left]
      exact List.mem_singleton_self _
    · rw [busy]
      exact Or.inr ⟨fun equal => same (Option.some.inj equal).symm, rfl, rfl⟩
  | filing m entry counts =>
    have busy : s.listener.busyWith = some m := congrArg Listener.busyWith state
    cases counts with
    | nil => exact .filing busy rfl rfl fun n other => ⟨Function.update_of_ne other _ _, rfl⟩
    | cons count counts =>
      exact .filing busy rfl rfl fun n other => ⟨rfl, Function.update_of_ne other _ _⟩

/-! ### The dashboards -/

/-- What a dashboard has read of a module is current still, unless an event about the module is to
come. -/
def Fresh (s : FrameFeed ι) (start m : Nat) (dto : WsRadioFramesDto) : Prop :=
  s.listener.busyWith = some m ∨ (∃ e ∈ s.wsEvents.drop start, e.about m = true) ∨
    dto = s.current m

def Built (s : FrameFeed ι) (start : Nat) (built : List WsRadioFramesDto) : Prop :=
  ∀ m dto, built[m]? = some dto → dto.module = m ∧ Fresh s start m dto

/-- A reading goes on to what is current then. -/
def Gathered (s : FrameFeed ι) (start m : Nat) : Gather → Prop
  | .frames => True
  | .stats frames loads dto =>
    Fresh s start m ⟨m, frames, loads.foldl (FrameStatsDto.read (s.frameStats m)) dto⟩

def Serves (s : FrameFeed ι) : Dashboard → Prop
  | .closed => True
  | .gathering rx built gather => ∃ start,
      Broadcast.Tracks wsEventCapacity s.wsEvents start rx ∧ built.length < 2 ∧
        Built s start built ∧ Gathered s start built.length gather
  | .live rx initial => ∃ start built,
      Broadcast.Tracks wsEventCapacity s.wsEvents start rx ∧ built.length = 2 ∧
        Built s start built ∧ initial = initialStatus ++ built.map .radioFrames

section
variable {start m : Nat}

theorem Fresh.onward (onward : Onward s s') (begun : start ≤ s.wsEvents.length)
    (build : FrameStats → WsRadioFramesDto) (fresh : Fresh s start m (build (s.frameStats m))) :
    Fresh s' start m (build (s'.frameStats m)) := by
  rcases onward.moved m with busy | ⟨e, sent, about⟩ | ⟨idle, buffers, stats⟩
  · exact Or.inl busy
  · exact Or.inr (Or.inl ⟨e, List.drop_subset_drop_left _ begun sent, about⟩)
  · right
    rcases fresh with busy | ⟨e, sent, about⟩ | equal
    · exact (idle busy).elim
    · left
      refine ⟨e, ?_, about⟩
      rcases onward.sent with same | ⟨more, grown⟩
      · rw [same]
        exact sent
      · rw [grown, List.drop_append_of_le_length begun]
        exact List.mem_append_left _ sent
    · right
      rw [stats, equal, current, current, buffers, stats]

theorem Built.onward {built : List WsRadioFramesDto} (onward : Onward s s')
    (begun : start ≤ s.wsEvents.length) (fresh : Built s start built) : Built s' start built := by
  intro m dto found
  obtain ⟨slot, read⟩ := fresh m dto found
  exact ⟨slot, read.onward onward begun fun _ => dto⟩

theorem Gathered.onward {gather : Gather} (onward : Onward s s')
    (begun : start ≤ s.wsEvents.length) (gathered : Gathered s start m gather) :
    Gathered s' start m gather := by
  cases gather with
  | frames => trivial
  | stats frames loads dto =>
    exact Fresh.onward onward begun
      (fun stats => ⟨m, frames, loads.foldl (FrameStatsDto.read stats) dto⟩) gathered

theorem tracks_onward {rx : Broadcast.Receiver WsStatusEvent} (onward : Onward s s')
    (tracks : Broadcast.Tracks wsEventCapacity s.wsEvents start rx) :
    Broadcast.Tracks wsEventCapacity s'.wsEvents start rx := by
  rcases onward.sent with same | ⟨e, grown⟩
  · rw [same]
    exact tracks
  · rw [grown]
    exact tracks.send e

theorem Serves.onward {d : Dashboard} (onward : Onward s s') (serves : Serves s d) :
    Serves s' d := by
  cases d with
  | closed => trivial
  | gathering rx built gather =>
    obtain ⟨start, tracks, few, fresh, gathered⟩ := serves
    have begun := tracks.begun.trans tracks.within
    exact ⟨start, tracks_onward onward tracks, few, fresh.onward onward begun,
      gathered.onward onward begun⟩
  | live rx initial =>
    obtain ⟨start, built, tracks, both, fresh, opened⟩ := serves
    have begun := tracks.begun.trans tracks.within
    exact ⟨start, built, tracks_onward onward tracks, both, fresh.onward onward begun, opened⟩

theorem Built.snoc {built : List WsRadioFramesDto} {dto : WsRadioFramesDto}
    (fresh : Built s start built) (slot : dto.module = built.length)
    (last : Fresh s start built.length dto) : Built s start (built ++ [dto]) := by
  intro m found at_m
  rcases Nat.lt_trichotomy m built.length with before | rfl | after
  · rw [List.getElem?_append_left before] at at_m
    exact fresh m found at_m
  · rw [List.getElem?_concat_length] at at_m
    obtain rfl := Option.some.inj at_m
    exact ⟨slot, last⟩
  · rw [List.getElem?_eq_none (by rw [List.length_append]; exact after)] at at_m
    cases at_m

theorem Serves.advance {poll : Broadcast.Poll WsStatusEvent} (documented : poll.Documented)
    {d : Dashboard} (serves : Serves s d) : Serves s (advance poll s d) := by
  cases d with
  | closed => trivial
  | live rx initial =>
    obtain ⟨start, built, tracks, both, fresh, opened⟩ := serves
    exact ⟨start, built, tracks.recv documented, both, fresh, opened⟩
  | gathering rx built gather =>
    obtain ⟨start, tracks, few, fresh, gathered⟩ := serves
    cases gather with
    | frames => exact ⟨start, tracks, few, fresh, Or.inr (Or.inr rfl)⟩
    | stats frames loads dto =>
      cases loads with
      | cons load loads => exact ⟨start, tracks, few, fresh, gathered⟩
      | nil =>
        have grown := fresh.snoc rfl gathered
        unfold FrameFeed.advance
        dsimp only
        split
        · rename_i more
          exact ⟨start, tracks, more, grown, trivial⟩
        · rename_i done
          refine ⟨start, _, tracks, ?_, grown, rfl⟩
          rw [List.length_append, List.length_singleton] at done ⊢
          omega

end

/-! ### Runs -/

def hear (heard : List Heard) (x : Event ι × Option Heard) : List Heard := heard ++ x.2.toList

theorem foldl_hear (trace : List (Event ι × Option Heard)) (heard : List Heard) :
    trace.foldl hear heard = heard ++ taken trace := by
  induction trace generalizing heard with
  | nil => exact (List.append_nil _).symm
  | cons x rest ih =>
    rw [List.foldl_cons, ih, hear, List.append_assoc]
    cases out : x.2 with
    | none => rw [taken, taken, List.filterMap_cons_none out, Option.toList_none, List.nil_append]
    | some h =>
      rw [taken, taken, List.filterMap_cons_some out, Option.toList_some, List.singleton_append]

structure Kept (crc32Hash : List UInt8 → UInt32) (s : FrameFeed ι) (heard : List Heard) : Prop where
  filed : Filed crc32Hash s heard
  serves : ∀ i, Serves s (s.dashboards i)

theorem Kept.onward (kept : Kept crc32Hash s heard) (onward : Onward s s') {more : List Heard}
    (filed : Filed crc32Hash s' more) (same : s'.dashboards = s.dashboards) :
    Kept crc32Hash s' more where
  filed := filed
  serves := by
    intro i
    rw [same]
    exact (kept.serves i).onward onward

theorem Kept.dashboard [DecidableEq ι] (kept : Kept crc32Hash s heard) (i : ι) {d : Dashboard}
    (serves : Serves s d) :
    Kept crc32Hash { s with dashboards := Function.update s.dashboards i d } heard where
  filed := ⟨kept.filed.slot, kept.filed.buffers, kept.filed.short, kept.filed.counted,
    kept.filed.frames, kept.filed.published⟩
  serves := by
    intro j
    refine Serves.onward (.dashboards _) ?_
    dsimp only
    by_cases same : j = i
    · subst same
      rw [Function.update_self]
      exact serves
    · rw [Function.update_of_ne same]
      exact kept.serves j

theorem Filed.stop (filed : Filed crc32Hash s heard) (waiting : s.listener = .waiting) :
    Filed crc32Hash { s with listener := .stopped } heard where
  slot := nofun
  buffers := by
    intro m
    have before := filed.buffers m
    rw [waiting] at before
    exact before
  short := filed.short
  counted := by
    intro m
    have before := filed.counted m
    rw [waiting] at before
    exact before
  frames := nofun
  published := by
    intro m
    rcases filed.published m with busy | settled
    · rw [waiting] at busy
      cases busy
    · exact Or.inr settled

theorem Filed.periodic (filed : Filed crc32Hash s heard) (event : PeriodicEvent) :
    Filed crc32Hash { s with wsEvents := s.wsEvents ++ [.periodic event] } heard where
  slot := filed.slot
  buffers := filed.buffers
  short := filed.short
  counted := filed.counted
  frames := filed.frames
  published := by
    intro m
    dsimp only
    rw [lastOf_append, lastOf_singleton, if_neg (by exact Bool.false_ne_true), Option.none_or]
    exact filed.published m

section
variable [DecidableEq ι] {poll : Broadcast.Poll WsStatusEvent} (documented : poll.Documented)

include documented

theorem Kept.step (kept : Kept crc32Hash s heard) (event : Event ι) :
    Kept crc32Hash (step crc32Hash poll s event).1
      (hear heard (event, (step crc32Hash poll s event).2)) := by
  have unheard : heard = heard ++ [] := (List.append_nil _).symm
  cases event with
  | recv now result =>
    unfold FrameFeed.step
    dsimp only
    split
    · rename_i recv waiting
      exact kept.onward (.listening waiting _) (kept.filed.file waiting _) rfl
    · rename_i waiting
      rw [hear, Option.toList_none, List.append_nil]
      exact kept.onward (.listening waiting _) (kept.filed.stop waiting) rfl
    · rw [hear, Option.toList_none, List.append_nil]
      exact kept
  | txEvent now result =>
    unfold FrameFeed.step
    dsimp only
    split
    · rename_i module payload waiting
      exact kept.onward (.listening waiting _) (kept.filed.file waiting _) rfl
    · rename_i waiting
      rw [hear, Option.toList_none, List.append_nil]
      exact kept.onward (.listening waiting _) (kept.filed.stop waiting) rfl
    · rw [hear, Option.toList_none, List.append_nil]
      exact kept
  | listen =>
    unfold FrameFeed.step hear
    rw [Option.toList_none, List.append_nil]
    refine kept.onward (.listen kept.filed) kept.filed.listen ?_
    unfold FrameFeed.listen
    split <;> rfl
  | periodic event =>
    unfold FrameFeed.step hear
    rw [Option.toList_none, List.append_nil]
    exact kept.onward (.periodic event) (kept.filed.periodic event) rfl
  | connect i =>
    unfold FrameFeed.step
    dsimp only
    split
    · rw [hear, Option.toList_none, List.append_nil]
      exact kept.dashboard i ⟨_, .subscribed _, Nat.zero_lt_two, nofun, trivial⟩
    · rw [hear, Option.toList_none, List.append_nil]
      exact kept
  | advance i =>
    unfold FrameFeed.step hear
    rw [Option.toList_none, List.append_nil]
    exact kept.dashboard i ((kept.serves i).advance documented)
  | disconnect i =>
    unfold FrameFeed.step hear
    rw [Option.toList_none, List.append_nil]
    exact kept.dashboard i trivial

theorem run_kept (events : List (Event ι)) :
    Kept crc32Hash ((machine crc32Hash poll).run {} events)
      (taken ((machine crc32Hash poll).trace {} events)) := by
  have run := @Machine.run_kept _ _ _ _ (machine crc32Hash poll) hear
    (fun s heard => Kept crc32Hash s heard) (fun s heard event kept => kept.step documented event) {} []
    ⟨.initial, fun _ => trivial⟩ events
  rw [foldl_hear, List.nil_append] at run
  exact run

end

/-- With the listener at rest, buffers and counters are those of what has been heard. -/
theorem Filed.current (filed : Filed crc32Hash s heard) {m : Nat}
    (rest : s.listener.busyWith = none) :
    s.current m =
      ⟨m, recent crc32Hash m heard, buildFrameStats (tally (own m heard))⟩ := by
  have buffers := filed.buffers m
  have counted := filed.counted m
  have idle : s.listener.unfiled m = [] ∧ s.listener.uncounted m = [] := by
    cases state : s.listener with
    | filing n entry counts => rw [state] at rest; cases rest
    | _ => exact ⟨rfl, rfl⟩
  rw [idle.1, List.nil_append, List.take_of_length_le (filed.short m)] at buffers
  rw [idle.2, List.foldl_nil] at counted
  rw [FrameFeed.current, buffers, counted]

theorem initial_last {built : List WsRadioFramesDto} {start m : Nat} (both : built.length = 2)
    (fresh : Built s start built) (le : m ≤ 1) : ∃ dto, Fresh s start m dto ∧
      lastOf (·.about m) (initialStatus ++ built.map .radioFrames) = some (.radioFrames dto) := by
  obtain ⟨a, b, rfl⟩ := List.length_eq_two.mp both
  obtain ⟨slot_a, fresh_a⟩ := fresh 0 a rfl
  obtain ⟨slot_b, fresh_b⟩ := fresh 1 b rfl
  rcases Nat.le_one_iff_eq_zero_or_eq_one.mp le with rfl | rfl
  · refine ⟨a, fresh_a, ?_⟩
    simp [lastOf, initialStatus, WsStatusEvent.about, slot_a, slot_b]
  · refine ⟨b, fresh_b, ?_⟩
    simp [lastOf, initialStatus, WsStatusEvent.about, slot_a, slot_b]

/-- A dashboard that has been sent all events shows, once the listener is at rest, the newest 256
frames and the counters of all that has been heard of a module, unless it was too late for an event
about the module and 256 others have been sent since. -/
theorem dashboard_current [DecidableEq ι] (crc32Hash : List UInt8 → UInt32)
    (poll : Broadcast.Poll WsStatusEvent) (documented : poll.Documented)
    (events : List (Event ι)) (i : ι) (rx : Broadcast.Receiver WsStatusEvent)
    (initial : List WsStatusEvent) (m : Nat) (le : m ≤ 1) :
    let s := (machine crc32Hash poll).run {} events
    let heard := taken ((machine crc32Hash poll).trace {} events)
    s.dashboards i = .live rx initial → rx.next = s.wsEvents.length →
      s.listener.busyWith = none →
      ((∀ e ∈ rx.missed, e.about m = false) ∨
        ∃ e ∈ s.wsEvents.drop (s.wsEvents.length - wsEventCapacity), e.about m = true) →
      lastOf (·.about m) (initial ++ rx.received) = some (.radioFrames
        ⟨m, recent crc32Hash m heard, buildFrameStats (tally (own m heard))⟩) := by
  intro s heard live drained rest kept_up
  obtain ⟨filed, serves⟩ : Kept crc32Hash s heard := run_kept documented events
  have served := serves i
  rw [live] at served
  obtain ⟨start, built, tracks, both, fresh, rfl⟩ := served
  obtain ⟨dto, read, opened⟩ := initial_last both fresh le
  rw [← filed.current rest, lastOf_append, tracks.last drained kept_up, opened]
  cases found : lastOf (·.about m) (s.wsEvents.drop start) with
  | some last =>
    have all : lastOf (·.about m) s.wsEvents = some last := by
      rw [← List.take_append_drop start s.wsEvents, lastOf_append, found, Option.some_or]
    rw [Option.some_or, ← all]
    rcases filed.published m with busy | none | settled
    · rw [rest] at busy
      cases busy
    · rw [none] at all
      cases all
    · exact settled
  | none =>
    rcases read with busy | ⟨e, sent, about⟩ | rfl
    · rw [rest] at busy
      cases busy
    · rw [Broadcast.lastOf_eq_none.mp found e sent] at about
      cases about
    · rfl

/-- A frame of the second module, and a dashboard that subscribes before it is published. -/
def oneFrame : Heard := .received 9 ⟨1, -40, ⟨[0x4b, 0x41], by decide⟩⟩

def oneDashboard : List (Event Nat) :=
  .recv 9 (.ok ⟨1, -40, ⟨[0x4b, 0x41], by decide⟩⟩) :: .listen :: .connect 0 ::
    List.replicate 4 .listen ++ .periodic .vpn :: List.replicate 18 (.advance 0)

theorem dashboard_current_one : ∃ rx initial,
    ((machine (fun _ => 7) Broadcast.retained).run {} oneDashboard).dashboards 0 =
        .live rx initial ∧
      lastOf (·.about 1) (initial ++ rx.received) =
        some (.radioFrames ⟨1, [oneFrame.entry fun _ => 7], ⟨1, 2, 0, 0, some (-40)⟩⟩) := by
  refine ⟨_, _, rfl, ?_⟩
  exact (dashboard_current (fun _ => 7) Broadcast.retained Broadcast.retained_documented oneDashboard
    0 _ _ 1 (Nat.le_refl 1) rfl rfl rfl (Or.inl nofun)).trans rfl

end FrameFeed

end Kaonic.Gateway
