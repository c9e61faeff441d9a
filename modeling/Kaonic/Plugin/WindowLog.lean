import Kaonic.Plugin.SeenCommands

/-!
# The window and its log

What a `DiagnosticState` keeps is read off the history of its operations: the last applied command
decides whether the window is open, and the records answered with `true` since then are what
`recent_at` shows.
-/

namespace Kaonic.Plugin

namespace DiagnosticState

/-- The last applied command with its time, and the records kept since. -/
structure History where
  applied : Option (DiagnosticAction × SystemTime) := none
  recorded : List DiagnosticRecord := []

def History.observe (h : History) : Op × Answer → History
  | (.applyOnce command now, .applied true) => ⟨some (command.action, now), []⟩
  | (.recordRemote peerHash channelPort event now, .recorded true) =>
    { h with recorded := h.recorded ++ [DiagnosticRecord.of peerHash channelPort event now] }
  | _ => h

/-- The last applied command enabled diagnostics for a time that is not over. -/
def History.Open (h : History) (now : SystemTime) : Prop :=
  ∃ seconds t, h.applied = some (.enable seconds, t) ∧ now.nanos < t.nanos + Duration.fromSecs seconds

def History.Ends (h : History) : Prop :=
  ∃ seconds t, h.applied = some (.enable seconds, t) ∧
    (t.checkedAdd (Duration.fromSecs seconds)).isSome

def history (s : DiagnosticState) (ops : List Op) : History :=
  (machine.trace s ops).foldl History.observe {}

/-! ### The relation between a state and a history -/

/-- At time `t` the state shows the history through a window of `bound` records. -/
structure Shows (bound : Nat) (t : SystemTime) (s : DiagnosticState) (h : History) : Prop where
  positive : 0 < bound
  bounded : s.maxRecords = bound
  opened : ∀ until_, s.enabledUntil = some until_ → s.records = h.recorded.rtake bound ∧
    ∃ seconds start, h.applied = some (.enable seconds, start) ∧
      start.checkedAdd (Duration.fromSecs seconds) = some until_
  closed : s.enabledUntil = none → s.records = [] ∧ ¬ (h.Open t ∧ h.Ends)

theorem ends_iff_of_applied {h : History} {seconds : UInt64} {start : SystemTime}
    (applied : h.applied = some (.enable seconds, start)) :
    h.Ends ↔ (start.checkedAdd (Duration.fromSecs seconds)).isSome := by
  unfold History.Ends
  rw [applied]
  refine ⟨?_, fun ends => ⟨seconds, start, rfl, ends⟩⟩
  intro ⟨_, _, same, ends⟩
  cases same
  exact ends

theorem open_iff_of_applied {h : History} {seconds : UInt64} {start until_ now : SystemTime}
    (applied : h.applied = some (.enable seconds, start))
    (added : start.checkedAdd (Duration.fromSecs seconds) = some until_) :
    h.Open now ↔ now < until_ := by
  rw [SystemTime.lt_iff, SystemTime.checkedAdd_nanos added]
  unfold History.Open
  rw [applied]
  refine ⟨?_, fun before => ⟨seconds, start, rfl, before⟩⟩
  intro ⟨_, _, same, before⟩
  cases same
  exact before

theorem History.Open.mono {h : History} {t now : SystemTime} (later : t ≤ now)
    (o : h.Open now) : h.Open t := by
  obtain ⟨seconds, start, applied, before⟩ := o
  exact ⟨seconds, start, applied, lt_of_le_of_lt (SystemTime.le_iff.mp later) before⟩

section Pruning

variable {bound : Nat} {t now : SystemTime} {s : DiagnosticState} {h : History}

theorem prune_enabledUntil : (s.prune now).enabledUntil = s.enabledUntil.filter (now < ·) := by
  unfold prune pruneWindow
  split
  · rename_i until_ opened
    split
    · rename_i past
      simp [opened, Option.filter_some, not_lt.mpr past]
    · rename_i before
      simp [opened, Option.filter_some, not_le.mp before]
  · rename_i closed
    simp [closed]

theorem prune_records : (s.prune now).records =
    if ∃ until_ ∈ s.enabledUntil, until_ ≤ now then [] else s.records := by
  unfold prune pruneWindow
  split
  · rename_i until_ opened
    split <;> rename_i order <;> simp [opened, order]
  · rename_i closed
    simp [closed]

theorem isEnabled_iff : s.isEnabled now ↔ ∃ until_ ∈ s.enabledUntil, now < until_ := by
  unfold isEnabled
  split <;> rename_i shape <;> simp [shape]

theorem prune_isEnabled : (s.prune now).isEnabled now ↔ (s.prune now).enabledUntil ≠ none := by
  rw [isEnabled_iff, prune_enabledUntil]
  cases s.enabledUntil with
  | none => simp
  | some until_ => by_cases before : now < until_ <;> simp [before]

theorem Shows.prune (shows : Shows bound t s h) (later : t ≤ now) :
    Shows bound now (s.prune now) h where
  positive := shows.positive
  bounded := prune_maxRecords.trans shows.bounded
  opened := by
    intro until_ stored
    rw [prune_enabledUntil, Option.filter_eq_some_iff] at stored
    obtain ⟨stored, before⟩ := stored
    obtain ⟨kept, enabled⟩ := shows.opened until_ stored
    refine ⟨?_, enabled⟩
    have fresh : ¬ until_ ≤ now := not_le.mpr (of_decide_eq_true before)
    rw [prune_records, stored, if_neg (by simpa using fresh), kept]
  closed := by
    intro none
    rw [prune_enabledUntil] at none
    rw [prune_records]
    cases stored : s.enabledUntil with
    | none =>
      obtain ⟨empty, shut⟩ := shows.closed stored
      refine ⟨by simp [empty], ?_⟩
      intro ⟨o, ends⟩
      exact shut ⟨o.mono later, ends⟩
    | some until_ =>
      have past : until_ ≤ now := by
        rw [stored] at none
        simpa using none
      refine ⟨by simp [past], ?_⟩
      intro ⟨o, _⟩
      obtain ⟨_, seconds, start, applied, added⟩ := shows.opened until_ stored
      exact not_lt.mpr past ((open_iff_of_applied applied added).mp o)

theorem Shows.isEnabled_iff (shows : Shows bound t s h) (later : t ≤ now) :
    (s.prune now).isEnabled now ↔ h.Open now ∧ h.Ends := by
  have pruned := shows.prune later
  rw [prune_isEnabled]
  cases stored : (s.prune now).enabledUntil with
  | none => simp [(pruned.closed stored).2]
  | some until_ =>
    obtain ⟨_, seconds, start, applied, added⟩ := pruned.opened until_ stored
    have before : now < until_ := by
      rw [prune_enabledUntil, Option.filter_eq_some_iff] at stored
      exact of_decide_eq_true stored.2
    simp [ends_iff_of_applied applied, added, open_iff_of_applied applied added, before]

end Pruning

/-! ### Operations -/

section Operations

variable {bound : Nat} {t now : SystemTime} {s : DiagnosticState} {h : History}

theorem Shows.applyOnceAt (shows : Shows bound t s h) (later : t ≤ now)
    (command : DiagnosticCommand) :
    Shows bound now (s.applyOnceAt command now).1
      (h.observe (.applyOnce command now, .applied (s.applyOnceAt command now).2)) := by
  cases fresh : (s.applyOnceAt command now).2 with
  | false =>
    rw [applyOnceAt_rejected fresh]
    exact shows.prune later
  | true =>
    obtain ⟨empty, limit, until_⟩ := applyOnceAt_fresh fresh
    refine ⟨shows.positive, limit.trans shows.bounded, ?_, ?_⟩
    · intro stop stored
      refine ⟨by simp [empty, History.observe, List.rtake], ?_⟩
      rw [until_] at stored
      cases action : command.action with
      | disable => simp [action] at stored
      | enable seconds =>
        rw [action] at stored
        exact ⟨seconds, now, by simp [History.observe, action], stored⟩
    · intro none
      refine ⟨empty, ?_⟩
      rw [until_] at none
      intro ⟨_, seconds, start, applied, ends⟩
      simp only [History.observe, Option.some.injEq, Prod.mk.injEq] at applied
      obtain ⟨action, rfl⟩ := applied
      rw [action] at none
      simp [none] at ends

theorem rtake_rtake_append {α : Type} (bound : Nat) (l r : List α) :
    (l.rtake bound ++ r).rtake bound = (l ++ r).rtake bound := by
  simp [List.rtake_eq_reverse_take_reverse, List.take_append, List.take_take]

theorem Shows.recordRemoteAt (shows : Shows bound t s h) (later : t ≤ now) (peerHash : String)
    (channelPort : UInt16) (event : CotEvent) :
    Shows bound now (s.recordRemoteAt peerHash channelPort event now).1
      (h.observe (.recordRemote peerHash channelPort event now,
        .recorded (s.recordRemoteAt peerHash channelPort event now).2)) := by
  have pruned := shows.prune later
  unfold DiagnosticState.recordRemoteAt
  dsimp only
  split
  · rename_i enabled
    rw [prune_isEnabled] at enabled
    refine ⟨pruned.positive, pruned.bounded, ?_, fun none => (enabled none).elim⟩
    intro until_ stored
    obtain ⟨kept, window⟩ := pruned.opened until_ stored
    refine ⟨?_, window⟩
    dsimp only [History.observe]
    rw [kept, pruned.bounded, rtake_rtake_append]
  · exact pruned

theorem recordRemoteAt_kept {peerHash : String} {channelPort : UInt16} {event : CotEvent} :
    (s.recordRemoteAt peerHash channelPort event now).2 = (s.prune now).isEnabled now := by
  unfold DiagnosticState.recordRemoteAt
  dsimp only
  split <;> simp_all

theorem Shows.step (t : SystemTime) (s : DiagnosticState) (h : History) (op : Op)
    (shows : Shows bound t s h) (later : t ≤ op.now) :
    Shows bound op.now (machine.step s op).1 (h.observe (op, (machine.step s op).2)) := by
  cases op with
  | applyOnce command now => exact shows.applyOnceAt later command
  | recordRemote peerHash channelPort event now =>
    exact shows.recordRemoteAt later peerHash channelPort event
  | status now => exact shows.prune later
  | recent limit now => exact shows.prune later
  | pruneExpired now => exact shows.prune later

theorem Shows.new (maxRecords : Nat) (t : SystemTime) :
    Shows (max maxRecords 1) t (DiagnosticState.new maxRecords) {} where
  positive := by omega
  bounded := rfl
  opened := by
    intro until_ stored
    cases stored
  closed := by
    intro _
    refine ⟨rfl, ?_⟩
    intro ⟨⟨_, _, applied, _⟩, _⟩
    cases applied

end Operations

/-! ### Runs -/

theorem Shows.run (maxRecords : Nat) {ops : List Op} {now : SystemTime}
    (sorted : ops.Pairwise fun a b => a.now ≤ b.now) (later : ∀ op ∈ ops, op.now ≤ now) :
    ∃ t ≤ now, Shows (max maxRecords 1) t (machine.run (DiagnosticState.new maxRecords) ops)
      (history (DiagnosticState.new maxRecords) ops) := by
  have step := @Shows.step (max maxRecords 1)
  cases ops with
  | nil => exact ⟨now, le_rfl, Shows.new maxRecords now⟩
  | cons first rest =>
    have late : ∀ op ∈ first :: rest, first.now ≤ op.now := by
      intro op member
      rcases List.mem_cons.mp member with rfl | member
      · exact le_rfl
      · exact (List.pairwise_cons.mp sorted).1 op member
    obtain ⟨last, shows, least⟩ := Machine.run_observed step (Shows.new maxRecords first.now) sorted late
    exact ⟨last, least now (later first List.mem_cons_self) later, shows⟩

theorem Shows.recentAt {bound limit : Nat} {t now : SystemTime} {s : DiagnosticState} {h : History}
    (shows : Shows bound t s h) (later : t ≤ now) (o : h.Open now ∧ h.Ends) :
    (s.recentAt limit now).2 = h.recorded.reverse.take (min limit bound) := by
  have pruned := shows.prune later
  unfold DiagnosticState.recentAt
  dsimp only
  cases stored : (s.prune now).enabledUntil with
  | none => exact ((pruned.closed stored).2 o).elim
  | some until_ =>
    rw [(pruned.opened until_ stored).1, List.rtake_eq_reverse_take_reverse, List.reverse_reverse,
      List.take_take]

theorem Shows.recentAt_closed {bound limit : Nat} {t now : SystemTime} {s : DiagnosticState}
    {h : History} (shows : Shows bound t s h) (later : t ≤ now) (shut : ¬ (h.Open now ∧ h.Ends)) :
    (s.recentAt limit now).2 = [] := by
  have disabled := mt (shows.isEnabled_iff later).mp shut
  rw [prune_isEnabled, not_not] at disabled
  unfold DiagnosticState.recentAt
  dsimp only
  rw [((shows.prune later).closed disabled).1, List.reverse_nil, List.take_nil]

/-- What a diagnostic state answers after any run in clock order: the last applied command alone
opens the window, and the log shown is what was kept since. -/
theorem answers_run (maxRecords : Nat) (ops : List Op) (now : SystemTime)
    (sorted : ops.Pairwise fun a b => a.now ≤ b.now) (later : ∀ op ∈ ops, op.now ≤ now) :
    let s := machine.run (new maxRecords) ops
    let h := history (new maxRecords) ops
    (∀ peerHash channelPort event,
      (s.recordRemoteAt peerHash channelPort event now).2 = true ↔ h.Open now ∧ h.Ends) ∧
    (h.Open now ∧ h.Ends → ∀ limit, (s.recentAt limit now).2 =
      h.recorded.reverse.take (min limit (max maxRecords 1))) ∧
    (¬ (h.Open now ∧ h.Ends) → ∀ limit, (s.recentAt limit now).2 = []) ∧
    (∀ command, (s.applyOnceAt command now).2 = false → ∀ op, now ≤ op.now →
      machine.step (s.applyOnceAt command now).1 op = machine.step s op) := by
  intro s h
  obtain ⟨t, late, shows⟩ := Shows.run maxRecords sorted later
  refine ⟨?_, fun o _ => shows.recentAt late o, fun shut _ => shows.recentAt_closed late shut, ?_⟩
  · intro peerHash channelPort event
    rw [recordRemoteAt_kept]
    exact shows.isEnabled_iff late
  · intro command rejected op after
    rw [applyOnceAt_rejected rejected]
    exact step_prune after s

def sampleEvent : CotEvent where
  uid := "ANDROID-123"
  eventType := "a-f-G-U-C"
  how := none
  callsign := some "PHONE-A"
  time := none
  start := none
  stale := none
  point := none

/-- A fresh enable starts an empty log, and the record that follows it is shown. -/
theorem answers_run_reenabled :
    let ops := [Op.applyOnce ⟨"a", .enable 60⟩ (.ofSecs 10),
      .recordRemote "b" 7 sampleEvent (.ofSecs 20), .applyOnce ⟨"c", .enable 60⟩ (.ofSecs 30),
      .recordRemote "d" 7 sampleEvent (.ofSecs 40), .applyOnce ⟨"c", .disable⟩ (.ofSecs 45)]
    ((machine.run (new 4) ops).recentAt 9 (.ofSecs 50)).2 =
      [DiagnosticRecord.of "d" 7 sampleEvent (.ofSecs 40)] := by
  intro ops
  obtain ⟨_, recent, _⟩ := answers_run 4 ops (.ofSecs 50) (by decide) (by decide)
  have opened : (history (new 4) ops).Open (.ofSecs 50) := ⟨60, .ofSecs 30, rfl, by decide⟩
  have ends : (history (new 4) ops).Ends := ⟨60, .ofSecs 30, rfl, by decide⟩
  rw [recent ⟨opened, ends⟩ 9]
  rfl

/-- A window whose end the clock cannot show never opens. -/
theorem record_latest_dropped :
    let ops := [Op.applyOnce ⟨"a", .enable 3600⟩ .latest]
    (history (new 4) ops).Open .latest ∧
    ((machine.run (new 4) ops).recordRemoteAt "b" 7 sampleEvent .latest).2 = false := by
  refine ⟨⟨3600, .latest, rfl, by decide⟩, rfl⟩

/-! ### What the status reports -/

theorem statusAt_enabled {now : SystemTime} {s : DiagnosticState} :
    (s.statusAt now).2.enabled ↔
      ∃ until_ ∈ s.enabledUntil, now.nanos + Duration.fromSecs 1 ≤ until_.nanos := by
  have second : Duration.fromSecs 1 = 1000000000 := rfl
  unfold statusAt
  dsimp only
  rw [prune_enabledUntil, second]
  cases s.enabledUntil with
  | none => simp
  | some until_ =>
    by_cases before : now < until_
    · have order := SystemTime.lt_iff.mp before
      simp [Option.filter_some, before, SystemTime.durationSince, before.le]
      omega
    · have order := mt SystemTime.lt_iff.mpr before
      simp [Option.filter_some, before]
      omega

/-- The status counts whole seconds, the recorder compares readings: they part in the last second
of a window, and there alone. -/
theorem statusAt_enabled_iff_records (s : DiagnosticState) (now : SystemTime) (peerHash : String)
    (channelPort : UInt16) (event : CotEvent) :
    (s.statusAt now).2.enabled = (s.recordRemoteAt peerHash channelPort event now).2 ↔
      ∀ until_ ∈ s.enabledUntil,
        until_ ≤ now ∨ now.nanos + Duration.fromSecs 1 ≤ until_.nanos := by
  have second : Duration.fromSecs 1 = 1000000000 := rfl
  have enabled := @prune_isEnabled now s
  rw [recordRemoteAt_kept, Bool.eq_iff_iff, statusAt_enabled, enabled, prune_enabledUntil, second]
  cases s.enabledUntil with
  | none => simp
  | some until_ =>
    by_cases before : now < until_
    · simp [Option.filter_some, before, not_le.mpr before]
    · have order := SystemTime.le_iff.mp (not_lt.mp before)
      simp [Option.filter_some, before, not_lt.mp before]
      omega

/-- Half a second before the end the status is off and an event is still recorded. -/
theorem statusAt_disabled_records :
    let s := machine.run (new 4) [.applyOnce ⟨"a", .enable 60⟩ (.ofSecs 10)]
    ∃ now : SystemTime, now.nanos = 69500000000 ∧ (s.statusAt now).2.enabled = false ∧
      (s.recordRemoteAt "b" 7 sampleEvent now).2 = true := by
  refine ⟨⟨69500000000, by decide⟩, rfl, ?_, ?_⟩
  · decide
  · decide

end DiagnosticState

end Kaonic.Plugin
