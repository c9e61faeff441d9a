import Kaonic.Base.Machine
import Kaonic.Base.Recency
import Kaonic.Plugin.Location

/-!
# Runs of the location store

Under any clock the store stays within its bound. Under a clock that goes forward it is a cache of
the latest locations; when the clock steps back, the entry that leaves may be the one that came.
-/

namespace Kaonic.Plugin

def LocationRecord.key (r : LocationRecord) : PacketSource × String := (r.source, r.uid)

namespace LocationState

abbrev IterOrder := HashMap.IterOrder (PacketSource × String) LocationRecord

inductive Call where
  | record (it : IterOrder) (source : PacketSource) (channelPort : UInt16) (event : CotEvent)
      (updatedAt now : SystemTime)
  | len (now : SystemTime)

inductive Answer where
  | recorded (record : Option LocationRecord)
  | counted (n : Nat)

def machine : Machine LocationState Call Answer where
  step s
    | .record it source channelPort event updatedAt now =>
      ((s.record it source channelPort event updatedAt now).1,
        .recorded (s.record it source channelPort event updatedAt now).2)
    | .len now => ((s.len now).1, .counted (s.len now).2)

/-! ### Dropping the oldest entries -/

section Dropping

variable {it : IterOrder} {records : LocationRecords} {k : PacketSource × String}
  {r : LocationRecord} {maxRecords fuel : Nat}

theorem oldestKey_lookup (found : oldestKey it records = some k) :
    ∃ r, records.lookup k = some r := by
  obtain ⟨e, least, rfl⟩ := Option.map_eq_some_iff.mp found
  exact ⟨e.2, (HashMap.IterOrder.mem_order it).mp (List.argmin_mem least)⟩

theorem oldestKey_isSome (stored : 0 < records.keys.length) : ∃ k, oldestKey it records = some k := by
  obtain ⟨k, member⟩ := List.exists_mem_of_length_pos stored
  obtain ⟨r, found⟩ := Option.isSome_iff_exists.mp (AList.lookup_isSome.mpr member)
  have listed := (HashMap.IterOrder.mem_order it).mpr found
  cases least : (it.order records).argmin fun e => e.2.updatedAt with
  | none =>
    rw [List.argmin_eq_none.mp least] at listed
    cases listed
  | some e => exact ⟨e.1, by rw [oldestKey, least]; rfl⟩

theorem dropOldest_within (within : records.keys.length ≤ maxRecords) :
    dropOldest it maxRecords fuel records = records := by
  cases fuel with
  | zero => rfl
  | succ fuel => rw [dropOldest, if_neg (Nat.not_lt.mpr within)]

theorem dropOldest_full (full : maxRecords < records.keys.length)
    (oldest : oldestKey it records = some k) :
    dropOldest it maxRecords (fuel + 1) records = dropOldest it maxRecords fuel (records.erase k) := by
  rw [dropOldest, if_pos full, oldest]

theorem dropOldest_length (enough : records.keys.length ≤ fuel + maxRecords) :
    (dropOldest it maxRecords fuel records).keys.length ≤ maxRecords := by
  induction fuel generalizing records with
  | zero => rwa [Nat.zero_add] at enough
  | succ fuel ih =>
    by_cases full : maxRecords < records.keys.length
    · obtain ⟨k, oldest⟩ := @oldestKey_isSome it records (Nat.zero_lt_of_lt full)
      obtain ⟨r, found⟩ := oldestKey_lookup oldest
      have less := HashMap.length_erase found
      rw [dropOldest_full full oldest]
      exact ih (by omega)
    · rw [dropOldest_within (Nat.not_lt.mp full)]
      exact Nat.not_lt.mp full

theorem dropOldest_lookup (found : (dropOldest it maxRecords fuel records).lookup k = some r) :
    records.lookup k = some r := by
  induction fuel generalizing records with
  | zero => exact found
  | succ fuel ih =>
    by_cases full : maxRecords < records.keys.length
    · obtain ⟨oldest, least⟩ := @oldestKey_isSome it records (Nat.zero_lt_of_lt full)
      rw [dropOldest_full full least] at found
      have kept := ih found
      rw [HashMap.lookup_erase_eq] at kept
      split at kept
      · cases kept
      · exact kept
    · rwa [dropOldest_within (Nat.not_lt.mp full)] at found

end Dropping

/-! ### The bound -/

/-- The record of an event with a point. -/
def recordOf (source : PacketSource) (channelPort : UInt16) (event : CotEvent) (point : CotPoint)
    (updatedAt : SystemTime) : LocationRecord where
  uid := event.uid
  eventType := event.eventType
  how := event.how
  callsign := event.callsign
  point := point
  source := source
  channelPort := channelPort
  updatedAt := updatedAt

structure Bounded (s : LocationState) : Prop where
  positive : 0 < s.maxRecords
  within : s.records.keys.length ≤ s.maxRecords

section Bound

variable {it : IterOrder} {s : LocationState} {source : PacketSource} {channelPort : UInt16}
  {event : CotEvent} {point : CotPoint} {updatedAt now : SystemTime} {k : PacketSource × String}
  {r : LocationRecord}

theorem record_none (located : event.point = none) :
    s.record it source channelPort event updatedAt now = (s, none) := by
  unfold record
  rw [located]

theorem record_some (located : event.point = some point) :
    s.record it source channelPort event updatedAt now =
      let r := recordOf source channelPort event point updatedAt
      let records := (s.prune now).records.insert r.key r
      ({ s.prune now with records := dropOldest it s.maxRecords records.keys.length records },
        some r) := by
  unfold record
  rw [located]
  rfl

theorem prune_lookup : (s.prune now).records.lookup k = some r ↔
    s.records.lookup k = some r ∧ now.nanos ≤ r.updatedAt.nanos + s.retention := by
  unfold prune
  dsimp only
  rw [HashMap.lookup_retain_eq, Option.filter_eq_some_iff, decide_eq_true_eq,
    SystemTime.durationSince_getD_le]

theorem prune_length : (s.prune now).records.keys.length ≤ s.records.keys.length :=
  (List.filter_sublist.map Sigma.fst).length_le

theorem Bounded.new (maxRecords retention : Nat) : Bounded (LocationState.new maxRecords retention) :=
  ⟨Nat.lt_of_lt_of_le Nat.zero_lt_one (Nat.le_max_right _ _), Nat.zero_le _⟩

theorem Bounded.prune (bounded : Bounded s) (now : SystemTime) : Bounded (s.prune now) :=
  ⟨bounded.positive, prune_length.trans bounded.within⟩

theorem Bounded.record (bounded : Bounded s) (it : IterOrder) (source : PacketSource)
    (channelPort : UInt16) (event : CotEvent) (updatedAt now : SystemTime) :
    Bounded (s.record it source channelPort event updatedAt now).1 := by
  cases located : event.point with
  | none => rwa [record_none located]
  | some point =>
    rw [record_some located]
    exact ⟨bounded.positive, dropOldest_length (Nat.le_add_right _ _)⟩

theorem Bounded.step (bounded : Bounded s) (call : Call) : Bounded (machine.step s call).1 := by
  cases call with
  | record it source channelPort event updatedAt now =>
    exact bounded.record it source channelPort event updatedAt now
  | len now => exact bounded.prune now

theorem Bounded.run (bounded : Bounded s) (calls : List Call) : Bounded (machine.run s calls) :=
  Machine.run_invariant (I := Bounded) (fun _ call bounded => bounded.step call) bounded calls

end Bound

/-! ### The record just accepted -/

/-- The entries that a prune at `now` leaves. -/
def survivors (s : LocationState) (now : SystemTime) :
    List ((PacketSource × String) × LocationRecord) :=
  (HashMap.toList s.records).filter fun e =>
    decide (now.nanos ≤ e.2.updatedAt.nanos + s.retention)

section Accepted

variable {it : IterOrder} {s : LocationState} {source : PacketSource} {channelPort : UInt16}
  {event : CotEvent} {point : CotPoint} {updatedAt now : SystemTime} {k : PacketSource × String}
  {r : LocationRecord} {records : LocationRecords}

theorem mem_survivors : (k, r) ∈ s.survivors now ↔ (s.prune now).records.lookup k = some r := by
  rw [prune_lookup, survivors, List.mem_filter, HashMap.mem_toList, decide_eq_true_eq]

theorem survivors_length : (s.survivors now).length = (s.prune now).records.keys.length := by
  have same : s.survivors now = HashMap.toList (s.prune now).records := by
    rw [survivors, prune, HashMap.toList, HashMap.toList, List.filter_map]
    congr 1
    refine List.filter_congr ?_
    intro e _
    rw [Function.comp_apply, decide_eq_decide]
    exact SystemTime.durationSince_getD_le.symm
  rw [same, HashMap.toList, List.length_map, AList.keys, List.keys, List.length_map]

/-- In a full map the least entry goes, and which one of several the order decides. -/
theorem oldestKey_ne_iff (found : records.lookup k = some r) :
    (∀ it, oldestKey it records ≠ some k) ↔
      ∃ k' old, records.lookup k' = some old ∧ old.updatedAt < r.updatedAt := by
  constructor
  · intro never
    by_contra oldest
    push Not at oldest
    obtain ⟨rest, order⟩ := HashMap.IterOrder.leading_order found
    refine never (.leading k) ?_
    have least : (((HashMap.IterOrder.leading k).order records).argmin fun e => e.2.updatedAt) =
        some (k, r) := by
      rw [order, List.argmin_cons]
      cases later : rest.argmin fun e => e.2.updatedAt with
      | none => rfl
      | some e =>
        have member : e ∈ (HashMap.IterOrder.leading k).order records := by
          rw [order]
          exact List.mem_cons_of_mem _ (List.argmin_mem later)
        have older := oldest e.1 e.2 ((HashMap.IterOrder.mem_order _).mp member)
        exact if_neg (not_lt.mpr older)
    rw [oldestKey, least]
    rfl
  · intro ⟨k', old, stored, older⟩ it least
    obtain ⟨e, first, same⟩ := Option.map_eq_some_iff.mp least
    subst same
    have own := (HashMap.IterOrder.mem_order it).mp (List.argmin_mem first)
    rw [found] at own
    have order := List.le_of_mem_argmin ((HashMap.IterOrder.mem_order it).mpr stored) first
    rw [← Option.some.inj own] at order
    exact not_le.mpr older order

/-- A full map that takes in a new key loses one entry. -/
theorem dropOldest_over {maxRecords : Nat} (full : records.keys.length = maxRecords + 1)
    (least : oldestKey it records = some k) :
    dropOldest it maxRecords records.keys.length records = records.erase k := by
  obtain ⟨r, found⟩ := oldestKey_lookup least
  have less := HashMap.length_erase found
  rw [full, dropOldest_full (by omega) least, dropOldest_within (by omega)]

/-- An entry outlives the loop in every order if and only if there is an older one. -/
theorem dropOldest_keeps_iff {maxRecords : Nat} (full : records.keys.length = maxRecords + 1)
    (found : records.lookup k = some r) :
    (∀ it, (dropOldest it maxRecords records.keys.length records).lookup k = some r) ↔
      ∃ k' old, records.lookup k' = some old ∧ old.updatedAt < r.updatedAt := by
  rw [← oldestKey_ne_iff found]
  refine forall_congr' ?_
  intro it
  obtain ⟨oldest, least⟩ := @oldestKey_isSome it records (by omega)
  rw [dropOldest_over full least, HashMap.lookup_erase_eq, least, found]
  by_cases gone : k = oldest
  · simp [gone]
  · simp [gone, Ne.symm gone]

/-- A new entry is not older than itself. -/
theorem older_in_insert (absent : records.lookup k = none) :
    (∃ k' old, (records.insert k r).lookup k' = some old ∧ old.updatedAt < r.updatedAt) ↔
      ∃ k' old, records.lookup k' = some old ∧ old.updatedAt < r.updatedAt := by
  constructor
  · intro ⟨k', old, found, older⟩
    rw [HashMap.lookup_insert_eq] at found
    split at found
    · rw [← Option.some.inj found] at older
      exact absurd older (lt_irrefl _)
    · exact ⟨k', old, found, older⟩
  · intro ⟨k', old, found, older⟩
    refine ⟨k', old, ?_, older⟩
    rw [HashMap.lookup_insert_eq, if_neg, found]
    rintro rfl
    rw [absent] at found
    cases found

/-- The new entry goes if there is no room, nothing older and no entry to replace. -/
theorem record_keeps_iff (bounded : Bounded s) (located : event.point = some point) :
    (∀ it, (s.record it source channelPort event updatedAt now).1.records.lookup
        (source, event.uid) = some (recordOf source channelPort event point updatedAt)) ↔
      (∃ e ∈ s.survivors now, e.1 = (source, event.uid) ∨ e.2.updatedAt < updatedAt) ∨
        (s.survivors now).length < s.maxRecords := by
  have within : (s.prune now).records.keys.length ≤ s.maxRecords := (bounded.prune now).within
  have stored : ∀ k r, (k, r) ∈ s.survivors now ↔ (s.prune now).records.lookup k = some r :=
    fun k r => mem_survivors
  simp only [record_some located, survivors_length]
  generalize made : recordOf source channelPort event point updatedAt = r
  have key : r.key = (source, event.uid) := by rw [← made]; rfl
  have time : r.updatedAt = updatedAt := by rw [← made]; rfl
  have inserted : ((s.prune now).records.insert (source, event.uid) r).lookup (source, event.uid) =
      some r := AList.lookup_insert _
  rw [key]
  cases known : (s.prune now).records.lookup (source, event.uid) with
  | some old =>
    have small := HashMap.length_insert_old (v := r) known
    refine iff_of_true (fun it => ?_) (Or.inl ⟨_, (stored _ _).mpr known, Or.inl rfl⟩)
    rw [dropOldest_within (by omega), inserted]
  | none =>
    have grown := HashMap.length_insert_new r known
    by_cases room : (s.prune now).records.keys.length < s.maxRecords
    · refine iff_of_true (fun it => ?_) (Or.inr room)
      rw [dropOldest_within (by omega), inserted]
    · rw [dropOldest_keeps_iff (by omega) inserted, older_in_insert known, time]
      constructor
      · intro ⟨k', old, found, older⟩
        exact Or.inl ⟨(k', old), (stored _ _).mpr found, Or.inr older⟩
      · rintro (⟨⟨k', old⟩, member, same | older⟩ | spare)
        · rw [stored, show k' = (source, event.uid) from same, known] at member
          cases member
        · exact ⟨k', old, (stored _ _).mp member, older⟩
        · exact absurd spare room

/-- In whatever order the map is gone through, the record that is handed out is in the store: this
holds of exactly those events that replace an entry, find room, or are newer than some entry. -/
theorem record_stored_iff (maxRecords retention : Nat) (calls : List Call) (source : PacketSource)
    (channelPort : UInt16) (event : CotEvent) (updatedAt now : SystemTime) :
    let s := machine.run (new maxRecords retention) calls
    (∀ it r, (s.record it source channelPort event updatedAt now).2 = some r →
      (s.record it source channelPort event updatedAt now).1.records.lookup (source, event.uid) =
        some r) ↔
      event.point = none ∨
      (∃ e ∈ s.survivors now, e.1 = (source, event.uid) ∨ e.2.updatedAt < updatedAt) ∨
      (s.survivors now).length < s.maxRecords := by
  intro s
  have bounded : Bounded s := (Bounded.new maxRecords retention).run calls
  cases located : event.point with
  | none =>
    refine iff_of_true (fun it r handed => ?_) (Or.inl rfl)
    rw [record_none located] at handed
    cases handed
  | some point =>
    have keeps := @record_keeps_iff s source channelPort event point updatedAt now bounded located
    simp only [reduceCtorEq, false_or]
    rw [← keeps]
    refine forall_congr' ?_
    intro it
    simp only [record_some located, Option.some.injEq, forall_eq']

def sampleLocation (uid : String) : CotEvent where
  uid := uid
  eventType := "a-f-G-U-C"
  how := none
  callsign := none
  time := none
  start := none
  stale := none
  point := some ⟨⟨0⟩, ⟨0⟩, none, none, none⟩

/-- The clock has stepped back: the record handed out is the one that leaves. -/
theorem record_evicted :
    let s := machine.run (new 1 defaultRecordRetention)
      [.record .entries .localUdp 6969 (sampleLocation "a") (.ofSecs 20) (.ofSecs 20)]
    let r := s.record .entries .localUdp 6969 (sampleLocation "b") (.ofSecs 10) (.ofSecs 10)
    r.2.isSome = true ∧ r.1.records.lookup (.localUdp, "b") = none := by
  decide

end Accepted

/-! ### The cache of latest locations -/

/-- The readings of the clock that a call takes. -/
def Call.readings : Call → List SystemTime
  | .record _ _ _ event updatedAt now => if event.point.isSome then [updatedAt, now] else []
  | .len now => [now]

/-- The reading at which a call prunes, if it comes to that. -/
def Call.prunes : Call → Option SystemTime
  | .record _ _ _ event _ now => event.point.map fun _ => now
  | .len now => some now

def Call.located : Call → Option LocationRecord
  | .record _ source channelPort event updatedAt _ =>
    event.point.map fun point => recordOf source channelPort event point updatedAt
  | .len _ => none

/-- The records of the located events, the last one first. -/
def log (calls : List Call) : List LocationRecord := calls.reverse.filterMap Call.located

def young (retention : Nat) (now : SystemTime) (r : LocationRecord) : Bool :=
  decide (now.nanos ≤ r.updatedAt.nanos + retention)

/-- What the store holds after a call that prunes: of the latest records of each sender those within
the retention, as many as fit. The record of the call itself is not asked for its age. -/
def cached (maxRecords retention : Nat) (call : Call) (now : SystemTime)
    (log : List LocationRecord) : List LocationRecord :=
  ((Recency.latest LocationRecord.key log).filter fun r =>
    decide (call.located = some r) || young retention now r).take maxRecords

open Recency (Holds latest touch)

/-- After the readings in `past` the store holds what the log left at the last prune. -/
structure Caches (past : List SystemTime) (s : LocationState) (log : List LocationRecord) :
    Prop where
  timely : ∀ r ∈ log, r.updatedAt ∈ past
  recent : log.Pairwise fun a b => b.updatedAt < a.updatedAt
  held : ∃ p : LocationRecord → Bool,
    Holds LocationRecord.key s.records (((latest LocationRecord.key log).filter p).take s.maxRecords) ∧
    ∀ now, (∀ t ∈ past, t < now) → ∀ r, young s.retention now r → p r

section Cache

variable {past : List SystemTime} {s : LocationState} {log l : List LocationRecord}
  {it : IterOrder} {source : PacketSource} {channelPort : UInt16} {event : CotEvent}
  {point : CotPoint} {updatedAt now : SystemTime} {r : LocationRecord} {m : LocationRecords}

theorem young_descends (recent : l.Pairwise fun a b => b.updatedAt < a.updatedAt)
    (retention : Nat) (now : SystemTime) :
    l.Pairwise fun a b => young retention now b → young retention now a := by
  refine recent.imp ?_
  intro a b older
  have order := SystemTime.lt_iff.mp older
  simp only [young, decide_eq_true_eq]
  omega

theorem Caches.new (maxRecords retention : Nat) : Caches [] (new maxRecords retention) [] where
  timely _ member := by cases member
  recent := List.Pairwise.nil
  held := by
    refine ⟨fun _ => true, ?_, fun _ _ _ _ => rfl⟩
    rw [latest, List.filter_nil, List.take_nil]
    exact Holds.empty

theorem Caches.prune (caches : Caches past s log) (later : ∀ t ∈ past, t < now) :
    Holds LocationRecord.key (s.prune now).records
      (((latest LocationRecord.key log).filter (young s.retention now)).take s.maxRecords) := by
  obtain ⟨p, held, keeps⟩ := caches.held
  have test : (fun r : LocationRecord =>
      decide ((now.durationSince r.updatedAt).getD 0 ≤ s.retention)) = young s.retention now := by
    funext r
    exact decide_eq_decide.mpr SystemTime.durationSince_getD_le
  have part : ((latest LocationRecord.key log).filter p).Sublist log :=
    List.filter_sublist.trans Recency.latest_sublist
  have recent := caches.recent.sublist part
  have pruned := held.retain (young s.retention now)
  rw [Recency.filter_take (young_descends recent _ _), List.filter_filter] at pruned
  rw [LocationState.prune, test]
  convert pruned using 3
  funext r
  cases passes : young s.retention now r with
  | false => rfl
  | true => rw [keeps now later r passes]; rfl

/-- The loop leaves the front of what the map holds. -/
theorem dropOldest_holds {maxRecords fuel : Nat} (holds : Holds LocationRecord.key m l)
    (recent : l.Pairwise fun a b => b.updatedAt < a.updatedAt) (enough : l.length ≤ fuel + maxRecords) :
    Holds LocationRecord.key (dropOldest it maxRecords fuel m) (l.take maxRecords) := by
  induction fuel generalizing m l with
  | zero => rwa [List.take_of_length_le (by omega)]
  | succ fuel ih =>
    by_cases full : maxRecords < m.keys.length
    · rw [holds.length] at full
      cases l using List.reverseRecOn with
      | nil => exact absurd full (Nat.not_lt_zero _)
      | append_singleton front r =>
        obtain ⟨recent, _, older⟩ := List.pairwise_append.mp recent
        have least : oldestKey it m = some r.key := by
          have first := holds.argmin_last (fun w member => older w member r (by simp)) it
          rw [oldestKey, first]
          rfl
        rw [List.length_append, List.length_singleton] at full enough
        rw [dropOldest_full (by rw [holds.length]; simpa using full) least,
          List.take_append_of_le_length (by omega)]
        exact ih holds.erase_last recent (by omega)
    · rw [dropOldest_within (Nat.not_lt.mp full)]
      rw [holds.length] at full
      rwa [List.take_of_length_le (Nat.not_lt.mp full)]

theorem Caches.len (caches : Caches past s log) (later : ∀ t ∈ past, t < now) :
    Caches (past ++ [now]) (s.len now).1 log where
  timely r member := List.mem_append_left _ (caches.timely r member)
  recent := caches.recent
  held := by
    refine ⟨young s.retention now, caches.prune later, ?_⟩
    intro after order r passes
    have step := SystemTime.lt_iff.mp (order now (by simp))
    simp only [young, decide_eq_true_eq] at passes ⊢
    have same : (s.len now).1.retention = s.retention := rfl
    rw [same] at passes
    omega

theorem agree_young {retention : Nat} {now : SystemTime} {r w : LocationRecord}
    (other : w.key ≠ r.key) :
    (decide (r = w) || young retention now w) = young retention now w := by
  have different : r ≠ w := fun same => other (by rw [same])
  simp [different]

/-- What the store holds of the log once a later record has come in. -/
theorem Caches.record_holds (caches : Caches past s log) (located : event.point = some point)
    (later : ∀ t ∈ past, t < updatedAt) (order : updatedAt < now) :
    let r := recordOf source channelPort event point updatedAt
    Holds LocationRecord.key (s.record it source channelPort event updatedAt now).1.records
      (((latest LocationRecord.key (r :: log)).filter fun w =>
        decide (r = w) || young s.retention now w).take s.maxRecords) := by
  intro r
  have pruned := caches.prune fun t member => (later t member).trans order
  have part : (((latest LocationRecord.key log).filter (young s.retention now)).take
      s.maxRecords).Sublist log :=
    (List.take_sublist _ _).trans (List.filter_sublist.trans Recency.latest_sublist)
  have recent : (touch LocationRecord.key r (((latest LocationRecord.key log).filter
      (young s.retention now)).take s.maxRecords)).Pairwise fun a b => b.updatedAt < a.updatedAt := by
    refine List.pairwise_cons.mpr ⟨?_, (caches.recent.sublist part).sublist List.filter_sublist⟩
    intro w member
    exact later _ (caches.timely w (part.subset (List.mem_of_mem_filter member)))
  have inserted := pruned.insert r
  have nodup : (((latest LocationRecord.key log).filter (young s.retention now)).map
      LocationRecord.key).Nodup := Recency.latest_nodup.sublist (List.filter_sublist.map _)
  rw [record_some located, latest, Recency.filter_touch (p := young s.retention now) (by simp)
    (fun w other => agree_young other), ← Recency.take_touch nodup]
  exact dropOldest_holds inserted recent (by rw [inserted.length]; exact Nat.le_add_right _ _)

theorem Caches.record (caches : Caches past s log) (located : event.point = some point)
    (later : ∀ t ∈ past, t < updatedAt) (order : updatedAt < now) :
    let r := recordOf source channelPort event point updatedAt
    Caches (past ++ [updatedAt, now]) (s.record it source channelPort event updatedAt now).1
      (r :: log) ∧
    Holds LocationRecord.key (s.record it source channelPort event updatedAt now).1.records
      (((latest LocationRecord.key (r :: log)).filter fun w =>
        decide (r = w) || young s.retention now w).take s.maxRecords) := by
  intro r
  have older : ∀ w ∈ log, w.updatedAt < r.updatedAt := fun w member =>
    later _ (caches.timely w member)
  have holds := @Caches.record_holds past s log it source channelPort event point updatedAt now
    caches located later order
  refine ⟨⟨?_, List.pairwise_cons.mpr ⟨older, caches.recent⟩, ?_⟩, holds⟩
  · intro w member
    rcases List.mem_cons.mp member with rfl | member
    · exact List.mem_append_right _ List.mem_cons_self
    · exact List.mem_append_left _ (caches.timely w member)
  · refine ⟨fun w => decide (r = w) || young s.retention now w, ?_, ?_⟩
    · rw [record_some located] at holds ⊢
      exact holds
    · intro after late w passes
      have step := SystemTime.lt_iff.mp (late now (by simp))
      rw [record_some located] at passes
      have fresh : young s.retention now w = true := by
        simp only [young, decide_eq_true_eq] at passes ⊢
        have same : (s.prune now).retention = s.retention := rfl
        rw [same] at passes
        omega
      simp [fresh]

theorem Caches.step (caches : Caches past s log) {call : Call}
    (increasing : (past ++ call.readings).Pairwise (· < ·)) :
    Caches (past ++ call.readings) (machine.step s call).1 (call.located.toList ++ log) ∧
    ∀ now, call.prunes = some now → Holds LocationRecord.key (machine.step s call).1.records
      (cached s.maxRecords s.retention call now (call.located.toList ++ log)) := by
  obtain ⟨_, own, later⟩ := List.pairwise_append.mp increasing
  cases call with
  | len now =>
    have late : ∀ t ∈ past, t < now := fun t member => later t member now List.mem_cons_self
    refine ⟨caches.len late, ?_⟩
    intro reading same
    cases same
    simpa [cached, Call.located, machine, LocationState.len] using caches.prune late
  | record it source channelPort event updatedAt now =>
    cases located : event.point with
    | none =>
      simp only [Call.readings, Call.located, Call.prunes, machine, located, record_none located]
      exact ⟨by simpa using caches, fun _ none => by cases none⟩
    | some point =>
      simp only [Call.readings, located, Option.isSome_some, if_true] at own later ⊢
      have late : ∀ t ∈ past, t < updatedAt := fun t member => later t member _ List.mem_cons_self
      have order : updatedAt < now := List.rel_of_pairwise_cons own List.mem_cons_self
      obtain ⟨recorded, held⟩ := @Caches.record past s log it source channelPort event point updatedAt
        now caches located late order
      have entry : (Call.record it source channelPort event updatedAt now).located =
          some (recordOf source channelPort event point updatedAt) := by
        simp [Call.located, located]
      rw [entry]
      refine ⟨recorded, ?_⟩
      intro reading same
      simp only [Call.prunes, located, Option.map_some, Option.some.injEq] at same
      subst same
      unfold cached
      rw [entry]
      simpa [machine] using held

theorem log_append (calls : List Call) (call : Call) :
    LocationState.log (calls ++ [call]) = call.located.toList ++ LocationState.log calls := by
  rw [LocationState.log, List.reverse_append, List.reverse_singleton, List.singleton_append,
    List.filterMap_cons]
  cases call.located <;> rfl

theorem record_limits (it : IterOrder) (s : LocationState) (source : PacketSource)
    (channelPort : UInt16) (event : CotEvent) (updatedAt now : SystemTime) :
    let r := (s.record it source channelPort event updatedAt now).1
    r.maxRecords = s.maxRecords ∧ r.retention = s.retention := by
  cases located : event.point with
  | none => rw [record_none located]; exact ⟨rfl, rfl⟩
  | some point => rw [record_some located]; exact ⟨rfl, rfl⟩

theorem step_limits (s : LocationState) (call : Call) :
    (machine.step s call).1.maxRecords = s.maxRecords ∧
      (machine.step s call).1.retention = s.retention := by
  cases call with
  | record it source channelPort event updatedAt now =>
    exact record_limits it s source channelPort event updatedAt now
  | len now => exact ⟨rfl, rfl⟩

theorem run_limits (s : LocationState) (calls : List Call) :
    (machine.run s calls).maxRecords = s.maxRecords ∧
      (machine.run s calls).retention = s.retention := by
  induction calls generalizing s with
  | nil => exact ⟨rfl, rfl⟩
  | cons call rest ih =>
    obtain ⟨bound, age⟩ := step_limits s call
    obtain ⟨bounds, ages⟩ := ih (machine.step s call).1
    exact ⟨bounds.trans bound, ages.trans age⟩

theorem Caches.run (maxRecords retention : Nat) {calls : List Call}
    (increasing : (calls.flatMap Call.readings).Pairwise (· < ·)) :
    Caches (calls.flatMap Call.readings) (machine.run (LocationState.new maxRecords retention) calls)
      (LocationState.log calls) := by
  induction calls using List.reverseRecOn with
  | nil => exact Caches.new maxRecords retention
  | append_singleton calls call ih =>
    rw [List.flatMap_append, List.flatMap_singleton] at increasing ⊢
    have caches := ih (List.pairwise_append.mp increasing).1
    rw [Machine.run_append, log_append]
    exact (caches.step increasing).1

/-- Only the sender of an event has its entry replaced. -/
theorem step_frame {call : Call} {k : PacketSource × String}
    (other : ∀ r, call.located = some r → k ≠ r.key)
    (found : (machine.step s call).1.records.lookup k = some r) : s.records.lookup k = some r := by
  cases call with
  | len now => exact (prune_lookup.mp found).1
  | record it source channelPort event updatedAt now =>
    cases located : event.point with
    | none =>
      simp only [machine, record_none located] at found
      exact found
    | some point =>
      have apart := other (recordOf source channelPort event point updatedAt)
        (by simp [Call.located, located])
      simp only [machine, record_some located] at found
      have kept := dropOldest_lookup found
      rw [HashMap.lookup_insert_eq, if_neg apart] at kept
      exact (prune_lookup.mp kept).1

end Cache

/-- Under a clock that goes forward a call that prunes leaves the latest records of the most recent
senders, so far as they are within the retention and the bound. A sender is a uid and where it was
heard, and an event without a point is passed over. -/
theorem caches_latest (maxRecords retention : Nat) (positive : 1 ≤ maxRecords) (calls : List Call)
    (call : Call) (increasing : ((calls ++ [call]).flatMap Call.readings).Pairwise (· < ·)) :
    let before := machine.run (new maxRecords retention) calls
    let after := (machine.step before call).1
    (∀ now, call.prunes = some now → ∀ k r, after.records.lookup k = some r ↔
      r ∈ cached maxRecords retention call now (log (calls ++ [call])) ∧ r.key = k) ∧
    (call.prunes = none → after = before) ∧
    ∀ k, (∀ r, call.located = some r → k ≠ r.key) →
      ∀ r, after.records.lookup k = some r → before.records.lookup k = some r := by
  intro before after
  rw [List.flatMap_append, List.flatMap_singleton] at increasing
  have caches := Caches.run maxRecords retention (List.pairwise_append.mp increasing).1
  have held := (caches.step increasing).2
  obtain ⟨bound, age⟩ := run_limits (new maxRecords retention) calls
  have limit : (new maxRecords retention).maxRecords = maxRecords := Nat.max_eq_left positive
  rw [← log_append, bound, age, limit] at held
  refine ⟨fun now reads => (held now reads).lookup, ?_, fun k other r => step_frame other⟩
  intro quiet
  cases call with
  | len now => cases quiet
  | record it source channelPort event updatedAt now =>
    have located : event.point = none := Option.map_eq_none_iff.mp quiet
    show (before.record it source channelPort event updatedAt now).1 = before
    rw [record_none located]

/-- Of three senders the one heard first has left a store of two. -/
theorem caches_latest_two :
    let heard := fun (source : PacketSource) (uid : String) (at_ : UInt32) =>
      Call.record .backwards source 6969 (sampleLocation uid) (.ofSecs at_) (.ofSecs (at_ + 1))
    let s := (machine.step (machine.run (new 2 defaultRecordRetention)
      [heard .localUdp "a" 10, heard .remoteReticulum "a" 20, heard .localUdp "b" 30])
      (.len (.ofSecs 40))).1
    s.records.lookup (.localUdp, "a") = none ∧
      s.records.lookup (.remoteReticulum, "a") = some
        (recordOf .remoteReticulum 6969 (sampleLocation "a") ⟨⟨0⟩, ⟨0⟩, none, none, none⟩ (.ofSecs 20)) := by
  intro heard s
  have increasing : (([heard .localUdp "a" 10, heard .remoteReticulum "a" 20,
      heard .localUdp "b" 30] ++ [Call.len (.ofSecs 40)]).flatMap Call.readings).Pairwise (· < ·) := by
    decide
  have shown := (caches_latest 2 defaultRecordRetention (by decide) _ _ increasing).1 _ rfl
  refine ⟨?_, (shown _ _).mpr ⟨by decide, rfl⟩⟩
  rw [Option.eq_none_iff_forall_ne_some]
  intro r found
  obtain ⟨member, same⟩ := (shown _ _).mp found
  have senders : (cached 2 defaultRecordRetention (.len (.ofSecs 40)) (.ofSecs 40)
      (log ([heard .localUdp "a" 10, heard .remoteReticulum "a" 20, heard .localUdp "b" 30] ++
        [.len (.ofSecs 40)]))).map LocationRecord.key =
      [(.localUdp, "b"), (.remoteReticulum, "a")] := by decide
  have listed := List.mem_map_of_mem (f := LocationRecord.key) member
  rw [senders, same] at listed
  revert listed
  decide

end LocationState

end Kaonic.Plugin
