import Kaonic.Plugin.WindowLog

/-!
# Replayed commands

The order of the ids is a queue that both loops pop from the front. An id stays behind the ones
before it, so that it leaves through its retention or through 2048 commands accepted after it.
-/

namespace Kaonic.Plugin

namespace DiagnosticState

/-! ### The queue of ids -/

/-- The first `n` ids leave the order and the map. -/
def popSeen (seen : HashMap String SystemTime) : Nat → List String →
    HashMap String SystemTime × List String
  | 0, order => (seen, order)
  | _ + 1, [] => (seen, [])
  | n + 1, id :: rest => popSeen (seen.erase id) n rest

/-- Map and order hold the same ids, each once. -/
structure Queued (seen : HashMap String SystemTime) (order : List String) : Prop where
  nodup : order.Nodup
  mem : ∀ id, id ∈ order ↔ id ∈ seen

section Queue

variable {now : SystemTime} {seen : HashMap String SystemTime} {id : String} {order : List String}

theorem Queued.length (queued : Queued seen order) : seen.keys.length = order.length := by
  refine ((List.perm_ext_iff_of_nodup (AList.keys_nodup seen) queued.nodup).mpr ?_).length_eq
  intro id
  rw [queued.mem, AList.mem_keys]

theorem Queued.tail {rest : List String} (queued : Queued seen (id :: rest)) :
    Queued (seen.erase id) rest := by
  obtain ⟨fresh, nodup⟩ := List.nodup_cons.mp queued.nodup
  refine ⟨nodup, ?_⟩
  intro other
  rw [AList.mem_erase, ← queued.mem, List.mem_cons]
  refine ⟨fun member => ⟨fun same => fresh (same ▸ member), Or.inr member⟩, ?_⟩
  intro ⟨different, member⟩
  exact member.resolve_left different

theorem Queued.insert (queued : Queued seen order) (fresh : id ∉ order) (now : SystemTime) :
    Queued (AList.insert id now seen) (order ++ [id]) := by
  refine ⟨?_, ?_⟩
  · rw [List.nodup_append]
    refine ⟨queued.nodup, List.nodup_singleton id, ?_⟩
    intro a member b last same
    rw [List.mem_singleton.mp last] at same
    exact fresh (same ▸ member)
  · intro other
    rw [AList.mem_insert, List.mem_append, List.mem_singleton, queued.mem]
    exact or_comm

theorem Queued.pop (queued : Queued seen order) (n : Nat) :
    Queued (popSeen seen n order).1 (popSeen seen n order).2 := by
  induction n generalizing seen order with
  | zero => exact queued
  | succ n ih =>
    cases order with
    | nil => exact queued
    | cons id rest => exact ih queued.tail

theorem Queued.of_pop {seen' : HashMap String SystemTime} {order' : List String} {n : Nat}
    (queued : Queued seen order) (popped : (seen', order') = popSeen seen n order) :
    Queued seen' order' := by
  have left := queued.pop n
  rwa [← popped] at left

theorem popSeen_order (n : Nat) : (popSeen seen n order).2 = order.drop n := by
  induction n generalizing seen order with
  | zero => rfl
  | succ n ih =>
    cases order with
    | nil => rfl
    | cons id rest => exact ih

theorem popSeen_lookup {n : Nat} (queued : Queued seen order) (kept : id ∈ order.drop n) :
    (popSeen seen n order).1.lookup id = seen.lookup id := by
  induction n generalizing seen order with
  | zero => rfl
  | succ n ih =>
    cases order with
    | nil => rfl
    | cons head rest =>
      have later : id ∈ rest.drop n := kept
      have different : id ≠ head := by
        intro same
        exact (List.nodup_cons.mp queued.nodup).1 (same ▸ List.mem_of_mem_drop later)
      exact (ih queued.tail later).trans (AList.lookup_erase_ne different)

theorem pruneSeen_pops (now : SystemTime) (seen : HashMap String SystemTime) (order : List String) :
    ∃ n, pruneSeen now seen order = popSeen seen n order := by
  induction order generalizing seen with
  | nil => exact ⟨0, rfl⟩
  | cons id rest ih =>
    by_cases front : Retained now seen id
    · exact ⟨0, pruneSeen_retained front⟩
    · obtain ⟨n, same⟩ := ih (seen.erase id)
      exact ⟨n + 1, (pruneSeen_expired front).trans same⟩

/-- Pruning stops in front of an id that is to be retained. -/
theorem pruneSeen_pops_before {pre post : List String} (queued : Queued seen (pre ++ id :: post))
    (retained : Retained now seen id) :
    ∃ n ≤ pre.length, pruneSeen now seen (pre ++ id :: post) = popSeen seen n (pre ++ id :: post) := by
  induction pre generalizing seen with
  | nil => exact ⟨0, Nat.le_refl 0, pruneSeen_retained retained⟩
  | cons head rest ih =>
    by_cases front : Retained now seen head
    · exact ⟨0, Nat.zero_le _, pruneSeen_retained front⟩
    · have different : id ≠ head := by
        intro same
        rw [same] at retained
        exact front retained
      have still : Retained now (seen.erase head) id := by
        unfold Retained at retained ⊢
        rwa [AList.lookup_erase_ne different]
      obtain ⟨n, bound, same⟩ := ih queued.tail still
      exact ⟨n + 1, Nat.succ_le_succ bound, (pruneSeen_expired front).trans same⟩

theorem enforceSeenBound_pops (queued : Queued seen order) (bound : Nat) :
    enforceSeenBound bound seen order = popSeen seen (order.length - bound) order := by
  induction order generalizing seen with
  | nil => simp [enforceSeenBound, popSeen]
  | cons id rest ih =>
    have length := queued.length
    unfold enforceSeenBound
    split
    · rename_i full
      rw [length, List.length_cons] at full
      rw [ih queued.tail, List.length_cons, Nat.sub_add_comm (Nat.le_of_lt_succ full)]
      rfl
    · rename_i within
      rw [length] at within
      rw [Nat.sub_eq_zero_of_le (Nat.not_lt.mp within)]
      rfl

/-- Popping no further than an id leaves it, and what is behind it, in place. -/
theorem popSeen_before {pre post : List String} {n : Nat}
    (queued : Queued seen (pre ++ id :: post)) (bound : n ≤ pre.length) :
    (popSeen seen n (pre ++ id :: post)).2 = pre.drop n ++ id :: post ∧
      (popSeen seen n (pre ++ id :: post)).1.lookup id = seen.lookup id := by
  have order : (pre ++ id :: post).drop n = pre.drop n ++ id :: post :=
    List.drop_append_of_le_length bound
  refine ⟨(popSeen_order n).trans order, popSeen_lookup queued ?_⟩
  rw [order]
  exact List.mem_append_right _ List.mem_cons_self

end Queue

/-! ### What a state recalls -/

def Answer.accepted : Answer → Bool
  | .applied fresh => fresh
  | _ => false

def countAccepted (k : Nat) (e : Op × Answer) : Nat := if e.2.accepted then k + 1 else k

/-- The order of the ids and the map agree, and the bound is the default one. -/
structure Ordered (s : DiagnosticState) : Prop where
  queued : Queued s.seenCommands s.seenOrder
  capacity : s.maxSeenCommands = defaultMaxSeenCommands

section Steps

variable {now : SystemTime} {s : DiagnosticState} {command : DiagnosticCommand}

theorem Ordered.new (maxRecords : Nat) : Ordered (DiagnosticState.new maxRecords) :=
  ⟨⟨List.nodup_nil, fun _ => by simp [DiagnosticState.new]⟩, rfl⟩

theorem prune_pops (now : SystemTime) (s : DiagnosticState) :
    ∃ n, ((s.prune now).seenCommands, (s.prune now).seenOrder) =
      popSeen s.seenCommands n s.seenOrder := by
  obtain ⟨n, popped⟩ := pruneSeen_pops now s.seenCommands s.seenOrder
  exact ⟨n, prune_seen.trans popped⟩

theorem prune_seenOrder (now : SystemTime) (s : DiagnosticState) :
    ∃ n, (s.prune now).seenOrder = s.seenOrder.drop n := by
  obtain ⟨n, popped⟩ := prune_pops now s
  exact ⟨n, (congrArg Prod.snd popped).trans (popSeen_order n)⟩

theorem Ordered.prune (ordered : Ordered s) (now : SystemTime) : Ordered (s.prune now) := by
  obtain ⟨n, popped⟩ := prune_pops now s
  exact ⟨ordered.queued.of_pop popped, prune_maxSeenCommands.trans ordered.capacity⟩

theorem applyOnceAt_order (fresh : (s.applyOnceAt command now).2 = true) :
    ((s.applyOnceAt command now).1.seenCommands, (s.applyOnceAt command now).1.seenOrder) =
      enforceSeenBound s.maxSeenCommands ((s.prune now).seenCommands.insert command.id now)
        ((s.prune now).seenOrder ++ [command.id]) := by
  have unseen := applyOnceAt_accepts.mp fresh
  unfold applyOnceAt
  dsimp only
  rw [unseen, prune_maxSeenCommands]
  cases command.action <;> rfl

theorem Ordered.unseen (ordered : Ordered s) (fresh : (s.applyOnceAt command now).2 = true) :
    command.id ∉ (s.prune now).seenOrder := by
  rw [(ordered.prune now).queued.mem, ← AList.lookup_eq_none]
  exact applyOnceAt_accepts.mp fresh

theorem Ordered.accept_queued (ordered : Ordered s)
    (fresh : (s.applyOnceAt command now).2 = true) :
    Queued ((s.prune now).seenCommands.insert command.id now)
      ((s.prune now).seenOrder ++ [command.id]) :=
  (ordered.prune now).queued.insert (ordered.unseen fresh) now

/-- A command that is accepted goes behind the others, of which as many leave as are too many. -/
theorem Ordered.accept_pops (ordered : Ordered s) (fresh : (s.applyOnceAt command now).2 = true) :
    ((s.applyOnceAt command now).1.seenCommands, (s.applyOnceAt command now).1.seenOrder) =
      popSeen ((s.prune now).seenCommands.insert command.id now)
        (((s.prune now).seenOrder ++ [command.id]).length - s.maxSeenCommands)
        ((s.prune now).seenOrder ++ [command.id]) :=
  (applyOnceAt_order fresh).trans (enforceSeenBound_pops (ordered.accept_queued fresh) _)

theorem Ordered.accept (ordered : Ordered s) (fresh : (s.applyOnceAt command now).2 = true) :
    Ordered (s.applyOnceAt command now).1 :=
  ⟨(ordered.accept_queued fresh).of_pop (ordered.accept_pops fresh),
    applyOnceAt_maxSeenCommands.trans ordered.capacity⟩

/-- An operation that accepts no command leaves the ids as pruning does. -/
theorem step_unaccepted {op : Op} (quiet : (machine.step s op).2.accepted = false) :
    (machine.step s op).1.seenCommands = (s.prune op.now).seenCommands ∧
      (machine.step s op).1.seenOrder = (s.prune op.now).seenOrder ∧
      (machine.step s op).1.maxSeenCommands = s.maxSeenCommands := by
  cases op with
  | applyOnce command now =>
    have rejected : (s.applyOnceAt command now).2 = false := quiet
    have same := applyOnceAt_rejected rejected
    dsimp only [machine, Op.now]
    rw [same]
    exact ⟨rfl, rfl, prune_maxSeenCommands⟩
  | recordRemote peerHash channelPort event now =>
    dsimp only [machine, recordRemoteAt, Op.now]
    split <;> exact ⟨rfl, rfl, prune_maxSeenCommands⟩
  | status now => exact ⟨rfl, rfl, prune_maxSeenCommands⟩
  | recent limit now => exact ⟨rfl, rfl, prune_maxSeenCommands⟩
  | pruneExpired now => exact ⟨rfl, rfl, prune_maxSeenCommands⟩

/-- Only an application accepts. -/
theorem step_accepted {op : Op} (accepted : (machine.step s op).2.accepted = true) :
    ∃ command now, op = .applyOnce command now ∧ (s.applyOnceAt command now).2 = true := by
  cases op with
  | applyOnce command now => exact ⟨command, now, rfl, accepted⟩
  | recordRemote _ _ _ _ => cases accepted
  | status _ => cases accepted
  | recent _ _ => cases accepted
  | pruneExpired _ => cases accepted

theorem Ordered.step (ordered : Ordered s) (op : Op) : Ordered (machine.step s op).1 := by
  cases quiet : (machine.step s op).2.accepted with
  | false =>
    obtain ⟨map, order, capacity⟩ := step_unaccepted quiet
    refine ⟨?_, capacity.trans ordered.capacity⟩
    rw [map, order]
    exact (ordered.prune op.now).queued
  | true =>
    obtain ⟨command, now, rfl, fresh⟩ := step_accepted quiet
    exact ordered.accept fresh

theorem Ordered.run (ordered : Ordered s) (ops : List Op) : Ordered (machine.run s ops) :=
  Machine.run_invariant (I := Ordered) (fun _ op ordered => ordered.step op) ordered ops

end Steps

/-- At time `t`, after `k` more accepted commands, the state still holds the id it accepted at
`since`, with at most `k` ids behind it. -/
structure Recalls (id : String) (since : SystemTime) (t : SystemTime) (s : DiagnosticState)
    (k : Nat) : Prop where
  ordered : Ordered s
  held : k < defaultMaxSeenCommands → t.nanos ≤ since.nanos + seenCommandRetention →
    ∃ pre post, s.seenOrder = pre ++ id :: post ∧ post.length ≤ k ∧
      s.seenCommands.lookup id = some since

section Recalling

variable {id : String} {since t now : SystemTime} {s : DiagnosticState} {k : Nat}
  {command : DiagnosticCommand}

/-- Enforcing the bound spares an id with fewer others behind it. -/
theorem enforceSeenBound_spares {bound : Nat} {seen : HashMap String SystemTime}
    {pre post : List String} (queued : Queued seen (pre ++ id :: post)) (room : post.length < bound) :
    ∃ kept, (enforceSeenBound bound seen (pre ++ id :: post)).2 = kept ++ id :: post ∧
      (enforceSeenBound bound seen (pre ++ id :: post)).1.lookup id = seen.lookup id := by
  have few : (pre ++ id :: post).length - bound ≤ pre.length := by
    rw [List.length_append, List.length_cons]
    omega
  rw [enforceSeenBound_pops queued]
  exact ⟨_, popSeen_before queued few⟩

theorem Recalls.first (ordered : Ordered s) (fresh : (s.applyOnceAt command now).2 = true) :
    Recalls command.id now now (s.applyOnceAt command now).1 0 := by
  refine ⟨ordered.accept fresh, ?_⟩
  intro room _
  have both := applyOnceAt_order fresh
  have map := congrArg Prod.fst both
  have order := congrArg Prod.snd both
  obtain ⟨kept, last, found⟩ := enforceSeenBound_spares (ordered.accept_queued fresh)
    (show ([] : List String).length < s.maxSeenCommands by rw [ordered.capacity]; exact room)
  exact ⟨kept, [], order.trans last, Nat.le_refl 0,
    ((congrArg (AList.lookup command.id) map).trans found).trans (AList.lookup_insert _)⟩

theorem Recalls.prune (recalls : Recalls id since t s k) (later : t ≤ now) :
    Recalls id since now (s.prune now) k := by
  refine ⟨recalls.ordered.prune now, ?_⟩
  intro room young
  rw [SystemTime.le_iff] at later
  obtain ⟨pre, post, order, few, found⟩ := recalls.held room (by omega)
  have queued := recalls.ordered.queued
  rw [order] at queued
  obtain ⟨n, bound, popped⟩ := pruneSeen_pops_before queued ⟨since, found, young⟩
  obtain ⟨rest, same⟩ := popSeen_before queued bound
  have both := @prune_seen now s
  rw [order, popped] at both
  have map := congrArg Prod.fst both
  exact ⟨pre.drop n, post, (congrArg Prod.snd both).trans rest, few,
    ((congrArg (AList.lookup id) map).trans same).trans found⟩

theorem Recalls.accept (recalls : Recalls id since t s k) (later : t ≤ now)
    (fresh : (s.applyOnceAt command now).2 = true) :
    Recalls id since now (s.applyOnceAt command now).1 (k + 1) := by
  have pruned := recalls.prune later
  refine ⟨recalls.ordered.accept fresh, ?_⟩
  intro room young
  obtain ⟨pre, post, order, few, found⟩ := pruned.held (Nat.lt_of_succ_lt room) young
  have unseen := recalls.ordered.unseen fresh
  have queued := recalls.ordered.accept_queued fresh
  have both := applyOnceAt_order fresh
  rw [order] at queued both unseen
  rw [List.append_assoc, List.cons_append] at queued both
  have behind : (post ++ [command.id]).length < s.maxSeenCommands := by
    rw [recalls.ordered.capacity, List.length_append, List.length_singleton]
    omega
  obtain ⟨kept, rest, same⟩ := enforceSeenBound_spares queued behind
  have different : id ≠ command.id := by
    intro equal
    exact unseen (equal ▸ List.mem_append_right _ List.mem_cons_self)
  have map := congrArg Prod.fst both
  refine ⟨kept, post ++ [command.id], (congrArg Prod.snd both).trans rest, ?_, ?_⟩
  · rw [List.length_append, List.length_singleton]
    exact Nat.succ_le_succ few
  · exact (((congrArg (AList.lookup id) map).trans same).trans
      (AList.lookup_insert_ne different)).trans found

theorem Recalls.step (recalls : Recalls id since t s k) (op : Op) (later : t ≤ op.now) :
    Recalls id since op.now (machine.step s op).1
      (countAccepted k (op, (machine.step s op).2)) := by
  unfold countAccepted
  cases quiet : (machine.step s op).2.accepted with
  | false =>
    have pruned := recalls.prune later
    obtain ⟨map, order, _⟩ := step_unaccepted quiet
    refine ⟨recalls.ordered.step op, ?_⟩
    rw [map, order]
    exact pruned.held
  | true =>
    obtain ⟨command, now, rfl, fresh⟩ := step_accepted quiet
    exact recalls.accept later fresh

end Recalling

/-! ### Replays within a day -/

def acceptedCount (s : DiagnosticState) (ops : List Op) : Nat :=
  (machine.trace s ops).countP fun e => e.2.accepted

theorem foldl_accepted (events : List (Op × Answer)) (k : Nat) :
    events.foldl countAccepted k = k + events.countP fun e => e.2.accepted := by
  induction events generalizing k with
  | nil => rfl
  | cons e rest ih =>
    rw [List.foldl_cons, ih, List.countP_cons, countAccepted]
    cases e.2.accepted with
    | false => rfl
    | true => exact Nat.add_right_comm k 1 _

/-- A command id that was accepted is rejected for a day, and changes nothing but what time
changes, as long as fewer than 2048 other commands have been accepted in between. -/
theorem replay_rejected (maxRecords : Nat) (before between : List Op)
    (first again : DiagnosticCommand) (t t' : SystemTime)
    (sorted : List.Pairwise (fun a b : Op => a.now ≤ b.now)
      (before ++ .applyOnce first t :: (between ++ [.applyOnce again t'])))
    (accepted : ((machine.run (.new maxRecords) before).applyOnceAt first t).2 = true)
    (same : again.id = first.id) (recent : t'.nanos ≤ t.nanos + seenCommandRetention)
    (few : acceptedCount ((machine.run (.new maxRecords) before).applyOnceAt first t).1 between <
      defaultMaxSeenCommands) :
    let s := machine.run (.new maxRecords) (before ++ .applyOnce first t :: between)
    s.applyOnceAt again t' = (s.prune t', false) ∧
      (s.prune t').enabledUntil = s.enabledUntil.filter (t' < ·) ∧
      (s.prune t').records =
        if ∃ until_ ∈ s.enabledUntil, until_ ≤ t' then [] else s.records := by
  intro s
  refine ⟨?_, prune_enabledUntil, prune_records⟩
  have suffix := (List.pairwise_append.mp sorted).2.1
  obtain ⟨late, tail⟩ := List.pairwise_cons.mp suffix
  obtain ⟨tail, _, last⟩ := List.pairwise_append.mp tail
  have start := Recalls.first ((Ordered.new maxRecords).run before) accepted
  have step : ∀ time s k (op : Op), Recalls first.id t time s k → time ≤ op.now →
      Recalls first.id t op.now (machine.step s op).1
        (countAccepted k (op, (machine.step s op).2)) :=
    fun _ _ _ op recalls later => recalls.step op later
  obtain ⟨time, recalls, least⟩ := Machine.run_observed step start tail
    fun op member => late op (List.mem_append_left _ member)
  have there : machine.run ((machine.run (.new maxRecords) before).applyOnceAt first t).1 between =
      s := (Machine.run_append machine (.new maxRecords) before (.applyOnce first t :: between)).symm
  rw [foldl_accepted, Nat.zero_add, there] at recalls
  have until_ : time ≤ t' := least t' (late _ (List.mem_append_right _ List.mem_cons_self))
    fun op member => last op member _ List.mem_cons_self
  obtain ⟨pre, post, order, _, found⟩ := (recalls.prune until_).held few recent
  have known : (s.applyOnceAt again t').2 = false := by
    rw [← Bool.not_eq_true, applyOnceAt_accepts, same, found]
    exact Option.some_ne_none t
  exact Prod.ext (applyOnceAt_rejected known) known

def numbered (n : Nat) : DiagnosticCommand :=
  ⟨String.ofList (Text.printU64 (UInt64.ofNat n)), .disable⟩

def captured : DiagnosticCommand := ⟨"captured", .enable 60⟩

/-- One other command in between leaves the replay rejected. -/
theorem replay_rejected_one :
    ((machine.run (.new 4) ([] ++ .applyOnce captured (.ofSecs 1) ::
      [.applyOnce (numbered 0) (.ofSecs 2)])).applyOnceAt captured (.ofSecs 3)).2 = false :=
  congrArg Prod.snd (replay_rejected 4 [] [.applyOnce (numbered 0) (.ofSecs 2)] captured captured
    (.ofSecs 1) (.ofSecs 3) (by decide) (by decide) rfl (by decide) (by decide)).1

/-! ### A flood of other ids -/

section Flood

variable {now : SystemTime} {s : DiagnosticState} {command : DiagnosticCommand}

theorem prune_young (young : ∀ id ∈ s.seenOrder, Retained now s.seenCommands id) :
    (s.prune now).seenCommands = s.seenCommands ∧ (s.prune now).seenOrder = s.seenOrder := by
  have unchanged : pruneSeen now s.seenCommands s.seenOrder = (s.seenCommands, s.seenOrder) := by
    cases order : s.seenOrder with
    | nil => rfl
    | cons id rest => exact pruneSeen_retained (young id (order ▸ List.mem_cons_self))
  exact Prod.mk.inj ((@prune_seen now s).trans unchanged)

theorem flood_step (ordered : Ordered s)
    (young : ∀ id ∈ s.seenOrder, Retained now s.seenCommands id)
    (other : command.id ∉ s.seenOrder) :
    (s.applyOnceAt command now).2 = true ∧
    (s.applyOnceAt command now).1.seenOrder =
      (s.seenOrder ++ [command.id]).rtake defaultMaxSeenCommands ∧
    ∀ id ∈ (s.applyOnceAt command now).1.seenOrder,
      Retained now (s.applyOnceAt command now).1.seenCommands id := by
  obtain ⟨map, order⟩ := prune_young young
  have fresh : (s.applyOnceAt command now).2 = true := by
    rw [applyOnceAt_accepts, map, AList.lookup_eq_none, ← ordered.queued.mem]
    exact other
  have queued := ordered.queued.insert other now
  have both := applyOnceAt_order fresh
  rw [map, order, ordered.capacity, enforceSeenBound_pops queued] at both
  have after : (s.applyOnceAt command now).1.seenOrder =
      (s.seenOrder ++ [command.id]).rtake defaultMaxSeenCommands :=
    (congrArg Prod.snd both).trans (popSeen_order _)
  refine ⟨fresh, after, ?_⟩
  intro id member
  rw [after] at member
  unfold Retained
  have found := (congrArg (AList.lookup id) (congrArg Prod.fst both)).trans
    (popSeen_lookup queued member)
  dsimp only at found
  rw [found, HashMap.lookup_insert_eq]
  split
  · exact ⟨now, rfl, by omega⟩
  · rename_i different
    rcases List.mem_append.mp (List.mem_of_mem_drop member) with before | last
    · exact young id before
    · exact (different (List.mem_singleton.mp last)).elim

/-- New ids at one time push the oldest ones out. -/
theorem flood_order (ordered : Ordered s)
    (young : ∀ id ∈ s.seenOrder, Retained now s.seenCommands id)
    (within : s.seenOrder.length ≤ defaultMaxSeenCommands) {commands : List DiagnosticCommand}
    (distinct : (s.seenOrder ++ commands.map (·.id)).Nodup) :
    (machine.run s (commands.map fun c => .applyOnce c now)).seenOrder =
      (s.seenOrder ++ commands.map (·.id)).rtake defaultMaxSeenCommands := by
  induction commands generalizing s with
  | nil => simp [Machine.run, List.rtake, within]
  | cons command rest ih =>
    have other : command.id ∉ s.seenOrder := by
      intro member
      exact (List.nodup_append.mp distinct).2.2 _ member _ List.mem_cons_self rfl
    obtain ⟨fresh, order, retained⟩ := flood_step ordered young other
    have whole : s.seenOrder ++ (command :: rest).map (·.id) =
        (s.seenOrder ++ [command.id]) ++ rest.map (·.id) := by simp
    rw [whole] at distinct ⊢
    have shorter : (s.seenOrder ++ [command.id]).rtake defaultMaxSeenCommands <:+
        s.seenOrder ++ [command.id] := List.drop_suffix _ _
    have next := ih (ordered.accept fresh) retained (by rw [order]; simp [List.rtake]; omega)
      (by rw [order]; exact distinct.sublist (shorter.sublist.append_right _))
    rw [order, rtake_rtake_append] at next
    exact next

end Flood

theorem numbered_injOn {a b : Nat} (left : a < 2048) (right : b < 2048)
    (same : (numbered a).id = (numbered b).id) : a = b := by
  have digits : Text.printU64 (UInt64.ofNat a) = Text.printU64 (UInt64.ofNat b) :=
    String.ofList_injective same
  have read := congrArg Text.parseU64 digits
  rw [Text.parseU64_printU64, Text.parseU64_printU64] at read
  have number := congrArg UInt64.toNat (Option.some.inj read)
  rw [UInt64.toNat_ofNat_of_lt' (show _ < 2 ^ 64 by omega),
    UInt64.toNat_ofNat_of_lt' (show _ < 2 ^ 64 by omega)] at number
  exact number

theorem numbered_ne_captured (n : Nat) : (numbered n).id ≠ captured.id := by
  intro same
  have letters : Text.printU64 (UInt64.ofNat n) = captured.id.toList :=
    (String.toList_ofList).symm.trans (congrArg String.toList same)
  have letter : 'c' ∈ Text.printU64 (UInt64.ofNat n) := by
    rw [letters]
    decide
  have digit := Text.printU64_digits letter
  revert digit
  decide

/-- The captured command, then 2048 others, all in the first two seconds. -/
def flooded : DiagnosticState :=
  machine.run ((DiagnosticState.new 4).applyOnceAt captured (.ofSecs 1)).1
    (((List.range 2048).map numbered).map fun c => .applyOnce c (.ofSecs 2))

theorem prune_order_subset {now : SystemTime} {s : DiagnosticState} {id : String}
    (member : id ∈ (s.prune now).seenOrder) : id ∈ s.seenOrder := by
  obtain ⟨n, order⟩ := prune_seenOrder now s
  rw [order] at member
  exact List.mem_of_mem_drop member

theorem flooded_order : Ordered flooded ∧
    flooded.seenOrder = ((List.range 2048).map numbered).map (·.id) := by
  have first : ((DiagnosticState.new 4).applyOnceAt captured (.ofSecs 1)).2 = true := by decide
  have order : ((DiagnosticState.new 4).applyOnceAt captured (.ofSecs 1)).1.seenOrder =
      [captured.id] := by decide
  have ordered := (Ordered.new 4).accept first
  refine ⟨ordered.run _, ?_⟩
  have distinct : (((List.range 2048).map numbered).map (·.id)).Nodup := by
    rw [List.map_map]
    refine List.Nodup.map_on ?_ List.nodup_range
    intro a left b right same
    exact numbered_injOn (List.mem_range.mp left) (List.mem_range.mp right) same
  have apart : captured.id ∉ ((List.range 2048).map numbered).map (·.id) := by
    intro member
    rw [List.map_map] at member
    obtain ⟨n, _, same⟩ := List.mem_map.mp member
    exact numbered_ne_captured n same
  have young : ∀ id ∈ ((DiagnosticState.new 4).applyOnceAt captured (.ofSecs 1)).1.seenOrder,
      Retained (.ofSecs 2) ((DiagnosticState.new 4).applyOnceAt captured (.ofSecs 1)).1.seenCommands
        id := by
    rw [order]
    intro id member
    rw [List.mem_singleton.mp member]
    exact ⟨.ofSecs 1, by decide, by decide⟩
  have within : ((DiagnosticState.new 4).applyOnceAt captured (.ofSecs 1)).1.seenOrder.length ≤
      defaultMaxSeenCommands := by
    rw [order]
    decide
  have grown := flood_order ordered young within (by
    rw [order, List.singleton_append, List.nodup_cons]
    exact ⟨apart, distinct⟩)
  rw [order] at grown
  unfold flooded
  rw [grown]
  simp [List.rtake, defaultMaxSeenCommands]

/-- After 2048 other commands the captured one is accepted again, and opens the window. -/
theorem replay_after_flood :
    ((DiagnosticState.new 4).applyOnceAt captured (.ofSecs 1)).2 = true ∧
    (SystemTime.ofSecs 3).nanos ≤ (SystemTime.ofSecs 1).nanos + seenCommandRetention ∧
    (flooded.applyOnceAt captured (.ofSecs 3)).2 = true ∧
    (flooded.applyOnceAt captured (.ofSecs 3)).1.enabledUntil = some (.ofSecs 63) := by
  obtain ⟨ordered, order⟩ := flooded_order
  have again : (flooded.applyOnceAt captured (.ofSecs 3)).2 = true := by
    rw [applyOnceAt_accepts, AList.lookup_eq_none, ← (ordered.prune _).queued.mem]
    intro member
    have present := prune_order_subset member
    rw [order, List.map_map] at present
    obtain ⟨n, _, same⟩ := List.mem_map.mp present
    exact numbered_ne_captured n same
  have stop : (SystemTime.ofSecs 3).checkedAdd (Duration.fromSecs 60) = some (.ofSecs 63) := by
    decide
  refine ⟨by decide, by decide, again, ?_⟩
  rw [(applyOnceAt_fresh again).2.2]
  exact stop

end DiagnosticState

end Kaonic.Plugin
