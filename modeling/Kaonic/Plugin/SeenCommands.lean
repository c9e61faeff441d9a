import Kaonic.Plugin.Diagnostics

/-!
# Command ids already seen

Pruning forgets an id only after its retention, and a second prune tells nothing of the first.
-/

namespace Kaonic.Plugin

namespace DiagnosticState

def Retained (now : SystemTime) (seen : HashMap String SystemTime) (id : String) : Prop :=
  ∃ observedAt, seen.lookup id = some observedAt ∧
    now.nanos ≤ observedAt.nanos + seenCommandRetention

section Loops

variable {now : SystemTime} {seen : HashMap String SystemTime} {id : String} {rest : List String}

/-- The test of `prune_locked` on the front id. -/
theorem keep_iff : (match seen.lookup id with
    | some observedAt => decide ((now.durationSince observedAt).getD 0 ≤ seenCommandRetention)
    | none => false) = true ↔ Retained now seen id := by
  unfold Retained
  cases seen.lookup id with
  | none => simp
  | some observedAt => simp [SystemTime.durationSince_getD_le]

theorem pruneSeen_retained (retained : Retained now seen id) :
    pruneSeen now seen (id :: rest) = (seen, id :: rest) := by
  rw [pruneSeen]
  exact if_pos (keep_iff.mpr retained)

theorem pruneSeen_expired (expired : ¬ Retained now seen id) :
    pruneSeen now seen (id :: rest) = pruneSeen now (seen.erase id) rest := by
  rw [pruneSeen]
  exact if_neg fun keep => expired (keep_iff.mp keep)

theorem pruneSeen_keeps {other : String} (retained : Retained now seen other) (order : List String) :
    (pruneSeen now seen order).1.lookup other = seen.lookup other := by
  induction order generalizing seen with
  | nil => rfl
  | cons id rest ih =>
    by_cases front : Retained now seen id
    · rw [pruneSeen_retained front]
    · have different : other ≠ id := by
        intro same
        rw [same] at retained
        exact front retained
      have untouched : (seen.erase id).lookup other = seen.lookup other := by
        rw [HashMap.lookup_erase_eq, if_neg different]
      rw [pruneSeen_expired front, ih, untouched]
      unfold Retained at retained ⊢
      rwa [untouched]

theorem pruneSeen_forgets {other : String} {observedAt : SystemTime} (order : List String)
    (found : (pruneSeen now seen order).1.lookup other = some observedAt) :
    seen.lookup other = some observedAt := by
  induction order generalizing seen with
  | nil => exact found
  | cons id rest ih =>
    by_cases front : Retained now seen id
    · rwa [pruneSeen_retained front] at found
    · rw [pruneSeen_expired front] at found
      have kept := ih found
      rw [HashMap.lookup_erase_eq] at kept
      split at kept
      · cases kept
      · exact kept

theorem pruneSeen_pruneSeen {t : SystemTime} (later : t ≤ now) (order : List String) :
    pruneSeen now (pruneSeen t seen order).1 (pruneSeen t seen order).2 =
      pruneSeen now seen order := by
  induction order generalizing seen with
  | nil => rfl
  | cons id rest ih =>
    by_cases front : Retained t seen id
    · rw [pruneSeen_retained front]
    · rw [pruneSeen_expired front, ih, pruneSeen_expired]
      intro ⟨observedAt, found, young⟩
      rw [SystemTime.le_iff] at later
      exact front ⟨observedAt, found, by omega⟩

theorem enforceSeenBound_within {bound : Nat} (within : seen.keys.length ≤ bound)
    (order : List String) : enforceSeenBound bound seen order = (seen, order) := by
  cases order with
  | nil => rfl
  | cons id rest => rw [enforceSeenBound, if_neg (Nat.not_lt.mpr within)]

end Loops

/-! ### Pruning a state -/

section Pruning

variable {t now : SystemTime} {s : DiagnosticState}

@[simp] theorem prune_maxRecords : (s.prune now).maxRecords = s.maxRecords := by
  unfold prune pruneWindow
  split
  · split <;> rfl
  · rfl

@[simp] theorem prune_maxSeenCommands : (s.prune now).maxSeenCommands = s.maxSeenCommands := by
  unfold prune pruneWindow
  split
  · split <;> rfl
  · rfl

theorem prune_seen : ((s.prune now).seenCommands, (s.prune now).seenOrder) =
    pruneSeen now s.seenCommands s.seenOrder := by
  unfold prune pruneWindow
  split
  · split <;> rfl
  · rfl

theorem prune_forgets {id : String} {observedAt : SystemTime}
    (found : (s.prune now).seenCommands.lookup id = some observedAt) :
    s.seenCommands.lookup id = some observedAt := by
  have map : (s.prune now).seenCommands = (pruneSeen now s.seenCommands s.seenOrder).1 :=
    congrArg Prod.fst prune_seen
  rw [map] at found
  exact pruneSeen_forgets s.seenOrder found

theorem prune_keeps {id : String} (retained : Retained now s.seenCommands id) :
    (s.prune now).seenCommands.lookup id = s.seenCommands.lookup id := by
  have map : (s.prune now).seenCommands = (pruneSeen now s.seenCommands s.seenOrder).1 :=
    congrArg Prod.fst prune_seen
  rw [map]
  exact pruneSeen_keeps retained s.seenOrder

theorem prune_prune (later : t ≤ now) (s : DiagnosticState) :
    (s.prune t).prune now = s.prune now := by
  obtain ⟨enabledUntil, records, seenCommands, seenOrder, _, _⟩ := s
  have seen := @pruneSeen_pruneSeen now seenCommands t later seenOrder
  cases enabledUntil with
  | none => simp [prune, pruneWindow, seen]
  | some until_ =>
    by_cases past : until_ ≤ t
    · simp [prune, pruneWindow, seen, past, past.trans later]
    · by_cases stop : until_ ≤ now <;> simp [prune, pruneWindow, seen, past, stop]

/-- Every operation prunes first, so an earlier prune cannot be told. -/
theorem step_prune {op : Op} (later : t ≤ op.now) (s : DiagnosticState) :
    machine.step (s.prune t) op = machine.step s op := by
  have again := prune_prune later s
  cases op <;> simp only [Op.now] at again <;>
    simp only [machine, applyOnceAt, recordRemoteAt, statusAt, recentAt, again]

end Pruning

/-! ### Accepting a command -/

section Accepting

variable {now : SystemTime} {s : DiagnosticState} {command : DiagnosticCommand}

theorem applyOnceAt_rejected (rejected : (s.applyOnceAt command now).2 = false) :
    (s.applyOnceAt command now).1 = s.prune now := by
  unfold applyOnceAt at rejected ⊢
  dsimp only at rejected ⊢
  split
  · rfl
  · rename_i fresh
    rw [if_neg fresh] at rejected
    cases action : command.action <;> simp [action] at rejected

theorem applyOnceAt_accepts : (s.applyOnceAt command now).2 = true ↔
    (s.prune now).seenCommands.lookup command.id = none := by
  unfold applyOnceAt
  dsimp only
  split
  · rename_i seen
    simp [Option.isSome_iff_ne_none.mp seen]
  · rename_i fresh
    cases action : command.action <;> simpa using fresh

theorem applyOnceAt_fresh (fresh : (s.applyOnceAt command now).2 = true) :
    (s.applyOnceAt command now).1.records = [] ∧
    (s.applyOnceAt command now).1.maxRecords = s.maxRecords ∧
    (s.applyOnceAt command now).1.enabledUntil =
      match command.action with
      | .enable seconds => now.checkedAdd (Duration.fromSecs seconds)
      | .disable => none := by
  unfold applyOnceAt at fresh ⊢
  dsimp only at fresh ⊢
  split
  · rename_i seen
    rw [if_pos seen] at fresh
    cases fresh
  · cases command.action <;> simp

theorem applyOnceAt_maxSeenCommands :
    (s.applyOnceAt command now).1.maxSeenCommands = s.maxSeenCommands := by
  unfold applyOnceAt
  dsimp only
  split
  · simp
  · cases command.action <;> simp

theorem applyOnceAt_seen (fresh : (s.applyOnceAt command now).2 = true)
    (within : ((s.prune now).seenCommands.insert command.id now).keys.length ≤ s.maxSeenCommands) :
    (s.applyOnceAt command now).1.seenCommands =
      (s.prune now).seenCommands.insert command.id now := by
  have unseen := applyOnceAt_accepts.mp fresh
  unfold applyOnceAt
  dsimp only
  rw [prune_maxSeenCommands, enforceSeenBound_within within, unseen]
  cases command.action <;> rfl

end Accepting

/-! ### What is remembered of a run -/

/-- The ids seen are those of applied commands, and only an application past its retention may
have been forgotten. -/
structure Remembers (s : DiagnosticState) (clock : SystemTime)
    (applied : List (DiagnosticCommand × SystemTime)) : Prop where
  known : ∀ id t, s.seenCommands.lookup id = some t → ∃ c, (c, t) ∈ applied ∧ c.id = id
  kept : ∀ c t, (c, t) ∈ applied → s.seenCommands.lookup c.id = some t ∨
    t.nanos + seenCommandRetention < clock.nanos
  capacity : applied.length ≤ s.maxSeenCommands

section Remembering

variable {clock now : SystemTime} {s : DiagnosticState} {command : DiagnosticCommand}
  {applied : List (DiagnosticCommand × SystemTime)}

theorem Remembers.new (maxRecords : Nat) (clock : SystemTime) :
    Remembers (DiagnosticState.new maxRecords) clock [] where
  known _ _ found := by cases found
  kept _ _ member := by cases member
  capacity := Nat.zero_le _

theorem Remembers.prune (remembers : Remembers s clock applied) (later : clock ≤ now) :
    Remembers (s.prune now) now applied := by
  rw [SystemTime.le_iff] at later
  refine ⟨?_, ?_, by simpa using remembers.capacity⟩
  · intro id t found
    exact remembers.known id t (prune_forgets found)
  · intro c t member
    rcases remembers.kept c t member with found | old
    · by_cases young : now.nanos ≤ t.nanos + seenCommandRetention
      · left
        rw [prune_keeps ⟨t, found, young⟩, found]
      · right
        omega
    · right
      omega

theorem Remembers.accepts_iff (remembers : Remembers s clock applied) (later : clock ≤ now)
    (timely : ∀ c t, (c, t) ∈ applied → c.id = command.id →
      now.nanos ≤ t.nanos + seenCommandRetention) :
    (s.applyOnceAt command now).2 = true ↔ ∀ c t, (c, t) ∈ applied → c.id ≠ command.id := by
  have pruned := remembers.prune later
  rw [applyOnceAt_accepts]
  refine ⟨?_, ?_⟩
  · intro unseen c t member same
    rcases pruned.kept c t member with found | old
    · rw [same, unseen] at found
      cases found
    · have := timely c t member same
      omega
  · intro fresh
    cases found : (s.prune now).seenCommands.lookup command.id with
    | none => rfl
    | some t =>
      obtain ⟨c, member, same⟩ := pruned.known _ t found
      exact (fresh c t member same).elim

theorem Remembers.insert_keys (remembers : Remembers s clock applied) :
    (s.seenCommands.insert command.id now).keys.length ≤ applied.length + 1 := by
  have subset : (s.seenCommands.insert command.id now).keys ⊆
      applied.map (fun a => a.1.id) ++ [command.id] := by
    intro id member
    rw [← AList.mem_keys, AList.mem_insert] at member
    rcases member with rfl | member
    · simp
    · obtain ⟨t, found⟩ := Option.isSome_iff_exists.mp (AList.lookup_isSome.mpr member)
      obtain ⟨c, inside, rfl⟩ := remembers.known id t found
      exact List.mem_append_left _ (List.mem_map_of_mem inside)
  have short := ((AList.keys_nodup _).subperm subset).length_le
  simpa using short

theorem Remembers.apply (remembers : Remembers s clock applied) (later : clock ≤ now)
    (room : applied.length < s.maxSeenCommands)
    (fresh : ∀ c t, (c, t) ∈ applied → c.id ≠ command.id)
    (accepted : (s.applyOnceAt command now).2 = true) :
    Remembers (s.applyOnceAt command now).1 now (applied ++ [(command, now)]) := by
  have pruned := remembers.prune later
  have seen := applyOnceAt_seen accepted (pruned.insert_keys.trans room)
  refine ⟨?_, ?_, ?_⟩
  · intro id t found
    rw [seen, HashMap.lookup_insert_eq] at found
    split at found
    · rename_i same
      obtain rfl := Option.some.inj found
      exact ⟨command, by simp, same.symm⟩
    · obtain ⟨c, member, same⟩ := pruned.known id t found
      exact ⟨c, List.mem_append_left _ member, same⟩
  · intro c t member
    rw [seen, HashMap.lookup_insert_eq]
    rcases List.mem_append.mp member with before | last
    · rw [if_neg (fresh c t before)]
      exact pruned.kept c t before
    · simp only [List.mem_singleton, Prod.mk.injEq] at last
      obtain ⟨rfl, rfl⟩ := last
      simp
  · rw [applyOnceAt_maxSeenCommands, List.length_append]
    exact room

theorem Remembers.step {op : Op} (remembers : Remembers s clock applied) (later : clock ≤ op.now)
    (other : ∀ command now, op = .applyOnce command now → False) :
    Remembers (machine.step s op).1 op.now applied ∧
      (machine.step s op).1.maxSeenCommands = s.maxSeenCommands := by
  have pruned := remembers.prune later
  cases op with
  | applyOnce command now => exact (other command now rfl).elim
  | recordRemote peerHash channelPort event now =>
    dsimp only [machine, recordRemoteAt]
    split
    · exact ⟨⟨pruned.known, pruned.kept, pruned.capacity⟩, prune_maxSeenCommands⟩
    · exact ⟨pruned, prune_maxSeenCommands⟩
  | status now => exact ⟨pruned, prune_maxSeenCommands⟩
  | recent limit now => exact ⟨pruned, prune_maxSeenCommands⟩
  | pruneExpired now => exact ⟨pruned, prune_maxSeenCommands⟩

end Remembering

end DiagnosticState

end Kaonic.Plugin
