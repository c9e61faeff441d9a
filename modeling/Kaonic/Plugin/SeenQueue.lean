import Kaonic.Plugin.Replay

/-!
# The queue of ids in every run

Two loops pop the queue, one by age and one by number. Whatever the clock does, the queue holds the
ids of the map, each once and no more than the bound, so that pruning ends and takes only ids past
their retention.
-/

namespace Kaonic.Plugin

open StateTransition (eval mem_eval reaches_eval)

namespace DiagnosticState

/-- One turn of the `while let` in `prune_locked`, or none where the loop is left. -/
def pruneTurn (now : SystemTime) : HashMap String SystemTime × List String →
    Option (HashMap String SystemTime × List String)
  | (_, []) => none
  | (seen, id :: rest) =>
    let keep := match seen.lookup id with
      | some observedAt => decide ((now.durationSince observedAt).getD 0 ≤ seenCommandRetention)
      | none => false
    if keep then none else some (seen.erase id, rest)

/-- Order and map agree, and hold no more ids than the bound. -/
structure Tidy (s : DiagnosticState) : Prop where
  ordered : Ordered s
  within : s.seenOrder.length ≤ s.maxSeenCommands

/-! ### The loop -/

section Loop

variable {now : SystemTime} {seen : HashMap String SystemTime} {id : String} {rest : List String}

theorem pruneTurn_retained (retained : Retained now seen id) :
    pruneTurn now (seen, id :: rest) = none := by
  unfold pruneTurn
  exact if_pos (keep_iff.mpr retained)

theorem pruneTurn_expired (expired : ¬ Retained now seen id) :
    pruneTurn now (seen, id :: rest) = some (seen.erase id, rest) := by
  unfold pruneTurn
  exact if_neg fun keep => expired (keep_iff.mp keep)

/-- From any map and order the loop ends, with what `pruneSeen` gives. -/
theorem pruneSeen_mem_eval (now : SystemTime) (seen : HashMap String SystemTime)
    (order : List String) : pruneSeen now seen order ∈ eval (pruneTurn now) (seen, order) := by
  induction order generalizing seen with
  | nil => exact mem_eval.mpr ⟨.refl, rfl⟩
  | cons id rest ih =>
    by_cases front : Retained now seen id
    · rw [pruneSeen_retained front]
      exact mem_eval.mpr ⟨.refl, pruneTurn_retained front⟩
    · rw [pruneSeen_expired front, reaches_eval (.single (pruneTurn_expired front))]
      exact ih (seen.erase id)

end Loop

/-! ### What each operation leaves of the queue -/

section Steps

variable {now : SystemTime} {s : DiagnosticState} {command : DiagnosticCommand} {id : String}

theorem prune_length : (s.prune now).seenOrder.length ≤ s.seenOrder.length := by
  obtain ⟨n, dropped⟩ := prune_seenOrder now s
  rw [dropped, List.length_drop]
  exact Nat.sub_le _ _

/-- Of an id that pruning takes the map knows that it has outlived its retention. -/
theorem Ordered.prune_takes (ordered : Ordered s) (member : id ∈ s.seenOrder)
    (gone : id ∉ (s.prune now).seenOrder) : ∃ observedAt,
      s.seenCommands.lookup id = some observedAt ∧
        observedAt.nanos + seenCommandRetention < now.nanos := by
  obtain ⟨observedAt, found⟩ : ∃ observedAt, s.seenCommands.lookup id = some observedAt := by
    rw [ordered.queued.mem, ← AList.lookup_isSome] at member
    exact Option.isSome_iff_exists.mp member
  refine ⟨observedAt, found, ?_⟩
  by_contra young
  have kept := prune_keeps ⟨observedAt, found, not_lt.mp young⟩
  apply gone
  rw [(ordered.prune now).queued.mem, ← AList.lookup_isSome, kept, found]
  rfl

theorem Ordered.accept_seenOrder (ordered : Ordered s)
    (fresh : (s.applyOnceAt command now).2 = true) : (s.applyOnceAt command now).1.seenOrder =
      ((s.prune now).seenOrder ++ [command.id]).drop
        (((s.prune now).seenOrder ++ [command.id]).length - s.maxSeenCommands) :=
  (congrArg Prod.snd (ordered.accept_pops fresh)).trans (popSeen_order _)

theorem Ordered.accept_length (ordered : Ordered s) (fresh : (s.applyOnceAt command now).2 = true) :
    (s.applyOnceAt command now).1.seenOrder.length ≤ s.maxSeenCommands := by
  rw [ordered.accept_seenOrder fresh, List.length_drop]
  omega

theorem Ordered.accept_mem (ordered : Ordered s) (fresh : (s.applyOnceAt command now).2 = true) :
    command.id ∈ (s.applyOnceAt command now).1.seenOrder := by
  obtain ⟨pre, post, order, _⟩ := (Recalls.first ordered fresh).held (by decide) (by omega)
  rw [order]
  exact List.mem_append_right _ List.mem_cons_self

theorem Tidy.new (maxRecords : Nat) : Tidy (DiagnosticState.new maxRecords) :=
  ⟨Ordered.new maxRecords, Nat.zero_le _⟩

theorem Tidy.step (tidy : Tidy s) (op : Op) : Tidy (machine.step s op).1 := by
  refine ⟨tidy.ordered.step op, ?_⟩
  cases quiet : (machine.step s op).2.accepted with
  | false =>
    obtain ⟨_, order, capacity⟩ := step_unaccepted quiet
    rw [order, capacity]
    exact prune_length.trans tidy.within
  | true =>
    obtain ⟨command, now, rfl, fresh⟩ := step_accepted quiet
    have capacity : (machine.step s (.applyOnce command now)).1.maxSeenCommands =
        s.maxSeenCommands := applyOnceAt_maxSeenCommands
    rw [capacity]
    exact tidy.ordered.accept_length fresh

theorem Tidy.run (tidy : Tidy s) (ops : List Op) : Tidy (machine.run s ops) :=
  Machine.run_invariant (I := Tidy) (fun _ op tidy => tidy.step op) tidy ops

end Steps

/-- After every run, by whatever clock, order and map agree and are within their bound, a command
that is accepted is among them, and pruning ends and takes only ids past their retention. -/
theorem seen_queue_tidy (maxRecords : Nat) (ops : List Op) :
    let s := machine.run (.new maxRecords) ops
    s.Tidy ∧
      (∀ command now, (s.applyOnceAt command now).2 = true →
        command.id ∈ (s.applyOnceAt command now).1.seenOrder) ∧
      ∀ now, ((s.prune now).seenCommands, (s.prune now).seenOrder) ∈
          eval (pruneTurn now) (s.seenCommands, s.seenOrder) ∧
        ∀ id ∈ s.seenOrder, id ∉ (s.prune now).seenOrder → ∃ observedAt,
          s.seenCommands.lookup id = some observedAt ∧
            observedAt.nanos + seenCommandRetention < now.nanos := by
  intro s
  have tidy : Tidy s := (Tidy.new maxRecords).run ops
  refine ⟨tidy, fun _ _ fresh => tidy.ordered.accept_mem fresh, fun now => ⟨?_, ?_⟩⟩
  · rw [prune_seen]
    exact pruneSeen_mem_eval now s.seenCommands s.seenOrder
  · exact fun _ member gone => tidy.ordered.prune_takes member gone

end DiagnosticState

end Kaonic.Plugin
