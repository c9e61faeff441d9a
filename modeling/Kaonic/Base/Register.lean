import Mathlib

/-!
# Last write wins

A register is a view of a state whose value each event either keeps or overwrites, and after a run
it holds what was written last. Requests that write two registers, one first and the other later,
leave them equal when the last writes of both agree.
-/

namespace Register

variable {σ ε β : Type}

def lastWrite (write : ε → Option β) (events : List ε) : Option β :=
  (events.filterMap write).getLast?

theorem lastWrite_cons_or (write : ε → Option β) (e : ε) (events : List ε) (value : Option β) :
    (lastWrite write (e :: events)).or value = (lastWrite write events).or ((write e).or value) := by
  unfold lastWrite
  cases written : write e with
  | none => rw [List.filterMap_cons_none written, Option.none_or]
  | some v =>
    rw [List.filterMap_cons_some written, List.getLast?_cons, Option.some_or, Option.some_or]
    cases (events.filterMap write).getLast? <;> rfl

theorem lastWrite_eq_none {write : ε → Option β} {events : List ε} :
    lastWrite write events = none ↔ ∀ e ∈ events, write e = none := by
  rw [lastWrite, List.getLast?_eq_none_iff, List.filterMap_eq_nil_iff]

theorem lastWrite_concat (write : ε → Option β) (events : List ε) (e : ε) :
    lastWrite write (events ++ [e]) = (write e).or (lastWrite write events) := by
  unfold lastWrite
  rw [List.filterMap_append, List.getLast?_append]
  cases written : write e with
  | none => rw [List.filterMap_cons_none written, List.filterMap_nil]; rfl
  | some v => rw [List.filterMap_cons_some written, List.filterMap_nil]; rfl

theorem lastWrite_map {γ : Type} (write : ε → Option β) (f : β → γ) (events : List ε) :
    lastWrite (fun e => (write e).map f) events = (lastWrite write events).map f := by
  rw [lastWrite, lastWrite, ← List.map_filterMap, List.getLast?_map]

/-- The first `k` events write a value that only one event writes, if they reach that event. -/
theorem lastWrite_take {write : ε → Option β} {before after : List ε} {e : ε} {v : β}
    (here : write e = some v) (quietBefore : ∀ x ∈ before, write x = none)
    (quietAfter : ∀ x ∈ after, write x = none) (k : Nat) :
    lastWrite write ((before ++ e :: after).take k) = if before.length < k then some v else none := by
  split
  · rename_i reached
    obtain ⟨d, distance⟩ := Nat.exists_eq_add_of_lt reached
    have rest : ∀ x ∈ after.take d, write x = none := fun x member =>
      quietAfter x (List.mem_of_mem_take member)
    have split : (before ++ e :: after).take k = before ++ e :: after.take d := by
      rw [List.take_append, List.take_of_length_le (by omega), distance, Nat.add_assoc,
        Nat.add_sub_cancel_left, List.take_succ_cons]
    rw [split, lastWrite, List.filterMap_append, List.filterMap_eq_nil_iff.mpr quietBefore,
      List.filterMap_cons_some here, List.filterMap_eq_nil_iff.mpr rest]
    rfl
  · rename_i short
    rw [lastWrite_eq_none, List.take_append_of_le_length (by omega)]
    exact fun x member => quietBefore x (List.mem_of_mem_take member)

/-- A run in which no step fails ends with the last value written, or with the old one. -/
theorem view_run {step : σ → ε → Option σ} {view : σ → Option β} {write : ε → Option β}
    (stepped : ∀ s e s', step s e = some s' → view s' = (write e).or (view s))
    {events : List ε} {s s' : σ} (done : events.foldlM step s = some s') :
    view s' = (lastWrite write events).or (view s) := by
  induction events generalizing s with
  | nil =>
    obtain rfl := Option.some.inj done
    rfl
  | cons e events ih =>
    rw [List.foldlM_cons] at done
    obtain ⟨mid, first, rest⟩ := Option.bind_eq_some_iff.mp done
    rw [ih rest, stepped s e mid first, lastWrite_cons_or]

theorem exists_step {step : σ → ε → Option σ} {events : List ε} {s s' : σ}
    (done : events.foldlM step s = some s') {e : ε} (member : e ∈ events) :
    ∃ t t', step t e = some t' := by
  induction events generalizing s with
  | nil => cases member
  | cons first events ih =>
    rw [List.foldlM_cons] at done
    obtain ⟨mid, here, rest⟩ := Option.bind_eq_some_iff.mp done
    rcases List.mem_cons.mp member with rfl | later
    · exact ⟨s, mid, here⟩
    · exact ih rest later

theorem view_foldl {step : σ → ε → σ} {view : σ → Option β} {write : ε → Option β}
    (stepped : ∀ s e, view (step s e) = (write e).or (view s)) (events : List ε) (s : σ) :
    view (events.foldl step s) = (lastWrite write events).or (view s) := by
  induction events generalizing s with
  | nil => rfl
  | cons e events ih => rw [List.foldl_cons, ih, stepped, lastWrite_cons_or]

/-! ### Two registers -/

inductive Phase (ι : Type) where
  | save (i : ι)
  | apply (i : ι)
  deriving DecidableEq

/-- Every request saves once and later applies once. -/
structure Interleaving {ι : Type} (schedule : List (Phase ι)) : Prop where
  nodup : schedule.Nodup
  ordered : ∀ i, [Phase.save i, Phase.apply i].Sublist schedule

variable {ι : Type}

def saves (value : ι → Option β) : Phase ι → Option β
  | .save i => value i
  | .apply _ => none

def applies (value : ι → Option β) : Phase ι → Option β
  | .save _ => none
  | .apply i => value i

/-- The last save and the last apply that write do so with one value. -/
def Agree (value : ι → Option β) (schedule : List (Phase ι)) : Prop :=
  lastWrite (saves value) schedule = lastWrite (applies value) schedule

theorem Interleaving.lastWrite_none {schedule : List (Phase ι)} (h : Interleaving schedule)
    (value : ι → Option β) : lastWrite (saves value) schedule = none ↔
      lastWrite (applies value) schedule = none := by
  rw [lastWrite_eq_none, lastWrite_eq_none]
  constructor
  · intro silent phase _
    cases phase with
    | save i => rfl
    | apply i => exact silent (.save i) ((h.ordered i).subset (by simp))
  · intro silent phase _
    cases phase with
    | save i => exact silent (.apply i) ((h.ordered i).subset (by simp))
    | apply i => rfl

/-- Registers that start equal end equal exactly if their last writes agree. -/
theorem Interleaving.agree_iff {schedule : List (Phase ι)} (h : Interleaving schedule)
    (value : ι → Option β) (start : β) :
    (lastWrite (saves value) schedule).or (some start) =
        (lastWrite (applies value) schedule).or (some start) ↔ Agree value schedule := by
  unfold Agree
  have silent := h.lastWrite_none value
  cases saved : lastWrite (saves value) schedule with
  | none => simp [silent.mp saved]
  | some v =>
    cases applied : lastWrite (applies value) schedule with
    | none =>
      rw [silent.mpr applied] at saved
      cases saved
    | some w => rfl

end Register
