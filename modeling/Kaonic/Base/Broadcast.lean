import Mathlib

/-!
# Broadcast channels

Every receiver reads the values in the order in which they are sent. The channel keeps at least the
last `capacity` of them: a receiver that has fallen further behind is told so, and goes on with the
oldest value that is kept. How long a channel keeps a value beyond that is a parameter.
-/

namespace Broadcast

variable {α : Type}

/-! ### The last value of a kind -/

def lastOf (p : α → Bool) (values : List α) : Option α := (values.filter p).getLast?

variable {p : α → Bool}

theorem lastOf_append (values more : List α) :
    lastOf p (values ++ more) = (lastOf p more).or (lastOf p values) := by
  rw [lastOf, List.filter_append, List.getLast?_append]
  rfl

theorem lastOf_eq_none {values : List α} : lastOf p values = none ↔ ∀ v ∈ values, p v = false := by
  rw [lastOf, List.getLast?_eq_none_iff, List.filter_eq_nil_iff]
  simp

theorem lastOf_isSome {values : List α} {v : α} (member : v ∈ values) (holds : p v = true) :
    (lastOf p values).isSome := by
  rw [Option.isSome_iff_ne_none]
  intro none
  rw [lastOf_eq_none.mp none v member] at holds
  cases holds

/-- Only the end of a list matters where it holds a value of the kind. -/
theorem lastOf_append_of_mem {values more : List α} {v : α} (member : v ∈ more)
    (holds : p v = true) : lastOf p (values ++ more) = lastOf p more := by
  obtain ⟨w, found⟩ := Option.isSome_iff_exists.mp (lastOf_isSome member holds)
  rw [lastOf_append, found, Option.some_or]

theorem lastOf_singleton (v : α) : lastOf p [v] = if p v then some v else none := by
  cases holds : p v with
  | true => simp [lastOf, holds]
  | false => simp [lastOf, holds]

/-! ### Receivers -/

/-- A receiver, with what it has read and what it was too late for. -/
structure Receiver (α : Type) where
  next : Nat
  received : List α := []
  missed : List α := []

def subscribe (sent : List α) : Receiver α := { next := sent.length }

/-- What a call of `recv` comes to; where there is nothing to read, it waits. -/
inductive Outcome (α : Type) where
  | value (v : α)
  | lagged (skipped : Nat)
  | empty

/-- What a channel of a capacity has for a receiver, of the values sent and what it is to read next. -/
abbrev Poll (α : Type) := Nat → List α → Nat → Outcome α

/-- Values come in order, and only those are skipped that `capacity` others have followed. -/
structure Poll.Documented (poll : Poll α) : Prop where
  order : ∀ capacity sent next v, poll capacity sent next = .value v → sent[next]? = some v
  kept : ∀ capacity sent next skipped, poll capacity sent next = .lagged skipped →
    next + skipped + capacity ≤ sent.length

def recv (poll : Poll α) (capacity : Nat) (sent : List α) (r : Receiver α) : Receiver α :=
  match poll capacity sent r.next with
  | .value v => { r with next := r.next + 1, received := r.received ++ [v] }
  | .lagged skipped =>
    { r with
      next := r.next + skipped
      missed := r.missed ++ (sent.drop r.next).take skipped }
  | .empty => r

/-- A channel that keeps the last `capacity` values and no others. -/
def retained : Poll α := fun capacity sent next =>
  if next + capacity < sent.length then .lagged (sent.length - capacity - next)
  else
    match sent[next]? with
    | some v => .value v
    | none => .empty

theorem retained_documented : (retained : Poll α).Documented := by
  refine ⟨?_, ?_⟩
  · intro capacity sent next v outcome
    unfold retained at outcome
    split at outcome
    · cases outcome
    · split at outcome
      · rename_i found
        cases outcome
        exact found
      · cases outcome
  · intro capacity sent next skipped outcome
    unfold retained at outcome
    split at outcome
    · rename_i behind
      cases outcome
      omega
    · split at outcome
      · cases outcome
      · cases outcome

/-- A call of `recv` reads the next value, or none. -/
theorem recv_received {poll : Poll α} (documented : poll.Documented) (capacity : Nat)
    (sent : List α) (r : Receiver α) : (recv poll capacity sent r).received = r.received ∨
      ∃ v ∈ sent, (recv poll capacity sent r).received = r.received ++ [v] := by
  unfold recv
  cases outcome : poll capacity sent r.next with
  | value v =>
    have found := documented.order _ _ _ _ outcome
    exact Or.inr ⟨v, List.mem_of_getElem? found, rfl⟩
  | lagged skipped => exact Or.inl rfl
  | empty => exact Or.inl rfl

theorem drop_take_append {start next last : Nat} {values : List α} (begun : start ≤ next)
    (read : next ≤ last) (within : last ≤ values.length) :
    (values.take last).drop start =
      (values.take next).drop start ++ (values.take last).drop next := by
  have taken : (values.take last).take next = values.take next := by
    rw [List.take_take, Nat.min_eq_left read]
  have long : start ≤ (values.take next).length := by
    rw [List.length_take, Nat.min_eq_left (Nat.le_trans read within)]
    exact begun
  calc (values.take last).drop start
      = ((values.take last).take next ++ (values.take last).drop next).drop start := by
        rw [List.take_append_drop]
    _ = (values.take next).drop start ++ (values.take last).drop next := by
        rw [taken, List.drop_append_of_le_length long]

/-- A receiver that has subscribed when `start` values had been sent. -/
structure Tracks (capacity : Nat) (sent : List α) (start : Nat) (r : Receiver α) : Prop where
  begun : start ≤ r.next
  within : r.next ≤ sent.length
  late : ∀ v ∈ r.missed, v ∈ sent.drop start
  unmissed : ∀ p : α → Bool, (∀ v ∈ r.missed, p v = false) →
    r.received.filter p = ((sent.take r.next).drop start).filter p
  recent : ∀ k, start ≤ k → k ≤ r.next → sent.length ≤ k + capacity →
    (sent.take r.next).drop k <:+ r.received

variable {capacity start : Nat} {sent : List α} {r : Receiver α}

theorem Tracks.subscribed (sent : List α) :
    Tracks capacity sent sent.length (subscribe sent) where
  begun := Nat.le_refl _
  within := Nat.le_refl _
  late := nofun
  unmissed := by
    intro p _
    rw [subscribe, List.take_length, List.drop_length]
  recent := by
    intro k from_start _ _
    rw [subscribe, List.take_length, List.drop_of_length_le from_start]

theorem Tracks.send (tracks : Tracks capacity sent start r) (v : α) :
    Tracks capacity (sent ++ [v]) start r where
  begun := tracks.begun
  within := Nat.le_trans tracks.within (by simp)
  late := by
    intro w member
    rw [List.drop_append_of_le_length (tracks.begun.trans tracks.within)]
    exact List.mem_append_left _ (tracks.late w member)
  unmissed := by
    intro p none
    rw [List.take_append_of_le_length tracks.within]
    exact tracks.unmissed p none
  recent := by
    intro k from_start read near
    rw [List.take_append_of_le_length tracks.within]
    rw [List.length_append] at near
    exact tracks.recent k from_start read (Nat.le_trans (Nat.le_add_right _ _) near)

theorem Tracks.recv {poll : Poll α} (documented : poll.Documented)
    (tracks : Tracks capacity sent start r) :
    Tracks capacity sent start (recv poll capacity sent r) := by
  unfold Broadcast.recv
  cases outcome : poll capacity sent r.next with
  | empty => exact tracks
  | lagged skipped =>
    have kept := documented.kept _ _ _ _ outcome
    have passed : (sent.take (r.next + skipped)).drop r.next = (sent.drop r.next).take skipped := by
      rw [List.drop_take, Nat.add_sub_cancel_left]
    refine ⟨Nat.le_add_right_of_le tracks.begun, by dsimp only; omega, ?_, ?_, ?_⟩
    · intro v member
      rcases List.mem_append.mp member with before | skip
      · exact tracks.late v before
      · exact List.drop_subset_drop_left _ tracks.begun (List.mem_of_mem_take skip)
    · intro p none
      have older := tracks.unmissed p fun v member => none v (List.mem_append_left _ member)
      have between : ((sent.drop r.next).take skipped).filter p = [] := by
        rw [List.filter_eq_nil_iff]
        intro v member
        rw [none v (List.mem_append_right _ member)]
        exact Bool.false_ne_true
      have split := drop_take_append tracks.begun (Nat.le_add_right r.next skipped)
        (show r.next + skipped ≤ sent.length by omega)
      rw [older, split, List.filter_append, passed, between, List.append_nil]
    · intro k from_start read near
      have last : (sent.take (r.next + skipped)).length ≤ k := by
        rw [List.length_take]
        omega
      rw [List.drop_of_length_le last]
      exact List.nil_suffix
  | value v =>
    have found := documented.order _ _ _ _ outcome
    have below : r.next < sent.length := (List.getElem?_eq_some_iff.mp found).1
    have grown : sent.take (r.next + 1) = sent.take r.next ++ [v] := by
      rw [List.take_add_one, found]
      rfl
    have long : (sent.take r.next).length = r.next := by
      rw [List.length_take, Nat.min_eq_left tracks.within]
    refine ⟨Nat.le_succ_of_le tracks.begun, below, tracks.late, ?_, ?_⟩
    · intro p none
      dsimp only
      rw [grown, List.drop_append_of_le_length (by rw [long]; exact tracks.begun),
        List.filter_append, List.filter_append, tracks.unmissed p none]
    · intro k from_start read close
      dsimp only at read ⊢
      rcases Nat.le_succ_iff.mp read with earlier | rfl
      · rw [grown, List.drop_append_of_le_length (by rw [long]; exact earlier)]
        have before := tracks.recent k from_start earlier close
        exact (List.suffix_append_inj_of_length_eq rfl).mpr ⟨before, rfl⟩
      · rw [List.drop_of_length_le (by rw [List.length_take]; omega)]
        exact List.nil_suffix

/-- A receiver that has read everything knows the last value of a kind, unless it was too late for
one and `capacity` others have been sent since. -/
theorem Tracks.last (tracks : Tracks capacity sent start r) (drained : r.next = sent.length)
    (kept : (∀ v ∈ r.missed, p v = false) ∨
      ∃ v ∈ sent.drop (sent.length - capacity), p v = true) :
    lastOf p r.received = lastOf p (sent.drop start) := by
  have none_missed : (∀ v ∈ r.missed, p v = false) →
      lastOf p r.received = lastOf p (sent.drop start) := by
    intro none
    rw [lastOf, tracks.unmissed p none, drained, List.take_length]
    rfl
  rcases kept with none | ⟨v, member, holds⟩
  · exact none_missed none
  rcases Nat.le_total start (sent.length - capacity) with before | after
  · have tail := tracks.recent (sent.length - capacity) before (by omega) (by omega)
    rw [drained, List.take_length] at tail
    obtain ⟨old, whole⟩ := tail
    obtain ⟨more, longer⟩ := List.drop_suffix_drop_left sent before
    rw [← whole, ← longer, lastOf_append_of_mem member holds, lastOf_append_of_mem member holds]
  · have tail := tracks.recent start (Nat.le_refl _) tracks.begun (by omega)
    rw [drained, List.take_length] at tail
    by_cases any : ∃ w ∈ sent.drop start, p w = true
    · obtain ⟨w, there, good⟩ := any
      obtain ⟨old, whole⟩ := tail
      rw [← whole, lastOf_append_of_mem there good]
    · apply none_missed
      intro w missed
      have bad := fun good => any ⟨w, tracks.late w missed, good⟩
      exact Bool.eq_false_of_not_eq_true bad

end Broadcast
