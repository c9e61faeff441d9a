import Mathlib

/-!
# Reconciling a set with a record of it

An actual set is brought to a desired one by removing what the record lists beyond it and then
placing its elements, which can break off. The record moves on only when all were placed, so an
element that a broken call placed is unknown to the calls that follow.
-/

namespace Reconcile

variable {α : Type} [DecidableEq α]

structure State (α : Type) where
  actual : Finset α := ∅
  record : Finset α := ∅

structure Call (α : Type) where
  desired : Finset α
  placed : Finset α
  completed : Bool
  full : completed = true → placed = desired

def State.step (s : State α) (c : Call α) : State α where
  actual := (s.actual \ (s.record \ c.desired)) ∪ c.placed
  record := if c.completed then c.desired else s.record

def State.stray (s : State α) : Finset α := s.actual \ s.record

/-! ### One call -/

section Step

variable {s : State α} {c : Call α}

theorem actual_completed (completed : c.completed = true) :
    (s.step c).actual = c.desired ∪ s.stray := by
  ext x
  simp only [State.step, State.stray, c.full completed, Finset.mem_union, Finset.mem_sdiff]
  tauto

theorem actual_completed_iff (completed : c.completed = true) :
    (s.step c).actual = c.desired ↔ s.stray ⊆ c.desired := by
  rw [actual_completed completed, Finset.union_eq_left]

theorem stray_completed (completed : c.completed = true) (exact_ : (s.step c).actual = c.desired) :
    (s.step c).stray = ∅ := by
  have record : (s.step c).record = c.desired := by simp [State.step, completed]
  rw [State.stray, exact_, record, Finset.sdiff_self]

theorem mem_stray_broken (broken : c.completed = false) {x : α} :
    x ∈ (s.step c).stray ↔ x ∈ s.stray ∨ x ∈ c.placed \ s.record := by
  simp only [State.step, State.stray, broken, Finset.mem_union, Finset.mem_sdiff]
  tauto

end Step

/-! ### Runs -/

variable {κ : Type} (view : κ → Call α)

def run (calls : List κ) : State α := calls.foldl (fun s c => s.step (view c)) {}

/-- Each completed call leaves exactly what it desires. -/
def Exact (calls : List κ) : Prop :=
  ∀ before c, before ++ [c] <+: calls → (view c).completed = true →
    (run view (before ++ [c])).actual = (view c).desired

/-- What a broken call placed beyond the record, the next completed call desires. -/
def Covered (calls : List κ) : Prop :=
  ∀ before broken between next, before ++ broken :: between ++ [next] <+: calls →
    (view broken).completed = false → (∀ c ∈ between, (view c).completed = false) →
      (view next).completed = true →
        (view broken).placed \ (run view before).record ⊆ (view next).desired

variable {view} {calls : List κ}

theorem run_concat (calls : List κ) (c : κ) :
    run view (calls ++ [c]) = (run view calls).step (view c) := by simp [run]

omit [DecidableEq α] in
theorem concat_eq_iff {before between : List κ} {c broken : κ} :
    calls ++ [c] = before ++ broken :: between ↔
      (between = [] ∧ calls = before ∧ c = broken) ∨
        ∃ rest, between = rest ++ [c] ∧ calls = before ++ broken :: rest := by
  rcases List.eq_nil_or_concat between with rfl | ⟨rest, last, rfl⟩
  · simp
  · have assoc : before ++ broken :: (rest ++ [last]) = (before ++ broken :: rest) ++ [last] := by
      simp
    rw [List.concat_eq_append, assoc]
    refine ⟨?_, ?_⟩
    · intro same
      obtain ⟨left, right⟩ := List.append_inj' same rfl
      obtain rfl := List.singleton_inj.mp right
      exact Or.inr ⟨rest, rfl, left⟩
    · intro split
      rcases split with ⟨empty, _⟩ | ⟨rest', same, left⟩
      · simp at empty
      · obtain ⟨front, back⟩ := List.append_inj' same rfl
        rw [left, front, back]

/-- While the completed calls are exact, a stray element comes from a call since the last of them. -/
theorem mem_stray_run (exact_ : Exact view calls) {x : α} : x ∈ (run view calls).stray ↔
    ∃ before broken between, calls = before ++ broken :: between ∧
      (view broken).completed = false ∧ (∀ c ∈ between, (view c).completed = false) ∧
      x ∈ (view broken).placed \ (run view before).record := by
  induction calls using List.reverseRecOn with
  | nil => simp [run, State.stray]
  | append_singleton calls c ih =>
    have earlier : Exact view calls := fun before c' start =>
      exact_ before c' (start.trans (List.prefix_append _ _))
    rw [run_concat]
    cases completed : (view c).completed with
    | true =>
      have done := exact_ calls c List.prefix_rfl completed
      rw [run_concat] at done
      rw [stray_completed completed done]
      refine ⟨fun member => by simp at member, ?_⟩
      intro ⟨before, broken, between, split, stopped, all, _⟩
      rcases concat_eq_iff.mp split with ⟨_, _, rfl⟩ | ⟨rest, rfl, _⟩
      · rw [completed] at stopped
        cases stopped
      · rw [all c (by simp)] at completed
        cases completed
    | false =>
      rw [mem_stray_broken completed, ih earlier]
      refine ⟨?_, ?_⟩
      · intro source
        rcases source with ⟨before, broken, between, rfl, stopped, all, member⟩ | member
        · refine ⟨before, broken, between ++ [c], by simp, stopped, ?_, member⟩
          intro c' inside
          rcases List.mem_append.mp inside with front | last
          · exact all c' front
          · rwa [List.mem_singleton.mp last]
        · exact ⟨calls, c, [], rfl, completed, by simp, member⟩
      · intro ⟨before, broken, between, split, stopped, all, member⟩
        rcases concat_eq_iff.mp split with ⟨_, rfl, rfl⟩ | ⟨rest, rfl, same⟩
        · exact Or.inr member
        · exact Or.inl ⟨before, broken, rest, same, stopped,
            fun c' inside => all c' (List.mem_append_left _ inside), member⟩

/-- The completed calls of a run are exact when and only when the next one covers what a broken
one left behind. -/
theorem exact_iff_covered : Exact view calls ↔ Covered view calls := by
  refine ⟨?_, ?_⟩
  · intro exact_ before broken between next start stopped all completed
    have earlier : Exact view (before ++ broken :: between) := fun b c inside =>
      exact_ b c (inside.trans ((List.prefix_append _ _).trans start))
    have done := exact_ _ next start completed
    rw [run_concat, actual_completed_iff completed] at done
    intro x member
    exact done ((mem_stray_run earlier).mpr ⟨before, broken, between, rfl, stopped, all, member⟩)
  · intro covered
    induction calls using List.reverseRecOn with
    | nil =>
      intro before c start
      simp at start
    | append_singleton calls c ih =>
      have earlier : Exact view calls := ih fun before broken between next start =>
        covered before broken between next (start.trans (List.prefix_append _ _))
      intro before c' start completed
      rcases List.prefix_concat_iff.mp start with same | inside
      · obtain ⟨rfl, last⟩ := List.append_inj' same rfl
        obtain rfl := List.singleton_inj.mp last
        rw [run_concat, actual_completed_iff completed]
        intro x member
        obtain ⟨b, broken, between, rfl, stopped, all, placed⟩ := (mem_stray_run earlier).mp member
        exact covered b broken between c' List.prefix_rfl stopped all completed placed
      · exact earlier before c' inside completed

end Reconcile
