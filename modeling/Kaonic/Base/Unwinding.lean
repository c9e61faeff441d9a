import Mathlib

/-!
# Unwinding

A view of a state that visible events change in a way the view alone decides, and that silent
events do not change, cannot tell apart two runs with the same visible events.
-/

namespace Unwinding

variable {σ ε τ : Type}

structure Unwinds (step : σ → ε → Option σ) (view : σ → τ) (visible : ε → Bool) : Prop where
  respects : ∀ s s' e, visible e = true → view s = view s' →
    (step s e).map view = (step s' e).map view
  silent : ∀ s e, visible e = false → (step s e).map view = some (view s)

variable {step : σ → ε → Option σ} {view : σ → τ} {visible : ε → Bool}

theorem Unwinds.run_congr (unwinds : Unwinds step view visible) {events : List ε}
    (all : ∀ e ∈ events, visible e = true) {s s' : σ} (same : view s = view s') :
    (events.foldlM step s).map view = (events.foldlM step s').map view := by
  induction events generalizing s s' with
  | nil => exact congrArg some same
  | cons e rest ih =>
    have one := unwinds.respects s s' e (all e List.mem_cons_self) same
    rw [List.foldlM_cons, List.foldlM_cons]
    cases left : step s e with
    | none =>
      rw [left, Option.map_none] at one
      rw [Option.map_eq_none_iff.mp one.symm]
    | some mid =>
      rw [left, Option.map_some] at one
      obtain ⟨mid', right, agree⟩ := Option.map_eq_some_iff.mp one.symm
      rw [right]
      exact ih (fun e member => all e (List.mem_cons_of_mem _ member)) agree.symm

/-- Leaving the silent events out does not show. -/
theorem Unwinds.run_filter (unwinds : Unwinds step view visible) (events : List ε) (s : σ) :
    (events.foldlM step s).map view = ((events.filter visible).foldlM step s).map view := by
  induction events generalizing s with
  | nil => rfl
  | cons e rest ih =>
    rw [List.foldlM_cons]
    cases seen : visible e with
    | true =>
      rw [List.filter_cons_of_pos seen, List.foldlM_cons]
      cases step s e with
      | none => rfl
      | some mid => exact ih mid
    | false =>
      rw [List.filter_cons_of_neg (by simp [seen])]
      obtain ⟨mid, stepped, same⟩ := Option.map_eq_some_iff.mp (unwinds.silent s e seen)
      rw [stepped]
      exact (ih mid).trans (unwinds.run_congr (fun _ => List.of_mem_filter) same)

theorem Unwinds.run_agree (unwinds : Unwinds step view visible) {events events' : List ε}
    (agree : events.filter visible = events'.filter visible) {s s' : σ} (same : view s = view s') :
    (events.foldlM step s).map view = (events'.foldlM step s').map view :=
  calc (events.foldlM step s).map view
      = ((events.filter visible).foldlM step s).map view := unwinds.run_filter events s
    _ = ((events.filter visible).foldlM step s').map view :=
      unwinds.run_congr (fun _ => List.of_mem_filter) same
    _ = ((events'.filter visible).foldlM step s').map view := by rw [agree]
    _ = (events'.foldlM step s').map view := (unwinds.run_filter events' s').symm

end Unwinding
