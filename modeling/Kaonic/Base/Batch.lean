import Mathlib

/-!
# Steps until the first that fails

A batch runs its steps in order and returns at the first error, with what the steps so far have
done. What every step keeps, the batch keeps, and a batch that comes to its end has run them all.
-/

namespace Batch

variable {σ α ε : Type} (step : σ → α → σ × Except ε Unit)

def run (s : σ) : List α → σ × Except ε Unit
  | [] => (s, .ok ())
  | a :: rest =>
    match step s a with
    | (s', .ok _) => run s' rest
    | (s', .error err) => (s', .error err)

variable {step} {s s' : σ} {steps more : List α}

theorem run_cons_ok {a : α} : run step s (a :: steps) = (s', .ok ()) ↔
    ∃ mid, step s a = (mid, .ok ()) ∧ run step mid steps = (s', .ok ()) := by
  rw [run]
  cases outcome : step s a with
  | mk mid result =>
    cases result with
    | ok _ => simp
    | error err => simp

theorem run_append_ok : run step s (steps ++ more) = (s', .ok ()) ↔
    ∃ mid, run step s steps = (mid, .ok ()) ∧ run step mid more = (s', .ok ()) := by
  induction steps generalizing s with
  | nil => simp [run]
  | cons a rest ih =>
    rw [List.cons_append, run_cons_ok]
    constructor
    · rintro ⟨first, here, later⟩
      obtain ⟨mid, left, right⟩ := ih.mp later
      exact ⟨mid, run_cons_ok.mpr ⟨first, here, left⟩, right⟩
    · rintro ⟨mid, left, right⟩
      obtain ⟨first, here, later⟩ := run_cons_ok.mp left
      exact ⟨first, here, ih.mpr ⟨mid, later, right⟩⟩

/-- What a batch does to the state is a sequence of what its steps do. -/
theorem run_related {R : σ → σ → Prop} (refl : ∀ s, R s s) (trans : ∀ s t u, R s t → R t u → R s u)
    (each : ∀ a ∈ steps, ∀ s, R s (step s a).1) (s : σ) : R s (run step s steps).1 := by
  induction steps generalizing s with
  | nil => exact refl s
  | cons a rest ih =>
    have first := each a List.mem_cons_self s
    have later := ih fun b member => each b (List.mem_cons_of_mem _ member)
    rw [run]
    cases outcome : step s a with
    | mk mid result =>
      rw [outcome] at first
      cases result with
      | ok _ => exact trans _ _ _ first (later mid)
      | error err => exact first

/-- A batch that comes to its end establishes at the end what one of its steps establishes and the
steps behind it keep. -/
theorem established {a : α} {P : σ → Prop} (member : a ∈ steps)
    (here : ∀ s s', step s a = (s', .ok ()) → P s')
    (kept : ∀ b ∈ steps, ∀ s, P s → P (step s b).1) (done : run step s steps = (s', .ok ())) :
    P s' := by
  obtain ⟨before, behind, rfl⟩ := List.append_of_mem member
  obtain ⟨mid, _, rest⟩ := run_append_ok.mp done
  obtain ⟨next, first, last⟩ := run_cons_ok.mp rest
  have keep := @run_related σ α ε step behind (fun s t => P s → P t) (fun _ held => held)
    (fun _ _ _ left right held => right (left held))
    (fun b member => kept b (List.mem_append_right _ (List.mem_cons_of_mem _ member))) next
  rw [last] at keep
  exact keep (here _ _ first)

end Batch
