import Mathlib

/-!
# Lists read element by element

`List.mapM` in `Except` is how a loop with an early return, or a `collect` into a `Result`, reads a
list: it gives the results in order, or the first error.
-/

namespace Traverse

variable {α β ε : Type} {f : α → Except ε β} {xs : List α} {ys : List β}

theorem bind_eq_ok {r : Except ε α} {y : β} : (r >>= f) = .ok y ↔ ∃ x, r = .ok x ∧ f x = .ok y := by
  cases r <;> simp [bind, Except.bind]

/-- An early return that is not taken. -/
theorem throw_if_eq_ok {γ : Type} {c : Prop} [Decidable c] {err : ε} {f : γ → Except ε β}
    {g : Except ε β} {y : β} :
    (if c then (throw err : Except ε γ) >>= f else g) = .ok y ↔ ¬ c ∧ g = .ok y := by
  split
  · rename_i taken
    exact iff_of_false (fun h => by cases h) fun ⟨free, _⟩ => free taken
  · rename_i free
    exact ⟨fun h => ⟨free, h⟩, And.right⟩

theorem map_eq_ok {g : α → β} {r : Except ε α} {y : β} :
    r.map g = .ok y ↔ ∃ x, r = .ok x ∧ g x = y := by
  cases r <;> simp [Except.map]

theorem map_eq_error {g : α → β} {r : Except ε α} {err : ε} :
    r.map g = .error err ↔ r = .error err := by
  cases r <;> simp [Except.map]

theorem mapError_eq_ok {g : ε → ε} {r : Except ε β} {y : β} : r.mapError g = .ok y ↔ r = .ok y := by
  cases r <;> simp [Except.mapError]

theorem mapM_cons_eq_ok {x : α} : (x :: xs).mapM f = .ok ys ↔
    ∃ y rest, f x = .ok y ∧ xs.mapM f = .ok rest ∧ ys = y :: rest := by
  rw [List.mapM_cons]
  cases f x with
  | error err => simp [bind, Except.bind]
  | ok y =>
    cases xs.mapM f with
    | error err => simp [bind, Except.bind]
    | ok rest => simp [bind, Except.bind, pure, Except.pure, eq_comm]

theorem mem_mapM (read : xs.mapM f = .ok ys) {y : β} : y ∈ ys ↔ ∃ x ∈ xs, f x = .ok y := by
  induction xs generalizing ys with
  | nil =>
    obtain rfl := Except.ok.inj read
    simp
  | cons x xs ih =>
    obtain ⟨first, rest, here, tail, rfl⟩ := mapM_cons_eq_ok.mp read
    simp [ih tail, here, eq_comm]

theorem mapM_isOk : (xs.mapM f).isOk = true ↔ ∀ x ∈ xs, (f x).isOk = true := by
  induction xs with
  | nil => simp [pure, Except.pure, Except.isOk, Except.toBool]
  | cons x xs ih =>
    rw [List.forall_mem_cons, ← ih, List.mapM_cons]
    cases f x with
    | error err => simp [bind, Except.bind, Except.isOk, Except.toBool]
    | ok y => cases xs.mapM f <;>
        simp [bind, Except.bind, pure, Except.pure, Except.isOk, Except.toBool]

/-- What reads every element as another reader does reads the list as it does. -/
theorem mapM_mono {g : α → Except ε β} (same : ∀ x y, f x = .ok y → g x = .ok y)
    (read : xs.mapM f = .ok ys) : xs.mapM g = .ok ys := by
  induction xs generalizing ys with
  | nil => exact read
  | cons x xs ih =>
    obtain ⟨y, rest, here, tail, rfl⟩ := mapM_cons_eq_ok.mp read
    exact mapM_cons_eq_ok.mpr ⟨y, rest, same x y here, ih tail, rfl⟩

theorem mapM_map_of_inverse {g : β → Except ε α} {f : α → β} (inverse : ∀ x, g (f x) = .ok x) :
    (xs.map f).mapM g = .ok xs := by
  induction xs with
  | nil => rfl
  | cons x xs ih => exact mapM_cons_eq_ok.mpr ⟨x, xs, inverse x, ih, rfl⟩

theorem isOk_iff_exists {r : Except ε β} : r.isOk = true ↔ ∃ y, r = .ok y := by
  cases r <;> simp [Except.isOk, Except.toBool]

end Traverse
