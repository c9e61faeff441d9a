import Mathlib

/-!
# Machines and their runs

A machine answers each input. What a step keeps in relation with an observer of inputs and answers,
a run keeps, also when the relation only has to survive inputs in the order of a clock.
-/

structure Machine (σ ι ο : Type) where
  step : σ → ι → σ × ο

namespace Machine

variable {σ ι ο α τ : Type} (m : Machine σ ι ο)

def run (s : σ) : List ι → σ
  | [] => s
  | i :: rest => run (m.step s i).1 rest

def trace (s : σ) : List ι → List (ι × ο)
  | [] => []
  | i :: rest => (i, (m.step s i).2) :: trace (m.step s i).1 rest

theorem run_append (s : σ) (is js : List ι) : m.run s (is ++ js) = m.run (m.run s is) js := by
  induction is generalizing s with
  | nil => rfl
  | cons i rest ih => exact ih _

variable {m}

/-- What every step on certain inputs keeps, a run on such inputs keeps. -/
theorem run_invariant_of {I : σ → Prop} {P : ι → Prop} (keep : ∀ s i, P i → I s → I (m.step s i).1)
    {s : σ} (start : I s) {is : List ι} (all : ∀ i ∈ is, P i) : I (m.run s is) := by
  induction is generalizing s with
  | nil => exact start
  | cons i rest ih =>
    have next := keep s i (all i List.mem_cons_self) start
    exact ih next fun j member => all j (List.mem_cons_of_mem _ member)

/-- What every step keeps, every run keeps. -/
theorem run_invariant {I : σ → Prop} (keep : ∀ s i, I s → I (m.step s i).1) {s : σ} (start : I s)
    (is : List ι) : I (m.run s is) :=
  run_invariant_of (P := fun _ => True) (fun s i _ => keep s i) start fun _ _ => trivial

/-- What holds after a run held at its start, or some step has brought it about. -/
theorem run_brought {P : σ → Prop} {s : σ} {is : List ι} (holds : P (m.run s is)) : P s ∨
    ∃ before i rest, is = before ++ i :: rest ∧ ¬ P (m.run s before) ∧
      P (m.step (m.run s before) i).1 := by
  induction is generalizing s with
  | nil => exact Or.inl holds
  | cons i rest ih =>
    by_cases already : P s
    · exact Or.inl already
    right
    rcases ih holds with now | ⟨before, j, later, rfl, fresh, brought⟩
    · exact ⟨[], i, rest, rfl, already, now⟩
    · exact ⟨i :: before, j, later, rfl, fresh, brought⟩

/-- A relation with an observer that every step keeps holds after every run. -/
theorem run_kept {observe : α → ι × ο → α} {R : σ → α → Prop}
    (keep : ∀ s a i, R s a → R (m.step s i).1 (observe a (i, (m.step s i).2))) {s : σ} {a : α}
    (start : R s a) (is : List ι) : R (m.run s is) ((m.trace s is).foldl observe a) := by
  induction is generalizing s a with
  | nil => exact start
  | cons i rest ih => exact ih (keep s a i start)

/-- A relation with an observer, kept by steps in clock order, holds after a run in clock order
at some time that is no later than any bound on the run. -/
theorem run_observed [Preorder τ] {clock : ι → τ} {observe : α → ι × ο → α}
    {R : τ → σ → α → Prop}
    (keep : ∀ t s a i, R t s a → t ≤ clock i → R (clock i) (m.step s i).1 (observe a (i, (m.step s i).2)))
    {t : τ} {s : σ} {a : α} (start : R t s a) {is : List ι}
    (sorted : is.Pairwise fun i j => clock i ≤ clock j) (late : ∀ i ∈ is, t ≤ clock i) :
    ∃ last, R last (m.run s is) ((m.trace s is).foldl observe a) ∧
      ∀ bound, t ≤ bound → (∀ i ∈ is, clock i ≤ bound) → last ≤ bound := by
  induction is generalizing t s a with
  | nil => exact ⟨t, start, fun bound below _ => below⟩
  | cons i rest ih =>
    obtain ⟨head, sorted⟩ := List.pairwise_cons.mp sorted
    have step := keep t s a i start (late i List.mem_cons_self)
    obtain ⟨last, related, least⟩ := ih step sorted head
    refine ⟨last, related, ?_⟩
    intro bound _ below
    exact least bound (below i List.mem_cons_self) fun j member =>
      below j (List.mem_cons_of_mem _ member)

end Machine

/-! ### What has happened -/

section

variable {ε : Type} {P : List ε → ε → Prop} {events : List ε}

/-- One of the events, after those before it, was as the predicate says. -/
def Happened (P : List ε → ε → Prop) (events : List ε) : Prop :=
  ∃ earlier e later, events = earlier ++ e :: later ∧ P earlier e

theorem Happened.append (happened : Happened P events) (more : List ε) :
    Happened P (events ++ more) := by
  obtain ⟨earlier, e, later, rfl, holds⟩ := happened
  exact ⟨earlier, e, later ++ more, by rw [List.append_assoc, List.cons_append], holds⟩

theorem Happened.now {e : ε} (holds : P events e) : Happened P (events ++ [e]) :=
  ⟨events, e, [], rfl, holds⟩

end
