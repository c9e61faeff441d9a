import Mathlib

/-!
# Select loops

`loop { select! { _ = cancelled() => break, pattern = ready() => body } }`. A value that does not
match the pattern disables its branch for the rest of that `select!`, which then waits for the
cancellation alone.
-/

namespace SelectLoop

variable {σ ι β γ : Type}

inductive Phase where
  | listening
  | disabled
  | stopped
  deriving DecidableEq

inductive Event (ι : Type) where
  | ready (value : ι)
  | cancelled

structure State (σ : Type) where
  data : σ
  phase : Phase := .listening

section
variable (pattern : ι → Option β) (body : σ → β → σ)

def step (s : State σ) : Event ι → State σ
  | .cancelled => { s with phase := .stopped }
  | .ready value =>
    match s.phase with
    | .listening =>
      match pattern value with
      | some b => { s with data := body s.data b }
      | none => { s with phase := .disabled }
    | .disabled | .stopped => s

def run (s : State σ) (events : List (Event ι)) : State σ := events.foldl (step pattern body) s

end

variable {pattern : ι → Option β} {body : σ → β → σ}

theorem run_of_not_listening {s : State σ} (deaf : s.phase ≠ .listening)
    (events : List (Event ι)) : (run pattern body s events).data = s.data := by
  induction events generalizing s with
  | nil => rfl
  | cons event rest ih =>
    have after : (step pattern body s event).phase ≠ .listening ∧
        (step pattern body s event).data = s.data := by
      cases event with
      | cancelled => exact ⟨Phase.noConfusion, rfl⟩
      | ready value =>
        cases phase : s.phase with
        | listening => exact (deaf phase).elim
        | disabled => simp [step, phase]
        | stopped => simp [step, phase]
    exact (ih after.1).trans after.2

/-- Before the cancellation the body runs on the values in front of the first one that does not
match, and on no other. -/
theorem run_ready (d : σ) (values : List ι) (later : List (Event ι)) :
    (run pattern body ⟨d, .listening⟩ (values.map .ready ++ .cancelled :: later)).data =
      ((values.takeWhile fun v => (pattern v).isSome).filterMap pattern).foldl body d := by
  induction values generalizing d with
  | nil => exact run_of_not_listening (s := ⟨d, .stopped⟩) Phase.noConfusion later
  | cons value rest ih =>
    cases matched : pattern value with
    | some b =>
      have first : step pattern body ⟨d, .listening⟩ (.ready value) = ⟨body d b, .listening⟩ := by
        simp [step, matched]
      simp only [List.map_cons, List.cons_append, run, List.foldl_cons, first, List.takeWhile_cons,
        matched, Option.isSome_some, if_true, List.filterMap_cons]
      exact ih (body d b)
    | none =>
      have first : step pattern body ⟨d, .listening⟩ (.ready value) = ⟨d, .disabled⟩ := by
        simp [step, matched]
      simp only [List.map_cons, List.cons_append, run, List.foldl_cons, first, List.takeWhile_cons,
        matched, Option.isSome_none, Bool.false_eq_true, if_false, List.filterMap_nil,
        List.foldl_nil]
      exact run_of_not_listening (s := ⟨d, .disabled⟩) Phase.noConfusion _

/-- Nothing is lost exactly when nothing wanted follows the first value that does not match. -/
theorem takeWhile_filterMap_eq_iff (accepts : ι → Bool) (wanted : ι → Option γ) (values : List ι) :
    (values.takeWhile accepts).filterMap wanted = values.filterMap wanted ↔
      ∀ v ∈ values.dropWhile accepts, wanted v = none := by
  have split := congrArg (List.filterMap wanted) (List.takeWhile_append_dropWhile (p := accepts) (l := values))
  rw [List.filterMap_append] at split
  rw [← split, List.self_eq_append_right, List.filterMap_eq_nil_iff]

end SelectLoop
