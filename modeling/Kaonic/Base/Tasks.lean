import Mathlib

/-!
# Tasks that take turns

Tasks share a state, and each goes through phases of its own. One step of a task is one access to
the state, and between two steps of a task the others take theirs.
-/

/-- What a task does: how a call begins, and what one access makes of the state and the phase. -/
structure TaskSystem (ι σ π κ τ : Type) where
  idle : π → Bool
  call : σ → κ → π
  advance : ι → τ → σ → π → σ × π

namespace TaskSystem

structure State (ι σ π : Type) where
  shared : σ
  phase : ι → π

inductive Event (ι κ τ : Type) where
  | call (i : ι) (op : κ)
  | step (i : ι) (input : τ)
  deriving DecidableEq

variable {ι σ π κ τ : Type} [DecidableEq ι]

section Step

variable (sys : TaskSystem ι σ π κ τ)

def step (s : State ι σ π) : Event ι κ τ → Option (State ι σ π)
  | .call i op =>
    if sys.idle (s.phase i) then
      some { s with phase := Function.update s.phase i (sys.call s.shared op) }
    else none
  | .step i input =>
    if sys.idle (s.phase i) then none
    else
      let r := sys.advance i input s.shared (s.phase i)
      some ⟨r.1, Function.update s.phase i r.2⟩

def run (s : State ι σ π) (events : List (Event ι κ τ)) : Option (State ι σ π) :=
  events.foldlM sys.step s

/-- The runs whose steps are all allowed in the state before them. -/
inductive Path (allowed : State ι σ π → Event ι κ τ → Prop) :
    State ι σ π → List (Event ι κ τ) → State ι σ π → Prop where
  | nil (s : State ι σ π) : Path allowed s [] s
  | cons {s mid s' : State ι σ π} {e : Event ι κ τ} {rest : List (Event ι κ τ)} (ok : allowed s e)
      (stepped : sys.step s e = some mid) (path : Path allowed mid rest s') :
      Path allowed s (e :: rest) s'

/-- Runs as long as the steps are allowed. -/
def play (allowed : State ι σ π → Event ι κ τ → Prop) [∀ s, DecidablePred (allowed s)]
    (s : State ι σ π) : List (Event ι κ τ) → Option (State ι σ π)
  | [] => some s
  | e :: rest => if allowed s e then (sys.step s e).bind fun mid => play allowed mid rest else none

end Step

variable {sys : TaskSystem ι σ π κ τ} {allowed : State ι σ π → Event ι κ τ → Prop}
  {s s' : State ι σ π} {events : List (Event ι κ τ)}

theorem Path.of_play [∀ s, DecidablePred (allowed s)] (played : sys.play allowed s events = some s') :
    Path sys allowed s events s' := by
  induction events generalizing s with
  | nil =>
    obtain rfl := Option.some.inj played
    exact .nil s
  | cons e rest ih =>
    unfold play at played
    split at played
    · rename_i ok
      obtain ⟨mid, stepped, played⟩ := Option.bind_eq_some_iff.mp played
      exact .cons ok stepped (ih played)
    · cases played

theorem Path.of_run (ran : sys.run s events = some s') (all : ∀ e ∈ events, ∀ s, allowed s e) :
    Path sys allowed s events s' := by
  induction events generalizing s with
  | nil =>
    obtain rfl := Option.some.inj ran
    exact .nil s
  | cons e rest ih =>
    obtain ⟨first, all⟩ := List.forall_mem_cons.mp all
    unfold run at ran
    rw [List.foldlM_cons] at ran
    obtain ⟨mid, stepped, ran⟩ := Option.bind_eq_some_iff.mp ran
    exact .cons (first s) stepped (ih ran all)

/-- What every allowed step keeps holds after every run of such steps. -/
theorem Path.kept (inv : State ι σ π → Prop)
    (keep : ∀ s e s', inv s → allowed s e → sys.step s e = some s' → inv s')
    (path : Path sys allowed s events s') (start : inv s) : inv s' := by
  induction path with
  | nil => exact start
  | cons ok stepped _ ih => exact ih (keep _ _ _ start ok stepped)

/-- A step begins the call of an idle task or is an access of a busy one. -/
theorem step_cases {e : Event ι κ τ} (stepped : sys.step s e = some s') :
    (∃ i op, e = .call i op ∧ sys.idle (s.phase i) = true ∧
      s' = { s with phase := Function.update s.phase i (sys.call s.shared op) }) ∨
    ∃ i input, e = .step i input ∧ sys.idle (s.phase i) = false ∧
      s' = ⟨(sys.advance i input s.shared (s.phase i)).1,
        Function.update s.phase i (sys.advance i input s.shared (s.phase i)).2⟩ := by
  unfold step at stepped
  cases e with
  | call i op =>
    dsimp only at stepped
    split at stepped
    · rename_i idle
      exact Or.inl ⟨i, op, rfl, idle, (Option.some.inj stepped).symm⟩
    · cases stepped
  | step i input =>
    dsimp only at stepped
    split at stepped
    · cases stepped
    · rename_i busy
      exact Or.inr ⟨i, input, rfl, Bool.not_eq_true _ ▸ busy, (Option.some.inj stepped).symm⟩

/-- What is asserted of the state and of each task where it stands: a task keeps its own assertions
with every access, and those of the others. -/
structure Outline (sys : TaskSystem ι σ π κ τ) (G : σ → Prop) (L : σ → ι → π → Prop) : Prop where
  called : ∀ s i p op, sys.idle p = true → G s → L s i p → L s i (sys.call s op)
  advanced : ∀ s i p input, sys.idle p = false → G s → L s i p →
    G (sys.advance i input s p).1 ∧
      L (sys.advance i input s p).1 i (sys.advance i input s p).2
  undisturbed : ∀ s i p input j q, j ≠ i → sys.idle p = false → G s → L s i p → L s j q →
    L (sys.advance i input s p).1 j q

variable {G : σ → Prop} {L : σ → ι → π → Prop}

def Asserted (G : σ → Prop) (L : σ → ι → π → Prop) (s : State ι σ π) : Prop :=
  G s.shared ∧ ∀ i, L s.shared i (s.phase i)

theorem Outline.step (outline : Outline sys G L) {e : Event ι κ τ} (asserted : Asserted G L s)
    (stepped : sys.step s e = some s') : Asserted G L s' := by
  obtain ⟨i, op, rfl, idle, rfl⟩ | ⟨i, input, rfl, busy, rfl⟩ := step_cases stepped
  · refine ⟨asserted.1, (Function.forall_update_iff s.phase (L s.shared)).mpr ⟨?_, ?_⟩⟩
    · exact outline.called _ i _ op idle asserted.1 (asserted.2 i)
    · exact fun j _ => asserted.2 j
  · have own := outline.advanced _ i _ input busy asserted.1 (asserted.2 i)
    refine ⟨own.1, (Function.forall_update_iff s.phase (L _)).mpr ⟨own.2, ?_⟩⟩
    intro j other
    exact outline.undisturbed _ i _ input j _ other busy asserted.1 (asserted.2 i) (asserted.2 j)

/-- What holds of every phase, if each task keeps it with what it does itself. -/
theorem phases_step {P Q : π → Prop} {e : Event ι κ τ} (before : ∀ i, P (s.phase i))
    (others : ∀ p, P p → Q p) (calls : ∀ i op, e = .call i op → Q (sys.call s.shared op))
    (steps : ∀ i input, e = .step i input → P (s.phase i) →
      Q (sys.advance i input s.shared (s.phase i)).2)
    (stepped : sys.step s e = some s') : ∀ i, Q (s'.phase i) := by
  obtain ⟨i, op, rfl, _, rfl⟩ | ⟨i, input, rfl, _, rfl⟩ := step_cases stepped
  · exact (Function.forall_update_iff s.phase fun _ => Q).mpr
      ⟨calls i op rfl, fun j _ => others _ (before j)⟩
  · exact (Function.forall_update_iff s.phase fun _ => Q).mpr
      ⟨steps i input rfl (before i), fun j _ => others _ (before j)⟩

end TaskSystem

/-- A flag that a task sets to go inside and clears when it is done there. -/
structure Guard (σ π : Type) where
  flag : σ → Bool
  inside : π → Bool

namespace Guard

open TaskSystem

variable {ι σ π κ τ : Type} {g : Guard σ π}

/-- What an access may do: leave the flag alone, set it and go inside, or clear it and go out. -/
inductive Move (g : Guard σ π) (s : σ) (p : π) (s' : σ) (q : π) : Prop where
  | keep (flag : g.flag s' = g.flag s) (inside : g.inside q = g.inside p)
  | take (free : g.flag s = false) (set : g.flag s' = true) (inside : g.inside q = true)
  | release (inside : g.inside p = true) (cleared : g.flag s' = false)
      (outside : g.inside q = false)

/-- One task is inside, or none and the flag is clear. -/
def Owned (g : Guard σ π) (s : State ι σ π) : Prop :=
  ∃ owner : Option ι, g.flag s.shared = owner.isSome ∧
    ∀ i, g.inside (s.phase i) = true ↔ owner = some i

variable {s s' : State ι σ π}

theorem Owned.set (owned : g.Owned s) {i : ι} (inside : g.inside (s.phase i) = true) :
    g.flag s.shared = true := by
  obtain ⟨owner, flag, holds⟩ := owned
  rw [flag, (holds i).mp inside]
  rfl

theorem Owned.exclusive (owned : g.Owned s) {i j : ι} (first : g.inside (s.phase i) = true)
    (second : g.inside (s.phase j) = true) : i = j := by
  obtain ⟨owner, _, holds⟩ := owned
  have same := (holds i).mp first
  rw [(holds j).mp second] at same
  exact (Option.some.inj same).symm

theorem Owned.taken (owned : g.Owned s) (set : g.flag s.shared = true) :
    ∃ i, g.inside (s.phase i) = true := by
  obtain ⟨owner, flag, holds⟩ := owned
  obtain ⟨i, same⟩ := Option.isSome_iff_exists.mp (flag.symm.trans set)
  exact ⟨i, (holds i).mpr same⟩

variable [DecidableEq ι]

theorem Owned.of_update {i : ι} {shared : σ} {q : π} (owner : Option ι)
    (flag : g.flag shared = owner.isSome) (own : g.inside q = true ↔ owner = some i)
    (others : ∀ j, j ≠ i → (g.inside (s.phase j) = true ↔ owner = some j)) :
    g.Owned ⟨shared, Function.update s.phase i q⟩ := by
  exact ⟨owner, flag, (Function.forall_update_iff s.phase fun j p =>
    g.inside p = true ↔ owner = some j).mpr ⟨own, others⟩⟩

theorem Owned.update (owned : g.Owned s) {i : ι} {shared : σ} {q : π}
    (move : g.Move s.shared (s.phase i) shared q) :
    g.Owned ⟨shared, Function.update s.phase i q⟩ := by
  obtain ⟨owner, flag, holds⟩ := owned
  cases move with
  | keep same inside =>
    refine .of_update owner (same.trans flag) ?_ fun j _ => holds j
    rw [inside]
    exact holds i
  | take free set inside =>
    have nobody : owner = none := by
      rw [free] at flag
      exact Option.isNone_iff_eq_none.mp (Option.isSome_eq_false_iff.mp flag.symm)
    refine .of_update (some i) set ⟨fun _ => rfl, fun _ => inside⟩ ?_
    intro j other
    rw [holds j, nobody]
    exact ⟨fun none_ => (by cases none_), fun same => (other (Option.some.inj same).symm).elim⟩
  | release inside cleared outside =>
    have own := (holds i).mp inside
    refine .of_update none cleared ?_ ?_
    · rw [outside]
      exact ⟨fun out => (by cases out), fun none_ => (by cases none_)⟩
    · intro j other
      rw [holds j, own]
      exact ⟨fun same => (other (Option.some.inj same).symm).elim, fun none_ => (by cases none_)⟩

/-- Calls begin outside, and each access is a move: the flag keeps its owner. -/
theorem Owned.step {sys : TaskSystem ι σ π κ τ} {e : Event ι κ τ} (owned : g.Owned s)
    (outside : ∀ p, sys.idle p = true → g.inside p = false)
    (begins : ∀ shared op, g.inside (sys.call shared op) = false)
    (moves : ∀ i input, e = .step i input → g.Move s.shared (s.phase i)
      (sys.advance i input s.shared (s.phase i)).1 (sys.advance i input s.shared (s.phase i)).2)
    (stepped : sys.step s e = some s') : g.Owned s' := by
  obtain ⟨i, op, rfl, idle, rfl⟩ | ⟨i, input, rfl, _, rfl⟩ := step_cases stepped
  · exact owned.update (.keep rfl ((begins s.shared op).trans (outside _ idle).symm))
  · exact owned.update (moves i input rfl)

end Guard
