import Mathlib

/-!
# Aligned blocks

A block is a run of `2 ^ host` numbers that starts at a multiple of its size, so of the blocks of
one size there is one around a number. Blocks meet when neither ends before the other starts.
-/

structure Block where
  base : Nat
  host : Nat
  aligned : 2 ^ host ∣ base
  deriving DecidableEq

namespace Block

def last (b : Block) : Nat := b.base + (2 ^ b.host - 1)

def Mem (b : Block) (x : Nat) : Prop := b.base ≤ x ∧ x ≤ b.last

instance (b : Block) (x : Nat) : Decidable (b.Mem x) := inferInstanceAs (Decidable (_ ∧ _))

def Meets (a b : Block) : Prop := ∃ x, a.Mem x ∧ b.Mem x

/-- The block of size `2 ^ host` around `x`. -/
def around (x host : Nat) : Block where
  base := x / 2 ^ host * 2 ^ host
  host := host
  aligned := Nat.dvd_mul_left _ _

theorem size_pos (host : Nat) : 0 < 2 ^ host := Nat.pow_pos (by decide)

theorem base_le_last (b : Block) : b.base ≤ b.last := Nat.le_add_right _ _

theorem base_mem (b : Block) : b.Mem b.base := ⟨Nat.le_refl _, b.base_le_last⟩

/-- A block is the numbers that agree with its base above the low `host` bits. -/
theorem mem_iff_div (b : Block) (x : Nat) : b.Mem x ↔ x / 2 ^ b.host = b.base / 2 ^ b.host := by
  obtain ⟨base, host, k, rfl⟩ := b
  have pos := size_pos host
  simp only [Mem, last, Nat.mul_div_cancel_left k pos]
  rw [Nat.div_eq_iff pos, Nat.mul_comm k]
  omega

theorem around_of_mem {b : Block} {x : Nat} (member : b.Mem x) : around x b.host = b := by
  rw [mem_iff_div] at member
  obtain ⟨base, host, aligned⟩ := b
  simp only [around, mk.injEq, and_true]
  simp only at member
  rw [member, Nat.div_mul_cancel aligned]

theorem eq_of_mem {a b : Block} {x : Nat} (size : a.host = b.host) (left : a.Mem x)
    (right : b.Mem x) : a = b := by
  rw [← around_of_mem left, ← around_of_mem right, size]

theorem Meets.symm {a b : Block} (h : a.Meets b) : b.Meets a := by
  obtain ⟨x, left, right⟩ := h
  exact ⟨x, right, left⟩

instance : Std.Symm (fun a b : Block => ¬ a.Meets b) := ⟨fun _ _ apart h => apart h.symm⟩

theorem meets_self (b : Block) : b.Meets b := ⟨b.base, b.base_mem, b.base_mem⟩

theorem meets_iff_bounds (a b : Block) : a.Meets b ↔ a.base ≤ b.last ∧ b.base ≤ a.last := by
  constructor
  · rintro ⟨x, ⟨aLow, aHigh⟩, bLow, bHigh⟩
    exact ⟨Nat.le_trans aLow bHigh, Nat.le_trans bLow aHigh⟩
  · rintro ⟨left, right⟩
    refine ⟨max a.base b.base, ⟨le_max_left _ _, max_le a.base_le_last right⟩,
      le_max_right _ _, max_le left b.base_le_last⟩

instance (a b : Block) : Decidable (a.Meets b) := decidable_of_iff _ (meets_iff_bounds a b).symm

theorem eq_of_meets {a b : Block} (size : a.host = b.host) (h : a.Meets b) : a = b := by
  obtain ⟨x, left, right⟩ := h
  exact eq_of_mem size left right

/-! ### Longest match -/

/-- In a list sorted by decreasing key the first hit has the greatest key of all hits. -/
theorem find?_greatest {α : Type} {key : α → Nat} {p : α → Bool} {l : List α} {x : α}
    (sorted : l.Pairwise (fun a b => key b ≤ key a)) (hit : l.find? p = some x) :
    ∀ y ∈ l, p y = true → key y ≤ key x := by
  induction l with
  | nil => simp at hit
  | cons a rest ih =>
    obtain ⟨below, sorted⟩ := List.pairwise_cons.mp sorted
    rw [List.find?_cons] at hit
    cases matched : p a with
    | true =>
      rw [matched] at hit
      obtain rfl := Option.some.inj hit
      intro y member _
      rcases List.mem_cons.mp member with rfl | member
      · exact Nat.le_refl _
      · exact below y member
    | false =>
      rw [matched] at hit
      intro y member hy
      rcases List.mem_cons.mp member with rfl | member
      · rw [matched] at hy
        cases hy
      · exact ih sorted hit y member hy

end Block
