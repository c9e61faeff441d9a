import Mathlib

/-!
# Wall clock readings

`SystemTime` with a 64-bit second counter: nanoseconds around the epoch, within a range that
`checked_add` can leave.
-/

/-- `Duration::from_secs`, in nanoseconds. -/
def Duration.fromSecs (seconds : UInt64) : Nat := seconds.toNat * 1000000000

@[ext] structure SystemTime where
  nanos : Int
  range : -(2 ^ 63 * 1000000000) ≤ nanos ∧ nanos < 2 ^ 63 * 1000000000
  deriving DecidableEq

namespace SystemTime

theorem nanos_injective : Function.Injective nanos := fun _ _ h => SystemTime.ext h

instance : LinearOrder SystemTime := LinearOrder.lift' nanos nanos_injective

theorem le_iff {a b : SystemTime} : a ≤ b ↔ a.nanos ≤ b.nanos := Iff.rfl

theorem lt_iff {a b : SystemTime} : a < b ↔ a.nanos < b.nanos := lt_iff_lt_of_le_iff_le le_iff

def ofSecs (seconds : UInt32) : SystemTime where
  nanos := seconds.toNat * 1000000000
  range := by have := seconds.toNat_lt; omega

/-- The last reading the counter holds. -/
def latest : SystemTime := ⟨2 ^ 63 * 1000000000 - 1, by decide⟩

/-- `SystemTime::checked_add`. -/
def checkedAdd (t : SystemTime) (d : Nat) : Option SystemTime :=
  if h : t.nanos + d < 2 ^ 63 * 1000000000 then
    some ⟨t.nanos + d, by have := t.range.1; omega, h⟩
  else none

/-- `SystemTime::duration_since`, an error when `earlier` is the later reading. -/
def durationSince (t earlier : SystemTime) : Option Nat :=
  if earlier ≤ t then some (t.nanos - earlier.nanos).toNat else none

/-- The time since `UNIX_EPOCH`, zero before it. -/
def sinceEpoch (t : SystemTime) : Nat := (t.durationSince (ofSecs 0)).getD 0

theorem checkedAdd_nanos {t u : SystemTime} {d : Nat} (h : t.checkedAdd d = some u) :
    u.nanos = t.nanos + d := by
  unfold checkedAdd at h
  split at h
  · obtain rfl := Option.some.inj h
    rfl
  · cases h

/-- The age of a reading, zero when it lies ahead. -/
theorem durationSince_getD_le {t earlier : SystemTime} {d : Nat} :
    (t.durationSince earlier).getD 0 ≤ d ↔ t.nanos ≤ earlier.nanos + d := by
  unfold durationSince
  split
  · rename_i before
    rw [le_iff] at before
    simp only [Option.getD_some]
    omega
  · rename_i ahead
    rw [le_iff] at ahead
    simp only [Option.getD_none, Nat.zero_le, true_iff]
    omega

end SystemTime
