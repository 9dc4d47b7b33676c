import Mathlib.Algebra.Group.Nat.Defs
import Mathlib.Data.List.Basic

/-!
# Timestamps of a clock that wraps

A program that keeps time in an unsigned 32-bit counter never sees the true time
`t`, only its remainder modulo `2 ^ 32` (`WrapClock.stamp`). It measures an age by
subtracting two such stamps, and the subtraction wraps as well.

The subtraction is never *more* than the true age
(`WrapClock.toNat_stamp_sub_le`), and it *is* the true age as long as that is
below `2 ^ 32` (`WrapClock.toNat_stamp_sub`). So a comparison of a measured age
with a threshold can err in one direction only, and it is exact
(`WrapClock.le_stamp_sub_iff`) for a mark that is less than one turn of the
counter old.

A program that looks at its mark again and again gets that bound for free,
provided it looks often enough: what `WrapClock.Fresh` says of the previous look
is what keeps the mark less than one turn old at the next one
(`WrapClock.Fresh.lt_turn`), through any number of turns of the counter.
-/

namespace WrapClock

/-- What the counter shows at true time `t`. -/
def stamp (t : ℕ) : UInt32 := UInt32.ofNat t

variable {t w p : ℕ}

/-- A measured age is the true age modulo one turn of the counter. -/
theorem toNat_stamp_sub_mod (h : w ≤ t) : (stamp t - stamp w).toNat = (t - w) % 2 ^ 32 := by
  rw [UInt32.toNat_sub]
  simp only [stamp, UInt32.toNat_ofNat']
  omega

/-- **A measured age is never more than the true age.** -/
theorem toNat_stamp_sub_le (h : w ≤ t) : (stamp t - stamp w).toNat ≤ t - w := by
  rw [toNat_stamp_sub_mod h]
  exact Nat.mod_le _ _

/-- **A measured age is the true age** while that is below one turn of the
counter. -/
theorem toNat_stamp_sub (h : w ≤ t) (hturn : t < w + 2 ^ 32) :
    (stamp t - stamp w).toNat = t - w := by
  rw [toNat_stamp_sub_mod h]
  exact Nat.mod_eq_of_lt (by omega)

/-- The measured age of a mark that is *newer* than the reading is nearly a whole
turn of the counter. -/
theorem toNat_stamp_sub_of_lt (h : t < w) (hturn : w < t + 2 ^ 32) :
    (stamp t - stamp w).toNat = 2 ^ 32 - (w - t) := by
  rw [UInt32.toNat_sub]
  simp only [stamp, UInt32.toNat_ofNat']
  omega

/-- A threshold that a measured age has reached, the true age has reached. -/
theorem le_of_le_stamp_sub {θ : UInt32} (h : w ≤ t) (hle : θ ≤ stamp t - stamp w) :
    w + θ.toNat ≤ t := by
  have hmeasured : θ.toNat ≤ (stamp t - stamp w).toNat := UInt32.le_iff_toNat_le.mp hle
  have := toNat_stamp_sub_le h
  omega

/-- **The comparison of a measured age with a threshold is exact** for a mark
that is less than one turn of the counter old. -/
theorem le_stamp_sub_iff {θ : UInt32} (h : w ≤ t) (hturn : t < w + 2 ^ 32) :
    θ ≤ stamp t - stamp w ↔ w + θ.toNat ≤ t := by
  rw [UInt32.le_iff_toNat_le, toNat_stamp_sub h hturn]
  omega

/-! ### Looking often enough -/

/-- What a look at instant `p` knows of a mark made at `w`: it is younger than
the threshold `θ`, or it was made no earlier than the look itself. -/
def Fresh (θ w p : ℕ) : Prop := p < w + θ ∨ p ≤ w

theorem fresh_self (θ w : ℕ) : Fresh θ w w := Or.inr (Nat.le_refl w)

/-- **A mark that was fresh at the previous look is less than one turn old** at
the next, if the two looks are less than a turn minus the threshold apart. -/
theorem Fresh.lt_turn {θ : UInt32} (h : Fresh θ.toNat w p) (hgap : t < p + (2 ^ 32 - θ.toNat)) :
    t < w + 2 ^ 32 := by
  have hθ : θ.toNat < 2 ^ 32 := θ.toNat_lt
  rcases h with h | h <;> omega

end WrapClock
