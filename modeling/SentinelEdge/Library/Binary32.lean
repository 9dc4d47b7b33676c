import Mathlib.Algebra.Group.Int.Defs
import Mathlib.Algebra.Group.Nat.Defs
import Mathlib.Data.Int.Order.Basic

/-!
# Single-precision floats, as far as comparing them goes

A program that only ever compares its floats – with each other, with bounds, with
themselves – needs no arithmetic of them. `Binary32` is the bit pattern of an IEEE
754 single, and `Binary32.units` what it stands for: an integer number of units of
`2 ^ (-149)`, the smallest positive single. The two infinities get the numbers that
the same formula gives them, `2 ^ 277` units with a sign, which are above and below
those of every finite single. A NaN stands for nothing, and compares with nothing
(`Binary32.le_iff`).
-/

/-- The bit pattern of an IEEE 754 single. -/
structure Binary32 where
  /-- Sign, exponent and mantissa, from the top. -/
  bits : UInt32
  deriving DecidableEq

namespace Binary32

/-- Whether the sign bit is set. -/
def negative (x : Binary32) : Bool := 2 ^ 31 ≤ x.bits.toNat

/-- The biased exponent. -/
def exponent (x : Binary32) : ℕ := x.bits.toNat / 2 ^ 23 % 2 ^ 8

/-- The stored mantissa. -/
def mantissa (x : Binary32) : ℕ := x.bits.toNat % 2 ^ 23

/-- `isnan`. -/
def isNaN (x : Binary32) : Bool := x.exponent = 255 ∧ x.mantissa ≠ 0

/-- The distance from zero, in units of `2 ^ (-149)`: subnormals have no hidden
bit. -/
def magnitude (x : Binary32) : ℕ :=
  if x.exponent = 0 then x.mantissa else (2 ^ 23 + x.mantissa) * 2 ^ (x.exponent - 1)

/-- **What a single stands for**, in units of `2 ^ (-149)`. -/
def units (x : Binary32) : ℤ := if x.negative then -x.magnitude else x.magnitude

/-- The number of units in one. -/
def one : ℤ := 2 ^ 149

/-- The comparison `<=` of C. -/
def le (x y : Binary32) : Bool := !x.isNaN && !y.isNaN && decide (x.units ≤ y.units)

theorem le_iff {x y : Binary32} :
    x.le y = true ↔ x.isNaN = false ∧ y.isNaN = false ∧ x.units ≤ y.units := by
  simp [le, and_assoc]

end Binary32
