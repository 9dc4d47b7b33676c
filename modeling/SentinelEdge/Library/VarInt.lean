import Mathlib.Data.List.Basic
import Mathlib.Algebra.Group.Nat.Defs

/-!
# Numbers in base 128

The variable-length numerals of binary protocols: seven bits a byte, the low ones
first, and the top bit of every byte but the last set. Where such a numeral ends can be
seen from the numeral itself, so it can stand in front of anything
(`VarInt.decode_encode`), and a numeral that is cut short is not taken for another one
(`VarInt.decode_append`).

Its length is the number of digits in base 128 (`VarInt.length_encode_le_iff`), which is
what a fixed buffer for it has to be compared with.
-/

namespace VarInt

/-- The numeral of a number. -/
def encode (n : ℕ) : List UInt8 :=
  if n < 128 then [UInt8.ofNat n] else UInt8.ofNat (n % 128 + 128) :: encode (n / 128)
termination_by n
decreasing_by omega

/-- The number whose numeral comes first, and what follows it. -/
def decode : List UInt8 → Option (ℕ × List UInt8)
  | [] => none
  | b :: bs =>
    if b.toNat < 128 then some (b.toNat, bs)
    else (decode bs).map fun r => (b.toNat - 128 + 128 * r.1, r.2)

theorem encode_of_lt {n : ℕ} (h : n < 128) : encode n = [UInt8.ofNat n] := by
  rw [encode, if_pos h]

theorem encode_of_le {n : ℕ} (h : 128 ≤ n) :
    encode n = UInt8.ofNat (n % 128 + 128) :: encode (n / 128) := by
  rw [encode, if_neg (Nat.not_lt.mpr h)]

theorem encode_ne_nil (n : ℕ) : encode n ≠ [] := by
  rw [encode]
  split <;> exact List.cons_ne_nil _ _

theorem length_encode_pos (n : ℕ) : 0 < (encode n).length :=
  List.length_pos_iff.mpr (encode_ne_nil n)

/-- **The first byte** holds the low seven bits, and tells whether there are more. -/
theorem head_encode (n : ℕ) :
    (encode n).head (encode_ne_nil n) =
      UInt8.ofNat (if n < 128 then n else n % 128 + 128) := by
  rcases Nat.lt_or_ge n 128 with h | h
  · simp [encode_of_lt h, h]
  · simp [encode_of_le h, Nat.not_lt.mpr h]

/-- **A numeral is read back**, and nothing behind it is touched. -/
theorem decode_encode (n : ℕ) (bs : List UInt8) : decode (encode n ++ bs) = some (n, bs) := by
  induction n using Nat.strongRecOn with
  | ind n ih =>
    rcases Nat.lt_or_ge n 128 with h | h
    · have hn : (UInt8.ofNat n).toNat = n := by
        rw [UInt8.toNat_ofNat']
        omega
      rw [encode_of_lt h, List.singleton_append, decode, hn, if_pos h]
    · have hb : (UInt8.ofNat (n % 128 + 128)).toNat = n % 128 + 128 := by
        rw [UInt8.toNat_ofNat']
        omega
      rw [encode_of_le h, List.cons_append, decode, hb, if_neg (by omega), ih _ (by omega),
        Option.map_some]
      congr 2
      omega

/-- **Nothing that comes later changes what was read.** -/
theorem decode_append {bs : List UInt8} {r : ℕ × List UInt8} (h : decode bs = some r)
    (cs : List UInt8) : decode (bs ++ cs) = some (r.1, r.2 ++ cs) := by
  induction bs generalizing r with
  | nil => cases h
  | cons b bs ih =>
    rw [decode] at h
    rw [List.cons_append, decode]
    by_cases hb : b.toNat < 128
    · rw [if_pos hb] at h ⊢
      obtain rfl := Option.some.inj h
      rfl
    · rw [if_neg hb] at h ⊢
      obtain ⟨r', hr', rfl⟩ := Option.map_eq_some_iff.mp h
      rw [ih hr']
      rfl

/-- Something is read. -/
theorem length_of_decode {bs : List UInt8} {r : ℕ × List UInt8} (h : decode bs = some r) :
    r.2.length < bs.length := by
  induction bs generalizing r with
  | nil => cases h
  | cons b bs ih =>
    rw [decode] at h
    by_cases hb : b.toNat < 128
    · rw [if_pos hb] at h
      obtain rfl := Option.some.inj h
      exact Nat.lt_succ_self _
    · rw [if_neg hb] at h
      obtain ⟨r', hr', rfl⟩ := Option.map_eq_some_iff.mp h
      have hshort := ih hr'
      exact Nat.lt_succ_of_lt hshort

/-- **How long a numeral is.** -/
theorem length_encode_le_iff (n k : ℕ) : (encode n).length ≤ k + 1 ↔ n < 128 ^ (k + 1) := by
  induction k generalizing n with
  | zero =>
    rcases Nat.lt_or_ge n 128 with h | h
    · simp [encode_of_lt h, h]
    · have := length_encode_pos (n / 128)
      rw [encode_of_le h, List.length_cons]
      omega
  | succ k ih =>
    rcases Nat.lt_or_ge n 128 with h | h
    · have hpos : 128 ≤ 128 ^ (k + 1 + 1) := by
        rw [Nat.pow_succ]
        exact Nat.le_mul_of_pos_left _ (Nat.pow_pos (by decide))
      simp only [encode_of_lt h, List.length_singleton]
      omega
    · have hdiv : n / 128 < 128 ^ (k + 1) ↔ n < 128 ^ (k + 1 + 1) := by
        rw [Nat.div_lt_iff_lt_mul (by decide), ← Nat.pow_succ]
      rw [encode_of_le h, List.length_cons, Nat.succ_le_succ_iff, ih, hdiv]

end VarInt
