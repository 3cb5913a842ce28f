import Mathlib.Data.Nat.Log
import Mathlib.Algebra.Order.Ring.Int

/-!
# Integers as doubles

A double has 53 binary digits. An integer with more of them becomes the nearest double, which is a
multiple of a power of two; of two that are equally near the one with the even multiple is taken.
-/

namespace AirBnbClone

namespace DoubleRounding

/-- The digits of a magnitude that a double has no room for. -/
def excessDigits (m : ℕ) : ℕ := Nat.log2 m - 52

/-- The multiple of `2 ^ k` that is nearest to `m`, and the even one if two are. -/
def roundEven (m k : ℕ) : ℕ :=
  if 2 * (m % 2 ^ k) < 2 ^ k ∨ (2 * (m % 2 ^ k) = 2 ^ k ∧ m / 2 ^ k % 2 = 0) then m / 2 ^ k * 2 ^ k
  else (m / 2 ^ k + 1) * 2 ^ k

def toDouble (n : ℤ) : ℤ := n.sign * roundEven n.natAbs (excessDigits n.natAbs)

/-- A magnitude of 53 binary digits and zeros after them. -/
def Representable (n : ℤ) : Prop := 2 ^ excessDigits n.natAbs ∣ n.natAbs

theorem roundEven_eq_iff {m k : ℕ} : roundEven m k = m ↔ 2 ^ k ∣ m := by
  constructor
  · intro h
    rw [← h, roundEven]
    split_ifs
    · exact Nat.dvd_mul_left _ _
    · exact Nat.dvd_mul_left _ _
  · intro h
    have hpos : 0 < 2 ^ k := Nat.two_pow_pos k
    rw [roundEven, Nat.mod_eq_zero_of_dvd h, if_pos (.inl (by omega)), Nat.div_mul_cancel h]

/-- Exactly the representable integers are kept. -/
theorem toDouble_eq_iff {n : ℤ} : toDouble n = n ↔ Representable n := by
  rw [Representable, ← roundEven_eq_iff]
  constructor
  · intro h
    have habs := congrArg Int.natAbs h
    rw [toDouble, Int.natAbs_mul, Int.natAbs_natCast] at habs
    by_cases hn : n = 0
    · rw [hn]
      rfl
    · rwa [Int.natAbs_sign_of_ne_zero hn, one_mul] at habs
  · intro h
    rw [toDouble, h, Int.sign_mul_natAbs]

theorem excessDigits_of_lt {m : ℕ} (h : m < 2 ^ 53) : excessDigits m = 0 := by
  by_cases hm : m = 0
  · rw [hm]
    rfl
  · have hlog : m.log2 < 53 := (Nat.log2_lt hm).mpr h
    unfold excessDigits
    omega

/-- Every integer of up to 53 digits is representable. -/
theorem representable_of_le {n : ℤ} (h : |n| ≤ 2 ^ 53) : Representable n := by
  have hm : n.natAbs ≤ 2 ^ 53 := by
    rw [← Int.ofNat_le, Int.natCast_natAbs]
    exact h
  unfold Representable
  rcases hm.lt_or_eq with hlt | heq
  · rw [excessDigits_of_lt hlt]
    exact one_dvd _
  · rw [heq]
    decide

example : toDouble (2 ^ 53 + 1) = 2 ^ 53 := by decide

example : toDouble (-(2 ^ 53 + 3)) = -(2 ^ 53 + 4) := by decide

end DoubleRounding

end AirBnbClone
