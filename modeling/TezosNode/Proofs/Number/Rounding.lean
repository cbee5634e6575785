import Mathlib.Algebra.Order.Field.Power
import Mathlib.Algebra.Order.Ring.Abs
import Mathlib.Algebra.Order.Ring.Rat
import Mathlib.Tactic.FieldSimp
import Mathlib.Tactic.Linarith
import Mathlib.Tactic.NormNum
import Mathlib.Tactic.Positivity
import Mathlib.Tactic.Ring
import TezosNode.Number.Decimal

set_option autoImplicit false

/-!
# Number: rounding

The rule by which exact numbers become results, said of rational numbers and without digits.
`RoundsAt x m k` says that `m * 10 ^ k` is `x` rounded: the unit `10 ^ k` is the one that
leaves `precision` digits, or the least one, and of the multiples of the unit the nearest to
`x` is taken, the even one of two.  No `x` has two such numbers, and a multiple of the unit has
only itself.  The greatest power plays no part here: an overflow is a rounded number that is
too great.
-/

namespace TezosNode.Decimal

/-! ## The rule -/

/-- The number that a sign, a coefficient and an exponent stand for. -/
def number (negative : Bool) (c : Nat) (e : Int) : ℚ :=
  (if negative then -(c : ℚ) else c) * 10 ^ e

/-- The number that a decimal is, if it is one. -/
def value? : Decimal → Option ℚ
  | .finite negative c e => some (number negative c e)
  | _ => none

/-- `m` units of `10 ^ k` are `x` rounded, ties to even. -/
structure RoundsAt (x : ℚ) (m k : ℤ) : Prop where
  least_le : leastExponent ≤ k
  abs_lt : |x| < 10 ^ (k + precision)
  least_or_le : k = leastExponent ∨ 10 ^ (k + precision - 1) ≤ |x|
  near : 2 * |x - m * 10 ^ k| ≤ 10 ^ k
  even_of_tie : 2 * |x - m * 10 ^ k| = 10 ^ k → Even m

/-- Whether `y` is `x` rounded. -/
def Rounds (x y : ℚ) : Prop := ∃ m k : ℤ, RoundsAt x m k ∧ y = m * 10 ^ k

/-! ## Powers of ten -/

theorem zpow_ten_pos (k : ℤ) : (0 : ℚ) < 10 ^ k := zpow_pos (by norm_num) k

theorem zpow_ten_add (j k : ℤ) : (10 : ℚ) ^ (j + k) = 10 ^ j * 10 ^ k :=
  zpow_add₀ (by norm_num) j k

theorem zpow_ten_le_iff {j k : ℤ} : (10 : ℚ) ^ j ≤ 10 ^ k ↔ j ≤ k :=
  zpow_le_zpow_iff_right₀ (by norm_num)

theorem zpow_ten_lt_iff {j k : ℤ} : (10 : ℚ) ^ j < 10 ^ k ↔ j < k :=
  zpow_lt_zpow_iff_right₀ (by norm_num)

/-- Powers of ten from one up are natural numbers. -/
theorem cast_pow_ten (n : Nat) : ((Nat.pow 10 n : Nat) : ℚ) = 10 ^ (n : ℤ) := by
  rw [zpow_natCast]
  exact Nat.cast_pow 10 n

/-- A number in a unit is one in every smaller unit. -/
theorem exists_mul_zpow (m : ℤ) {j k : ℤ} (hle : j ≤ k) :
    ∃ n : ℤ, (m : ℚ) * 10 ^ k = n * 10 ^ j := by
  refine ⟨m * 10 ^ (k - j).toNat, ?_⟩
  have hk : k = ((k - j).toNat : ℤ) + j := by omega
  calc (m : ℚ) * 10 ^ k
      = m * (10 ^ ((k - j).toNat : ℤ) * 10 ^ j) := by rw [← zpow_ten_add, ← hk]
    _ = m * 10 ^ ((k - j).toNat : ℤ) * 10 ^ j := (mul_assoc _ _ _).symm
    _ = ((m * 10 ^ (k - j).toNat : ℤ) : ℚ) * 10 ^ j := by rw [zpow_natCast]; push_cast; rfl

/-! ## One rounded number -/

/-- Two integers within a half of the same number are equal, unless it lies between them. -/
theorem eq_of_near {x : ℚ} {m n : ℤ} (hm : 2 * |x - m| ≤ 1) (hn : 2 * |x - n| ≤ 1)
    (hmtie : 2 * |x - m| = 1 → Even m) (hntie : 2 * |x - n| = 1 → Even n) : m = n := by
  have hdist : |(m : ℚ) - n| ≤ 1 := by
    have htriangle := abs_sub_le (m : ℚ) x n
    rw [abs_sub_comm (m : ℚ) x] at htriangle
    linarith
  have hdistInt : |m - n| ≤ 1 := by exact_mod_cast hdist
  by_contra hne
  -- The numbers are one apart, so both are a half off, and both would be even.
  have hone : |(m : ℚ) - n| = 1 := by
    have habs : |m - n| = 1 := le_antisymm hdistInt (Int.one_le_abs (sub_ne_zero.2 hne))
    exact_mod_cast habs
  have htriangle := abs_sub_le (m : ℚ) x n
  rw [abs_sub_comm (m : ℚ) x, hone] at htriangle
  have hparity := (hmtie (by linarith)).sub (hntie (by linarith))
  have habs : |m - n| = 1 := by exact_mod_cast hone
  rw [Int.even_iff] at hparity
  rcases abs_cases (m - n) with ⟨heq, _⟩ | ⟨heq, _⟩ <;> omega

namespace RoundsAt

variable {x : ℚ} {m k : ℤ}

/-- The number in units. -/
theorem scaled (h : RoundsAt x m k) :
    2 * |x / 10 ^ k - m| ≤ 1 ∧ (2 * |x / 10 ^ k - m| = 1 → Even m) := by
  have hunit := zpow_ten_pos k
  have hscale : |x - m * 10 ^ k| = |x / 10 ^ k - m| * 10 ^ k := by
    rw [← abs_of_pos hunit, ← abs_mul, abs_of_pos hunit]
    congr 1
    field_simp
  have hnear := h.near
  have htie := h.even_of_tie
  rw [hscale, ← mul_assoc] at hnear htie
  constructor
  · exact le_of_mul_le_mul_right (by rwa [one_mul]) hunit
  · intro hhalf
    exact htie (by rw [hhalf, one_mul])

/-- Rounding does not go beyond a multiple of the unit. -/
theorem le_of_le {n : ℤ} (h : RoundsAt x m k) (hx : x ≤ n * 10 ^ k) : m ≤ n := by
  have hbelow : x / 10 ^ k ≤ n := (div_le_iff₀ (zpow_ten_pos k)).2 hx
  have hnear := neg_abs_le (x / 10 ^ k - m)
  have hlt : (m : ℚ) < (n + 1 : ℤ) := by
    push_cast
    linarith [h.scaled.1]
  exact Int.lt_add_one_iff.1 (by exact_mod_cast hlt)

theorem le_of_ge {n : ℤ} (h : RoundsAt x m k) (hx : n * 10 ^ k ≤ x) : n ≤ m := by
  have habove : n ≤ x / 10 ^ k := (le_div_iff₀ (zpow_ten_pos k)).2 hx
  have hnear := le_abs_self (x / 10 ^ k - m)
  have hlt : (n : ℚ) < (m + 1 : ℤ) := by
    push_cast
    linarith [h.scaled.1]
  exact Int.lt_add_one_iff.1 (by exact_mod_cast hlt)

/-- Rounding can carry over into one more digit, but not beyond. -/
theorem le_pow (h : RoundsAt x m k) : m ≤ 10 ^ precision := by
  refine h.le_of_le ?_
  have hlt := lt_of_le_of_lt (le_abs_self x) h.abs_lt
  rw [add_comm k, zpow_ten_add, zpow_natCast] at hlt
  push_cast
  exact hlt.le

/-- A number from a power of ten up is not rounded below it, if the power is no part of a
unit. -/
theorem pow_le {j : ℤ} (h : RoundsAt x m k) (hj : k ≤ j) (hx : 10 ^ j ≤ x) :
    (10 : ℚ) ^ j ≤ m * 10 ^ k := by
  obtain ⟨n, hn⟩ := exists_mul_zpow 1 hj
  rw [Int.cast_one, one_mul] at hn
  rw [hn] at hx ⊢
  have hle : (n : ℚ) ≤ m := by exact_mod_cast h.le_of_ge hx
  exact mul_le_mul_of_nonneg_right hle (zpow_ten_pos k).le

/-- The unit is determined by the number. -/
theorem exponent_le {n j : ℤ} (h : RoundsAt x m k) (h' : RoundsAt x n j) : j ≤ k := by
  rcases h'.least_or_le with hleast | hle
  · rw [hleast]
    exact h.least_le
  · have hlt := zpow_ten_lt_iff.1 (lt_of_le_of_lt hle h.abs_lt)
    omega

theorem unique {n j : ℤ} (h : RoundsAt x m k) (h' : RoundsAt x n j) : m = n ∧ k = j := by
  obtain rfl : k = j := le_antisymm (h'.exponent_le h) (h.exponent_le h')
  exact ⟨eq_of_near h.scaled.1 h'.scaled.1 h.scaled.2 h'.scaled.2, rfl⟩

theorem neg (h : RoundsAt x m k) : RoundsAt (-x) (-m) k := by
  have hdist : |-x - ((-m : ℤ) : ℚ) * 10 ^ k| = |x - m * 10 ^ k| := by
    rw [← abs_neg]
    congr 1
    push_cast
    ring
  refine ⟨h.least_le, ?_, ?_, ?_, ?_⟩
  · rw [abs_neg]
    exact h.abs_lt
  · rw [abs_neg]
    exact h.least_or_le
  · rw [hdist]
    exact h.near
  · rw [hdist]
    exact fun htie => (h.even_of_tie htie).neg

end RoundsAt

namespace Rounds

variable {x y z : ℚ}

theorem unique (h : Rounds x y) (h' : Rounds x z) : y = z := by
  obtain ⟨m, k, hat, rfl⟩ := h
  obtain ⟨n, j, hat', rfl⟩ := h'
  obtain ⟨rfl, rfl⟩ := hat.unique hat'
  rfl

theorem neg (h : Rounds x y) : Rounds (-x) (-y) := by
  obtain ⟨m, k, hat, rfl⟩ := h
  refine ⟨-m, k, hat.neg, ?_⟩
  push_cast
  ring

/-- A number from a power of ten up is not rounded below it. -/
theorem pow_le {j : ℤ} (h : Rounds x y) (hj : leastExponent ≤ j) (hx : 10 ^ j ≤ x) :
    10 ^ j ≤ y := by
  obtain ⟨m, k, hat, rfl⟩ := h
  rcases le_or_gt k j with hle | hlt
  · exact hat.pow_le hle hx
  -- The unit is greater than the power, so the number is far above it.
  · rcases hat.least_or_le with hleast | hle
    · omega
    · rw [abs_of_nonneg ((zpow_ten_pos j).le.trans hx)] at hle
      have hprecision : (0 : ℤ) ≤ precision - 1 := by decide
      calc (10 : ℚ) ^ j
          ≤ 10 ^ (k + precision - 1) := zpow_ten_le_iff.2 (by omega)
        _ ≤ m * 10 ^ k := hat.pow_le (by omega) hle

/-- What is rounded to a unit of which the number is a multiple is the number. -/
theorem eq_of_multiple {m k n : ℤ} (h : RoundsAt x m k) (hx : x = n * 10 ^ k) :
    x = m * 10 ^ k := by
  have hunit := zpow_ten_pos k
  have hn : x / 10 ^ k = n := by
    rw [hx, mul_div_assoc, div_self hunit.ne', mul_one]
  have hself : 2 * |x / 10 ^ k - n| ≤ 1 := by
    rw [hn, sub_self, abs_zero]
    norm_num
  have htie : 2 * |x / 10 ^ k - n| = 1 → Even n := by
    rw [hn, sub_self, abs_zero]
    norm_num
  rw [hx, eq_of_near hself h.scaled.1 htie h.scaled.2]

/-- An integer is rounded to an integer. -/
theorem exists_int {n : ℤ} (h : Rounds n y) : ∃ m : ℤ, y = m := by
  obtain ⟨m, k, hat, rfl⟩ := h
  rcases le_total 0 k with hk | hk
  · obtain ⟨i, hi⟩ := exists_mul_zpow m hk
    exact ⟨i, by rw [hi, zpow_zero, mul_one]⟩
  · obtain ⟨i, hi⟩ := exists_mul_zpow n hk
    rw [zpow_zero, mul_one] at hi
    exact ⟨n, (eq_of_multiple hat hi).symm⟩

end Rounds

end TezosNode.Decimal
