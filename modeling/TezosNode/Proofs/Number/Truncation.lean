import Mathlib.Algebra.Order.Field.Power
import Mathlib.Algebra.Order.Floor.Ring
import Mathlib.Data.Rat.Floor
import TezosNode.Number.Binary64

set_option autoImplicit false

/-!
# Number: exact values of doubles

A finite double is a rational number, and its integer part is that number rounded toward
zero.  So the integer part is the number itself just where the number is an integer.
-/

namespace TezosNode

/-- The integer next to a number on the way to zero. -/
def towardZero (x : ℚ) : ℤ := if 0 ≤ x then ⌊x⌋ else ⌈x⌉

theorem towardZero_intCast (n : ℤ) : towardZero n = n := by
  unfold towardZero
  split
  · exact Int.floor_intCast n
  · exact Int.ceil_intCast n

namespace Binary64

/-- The exact value of a finite number. -/
def value? : Binary64 → Option ℚ
  | .finite negative m e =>
    some (if negative = true then -((m : ℚ) * 2 ^ e) else (m : ℚ) * 2 ^ e)
  | _ => none

/-- A power of two that is an integer. -/
theorem two_zpow_of_nonneg {e : ℤ} (he : 0 ≤ e) : (2 : ℚ) ^ e = (Nat.pow 2 e.toNat : ℕ) := by
  have hpower : (Nat.pow 2 e.toNat : ℕ) = 2 ^ e.toNat := rfl
  rw [hpower, Nat.cast_pow, Nat.cast_ofNat, ← zpow_natCast, Int.toNat_of_nonneg he]

/-- The integer below a significand times a power of two. -/
theorem floor_mul_two_zpow (m : ℕ) (e : ℤ) :
    ⌊(m : ℚ) * 2 ^ e⌋ =
      ((if 0 ≤ e then m * Nat.pow 2 e.toNat else m / Nat.pow 2 (-e).toNat : ℕ) : ℤ) := by
  split
  case isTrue he =>
    rw [two_zpow_of_nonneg he, ← Nat.cast_mul, Int.floor_natCast]
  case isFalse he =>
    have hinverse : (2 : ℚ) ^ e = ((Nat.pow 2 (-e).toNat : ℕ) : ℚ)⁻¹ := by
      rw [← two_zpow_of_nonneg (by omega), zpow_neg, inv_inv]
    rw [hinverse, ← div_eq_mul_inv, Rat.floor_natCast_div_natCast, Int.natCast_ediv]

/-- The integer part of a number is its value rounded toward zero. -/
theorem truncate?_eq (x : Binary64) : x.truncate? = x.value?.map towardZero := by
  cases x with
  | infinite negative => rfl
  | nan => rfl
  | finite negative m e =>
    have hnonneg : (0 : ℚ) ≤ (m : ℚ) * 2 ^ e :=
      mul_nonneg (Nat.cast_nonneg m) (zpow_nonneg zero_le_two e)
    unfold truncate? value?
    dsimp only
    rw [Option.map_some, ← floor_mul_two_zpow]
    unfold towardZero
    cases negative with
    | false => simp only [Bool.false_eq_true, if_false, if_pos hnonneg]
    | true =>
      simp only [if_true, Int.ceil_neg]
      split
      case isTrue hneg =>
        -- The number is zero, since it is neither positive nor negative.
        have hzero : (m : ℚ) * 2 ^ e = 0 := le_antisymm (neg_nonneg.1 hneg) hnonneg
        rw [hzero, neg_zero]
        rfl
      case isFalse => rfl

end Binary64

end TezosNode
