import TezosNode.Proofs.Number.Decimal
import TezosNode.Proofs.Number.Rounding

set_option autoImplicit false

/-!
# Number: results

What an operation gives is its exact value rounded as `Rounds` says, or an overflow if the
rounded number is beyond the greatest power.  Where the exact value has few enough digits
nothing is lost.
-/

namespace TezosNode

/-- A rounded quotient is off by a half at most, and even where it is off by a half. -/
theorem roundHalfEven_spec (num : Nat) {den : Nat} (hden : 0 < den) :
    2 * |(num : ℤ) - roundHalfEven num den * den| ≤ den ∧
      (2 * |(num : ℤ) - roundHalfEven num den * den| = den → Even (roundHalfEven num den)) := by
  have hsplit : (num : ℤ) = (num / den : Nat) * den + (num % den : Nat) := by
    exact_mod_cast (Nat.div_add_mod' num den).symm
  have hlt := Nat.mod_lt num hden
  unfold roundHalfEven
  dsimp only
  split
  case isTrue hup =>
    have hoff : (num : ℤ) - ((num / den + 1 : Nat) : ℤ) * den = -(den - (num % den : Nat) : ℤ) := by
      rw [Nat.cast_succ, add_one_mul]
      omega
    rw [hoff, abs_neg, abs_of_nonneg (by omega), Nat.even_iff]
    omega
  case isFalse hdown =>
    have hoff : (num : ℤ) - ((num / den : Nat) : ℤ) * den = (num % den : Nat) := by omega
    rw [hoff, abs_of_nonneg (by omega), Nat.even_iff]
    omega

namespace Decimal

/-! ## Coefficients with an exponent -/

/-- The least power of ten that is beyond all results. -/
def bound : ℚ := 10 ^ (greatestPower + 1)

theorem bound_pos : 0 < bound := zpow_ten_pos _

theorem number_true (c : Nat) (e : Int) : number true c e = -number false c e := by
  simp [number]

theorem number_false (c : Nat) (e : Int) : number false c e = c * 10 ^ e := by
  simp [number]

theorem abs_mul_zpow (c : Nat) (e : ℤ) : |(c : ℚ) * 10 ^ e| = c * 10 ^ e :=
  abs_of_nonneg (mul_nonneg c.cast_nonneg (zpow_ten_pos e).le)

theorem abs_number (negative : Bool) (c : Nat) (e : Int) : |number negative c e| = c * 10 ^ e := by
  cases negative
  · rw [number_false, abs_mul_zpow]
  · rw [number_true, abs_neg, number_false, abs_mul_zpow]

/-- Numbers of the same sign are in the ratio of their magnitudes. -/
theorem number_of_ratio {c m : Nat} {e j : ℤ} {ratio : ℚ} (negative : Bool)
    (h : (c : ℚ) * 10 ^ e = m * 10 ^ j * ratio) :
    number negative c e = number negative m j * ratio := by
  cases negative
  · rw [number_false, number_false, h]
  · rw [number_true, number_true, number_false, number_false, h, neg_mul]

theorem pow_digitCount_le {c : Nat} (hc : 0 < c) : Nat.pow 10 (digitCount c - 1) ≤ c := by
  by_contra hlt
  rcases Nat.eq_zero_or_pos (digitCount c - 1) with hone | hsome
  · rw [hone] at hlt
    exact hlt hc
  · have hfewer := Numeral.length_toDigits_le hsome (Nat.not_le.1 hlt)
    unfold digitCount at *
    omega

/-- The power of ten of the first digit. -/
theorem pow_le_iff {c : Nat} (hc : 0 < c) (p e : ℤ) :
    (10 : ℚ) ^ p ≤ c * 10 ^ e ↔ p ≤ e + digitCount c - 1 := by
  have hunit := zpow_ten_pos e
  have hlow : (10 : ℚ) ^ (e + digitCount c - 1) ≤ c * 10 ^ e := by
    have hle : ((Nat.pow 10 (digitCount c - 1) : Nat) : ℚ) ≤ c := by
      exact_mod_cast pow_digitCount_le hc
    have hsome := digitCount_pos c
    have hpred : e + digitCount c - 1 = ((digitCount c - 1 : Nat) : ℤ) + e := by omega
    rw [hpred, zpow_ten_add, ← cast_pow_ten]
    exact mul_le_mul_of_nonneg_right hle hunit.le
  have hhigh : c * 10 ^ e < (10 : ℚ) ^ (e + digitCount c) := by
    have hlt : (c : ℚ) < (Nat.pow 10 (digitCount c) : Nat) := by
      exact_mod_cast lt_pow_digitCount c
    rw [add_comm, zpow_ten_add, ← cast_pow_ten]
    exact mul_lt_mul_of_pos_right hlt hunit
  constructor
  · intro hle
    have hlt := zpow_ten_lt_iff.1 (lt_of_le_of_lt hle hhigh)
    omega
  · intro hle
    exact (zpow_ten_le_iff.2 hle).trans hlow

theorem lt_pow_iff {c : Nat} (hc : 0 < c) (p e : ℤ) :
    c * 10 ^ e < (10 : ℚ) ^ p ↔ e + digitCount c ≤ p := by
  rw [← not_le, pow_le_iff hc]
  omega

/-! ## Numbers that can be held -/

theorem rounds_zero : Rounds 0 0 := by
  refine ⟨0, leastExponent, ⟨le_refl _, ?_, .inl rfl, ?_, fun _ => Even.zero⟩, by simp⟩
  · simpa using zpow_ten_pos (leastExponent + precision)
  · simpa using (zpow_ten_pos leastExponent).le

/-- A coefficient of few enough digits is not rounded, if its last digit is not below the
least exponent. -/
theorem rounds_held {c : Nat} {e : ℤ} (hfew : digitCount c ≤ precision)
    (hleast : leastExponent ≤ e) : Rounds (c * 10 ^ e) (c * 10 ^ e) := by
  rcases Nat.eq_zero_or_pos c with rfl | hc
  · simpa using rounds_zero
  -- The unit may be smaller than that of the last digit, so that there are zeros after it.
  have hle : max (e + digitCount c - precision) leastExponent ≤ e := by omega
  obtain ⟨m, hm⟩ := exists_mul_zpow c hle
  rw [Int.cast_natCast] at hm
  refine ⟨m, _, ⟨le_max_right _ _, ?_, ?_, ?_, ?_⟩, hm⟩
  · rw [abs_mul_zpow, lt_pow_iff hc]
    omega
  · rw [abs_mul_zpow, pow_le_iff hc]
    omega
  · rw [hm, sub_self, abs_zero, mul_zero]
    exact (zpow_ten_pos _).le
  · rw [hm, sub_self, abs_zero, mul_zero]
    exact fun htie => absurd htie (zpow_ten_pos _).ne

/-! ## Rounded coefficients -/

/-- Digits are dropped as the rule says: by a half of the last digit kept at most. -/
theorem shorten_spec (c drop : Nat) :
    2 * |(c : ℤ) - shorten c drop * 10 ^ drop| ≤ 10 ^ drop ∧
      (2 * |(c : ℤ) - shorten c drop * 10 ^ drop| = 10 ^ drop → Even (shorten c drop)) := by
  unfold shorten
  split
  case isTrue hfew =>
    -- The coefficient is less than a tenth of the unit.
    refine ⟨?_, fun _ => Even.zero⟩
    have hlt : c < 10 ^ (drop - 1) :=
      lt_of_lt_of_le (lt_pow_digitCount c) (Numeral.pow_le_pow (by omega))
    have hunit : 10 * 10 ^ (drop - 1) = 10 ^ drop := by
      rw [← pow_succ', Nat.sub_add_cancel (by omega)]
    rw [Nat.cast_zero, zero_mul, sub_zero, Nat.abs_cast]
    exact_mod_cast (by omega : 2 * c ≤ 10 ^ drop)
  case isFalse =>
    have hunit : 0 < Nat.pow 10 drop := Nat.pow_pos (by decide)
    have hspec := roundHalfEven_spec c hunit
    have hcast : ((Nat.pow 10 drop : Nat) : ℤ) = 10 ^ drop := Nat.cast_pow 10 drop
    rwa [hcast] at hspec

/-- A coefficient that cannot be held is rounded to what is left of its digits. -/
theorem roundsAt_shorten {c : Nat} {e : ℤ} (hc : 0 < c) (hdrop : 0 < excess c e) :
    RoundsAt (c * 10 ^ e) (shorten c (excess c e)) (e + excess c e) := by
  obtain ⟨hnear, htie⟩ := shorten_spec c (excess c e)
  have hunit := zpow_ten_pos e
  -- The distance is the one of the coefficients, in units of the last digit.
  have hoff : 2 * |(c : ℚ) * 10 ^ e - ((shorten c (excess c e) : ℤ) : ℚ) * 10 ^ (e + excess c e)|
      = ((2 * |(c : ℤ) - shorten c (excess c e) * 10 ^ excess c e| : ℤ) : ℚ) * 10 ^ e := by
    rw [zpow_ten_add, zpow_natCast]
    push_cast
    rw [mul_assoc 2, ← abs_of_pos hunit, ← abs_mul, abs_of_pos hunit]
    ring_nf
  have hpow : (10 : ℚ) ^ (e + excess c e) = ((10 ^ excess c e : ℤ) : ℚ) * 10 ^ e := by
    rw [add_comm, zpow_ten_add, zpow_natCast]
    push_cast
    rfl
  refine ⟨by unfold excess; omega, ?_, ?_, ?_, ?_⟩
  · rw [abs_mul_zpow, lt_pow_iff hc]
    unfold excess
    omega
  · rw [abs_mul_zpow, pow_le_iff hc]
    unfold excess at *
    omega
  · rw [hoff, hpow]
    exact mul_le_mul_of_nonneg_right (by exact_mod_cast hnear) hunit.le
  · rw [hoff, hpow]
    intro heq
    have hint := mul_right_cancel₀ hunit.ne' heq
    exact_mod_cast htie (by exact_mod_cast hint)

/-- A coefficient that can be held is left as it is. -/
theorem rounded_eq_self {c : Nat} {e : ℤ} (hfew : digitCount c ≤ precision)
    (hleast : leastExponent ≤ e) : rounded c e = (c, e) := by
  have hnone : excess c e = 0 := by
    unfold excess
    omega
  have hkept : shorten c 0 = c := by simp [shorten, roundHalfEven, Nat.mod_one]
  simp only [rounded, hnone, hkept, if_pos hfew, Nat.cast_zero, add_zero]

theorem rounds_rounded {c : Nat} (e : ℤ) (hc : 0 < c) :
    Rounds (c * 10 ^ e) ((rounded c e).1 * 10 ^ (rounded c e).2) := by
  rcases Nat.eq_zero_or_pos (excess c e) with hnone | hdrop
  · unfold excess at hnone
    have hfew : digitCount c ≤ precision := by omega
    have hleast : leastExponent ≤ e := by omega
    rw [rounded_eq_self hfew hleast]
    exact rounds_held hfew hleast
  · have hat := roundsAt_shorten hc hdrop
    refine ⟨_, _, hat, ?_⟩
    unfold rounded
    dsimp only
    split
    case isTrue => rw [Int.cast_natCast]
    -- Rounding has carried over: what has too many digits is a power of ten.
    case isFalse hmany =>
      have hpow : shorten c (excess c e) = 10 * Nat.pow 10 (precision - 1) := by
        have hle : shorten c (excess c e) ≤ Nat.pow 10 precision := by exact_mod_cast hat.le_pow
        have hge : ¬shorten c (excess c e) < Nat.pow 10 precision := fun hlt =>
          hmany (Numeral.length_toDigits_le (by decide) hlt)
        exact Nat.le_antisymm hle (Nat.not_lt.1 hge)
      rw [hpow, Nat.mul_div_cancel_left _ (by decide), zpow_ten_add, zpow_one]
      push_cast
      ring

/-! ## Results -/

/-- Where a coefficient is rounded to nothing, its last digit is not above the first one that
it had. -/
theorem exponent_le_of_rounded_eq_zero {c : Nat} {e : ℤ} (hzero : (rounded c e).1 = 0)
    (hfirst : e + digitCount c - 1 ≤ greatestPower) : (rounded c e).2 ≤ greatestPower := by
  unfold rounded at hzero ⊢
  dsimp only at hzero ⊢
  split at hzero
  case isTrue hfew =>
    rw [if_pos hfew]
    have hsome := digitCount_pos c
    have hprecision : 0 < precision := by decide
    have hleast : leastExponent ≤ greatestPower := by decide
    unfold excess
    dsimp only
    omega
  case isFalse hmany =>
    have hdigit : shorten c (excess c e) ≤ 9 := by omega
    exact absurd (Nat.le_trans (digitCount_mono hdigit) (by decide)) hmany

/-- A rounded coefficient is beyond all results if and only if the power of its first digit is
too great. -/
theorem bound_le_rounded_iff {c : Nat} {e : ℤ} (hfirst : e + digitCount c - 1 ≤ greatestPower) :
    bound ≤ ((rounded c e).1 : ℚ) * 10 ^ (rounded c e).2 ↔
      greatestPower < (rounded c e).2 + digitCount (rounded c e).1 - 1 := by
  rcases Nat.eq_zero_or_pos (rounded c e).1 with hzero | hsome
  · have hle := exponent_le_of_rounded_eq_zero hzero hfirst
    have hone : digitCount 0 = 1 := rfl
    rw [hzero, Nat.cast_zero, zero_mul]
    exact iff_of_false (not_le.2 bound_pos) (by omega)
  · exact pow_le_iff hsome _ _

theorem rounds_number {c m : Nat} {e j : ℤ} (negative : Bool)
    (h : Rounds (c * 10 ^ e) (m * 10 ^ j)) : Rounds (number negative c e) (number negative m j) := by
  cases negative
  · rwa [number_false, number_false]
  · rw [number_true, number_true, number_false, number_false]
    exact h.neg

/-- A result is the exact value rounded, unless the rounded number is beyond all results. -/
theorem result_spec (negative : Bool) (c : Nat) (e : ℤ) :
    ∃ y, Rounds (number negative c e) y ∧
      ((|y| < bound ∧ ∃ d, result negative c e = .ok d ∧ d.value? = some y) ∨
        (bound ≤ |y| ∧ result negative c e = .error .overflow)) := by
  rcases Nat.eq_zero_or_pos c with rfl | hc
  · have hzero (j : ℤ) : number negative 0 j = 0 := by simp [number]
    refine ⟨0, by rw [hzero]; exact rounds_zero, .inl ⟨?_, _, if_pos rfl, by rw [value?, hzero]⟩⟩
    rw [abs_zero]
    exact bound_pos
  have hrounds := rounds_rounded e hc
  refine ⟨number negative (rounded c e).1 (rounded c e).2, rounds_number negative hrounds, ?_⟩
  rw [abs_number]
  by_cases hfirst : greatestPower < e + digitCount c - 1
  -- What is beyond all results before it is rounded still is after it.
  · have hbeyond : bound ≤ c * 10 ^ e := (pow_le_iff hc _ _).2 hfirst
    refine .inr ⟨hrounds.pow_le (by decide) hbeyond, ?_⟩
    rw [result, if_neg hc.ne', if_pos hfirst]
  have hresult : result negative c e =
      if greatestPower < (rounded c e).2 + digitCount (rounded c e).1 - 1 then .error .overflow
      else .ok (.finite negative (rounded c e).1 (rounded c e).2) := by
    rw [result, if_neg hc.ne', if_neg hfirst]
  have hiff := bound_le_rounded_iff (Int.not_lt.1 hfirst)
  by_cases hbeyond : bound ≤ ((rounded c e).1 : ℚ) * 10 ^ (rounded c e).2
  · exact .inr ⟨hbeyond, by rw [hresult, if_pos (hiff.1 hbeyond)]⟩
  · exact .inl ⟨not_le.1 hbeyond, _, by rw [hresult, if_neg (mt hiff.2 hbeyond)], rfl⟩

/-- A coefficient of few digits and places at most is its own result. -/
theorem result_of_few (negative : Bool) {c : Nat} {e : ℤ} (hfew : digitCount c ≤ precision)
    (hleast : leastExponent ≤ e) (hmost : e ≤ 0) :
    result negative c e = .ok (.finite negative c e) := by
  have hgreat : (precision : ℤ) ≤ greatestPower := by decide
  unfold result
  by_cases hzero : c = 0
  · have hclamp : min (max e leastExponent) greatestPower = e := by omega
    rw [if_pos hzero, hclamp, hzero]
  · rw [if_neg hzero, if_neg (by omega), rounded_eq_self hfew hleast]
    exact if_neg (by omega)

/-- A few digits before the point are far below the bound. -/
theorem mul_zpow_lt_bound {c : Nat} {e : ℤ} (hfew : digitCount c ≤ precision)
    (hmost : e + precision ≤ greatestPower) : (c : ℚ) * 10 ^ e < bound := by
  rcases Nat.eq_zero_or_pos c with rfl | hc
  · rw [Nat.cast_zero, zero_mul]
    exact bound_pos
  · exact (lt_pow_iff hc _ _).2 (by omega)

/-! ## Products and integers -/

/-- The product of a number and a positive integer is its exact product rounded. -/
theorem mulNat_spec {d : Decimal} {x : ℚ} (hd : d.value? = some x) (factor : Nat) :
    ∃ y, Rounds (x * factor) y ∧
      ((|y| < bound ∧ ∃ product, d.mulNat factor = .ok product ∧ product.value? = some y) ∨
        (bound ≤ |y| ∧ d.mulNat factor = .error .overflow)) := by
  match d, hd with
  | .finite negative c e, hd =>
    obtain rfl := Option.some.inj hd
    have hratio : ((c * factor : Nat) : ℚ) * 10 ^ e = c * 10 ^ e * factor := by
      push_cast
      ring
    rw [← number_of_ratio negative hratio]
    exact result_spec negative (c * factor) e

/-- What is no number has no product that is one. -/
theorem not_isFinite_of_mulNat {d product : Decimal} {factor : Nat} (hd : d.value? = none)
    (hproduct : d.mulNat factor = .ok product) : product.isFinite = false := by
  match d, hd with
  | .infinite _, _ => obtain rfl := Except.ok.inj hproduct; rfl
  | .nan _ true _, _ => cases hproduct
  | .nan _ false _, _ => obtain rfl := Except.ok.inj hproduct; rfl

/-- What is no number has itself for a product, or is refused as an operand. -/
theorem signal_of_mulNat {d : Decimal} {signal : Signal} {factor : Nat} (hd : d.value? = none)
    (hproduct : d.mulNat factor = .error signal) : signal = .invalidOperation := by
  match d, hd with
  | .infinite _, _ => cases hproduct
  | .nan _ true _, _ => exact (Except.error.inj hproduct).symm
  | .nan _ false _, _ => cases hproduct

theorem isFinite_of_value? {d : Decimal} {x : ℚ} (hd : d.value? = some x) : d.isFinite = true := by
  match d, hd with
  | .finite _ _ _, _ => rfl

/-- A magnitude that is a natural number makes an integer of the number with its sign. -/
theorem number_eq_int {c m : Nat} {e : ℤ} (negative : Bool) (h : (c : ℚ) * 10 ^ e = m) :
    number negative c e = ((if negative then -(m : ℤ) else m : ℤ) : ℚ) := by
  cases negative
  · rw [number_false, h]
    simp
  · rw [number_true, number_false, h]
    simp

theorem value?_ofInt (n : ℤ) : (ofInt n).value? = some (n : ℚ) := by
  have habs : ((n.natAbs : Nat) : ℚ) * 10 ^ (0 : ℤ) = (n.natAbs : Nat) := by
    rw [zpow_zero, mul_one]
  rw [ofInt, value?, number_eq_int _ habs]
  congr 2
  simp only [decide_eq_true_eq]
  omega

/-- Every integer can be rounded. -/
theorem exists_rounds_int (n : ℤ) : ∃ y, Rounds n y := by
  obtain ⟨y, hround, -⟩ := result_spec (n < 0) n.natAbs 0
  rw [← Option.some.inj (value?_ofInt n)]
  exact ⟨y, hround⟩

theorem magnitude_of_number {negative : Bool} {c : Nat} {e n : ℤ} (h : number negative c e = n) :
    (c : ℚ) * 10 ^ e = n.natAbs := by
  rw [← abs_number negative, h, Nat.cast_natAbs, Int.cast_abs]

/-- A number is an integer if its magnitude is one. -/
theorem exists_int_iff (negative : Bool) (c : Nat) (e : ℤ) :
    (∃ n : ℤ, number negative c e = n) ↔ ∃ m : Nat, (c : ℚ) * 10 ^ e = m :=
  ⟨fun ⟨_, hn⟩ => ⟨_, magnitude_of_number hn⟩, fun ⟨_, hm⟩ => ⟨_, number_eq_int negative hm⟩⟩

/-- A coefficient in parts of a power of ten is a natural number if it is a multiple of the
power. -/
theorem mul_zpow_eq_iff {c m : Nat} {e : ℤ} (he : e ≤ 0) :
    (c : ℚ) * 10 ^ e = m ↔ c = m * Nat.pow 10 (-e).toNat := by
  have hinv : (10 : ℚ) ^ e * (Nat.pow 10 (-e).toNat : Nat) = 1 := by
    rw [cast_pow_ten, Int.toNat_of_nonneg (by omega), ← zpow_ten_add, add_neg_cancel, zpow_zero]
  have hpos : ((Nat.pow 10 (-e).toNat : Nat) : ℚ) ≠ 0 := right_ne_zero_of_mul_eq_one hinv
  rw [← mul_left_inj' hpos, mul_assoc, hinv, mul_one]
  exact_mod_cast Iff.rfl

/-- The integer of a decimal is its value, if that is an integer. -/
theorem toInt?_eq_some_iff {d : Decimal} {n : ℤ} :
    d.toInt? = some n ↔ d.value? = some (n : ℚ) := by
  cases d with
  | infinite _ => simp [toInt?, value?]
  | nan _ _ _ => simp [toInt?, value?]
  | finite negative c e =>
    have hsome {m : Nat} (hm : (c : ℚ) * 10 ^ e = m) :
        some (if negative then -(m : ℤ) else m) = some n ↔
          some (number negative c e) = some (n : ℚ) := by
      rw [number_eq_int negative hm, Option.some_inj, Option.some_inj, Int.cast_inj]
    have hnone (hall : ∀ m : Nat, (c : ℚ) * 10 ^ e ≠ m) :
        none = some n ↔ some (number negative c e) = some (n : ℚ) := by
      refine iff_of_false (Option.some_ne_none n).symm fun heq => ?_
      exact hall _ (magnitude_of_number (Option.some.inj heq))
    unfold toInt? value?
    dsimp only
    by_cases hzero : c = 0
    · rw [if_pos hzero]
      have hm : (c : ℚ) * 10 ^ e = (0 : Nat) := by rw [hzero, Nat.cast_zero, zero_mul]
      simpa using hsome hm
    rw [if_neg hzero]
    by_cases hwhole : 0 ≤ e
    · rw [if_pos hwhole]
      refine hsome ?_
      rw [Nat.cast_mul, cast_pow_ten, Int.toNat_of_nonneg hwhole]
    rw [if_neg hwhole]
    by_cases hbelow : digitCount c ≤ (-e).toNat
    -- A number of no more digits than places is between zero and one.
    · rw [if_pos hbelow]
      refine hnone fun m hm => ?_
      have hpos : (0 : ℚ) < c * 10 ^ e :=
        mul_pos (by exact_mod_cast Nat.pos_of_ne_zero hzero) (zpow_ten_pos e)
      have hone : (c : ℚ) * 10 ^ e < 10 ^ (0 : ℤ) :=
        (lt_pow_iff (Nat.pos_of_ne_zero hzero) 0 e).2 (by omega)
      rw [hm] at hpos
      rw [hm, zpow_zero] at hone
      have hlow : 0 < m := by exact_mod_cast hpos
      have hhigh : m < 1 := by exact_mod_cast hone
      omega
    rw [if_neg hbelow]
    by_cases hmultiple : c % Nat.pow 10 (-e).toNat = 0
    · rw [if_pos hmultiple]
      refine hsome ((mul_zpow_eq_iff (by omega)).2 ?_)
      exact (Nat.div_mul_cancel (Nat.dvd_of_mod_eq_zero hmultiple)).symm
    · rw [if_neg hmultiple]
      refine hnone fun m hm => hmultiple ?_
      rw [(mul_zpow_eq_iff (by omega)).1 hm]
      exact Nat.mul_mod_left _ _

end Decimal

end TezosNode
