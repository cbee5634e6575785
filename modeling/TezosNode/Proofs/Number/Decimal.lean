import TezosNode.Proofs.Number.Numeral
import TezosNode.Tez

set_option autoImplicit false

/-!
# Number: amounts that decimals can hold

Decimals are limited in their exponent, so that an amount of mutez can be too great for its
tez.  It would take hundreds of thousands of digits: whatever a numeral of at most
`Numeral.maxDigits` digits writes is far below.  The bounds here are crude, since only the
order of magnitude matters.
-/

namespace TezosNode

/-- Rounding a quotient does not go beyond the number after the numerator. -/
theorem roundHalfEven_le (num den : Nat) : roundHalfEven num den ≤ num + 1 := by
  have hquotient : num / den ≤ num := Nat.div_le_self num den
  unfold roundHalfEven
  dsimp only
  split
  · omega
  · omega

namespace Decimal

/-! ## Numbers of digits -/

theorem digitCount_pos (n : Nat) : 0 < digitCount n := List.length_pos_iff.2 Nat.toDigits_ne_nil

/-- A number is below a one and as many zeros as it has digits. -/
theorem lt_pow_digitCount (n : Nat) : n < Nat.pow 10 (digitCount n) :=
  (Nat.length_toDigits_le_iff (by decide) (digitCount_pos n)).1 (Nat.le_refl _)

theorem digitCount_mono {n m : Nat} (hle : n ≤ m) : digitCount n ≤ digitCount m :=
  Numeral.length_toDigits_le (digitCount_pos m) (Nat.lt_of_le_of_lt hle (lt_pow_digitCount m))

/-- The next number has one more digit at most. -/
theorem digitCount_succ_le (n : Nat) : digitCount (n + 1) ≤ digitCount n + 1 := by
  refine Numeral.length_toDigits_le (Nat.succ_pos _) ?_
  calc n + 1 ≤ Nat.pow 10 (digitCount n) := lt_pow_digitCount n
    _ < Nat.pow 10 (digitCount n + 1) := Nat.pow_lt_pow_right (by decide) (Nat.lt_succ_self _)

/-- Dropping digits does not go beyond the next coefficient. -/
theorem shorten_le (c drop : Nat) : shorten c drop ≤ c + 1 := by
  unfold shorten
  split
  · exact Nat.zero_le _
  · exact roundHalfEven_le c _

/-- Dropping digits adds one digit at most, where rounding carries over. -/
theorem digitCount_shorten_le (c drop : Nat) : digitCount (shorten c drop) ≤ digitCount c + 1 :=
  Nat.le_trans (digitCount_mono (shorten_le c drop)) (digitCount_succ_le c)

/-! ## Results -/

/-- The first digit of a coefficient above the least exponent that is rounded is not far from
where it was. -/
theorem top_rounded_le (c : Nat) {e : Int} (hleast : leastExponent ≤ e) :
    (rounded c e).2 + digitCount (rounded c e).1 ≤ e + 2 * digitCount c + 2 := by
  have hexcess : excess c e ≤ digitCount c := by
    unfold excess
    omega
  have hshort := digitCount_shorten_le c (excess c e)
  have htenth : digitCount (shorten c (excess c e) / 10) ≤ digitCount (shorten c (excess c e)) :=
    digitCount_mono (Nat.div_le_self _ _)
  -- A digit is dropped once more only where rounding has carried over.
  unfold rounded
  dsimp only
  split
  · dsimp only
    omega
  · dsimp only
    omega

/-- A result of a few hundred thousand digits before its point is no overflow. -/
theorem exists_result (negative : Bool) {c : Nat} {e : Int} (hfew : digitCount c ≤ 400000)
    (hleast : leastExponent ≤ e) (hmost : e ≤ 0) : ∃ d, result negative c e = .ok d := by
  have htop := top_rounded_le c hleast
  unfold result
  by_cases hzero : c = 0
  · exact ⟨_, if_pos hzero⟩
  -- Neither the coefficient nor its rounding comes near the greatest power.
  · have hsmall : ¬greatestPower < e + digitCount c - 1 := by
      unfold greatestPower
      omega
    have hrounded : ¬greatestPower < (rounded c e).2 + digitCount (rounded c e).1 - 1 := by
      unfold greatestPower
      omega
    rw [if_neg hzero, if_neg hsmall]
    exact ⟨_, if_neg hrounded⟩

/-- Dropping zeros makes a coefficient no greater and moves the point by the places at
most. -/
theorem dropZeros_bounds (places c : Nat) :
    (dropZeros places c).1 ≤ c ∧ -(places : Int) ≤ (dropZeros places c).2 ∧
      (dropZeros places c).2 ≤ 0 := by
  induction places generalizing c with
  | zero => exact ⟨Nat.le_refl c, by simp [dropZeros], by simp [dropZeros]⟩
  | succ places ih =>
    unfold dropZeros
    split
    · obtain ⟨hle, hlow, hhigh⟩ := ih (c / 10)
      refine ⟨Nat.le_trans hle (Nat.div_le_self c 10), ?_, hhigh⟩
      omega
    · dsimp only
      omega

end Decimal

/-- An amount whose number of mutez can be written has a number of tez. -/
theorem Tez.exists_ofMutez {n : Int} (hn : n.natAbs < Nat.pow 10 Numeral.maxDigits) :
    ∃ tez, ofMutez n = .ok tez := by
  obtain ⟨hle, hlow, hhigh⟩ := Decimal.dropZeros_bounds places n.natAbs
  have hfew : Decimal.digitCount (Decimal.dropZeros places n.natAbs).1 ≤ Numeral.maxDigits :=
    Nat.le_trans (Decimal.digitCount_mono hle) (Numeral.length_toDigits_le (by decide) hn)
  refine Decimal.exists_result _ (Nat.le_trans hfew (by decide)) ?_ hhigh
  exact Int.le_trans (by decide) hlow

end TezosNode
