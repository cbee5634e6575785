import Mathlib.Data.List.DropRight
import TezosNode.Number.Shortest
import TezosNode.Proofs.Json.Writing

set_option autoImplicit false

/-!
# Number: digits of doubles

The shortest digits of a double that is not zero begin with a digit that is not zero: no candidate
for them is zero, since zero is below the interval of every positive double.
-/

namespace TezosNode.Binary64

theorem div_le_roundHalfEven (num den : Nat) : num / den ≤ roundHalfEven num den := by
  unfold roundHalfEven
  dsimp only
  split
  case isTrue => exact Nat.le_succ _
  case isFalse => exact Nat.le_refl _

theorem compareScaled_zero {a : Nat} (ha : a ≠ 0) (unit k : Int) :
    compareScaled a unit 0 k = .gt := by
  unfold compareScaled
  rw [Nat.zero_mul, Nat.zero_mul, Nat.compare_eq_gt]
  exact Nat.mul_pos (Nat.mul_pos (Nat.pos_of_ne_zero ha) (Nat.two_pow_pos _))
    (Nat.pow_pos (by decide))

namespace Interval

variable {i : Interval}

/-- Zero does not round to a double whose interval is above zero. -/
theorem contains_zero (hlow : i.low ≠ 0) (k : Int) : i.contains 0 k = false := by
  unfold contains
  rw [compareScaled_zero hlow]
  simp

theorem ne_zero_of_contains (hlow : i.low ≠ 0) {c : Nat} {k : Int}
    (hcontains : i.contains c k = true) : c ≠ 0 := by
  rintro rfl
  rw [contains_zero hlow] at hcontains
  cases hcontains

theorem ne_zero_of_candidate? (hlow : i.low ≠ 0) {k : Int} {c : Nat}
    (hc : i.candidate? k = some c) : c ≠ 0 := by
  unfold candidate? at hc
  dsimp only at hc
  split at hc
  case h_1 hdown _ =>
    obtain rfl := Option.some.inj hc
    have hsome := Nat.pos_of_ne_zero (ne_zero_of_contains hlow hdown)
    exact Nat.ne_of_gt (Nat.lt_of_lt_of_le hsome (div_le_roundHalfEven _ _))
  case h_2 hdown _ =>
    obtain rfl := Option.some.inj hc
    exact ne_zero_of_contains hlow hdown
  case h_3 =>
    obtain rfl := Option.some.inj hc
    exact Nat.succ_ne_zero _
  case h_4 => cases hc

theorem shortestFrom_ne_zero (hlow : i.low ≠ 0) (hvalue : i.value ≠ 0) (power : Int)
    (left tried : Nat) : (i.shortestFrom power left tried).1 ≠ 0 := by
  induction left generalizing tried with
  | zero =>
    unfold shortestFrom
    dsimp only
    cases hc : i.candidate? (power - tried + 1) with
    | none => exact hvalue
    | some c => exact ne_zero_of_candidate? hlow hc
  | succ left ih =>
    unfold shortestFrom
    dsimp only
    cases hc : i.candidate? (power - tried + 1) with
    | none => exact ih (tried + 1)
    | some c => exact ne_zero_of_candidate? hlow hc

end Interval

theorem interval_ne_zero {m : Nat} (hm : m ≠ 0) (e : Int) :
    (interval m e).low ≠ 0 ∧ (interval m e).value ≠ 0 := by
  unfold interval
  dsimp only
  refine ⟨?_, by omega⟩
  split
  case isTrue => omega
  case isFalse => omega

/-- Digits of which the first is not a zero. -/
def HasLeadingDigit (digits : List Char) : Prop :=
  Numeral.AreDigits digits ∧ ∃ c more, digits = c :: more ∧ c ≠ '0'

/-- Without the zeros at their end such digits still begin with the first. -/
theorem HasLeadingDigit.dropZeros {digits : List Char} (h : HasLeadingDigit digits) :
    HasLeadingDigit (digits.reverse.dropWhile (· == '0')).reverse := by
  obtain ⟨hdigits, c, more, rfl, hc⟩ := h
  change HasLeadingDigit ((c :: more).rdropWhile (· == '0'))
  have hstart := List.rdropWhile_prefix (· == '0') (l := c :: more)
  have hsome : (c :: more).rdropWhile (· == '0') ≠ [] := by
    rw [Ne, List.rdropWhile_eq_nil_iff]
    exact fun hall => hc (by simpa using hall c List.mem_cons_self)
  obtain ⟨d, rest, hrest⟩ := List.exists_cons_of_ne_nil hsome
  rw [hrest] at hstart ⊢
  obtain ⟨rfl, -⟩ := List.cons_prefix_cons.1 hstart
  exact ⟨fun x hmem => hdigits x (hstart.subset hmem), d, rest, rfl, hc⟩

theorem hasLeadingDigit_shortest {m : Nat} (hm : m ≠ 0) (e : Int) :
    HasLeadingDigit (shortest m e).digits := by
  obtain ⟨hlow, hvalue⟩ := interval_ne_zero hm e
  refine HasLeadingDigit.dropZeros ⟨Numeral.areDigits_toDigits _, ?_⟩
  exact Numeral.exists_toDigits_eq_cons (Interval.shortestFrom_ne_zero hlow hvalue _ 16 1)

end TezosNode.Binary64
