import TezosNode.Cli.Run
import TezosNode.Proofs.Number.PlainNumeral
import TezosNode.Proofs.Tez.Exactness

set_option autoImplicit false

/-!
# Amounts: there and back

Both conversions between tez and mutez can round, but with amounts of `Decimal.precision`
digits they do not: the digits beyond the precision that a product or a quotient would have
are zeros.  So such amounts go back and forth unchanged, also by way of their text, which is a
plain numeral with `places` places at most.
-/

namespace TezosNode

namespace Decimal

/-- Moving the point and dropping zeros after it changes no value. -/
theorem dropZeros_value (places m : Nat) :
    ((dropZeros places m).1 : ℚ) * 10 ^ (dropZeros places m).2 = m * 10 ^ (-places : ℤ) := by
  induction places generalizing m with
  | zero => rfl
  | succ places ih =>
    unfold dropZeros
    split
    case isTrue hzero =>
      have hten : (m : ℚ) = (m / 10 : Nat) * 10 := by
        exact_mod_cast (Nat.div_mul_cancel (Nat.dvd_of_mod_eq_zero hzero)).symm
      have hpred : (-places : ℤ) = 1 + -((places + 1 : Nat) : ℤ) := by omega
      rw [ih, hten, hpred, zpow_ten_add, zpow_one, mul_assoc]
    case isFalse => rfl

/-- No coefficient of the same value is smaller than what is left without the zeros, unless it
has places to spare. -/
theorem dropZeros_le {places m c moved : Nat} (h : m * 10 ^ moved = c * 10 ^ places) :
    (dropZeros places m).1 ≤ c := by
  induction places generalizing m with
  | zero =>
    calc m ≤ m * 10 ^ moved := Nat.le_mul_of_pos_right m (Nat.pow_pos (by decide))
      _ = c := by rw [h, Nat.pow_zero, Nat.mul_one]
  | succ places ih =>
    unfold dropZeros
    split
    case isTrue hzero =>
      obtain ⟨tenth, rfl⟩ := Nat.dvd_of_mod_eq_zero hzero
      rw [Nat.mul_div_cancel_left _ (by decide)]
      refine ih (Nat.eq_of_mul_eq_mul_left (by decide : 0 < 10) ?_)
      calc 10 * (tenth * 10 ^ moved) = 10 * tenth * 10 ^ moved := by ring
        _ = 10 * (c * 10 ^ places) := by rw [h, Nat.pow_succ]; ring
    -- Without a zero at its end, the coefficient has as few places as the value can have.
    case isFalse hdigit =>
      rcases Nat.lt_or_ge moved (places + 1) with hless | hmore
      · have hsplit : places + 1 = (places - moved) + 1 + moved := by omega
        rw [hsplit, Nat.pow_add, ← Nat.mul_assoc] at h
        have hm := Nat.eq_of_mul_eq_mul_right (Nat.pow_pos (by decide)) h
        rw [hm, Nat.pow_succ, ← Nat.mul_assoc, Nat.mul_mod_left] at hdigit
        exact absurd rfl hdigit
      · have hsplit : moved = (moved - (places + 1)) + (places + 1) := by omega
        rw [hsplit, Nat.pow_add, ← Nat.mul_assoc] at h
        have hc := Nat.eq_of_mul_eq_mul_right (Nat.pow_pos (by decide)) h
        rw [← hc]
        exact Nat.le_mul_of_pos_right m (Nat.pow_pos (by decide))

end Decimal

namespace Tez

open Decimal (Rounds bound digitCount number precision)

theorem cast_mutezPerTez : (mutezPerTez : ℚ) = 10 ^ (places : ℤ) := Decimal.cast_pow_ten places

/-! ## From mutez to tez -/

/-- An amount of mutez whose tez have few enough digits is converted without loss, to a decimal
with `places` places at most. -/
theorem ofMutez_of_few {n : ℤ} {c moved : Nat} (hfew : digitCount c ≤ precision)
    (hn : n.natAbs * 10 ^ moved = c * 10 ^ places) :
    ∃ m e, ofMutez n = .ok (.finite (n < 0) m e) ∧ -places ≤ e ∧ e ≤ 0 ∧ m ≤ c ∧
      number (n < 0) m e = n / mutezPerTez := by
  obtain ⟨-, hlow, hhigh⟩ := Decimal.dropZeros_bounds places n.natAbs
  have hle := Decimal.dropZeros_le hn
  refine ⟨_, _, ?_, hlow, hhigh, hle, ?_⟩
  · refine Decimal.result_of_few _ ((Decimal.digitCount_mono hle).trans hfew) ?_ hhigh
    exact Int.le_trans (by decide) hlow
  · have hratio : ((Decimal.dropZeros places n.natAbs).1 : ℚ) *
        10 ^ (Decimal.dropZeros places n.natAbs).2 =
          n.natAbs * 10 ^ (0 : ℤ) * (mutezPerTez : ℚ)⁻¹ := by
      rw [Decimal.dropZeros_value, zpow_zero, mul_one, cast_mutezPerTez, zpow_neg]
    have hint : number (n < 0) n.natAbs 0 = n := Option.some.inj (Decimal.value?_ofInt n)
    rw [Decimal.number_of_ratio _ hratio, hint, div_eq_mul_inv]

/-! ## From tez to mutez -/

/-- A product that can be held is not rounded. -/
theorem rounds_product {c : Nat} {e : ℤ} (negative : Bool) (hfew : digitCount c ≤ precision)
    (hlow : -precision ≤ e) (hhigh : e ≤ 0) :
    Rounds (number negative c e * mutezPerTez) (number negative c e * mutezPerTez) ∧
      |number negative c e * mutezPerTez| < bound := by
  have hratio : (c : ℚ) * 10 ^ (e + places) = c * 10 ^ e * mutezPerTez := by
    rw [cast_mutezPerTez, Decimal.zpow_ten_add, mul_assoc]
  have hprecision : (precision : ℤ) = 28 := rfl
  have hplaces : (places : ℤ) = 6 := rfl
  have hleast : Decimal.leastExponent = -1000026 := rfl
  have hgreatest : Decimal.greatestPower = 999999 := rfl
  rw [← Decimal.number_of_ratio negative hratio, Decimal.abs_number]
  exact ⟨Decimal.rounds_number negative (Decimal.rounds_held hfew (by omega)),
    Decimal.mul_zpow_lt_bound hfew (by omega)⟩

/-- An amount that denotes a number of mutez of few digits is converted to that number. -/
theorem toMutez_of_few {a : Amount} {n : ℤ} (hn : |n| < 10 ^ precision) (hwrite : a.IsWritable)
    (hvalue : a.value? = some ((n : ℚ) / mutezPerTez)) : toMutez a = .ok n := by
  have hfew : digitCount n.natAbs ≤ precision := by
    refine Numeral.length_toDigits_le (by decide) ?_
    rw [Int.abs_eq_natAbs] at hn
    exact_mod_cast hn
  have hint := Option.some.inj (Decimal.value?_ofInt n)
  have hround := Decimal.rounds_number (n < 0) (Decimal.rounds_held (e := 0) hfew (by decide))
  have hbound := Decimal.mul_zpow_lt_bound (e := 0) hfew (by decide)
  rw [hint] at hround
  rw [← Decimal.abs_number (n < 0), hint] at hbound
  refine (toMutez_eq_ok_iff a n).2 ⟨hwrite, _, hvalue, ?_, hbound⟩
  rwa [div_mul_cancel₀ _ mutezPerTez_ne_zero]

/-! ## Plain numerals -/

section Plain

variable {p : PlainNumeral}

theorem value?_plain (hfew : p.digits.length ≤ precision) :
    (Amount.text p.text).value? = some p.value := by
  rw [Amount.value?, PlainNumeral.text, String.toList_ofList, p.read_chars hfew, p.value_eq_number]
  rfl

theorem value_mul_mutezPerTez :
    p.value * mutezPerTez =
      number p.negative (Numeral.ofDigits p.digits) (places - p.places.length) := by
  rw [p.value_eq_number, cast_mutezPerTez]
  refine (Decimal.number_of_ratio p.negative ?_).symm
  rw [sub_eq_neg_add, Decimal.zpow_ten_add, mul_assoc]

/-- The digits of a number of mutez are the digits of its tez, with the point moved. -/
theorem natAbs_mul_of_value {n : ℤ} (hn : p.value * mutezPerTez = n) :
    n.natAbs * 10 ^ p.places.length = Numeral.ofDigits p.digits * 10 ^ places := by
  rw [value_mul_mutezPerTez] at hn
  have hmagnitude := Decimal.magnitude_of_number hn
  have hpow : (10 : ℚ) ^ ((places : ℤ) - p.places.length) * 10 ^ p.places.length = 10 ^ places := by
    rw [← zpow_natCast, ← Decimal.zpow_ten_add, sub_add_cancel, zpow_natCast]
  have hcast : (n.natAbs : ℚ) * 10 ^ p.places.length =
      Numeral.ofDigits p.digits * 10 ^ places := by
    rw [← hmagnitude, mul_assoc, hpow]
  exact_mod_cast hcast

/-- A plain numeral denotes a number of mutez if and only if the places after the sixth are
zeros. -/
theorem exists_mutez_iff :
    (∃ n : ℤ, p.value * mutezPerTez = n) ↔ ∀ c ∈ p.places.drop places, c = '0' := by
  rw [value_mul_mutezPerTez, Decimal.exists_int_iff]
  rcases Nat.lt_or_ge places p.places.length with hmany | hfew
  · have hlast : Numeral.AreDigits (p.places.drop places) := fun c hmem =>
      p.areDigits_fraction c (List.mem_of_mem_drop hmem)
    have hlt := Numeral.ofDigits_lt hlast
    have hsplit : p.digits = (p.whole ++ p.places.take places) ++ p.places.drop places := by
      rw [List.append_assoc, List.take_append_drop, PlainNumeral.digits]
    have hexponent : (-((places : ℤ) - p.places.length)).toNat = p.places.length - places := by
      omega
    rw [List.length_drop] at hlt
    rw [← Numeral.ofDigits_eq_zero_iff hlast, hsplit, Numeral.ofDigits_append, List.length_drop]
    constructor
    -- The digits after the sixth place are the remainder of all digits.
    · rintro ⟨m, hm⟩
      rw [Decimal.mul_zpow_eq_iff (by omega), hexponent] at hm
      have hmod := congrArg (· % Nat.pow 10 (p.places.length - places)) hm
      rw [Nat.mul_mod_left] at hmod
      rw [← hmod]
      exact (Nat.mod_eq_of_lt hlt).symm.trans (Nat.mul_add_mod_self_right _ _ _).symm
    · intro hzero
      refine ⟨Numeral.ofDigits (p.whole ++ p.places.take places), ?_⟩
      rw [Decimal.mul_zpow_eq_iff (by omega), hexponent, hzero, Nat.add_zero]
      rfl
  · have hnone : p.places.drop places = [] := List.drop_eq_nil_of_le hfew
    refine iff_of_true ⟨Numeral.ofDigits p.digits * Nat.pow 10 (places - p.places.length), ?_⟩ ?_
    · rw [Nat.cast_mul, Decimal.cast_pow_ten, Nat.cast_sub hfew]
    · rw [hnone]
      exact fun _ hmem => absurd hmem List.not_mem_nil

end Plain

/-! ## The whole statement -/

/-- An amount of mutez goes to tez and back, as the decimal and as its text. -/
theorem roundTrip_of_mutez {n : ℤ} (hn : |n| < 10 ^ precision) :
    ∃ (tez : Decimal) (p : PlainNumeral), ofMutez n = .ok tez ∧
      tez.value? = some ((n : ℚ) / mutezPerTez) ∧ tez.text = p.text ∧ p.places.length ≤ places ∧
      Cli.balanceText n = .ok (p.text ++ " tez\n(" ++ toString n ++ " mutez)\n") ∧
      toMutez (.decimal tez) = .ok n ∧ toMutez (.text tez.text) = .ok n := by
  have hfew : digitCount n.natAbs ≤ precision := by
    refine Numeral.length_toDigits_le (by decide) ?_
    rw [Int.abs_eq_natAbs] at hn
    exact_mod_cast hn
  obtain ⟨m, e, htez, hlow, hhigh, hle, hvalue⟩ :=
    ofMutez_of_few hfew (Eq.refl (n.natAbs * 10 ^ places))
  obtain ⟨p, hrender, hnegative, hdigits, hplaces, hlength⟩ :=
    Decimal.exists_plainNumeral (n < 0) m hlow hhigh
  have htext : (Decimal.finite (n < 0) m e).text = p.text := by
    rw [Decimal.text, hrender, PlainNumeral.text]
  have hpvalue : p.value = (n : ℚ) / mutezPerTez := by
    rw [p.value_eq_number, hnegative, hdigits, hplaces, neg_neg, hvalue]
  have hshort : p.digits.length ≤ precision :=
    hlength.trans (max_le ((Decimal.digitCount_mono hle).trans hfew) (by decide))
  refine ⟨_, p, htez, congrArg some hvalue, htext, ?_, ?_, ?_, ?_⟩
  · omega
  · rw [Cli.balanceText, htez, ← htext]
  · exact toMutez_of_few hn trivial (congrArg some hvalue)
  · refine toMutez_of_few hn trivial ?_
    rw [htext, value?_plain hshort, hpvalue]

/-- A plain numeral of few digits is refused for a part smaller than a mutez if and only if
there is one, and goes to mutez and back otherwise. -/
theorem roundTrip_of_plain {p : PlainNumeral} (hfew : p.digits.length ≤ precision) :
    (toMutez (.text p.text) = .error (.fractional (.text p.text)) ↔
        ∃ c ∈ p.places.drop places, c ≠ '0') ∧
      ((∀ c ∈ p.places.drop places, c = '0') →
        ∃ n tez, toMutez (.text p.text) = .ok n ∧ ofMutez n = .ok tez ∧
          tez.value? = some p.value) := by
  have hvalue := value?_plain hfew
  have hcount : digitCount (Numeral.ofDigits p.digits) ≤ precision :=
    (Numeral.length_toDigits_le (List.length_pos_iff.2 p.digits_ne_nil)
      (Numeral.ofDigits_lt p.areDigits_digits)).trans hfew
  have hplaces : p.places.length ≤ precision := by
    rw [PlainNumeral.digits, List.length_append] at hfew
    omega
  obtain ⟨hround, hbound⟩ := rounds_product (e := -p.places.length) p.negative hcount (by omega)
    (by omega)
  rw [← p.value_eq_number] at hround hbound
  constructor
  · have hpart : (∀ n : ℤ, p.value * mutezPerTez ≠ n) ↔ ∃ c ∈ p.places.drop places, c ≠ '0' := by
      simpa using not_congr (exists_mutez_iff (p := p))
    rw [toMutez_eq_fractional_iff, ← hpart]
    constructor
    · rintro ⟨-, x, y, hx, hy, -, hnone⟩
      obtain rfl := Option.some.inj (hvalue.symm.trans hx)
      rwa [hround.unique hy]
    · exact fun hnone => ⟨trivial, _, _, hvalue, hround, hbound, hnone⟩
  · intro hzeros
    obtain ⟨n, hn⟩ := exists_mutez_iff.2 hzeros
    have hmoved : n.natAbs * 10 ^ p.places.length = Numeral.ofDigits p.digits * 10 ^ places :=
      natAbs_mul_of_value hn
    obtain ⟨m, e, htez, -, -, -, hdenotes⟩ := ofMutez_of_few hcount hmoved
    rw [hn] at hround hbound
    refine ⟨n, _, (toMutez_eq_ok_iff _ n).2 ⟨trivial, _, hvalue, ?_, hbound⟩, htez, ?_⟩
    · rwa [hn]
    · rw [Decimal.value?, hdenotes, ← hn, mul_div_cancel_right₀ _ mutezPerTez_ne_zero]

/-- Amounts of mutez below `10 ^ 28` go to tez and back; their tez are written with six places
at most and without an exponent, in a balance as well.  Plain numerals of 28 digits at most go
to mutez and back, unless they have a part smaller than a mutez, for which they are refused. -/
theorem roundTrip :
    (∀ n : ℤ, |n| < 10 ^ 28 → ∃ (tez : Decimal) (p : PlainNumeral), ofMutez n = .ok tez ∧
        tez.value? = some ((n : ℚ) / 1000000) ∧ tez.text = p.text ∧ p.places.length ≤ 6 ∧
        Cli.balanceText n = .ok (p.text ++ " tez\n(" ++ toString n ++ " mutez)\n") ∧
        toMutez (.decimal tez) = .ok n ∧ toMutez (.text tez.text) = .ok n) ∧
      ∀ p : PlainNumeral, p.digits.length ≤ 28 →
        (toMutez (.text p.text) = .error (.fractional (.text p.text)) ↔
            ∃ c ∈ p.places.drop 6, c ≠ '0') ∧
          ((∀ c ∈ p.places.drop 6, c = '0') →
            ∃ n tez, toMutez (.text p.text) = .ok n ∧ ofMutez n = .ok tez ∧
              tez.value? = some p.value) := by
  have hmillion : (mutezPerTez : ℚ) = 1000000 := by norm_num [cast_mutezPerTez, places]
  refine ⟨fun n hn => ?_, fun p hfew => roundTrip_of_plain hfew⟩
  rw [← hmillion]
  exact roundTrip_of_mutez hn

/-- A tez and a half goes to its text and back; half a mutez is refused. -/
theorem roundTrip_of_halves :
    (∃ tez, ofMutez 1500000 = .ok tez ∧ toMutez (.text tez.text) = .ok 1500000) ∧
      toMutez (.text "-0.0000005") = .error (.fractional (.text "-0.0000005")) := by
  obtain ⟨tez, _, htez, -, -, -, -, -, hback⟩ := roundTrip.1 1500000 (by decide)
  let halfMutez : PlainNumeral :=
    { sign := some '-'
      whole := ['0']
      fraction := some ['0', '0', '0', '0', '0', '0', '5']
      isSign := fun _ hmem => .inr (Option.some.inj hmem).symm
      areDigits_whole := by simp [Numeral.AreDigits, Numeral.isDigit]
      areDigits_fraction := by simp [Numeral.AreDigits, Numeral.isDigit]
      digits_ne_nil := by simp }
  have hpart : ∃ c ∈ halfMutez.places.drop 6, c ≠ '0' := ⟨'5', by decide, by decide⟩
  exact ⟨⟨tez, htez, hback⟩, (roundTrip.2 halfMutez (by decide)).1.2 hpart⟩

end Tez

end TezosNode
