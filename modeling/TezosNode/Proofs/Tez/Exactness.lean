import TezosNode.Proofs.Number.Result

set_option autoImplicit false

/-!
# Amounts: which are converted exactly

The number of mutez in an amount of tez is taken from a product that has been rounded to
`Decimal.precision` digits.  So an amount with a part smaller than a mutez is refused only
where the part is left after rounding, and an amount that is too great has no product at all,
which is not reported as a fault of the amount.  `toMutez_exactness` says exactly which
amounts are converted, to what, and for which of them this is what they denote.
-/

namespace TezosNode.Tez

open Decimal (Rounds bound)

/-! ## What amounts denote -/

/-- The number of tez that an amount denotes, if it denotes one. -/
def Amount.value? : Amount → Option ℚ
  | .text s => (Decimal.read s.toList).toOption.bind Decimal.value?
  | .integer n => some n
  | .decimal d => d.value?

/-- Whether an amount has a numeral: a very long integer has none. -/
def Amount.IsWritable : Amount → Prop
  | .integer n => n.natAbs < Nat.pow 10 Numeral.maxDigits
  | _ => True

/-- Whether a fault is one of the value of the amount.  An overflow is one of arithmetic. -/
def Fault.isOfValue : Fault → Bool
  | .overflow => false
  | _ => true

/-- Whether an amount is converted to the number of mutez that it denotes and, if it denotes
none, refused for its value. -/
def Amount.IsExact (a : Amount) : Prop :=
  (∀ n : ℤ, toMutez a = .ok n ↔ a.value? = some ((n : ℚ) / mutezPerTez)) ∧
    ∀ fault, toMutez a = .error fault → fault.isOfValue

/-! ## The steps of a conversion -/

/-- An integer is a decimal if it can be written. -/
theorem toDecimal_integer (n : ℤ) :
    (Amount.integer n).toDecimal =
      if n.natAbs < Nat.pow 10 Numeral.maxDigits then .ok (Decimal.ofInt n)
      else .error .unwritable := by
  rw [Amount.toDecimal, Numeral.write]
  split
  · rfl
  · rfl

/-- An amount that is a decimal denotes what the decimal is. -/
theorem value?_of_toDecimal {a : Amount} {d : Decimal} (h : a.toDecimal = .ok d) :
    a.IsWritable ∧ a.value? = d.value? := by
  cases a with
  | text s =>
    rw [Amount.toDecimal] at h
    rw [Amount.value?]
    cases hread : Decimal.read s.toList with
    | error fault => rw [hread] at h; cases h
    | ok read =>
      rw [hread] at h
      obtain rfl := Except.ok.inj h
      exact ⟨trivial, rfl⟩
  | integer n =>
    rw [toDecimal_integer] at h
    split_ifs at h with hfew
    obtain rfl := Except.ok.inj h
    exact ⟨hfew, (Decimal.value?_ofInt n).symm⟩
  | decimal d =>
    obtain rfl := Except.ok.inj h
    exact ⟨trivial, rfl⟩

/-- An amount that is no decimal is a text that denotes nothing or an integer that cannot be
written. -/
theorem toDecimal_error {a : Amount} {fault : Fault} (h : a.toDecimal = .error fault) :
    (fault = .unwritable ∧ ¬a.IsWritable) ∨
      (fault = .invalid a ∧ a.IsWritable ∧ a.value? = none) := by
  cases a with
  | text s =>
    rw [Amount.toDecimal] at h
    rw [Amount.value?]
    cases hread : Decimal.read s.toList with
    | error _ =>
      rw [hread] at h
      exact .inr ⟨(Except.error.inj h).symm, trivial, rfl⟩
    | ok read => rw [hread] at h; cases h
  | integer n =>
    rw [toDecimal_integer] at h
    split_ifs at h with hfew
    exact .inl ⟨(Except.error.inj h).symm, hfew⟩
  | decimal d => cases h

/-- What a conversion of an amount comes to. -/
inductive Converts (a : Amount) : Except Fault ℤ → Prop where
  | unwritable (hlong : ¬a.IsWritable) : Converts a (.error .unwritable)
  /-- the amount denotes no number -/
  | refused {fault : Fault} (hwrite : a.IsWritable) (hvalue : a.value? = none)
      (hfault : fault = .invalid a ∨ fault = .notFinite a) : Converts a (.error fault)
  | tooGreat {x y : ℚ} (hwrite : a.IsWritable) (hvalue : a.value? = some x)
      (hround : Rounds (x * mutezPerTez) y) (hbound : bound ≤ |y|) : Converts a (.error .overflow)
  | converted {x : ℚ} {n : ℤ} (hwrite : a.IsWritable) (hvalue : a.value? = some x)
      (hround : Rounds (x * mutezPerTez) n) (hbound : |(n : ℚ)| < bound) : Converts a (.ok n)
  /-- the rounded number of mutez is no integer -/
  | fractional {x y : ℚ} (hwrite : a.IsWritable) (hvalue : a.value? = some x)
      (hround : Rounds (x * mutezPerTez) y) (hbound : |y| < bound) (hpart : ∀ n : ℤ, y ≠ n) :
      Converts a (.error (.fractional a))

theorem converts_toMutez (a : Amount) : Converts a (toMutez a) := by
  unfold toMutez
  cases hdecimal : a.toDecimal with
  | error fault =>
    rcases toDecimal_error hdecimal with ⟨rfl, hlong⟩ | ⟨rfl, hwrite, hvalue⟩
    · exact .unwritable hlong
    · exact .refused hwrite hvalue (.inl rfl)
  | ok d =>
    obtain ⟨hwrite, hvalue⟩ := value?_of_toDecimal hdecimal
    dsimp only
    cases hd : d.value? with
    | none =>
      rw [hd] at hvalue
      cases hproduct : d.mulNat mutezPerTez with
      | error signal =>
        obtain rfl := Decimal.signal_of_mulNat hd hproduct
        exact .refused hwrite hvalue (.inl rfl)
      | ok product =>
        dsimp only
        rw [Decimal.not_isFinite_of_mulNat hd hproduct]
        exact .refused hwrite hvalue (.inr rfl)
    | some x =>
      rw [hd] at hvalue
      obtain ⟨y, hround, hfit | hbeyond⟩ := Decimal.mulNat_spec hd mutezPerTez
      · obtain ⟨hbound, product, hproduct, hy⟩ := hfit
        rw [hproduct]
        dsimp only
        rw [if_pos (Decimal.isFinite_of_value? hy)]
        cases hint : product.toInt? with
        | some n =>
          rw [Decimal.toInt?_eq_some_iff, hy, Option.some_inj] at hint
          subst hint
          exact .converted hwrite hvalue hround hbound
        | none =>
          refine .fractional hwrite hvalue hround hbound fun n hn => ?_
          rw [hn, ← Decimal.toInt?_eq_some_iff, hint] at hy
          cases hy
      · obtain ⟨hbound, hproduct⟩ := hbeyond
        rw [hproduct]
        exact .tooGreat hwrite hvalue hround hbound

/-! ## Which results there are -/

/-- What an amount that denotes a number comes to is decided by its rounded product. -/
theorem toMutez_of_rounds {a : Amount} {x y : ℚ} (hwrite : a.IsWritable)
    (hvalue : a.value? = some x) (hround : Rounds (x * mutezPerTez) y) :
    (bound ≤ |y| ∧ toMutez a = .error .overflow) ∨
      (|y| < bound ∧ ∃ n : ℤ, y = n ∧ toMutez a = .ok n) ∨
      (|y| < bound ∧ (∀ n : ℤ, y ≠ n) ∧ toMutez a = .error (.fractional a)) := by
  have hconverts := converts_toMutez a
  have hsame {x' y' : ℚ} (hvalue' : a.value? = some x') (hround' : Rounds (x' * mutezPerTez) y') :
      y = y' := by
    rw [hvalue, Option.some_inj] at hvalue'
    subst hvalue'
    exact hround.unique hround'
  generalize toMutez a = result at hconverts ⊢
  cases hconverts with
  | unwritable hlong => exact absurd hwrite hlong
  | refused _ hnone => rw [hvalue] at hnone; cases hnone
  | tooGreat _ hvalue' hround' hbound =>
    rw [hsame hvalue' hround']
    exact .inl ⟨hbound, rfl⟩
  | converted _ hvalue' hround' hbound =>
    rw [hsame hvalue' hround']
    exact .inr (.inl ⟨hbound, _, rfl, rfl⟩)
  | fractional _ hvalue' hround' hbound hpart =>
    rw [hsame hvalue' hround']
    exact .inr (.inr ⟨hbound, hpart, rfl⟩)

theorem toMutez_eq_ok_iff (a : Amount) (n : ℤ) :
    toMutez a = .ok n ↔
      a.IsWritable ∧ ∃ x, a.value? = some x ∧ Rounds (x * mutezPerTez) n ∧ |(n : ℚ)| < bound := by
  constructor
  · intro hok
    have hconverts := converts_toMutez a
    rw [hok] at hconverts
    cases hconverts with
    | converted hwrite hvalue hround hbound => exact ⟨hwrite, _, hvalue, hround, hbound⟩
  · rintro ⟨hwrite, x, hvalue, hround, hbound⟩
    rcases toMutez_of_rounds hwrite hvalue hround with
      ⟨hbeyond, _⟩ | ⟨_, m, hm, hok⟩ | ⟨_, hpart, _⟩
    · exact absurd hbound (not_lt.2 hbeyond)
    · rw [Int.cast_injective hm, hok]
    · exact absurd rfl (hpart n)

theorem toMutez_eq_overflow_iff (a : Amount) :
    toMutez a = .error .overflow ↔
      a.IsWritable ∧ ∃ x y, a.value? = some x ∧ Rounds (x * mutezPerTez) y ∧ bound ≤ |y| := by
  constructor
  · intro hoverflow
    have hconverts := converts_toMutez a
    rw [hoverflow] at hconverts
    cases hconverts with
    | refused _ _ hfault => rcases hfault with hfault | hfault <;> cases hfault
    | tooGreat hwrite hvalue hround hbound => exact ⟨hwrite, _, _, hvalue, hround, hbound⟩
  · rintro ⟨hwrite, x, y, hvalue, hround, hbound⟩
    rcases toMutez_of_rounds hwrite hvalue hround with ⟨_, hover⟩ | ⟨hfit, _⟩ | ⟨hfit, _⟩
    · exact hover
    · exact absurd hfit (not_lt.2 hbound)
    · exact absurd hfit (not_lt.2 hbound)

theorem toMutez_eq_fractional_iff (a : Amount) :
    toMutez a = .error (.fractional a) ↔
      a.IsWritable ∧ ∃ x y, a.value? = some x ∧ Rounds (x * mutezPerTez) y ∧ |y| < bound ∧
        ∀ n : ℤ, y ≠ n := by
  constructor
  · intro hfractional
    have hconverts := converts_toMutez a
    rw [hfractional] at hconverts
    cases hconverts with
    | refused _ _ hfault => rcases hfault with hfault | hfault <;> cases hfault
    | fractional hwrite hvalue hround hbound hpart =>
      exact ⟨hwrite, _, _, hvalue, hround, hbound, hpart⟩
  · rintro ⟨hwrite, x, y, hvalue, hround, hbound, hpart⟩
    rcases toMutez_of_rounds hwrite hvalue hround with ⟨hbeyond, _⟩ | ⟨_, n, hn, _⟩ | ⟨_, _, hfrac⟩
    · exact absurd hbound (not_lt.2 hbeyond)
    · exact absurd hn (hpart n)
    · exact hfrac

theorem isOfValue_of_ne_overflow {fault : Fault} (h : fault ≠ .overflow) :
    fault.isOfValue = true := by
  cases fault with
  | overflow => exact absurd rfl h
  | _ => rfl

theorem mutezPerTez_ne_zero : (mutezPerTez : ℚ) ≠ 0 := by
  exact_mod_cast (by decide : mutezPerTez ≠ 0)

/-- An integer that cannot be written is refused, though it denotes a number of mutez. -/
theorem Amount.IsExact.isWritable {a : Amount} (h : a.IsExact) : a.IsWritable := by
  cases a with
  | text s => exact trivial
  | decimal d => exact trivial
  | integer n =>
    have hvalue : (Amount.integer n).value? = some (((n * mutezPerTez : ℤ) : ℚ) / mutezPerTez) := by
      rw [Int.cast_mul, Int.cast_natCast, mul_div_assoc, div_self mutezPerTez_ne_zero, mul_one]
      rfl
    exact ((toMutez_eq_ok_iff _ _).1 ((h.1 _).2 hvalue)).1

/-- An amount is converted exactly if and only if it can be written and its product is below
the bound and, once rounded, no integer other than the exact one. -/
theorem isExact_iff (a : Amount) :
    a.IsExact ↔ ∀ x, a.value? = some x →
      a.IsWritable ∧ ∀ y, Rounds (x * mutezPerTez) y →
        |y| < bound ∧ ((∃ n : ℤ, y = n) → y = x * mutezPerTez) := by
  constructor
  · intro hexact x hvalue
    refine ⟨hexact.isWritable, fun y hround => ?_⟩
    have hbound : |y| < bound := by
      by_contra hbeyond
      have hoverflow := (toMutez_eq_overflow_iff a).2
        ⟨hexact.isWritable, x, y, hvalue, hround, not_lt.1 hbeyond⟩
      cases hexact.2 _ hoverflow
    refine ⟨hbound, ?_⟩
    rintro ⟨n, rfl⟩
    have hok := (toMutez_eq_ok_iff a n).2 ⟨hexact.isWritable, x, hvalue, hround, hbound⟩
    have hdenotes := (hexact.1 n).1 hok
    rw [hvalue, Option.some_inj] at hdenotes
    rw [hdenotes, div_mul_cancel₀ _ mutezPerTez_ne_zero]
  · intro hheld
    constructor
    · intro n
      constructor
      · intro hok
        obtain ⟨_, x, hvalue, hround, _⟩ := (toMutez_eq_ok_iff a n).1 hok
        rw [hvalue, ((hheld x hvalue).2 n hround).2 ⟨n, rfl⟩,
          mul_div_cancel_right₀ _ mutezPerTez_ne_zero]
      · intro hvalue
        obtain ⟨hwrite, hrounded⟩ := hheld _ hvalue
        rw [div_mul_cancel₀ _ mutezPerTez_ne_zero] at hrounded
        obtain ⟨y, hround⟩ := Decimal.exists_rounds_int n
        obtain ⟨m, rfl⟩ := hround.exists_int
        obtain ⟨hbound, hsame⟩ := hrounded m hround
        rw [hsame ⟨m, rfl⟩] at hround hbound
        refine (toMutez_eq_ok_iff a n).2 ⟨hwrite, _, hvalue, ?_, hbound⟩
        rwa [div_mul_cancel₀ _ mutezPerTez_ne_zero]
    · intro fault hfault
      refine isOfValue_of_ne_overflow ?_
      rintro rfl
      obtain ⟨_, x, y, hvalue, hround, hbound⟩ := (toMutez_eq_overflow_iff a).1 hfault
      exact absurd ((hheld x hvalue).2 y hround).1 (not_lt.2 hbound)

/-! ## The whole statement -/

/-- An integer number of mutez is returned if and only if the amount denotes a number whose
product, rounded, is that integer.  A part smaller than a mutez is found if and only if the
rounded product has one, and an overflow is raised if and only if the rounded product is
beyond the bound.  So an amount is converted exactly if and only if it can be written and its
rounded product is below the bound and no integer other than the exact product. -/
theorem toMutez_exactness (a : Amount) :
    (∀ n : ℤ, toMutez a = .ok n ↔
        a.IsWritable ∧ ∃ x, a.value? = some x ∧ Rounds (x * mutezPerTez) n ∧ |(n : ℚ)| < bound) ∧
      (toMutez a = .error (.fractional a) ↔
        a.IsWritable ∧ ∃ x y, a.value? = some x ∧ Rounds (x * mutezPerTez) y ∧ |y| < bound ∧
          ∀ n : ℤ, y ≠ n) ∧
      (toMutez a = .error .overflow ↔
        a.IsWritable ∧ ∃ x y, a.value? = some x ∧ Rounds (x * mutezPerTez) y ∧ bound ≤ |y|) ∧
      (a.IsExact ↔ ∀ x, a.value? = some x →
        a.IsWritable ∧ ∀ y, Rounds (x * mutezPerTez) y →
          |y| < bound ∧ ((∃ n : ℤ, y = n) → y = x * mutezPerTez)) :=
  ⟨toMutez_eq_ok_iff a, toMutez_eq_fractional_iff a, toMutez_eq_overflow_iff a, isExact_iff a⟩

/-- A part of a mutez that is rounded away is not refused. -/
theorem not_isExact_of_part_rounded_away :
    ¬(Amount.text "1.0000000000000000000000000000000001").IsExact := by
  intro hexact
  have hok : toMutez (.text "1.0000000000000000000000000000000001") = .ok 1000000 := by
    decide +kernel
  have hvalue := (hexact.1 1000000).1 hok
  have hread : Decimal.read "1.0000000000000000000000000000000001".toList
      = .ok (.finite false 10000000000000000000000000000000001 (-34)) := by decide +kernel
  rw [Amount.value?, hread] at hvalue
  norm_num [Except.toOption, Decimal.value?, Decimal.number, mutezPerTez, places] at hvalue

end TezosNode.Tez
