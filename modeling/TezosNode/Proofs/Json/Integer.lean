import TezosNode.Json.Integer
import TezosNode.Proofs.Json.Nesting
import TezosNode.Proofs.Json.Steps
import TezosNode.Proofs.Number.Numeral

set_option autoImplicit false

/-!
# JSON: the size of integers

The integer of a document is never too long to be written: numerals have a limit on their
digits, inside strings and outside, and the greatest double has some three hundred digits.
-/

namespace TezosNode

/-! ## Doubles -/

namespace Binary64

/-- A significand and an exponent within the format. -/
def IsBounded : Binary64 → Prop
  | .finite _ m e => m < Nat.pow 2 53 ∧ e ≤ greatestExponent
  | _ => True

theorem isBounded_zero (negative : Bool) : (zero negative).IsBounded := by
  change 0 < Nat.pow 2 53 ∧ leastExponent ≤ greatestExponent
  decide

theorem isBounded_ofRatio (negative : Bool) (num den : Nat) :
    (ofRatio negative num den).IsBounded := by
  unfold ofRatio
  split
  · exact isBounded_zero negative
  · dsimp only
    split
    · rename_i hsmall
      split
      · trivial
      · exact ⟨hsmall, by omega⟩
    · split
      · trivial
      · have hcarry : Nat.pow 2 52 < Nat.pow 2 53 := by decide
        exact ⟨hcarry, by omega⟩

theorem isBounded_ofDecimal (negative : Bool) (digits : Nat) (power : Int) :
    (ofDecimal negative digits power).IsBounded := by
  unfold ofDecimal
  split
  · exact isBounded_zero negative
  · dsimp only
    split
    · trivial
    · split
      · exact isBounded_zero negative
      · split
        · exact isBounded_ofRatio negative _ _
        · exact isBounded_ofRatio negative _ _

/-- A number of some bits that is shifted has so many bits more at most. -/
theorem shift_lt {m bits shift bound : Nat} (hm : m < Nat.pow 2 bits) (hshift : shift ≤ bound) :
    m * Nat.pow 2 shift < Nat.pow 2 (bits + bound) :=
  calc m * Nat.pow 2 shift
      ≤ m * Nat.pow 2 bound := Nat.mul_le_mul_left m (Nat.pow_le_pow_right (by decide) hshift)
    _ < Nat.pow 2 bits * Nat.pow 2 bound :=
      Nat.mul_lt_mul_of_pos_right hm (Nat.two_pow_pos bound)
    _ = Nat.pow 2 (bits + bound) := (Nat.pow_add 2 bits bound).symm

/-- The integer part of a double of the format is no greater than the format allows. -/
theorem natAbs_truncate_lt {x : Binary64} (hx : x.IsBounded) {n : Int}
    (hn : x.truncate? = some n) : n.natAbs < Nat.pow 2 (53 + 971) := by
  cases x with
  | infinite negative => cases hn
  | nan => cases hn
  | finite negative m e =>
    obtain ⟨hm, he⟩ := hx
    have hexponent : e.toNat ≤ 971 := by
      unfold greatestExponent at he
      omega
    have hwhole := shift_lt hm hexponent
    have hfraction : m / Nat.pow 2 (-e).toNat < Nat.pow 2 (53 + 971) :=
      calc m / Nat.pow 2 (-e).toNat
          ≤ m := Nat.div_le_self _ _
        _ < Nat.pow 2 53 := hm
        _ ≤ Nat.pow 2 (53 + 971) := Nat.pow_le_pow_right (by decide) (Nat.le_add_right 53 971)
    have hpart : (if 0 ≤ e then m * Nat.pow 2 e.toNat else m / Nat.pow 2 (-e).toNat) <
        Nat.pow 2 (53 + 971) := by
      split
      · exact hwhole
      · exact hfraction
    unfold truncate? at hn
    obtain rfl := Option.some.inj hn
    split
    · rw [Int.natAbs_neg, Int.natAbs_natCast]
      exact hpart
    · rw [Int.natAbs_natCast]
      exact hpart

end Binary64

/-! ## Values -/

namespace Json

/-- The integer of a value, if it has one, can be written. -/
def HasShortInteger (v : Json) : Prop :=
  ∀ n, v.toInteger = .ok n → n.natAbs < Nat.pow 10 Numeral.maxDigits

theorem hasShortInteger_bool (b : Bool) : (Json.bool b).HasShortInteger := by
  intro n hn
  obtain rfl := Except.ok.inj hn
  have hsmall : (if b then (1 : Int) else 0).natAbs < Nat.pow 10 1 := by
    cases b <;> decide
  exact Nat.lt_of_lt_of_le hsmall (Numeral.pow_le_pow (by decide))

theorem hasShortInteger_string (s : String) : (Json.string s).HasShortInteger := by
  intro n hn
  change (Numeral.integer s.toList).mapError (IntegerFault.notNumeral s) = .ok n at hn
  cases hread : Numeral.integer s.toList with
  | error fault =>
    rw [hread] at hn
    cases hn
  | ok m =>
    rw [hread] at hn
    obtain rfl := Except.ok.inj hn
    exact Numeral.natAbs_lt_of_integer hread

/-- A binary power has no more digits than its exponent. -/
theorem lt_of_lt_two_pow {n k : Nat} (hfew : k ≤ Numeral.maxDigits) (hn : n < Nat.pow 2 k) :
    n < Nat.pow 10 Numeral.maxDigits :=
  Nat.lt_of_lt_of_le hn (Nat.le_trans (Nat.pow_le_pow_left (by decide) k) (Numeral.pow_le_pow hfew))

theorem hasShortInteger_double {x : Binary64} (hx : x.IsBounded) :
    (Json.double x).HasShortInteger := by
  intro n hn
  unfold toInteger at hn
  dsimp only at hn
  cases htruncate : x.truncate? with
  | none =>
    rw [htruncate] at hn
    cases hn
  | some m =>
    rw [htruncate] at hn
    obtain rfl := Except.ok.inj hn
    exact lt_of_lt_two_pow (by decide) (Binary64.natAbs_truncate_lt hx htruncate)

theorem hasShortInteger_array (items : List Json) : (Json.array items).HasShortInteger :=
  fun _ hn => nomatch hn

theorem hasShortInteger_object (fields : List (String × Json)) :
    (Json.object fields).HasShortInteger :=
  fun _ hn => nomatch hn

/-! ## Documents -/

theorem areDigits_wholeDigits (text : List Char) : Numeral.AreDigits (wholeDigits text) := by
  unfold wholeDigits
  split
  · intro c hmem
    obtain rfl := List.mem_singleton.1 hmem
    decide
  · intro c hmem
    exact List.mem_takeWhile_imp hmem

/-- A number that is read is an integer of few digits or a double. -/
theorem of_number {text rest : List Char} {v : Json} (hread : number text = .ok (v, rest)) :
    (∃ negative digits, Numeral.AreDigits digits ∧ digits.length ≤ Numeral.maxDigits ∧
      v = .integer (if negative = true then -(Numeral.ofDigits digits : Int)
        else Numeral.ofDigits digits)) ∨
      ∃ negative digits power, v = .double (.ofDecimal negative digits power) := by
  unfold number at hread
  dsimp only at hread
  -- The two cases are a sign and none.
  split at hread
  all_goals
    split at hread
    · cases hread
    · split at hread
      · split at hread
        · cases hread
        · rename_i hfew
          obtain ⟨rfl, -⟩ := Prod.mk.inj (Except.ok.inj hread)
          exact .inl ⟨_, _, areDigits_wholeDigits _, Nat.not_lt.1 hfew, rfl⟩
      · obtain ⟨rfl, -⟩ := Prod.mk.inj (Except.ok.inj hread)
        exact .inr ⟨_, _, _, rfl⟩

theorem hasShortInteger_of_number {text rest : List Char} {v : Json}
    (hread : number text = .ok (v, rest)) : v.HasShortInteger := by
  rcases of_number hread with ⟨negative, digits, hdigits, hfew, rfl⟩ | ⟨_, _, _, rfl⟩
  · intro n hn
    obtain rfl := Except.ok.inj hn
    have hlt : Numeral.ofDigits digits < Nat.pow 10 Numeral.maxDigits :=
      Nat.lt_of_lt_of_le (Numeral.ofDigits_lt hdigits) (Numeral.pow_le_pow hfew)
    split
    · rw [Int.natAbs_neg, Int.natAbs_natCast]
      exact hlt
    · rw [Int.natAbs_natCast]
      exact hlt
  · exact hasShortInteger_double (Binary64.isBounded_ofDecimal _ _ _)

/-- A value that begins with a word or a digit is one of a few words or a number. -/
theorem of_scalar {text rest : List Char} {v : Json} (hread : scalar text = .ok (v, rest)) :
    v = .null ∨ (∃ b, v = .bool b) ∨ v = .double .nan ∨
      (∃ negative, v = .double (.infinite negative)) ∨ number text = .ok (v, rest) := by
  unfold scalar at hread
  split at hread
  · exact .inl (Prod.mk.inj (Except.ok.inj hread)).1.symm
  · exact .inr (.inl ⟨true, (Prod.mk.inj (Except.ok.inj hread)).1.symm⟩)
  · exact .inr (.inl ⟨false, (Prod.mk.inj (Except.ok.inj hread)).1.symm⟩)
  · exact .inr (.inr (.inl (Prod.mk.inj (Except.ok.inj hread)).1.symm))
  · exact .inr (.inr (.inr (.inl ⟨false, (Prod.mk.inj (Except.ok.inj hread)).1.symm⟩)))
  · exact .inr (.inr (.inr (.inl ⟨true, (Prod.mk.inj (Except.ok.inj hread)).1.symm⟩)))
  · exact .inr (.inr (.inr (.inr hread)))

/-- The elements that are read make an array. -/
theorem of_elements {fuel : Nat} {read : List Json} {text rest : List Char} {v : Json}
    (hread : elements fuel read text = .ok (v, rest)) : ∃ items, v = .array items := by
  induction fuel generalizing read text with
  | zero => cases hread
  | succ fuel ih =>
    cases elementsStep_of_elements hread with
    | last => exact ⟨_, rfl⟩
    | next _ _ hmore => exact ih hmore

/-- The members that are read make an object. -/
theorem of_members {fuel : Nat} {read : List (String × Json)} {text rest : List Char} {v : Json}
    (hread : members fuel read text = .ok (v, rest)) : ∃ fields, v = .object fields := by
  induction fuel generalizing read text with
  | zero => cases hread
  | succ fuel ih =>
    cases membersStep_of_members hread with
    | last => exact ⟨_, rfl⟩
    | next _ _ _ hmore => exact ih hmore

theorem hasShortInteger_of_scalar {text rest : List Char} {v : Json}
    (hread : scalar text = .ok (v, rest)) : v.HasShortInteger := by
  rcases of_scalar hread with rfl | ⟨b, rfl⟩ | rfl | ⟨negative, rfl⟩ | hnumber
  · intro n hn
    cases hn
  · exact hasShortInteger_bool b
  · exact hasShortInteger_double trivial
  · exact hasShortInteger_double trivial
  · exact hasShortInteger_of_number hnumber

theorem hasShortInteger_of_value {fuel : Nat} {text rest : List Char} {v : Json}
    (hread : value fuel text = .ok (v, rest)) : v.HasShortInteger := by
  cases fuel with
  | zero => cases hread
  | succ fuel =>
    cases valueStep_of_value hread with
    | string => exact hasShortInteger_string _
    | emptyObject => exact hasShortInteger_object _
    | object _ hmembers =>
      obtain ⟨fields, rfl⟩ := of_members hmembers
      exact hasShortInteger_object fields
    | emptyArray => exact hasShortInteger_array _
    | array _ helements =>
      obtain ⟨items, rfl⟩ := of_elements helements
      exact hasShortInteger_array items
    | scalar hscalar => exact hasShortInteger_of_scalar hscalar

/-- The integer of a document can be written. -/
theorem hasShortInteger_of_decode {body : Bytes} {v : Json} (hdecode : decode body = .ok v) :
    v.HasShortInteger := by
  obtain ⟨_, _, _, hvalue⟩ := exists_value_of_decode hdecode
  exact hasShortInteger_of_value hvalue

end Json

end TezosNode
