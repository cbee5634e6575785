import TezosNode.Proofs.Number.Result
import TezosNode.Proofs.Text.Utf8

set_option autoImplicit false

/-!
# Number: plain numerals

Decimal notation without an exponent: an optional sign and digits, with a point among them or
without.  A plain numeral is read as the decimal of its digits, so that nothing of its value is
lost.  A decimal with few places, `-6` at least, is written as a plain numeral with as many
places, and so is read back from its text.
-/

namespace TezosNode

open Numeral (AreDigits isDigit ofDigits)

/-- A numeral in decimal notation without an exponent. -/
structure PlainNumeral where
  sign : Option Char
  /-- the digits before the point -/
  whole : List Char
  /-- the digits after the point, if there is a point -/
  fraction : Option (List Char)
  isSign : ∀ c ∈ sign, c = '+' ∨ c = '-'
  areDigits_whole : AreDigits whole
  areDigits_fraction : AreDigits (fraction.getD [])
  digits_ne_nil : whole ++ fraction.getD [] ≠ []

namespace PlainNumeral

variable (p : PlainNumeral)

def negative : Bool := p.sign == some '-'

/-- The decimal places. -/
def places : List Char := p.fraction.getD []

def digits : List Char := p.whole ++ p.places

/-- The numeral without its sign. -/
def unsigned : List Char := p.whole ++ (p.fraction.map ('.' :: ·)).getD []

def chars : List Char := p.sign.toList ++ p.unsigned

def text : String := String.ofList p.chars

/-- The number that the numeral denotes. -/
def value : ℚ :=
  (if p.negative then -1 else 1) *
    (ofDigits p.whole + ofDigits p.places / 10 ^ p.places.length)

end PlainNumeral

/-! ## Digits -/

namespace Numeral

/-- Digits after digits are read as the number that both write. -/
theorem ofDigits_append (digits more : List Char) :
    ofDigits (digits ++ more) = ofDigits digits * 10 ^ more.length + ofDigits more := by
  have hfold (n : Nat) : more.foldl (fun n c => 10 * n + (c.toNat - 0x30)) n =
      n * 10 ^ more.length + ofDigits more := by
    unfold ofDigits
    induction more generalizing n with
    | nil => simp
    | cons c more ih =>
      rw [List.foldl_cons, List.foldl_cons, ih, ih (10 * 0 + _), List.length_cons, pow_succ]
      ring
  rw [ofDigits, List.foldl_append, hfold]
  rfl

theorem ofDigits_cons (c : Char) (digits : List Char) :
    ofDigits (c :: digits) = (c.toNat - 0x30) * 10 ^ digits.length + ofDigits digits := by
  have hone : ofDigits [c] = c.toNat - 0x30 := by simp [ofDigits]
  rw [← List.singleton_append, ofDigits_append, hone]

/-- Only zeros write zero. -/
theorem ofDigits_eq_zero_iff {digits : List Char} (h : AreDigits digits) :
    ofDigits digits = 0 ↔ ∀ c ∈ digits, c = '0' := by
  induction digits with
  | nil => simp [ofDigits]
  | cons c digits ih =>
    obtain ⟨hdigit, hdigits⟩ := h.of_cons
    have hzero : c.toNat - 0x30 = 0 ↔ c = '0' := by
      simp only [isDigit, Bool.and_eq_true, decide_eq_true_eq] at hdigit
      constructor
      · intro hle
        have heq : c.toNat = 0x30 := by omega
        rw [← Char.ofNat_toNat c, heq]
      · rintro rfl
        rfl
    rw [ofDigits_cons, Nat.add_eq_zero_iff, Nat.mul_eq_zero, ih hdigits, List.forall_mem_cons,
      hzero, or_iff_left (Nat.pow_pos (by decide)).ne']

theorem ofDigits_replicate_zero (zeros : Nat) : ofDigits (List.replicate zeros '0') = 0 :=
  (ofDigits_eq_zero_iff fun _ hmem => by rw [List.eq_of_mem_replicate hmem]; rfl).2
    fun _ hmem => List.eq_of_mem_replicate hmem

end Numeral

namespace PlainNumeral

variable (p : PlainNumeral)

theorem areDigits_digits : AreDigits p.digits := fun c hmem =>
  (List.mem_append.1 hmem).elim (p.areDigits_whole c) (p.areDigits_fraction c)

/-- A numeral denotes its digits, with the point moved. -/
theorem value_eq_number :
    p.value = Decimal.number p.negative (ofDigits p.digits) (-p.places.length) := by
  have hpow : (10 : ℚ) ^ p.places.length ≠ 0 := by positivity
  have hmagnitude : (ofDigits p.whole + ofDigits p.places / 10 ^ p.places.length : ℚ) =
      ofDigits p.digits * 10 ^ (-p.places.length : ℤ) := by
    rw [digits, Numeral.ofDigits_append, zpow_neg, zpow_natCast]
    push_cast
    field_simp
  rw [value, hmagnitude, Decimal.number]
  split
  · ring
  · ring

end PlainNumeral

/-! ## Reading -/

namespace Decimal

/-- A digit or the point. -/
def IsDigitOrPoint (c : Char) : Prop := isDigit c = true ∨ c = '.'

theorem toNat_lt_of_isDigit {c : Char} (hc : isDigit c = true) : c.toNat < 0x80 := by
  simp only [isDigit, Bool.and_eq_true, decide_eq_true_eq] at hc
  omega

/-- Digits and points are no letters. -/
theorem toLower_of_isDigitOrPoint {c : Char} (hc : IsDigitOrPoint c) :
    c.toLower = c ∧ c ≠ 'n' ∧ c ≠ 's' ∧ c ≠ 'i' ∧ c ≠ '+' ∧ c ≠ '-' := by
  rcases hc with hdigit | rfl
  · have hall : ∀ n < 0x80, isDigit (Char.ofNat n) = true → (Char.ofNat n).toLower = Char.ofNat n ∧
        Char.ofNat n ≠ 'n' ∧ Char.ofNat n ≠ 's' ∧ Char.ofNat n ≠ 'i' ∧ Char.ofNat n ≠ '+' ∧
        Char.ofNat n ≠ '-' := by decide +kernel
    have hascii := toNat_lt_of_isDigit hdigit
    revert hdigit
    exact Char.of_ascii (P := fun c => isDigit c = true → c.toLower = c ∧ c ≠ 'n' ∧ c ≠ 's' ∧
      c ≠ 'i' ∧ c ≠ '+' ∧ c ≠ '-') hall hascii
  · decide

/-- What digits and points are no part of. -/
theorem special?_eq_none (negative : Bool) {text : List Char}
    (hall : ∀ c ∈ text, IsDigitOrPoint c) : special? negative text = none := by
  have hlower : Numeral.lower text = text := by
    rw [Numeral.lower,
      List.map_congr_left fun c hmem => (toLower_of_isDigitOrPoint (hall c hmem)).1, List.map_id']
  unfold special?
  rw [hlower]
  split
  · exact absurd rfl (toLower_of_isDigitOrPoint (hall 'n' (by simp))).2.1
  · exact absurd rfl (toLower_of_isDigitOrPoint (hall 's' (by simp))).2.2.1
  · refine if_neg ?_
    rintro (rfl | rfl)
    · exact absurd rfl (toLower_of_isDigitOrPoint (hall 'i' (by decide))).2.2.2.1
    · exact absurd rfl (toLower_of_isDigitOrPoint (hall 'i' (by decide))).2.2.2.1

end Decimal

namespace PlainNumeral

variable (p : PlainNumeral)

theorem isDigitOrPoint_of_mem {c : Char} (hmem : c ∈ p.unsigned) : Decimal.IsDigitOrPoint c := by
  have hplaces := p.areDigits_fraction
  rw [unsigned, List.mem_append] at hmem
  rcases hmem with hwhole | hrest
  · exact .inl (p.areDigits_whole c hwhole)
  · cases hfraction : p.fraction with
    | none => rw [hfraction] at hrest; cases hrest
    | some places =>
      rw [hfraction] at hrest hplaces
      rcases List.mem_cons.1 hrest with rfl | hplace
      · exact .inr rfl
      · exact .inl (hplaces c hplace)

/-- The characters of a plain numeral stay as they are: none of them is a blank, a digit of
another script or an underscore. -/
theorem kept_of_mem {c : Char} (hmem : c ∈ p.chars) :
    Text.isBlank c = false ∧ Numeral.asciiDigit c = c ∧ c ≠ '_' := by
  rw [chars, List.mem_append] at hmem
  rcases hmem with hsign | hmem
  · rcases p.isSign c (Option.mem_toList.1 hsign) with rfl | rfl
    · decide
    · decide
  · rcases p.isDigitOrPoint_of_mem hmem with hdigit | rfl
    · have hall : ∀ n < 0x80, isDigit (Char.ofNat n) = true →
          Text.isBlank (Char.ofNat n) = false ∧ Numeral.asciiDigit (Char.ofNat n) = Char.ofNat n ∧
          Char.ofNat n ≠ '_' := by decide +kernel
      have hascii := Decimal.toNat_lt_of_isDigit hdigit
      revert hdigit
      exact Char.of_ascii (P := fun c => isDigit c = true → Text.isBlank c = false ∧
        Numeral.asciiDigit c = c ∧ c ≠ '_') hall hascii
    · decide

/-- The sign is told apart from the digits. -/
theorem splitSign_chars : Numeral.splitSign p.chars = (p.negative, p.unsigned) := by
  unfold chars negative
  cases hsign : p.sign with
  | none =>
    rw [Option.toList_none, List.nil_append]
    unfold Numeral.splitSign
    split
    · rename_i hchars
      exact absurd rfl (Decimal.toLower_of_isDigitOrPoint
        (p.isDigitOrPoint_of_mem (c := '-') (by rw [hchars]; simp))).2.2.2.2.2
    · rename_i hchars
      exact absurd rfl (Decimal.toLower_of_isDigitOrPoint
        (p.isDigitOrPoint_of_mem (c := '+') (by rw [hchars]; simp))).2.2.2.2.1
    · rfl
  | some c =>
    rcases p.isSign c hsign with rfl | rfl
    · rfl
    · rfl

/-- The digits are read with the point moved. -/
theorem unsigned?_unsigned (negative : Bool) :
    Numeral.unsigned? negative p.unsigned =
      some ⟨negative, ofDigits p.digits, -p.places.length⟩ := by
  have hplaces := p.areDigits_fraction
  have hsome := p.digits_ne_nil
  have hpoint : isDigit '.' = false := by decide
  unfold unsigned digits places Numeral.unsigned?
  cases hfraction : p.fraction with
  | none =>
    rw [hfraction] at hsome
    have hwhole := List.takeWhile_eq_self_iff.2 p.areDigits_whole
    have hrest := List.dropWhile_eq_nil_iff.2 p.areDigits_whole
    have hne : p.whole ≠ [] := by simpa using hsome
    simp [hwhole, hrest, hne, Numeral.exponent?]
  | some places =>
    rw [hfraction] at hsome hplaces
    have hwhole : (p.whole ++ '.' :: places).takeWhile isDigit = p.whole := by
      rw [List.takeWhile_append_of_pos p.areDigits_whole,
        List.takeWhile_cons_of_neg (by simp [hpoint]), List.append_nil]
    have hrest : (p.whole ++ '.' :: places).dropWhile isDigit = '.' :: places := by
      rw [List.dropWhile_append_of_pos p.areDigits_whole,
        List.dropWhile_cons_of_neg (by simp [hpoint])]
    have htake := List.takeWhile_eq_self_iff.2 hplaces
    have hdrop := List.dropWhile_eq_nil_iff.2 hplaces
    simp only [Option.getD_some] at htake hdrop hsome
    have hne : p.whole = [] → places ≠ [] := by simpa using hsome
    simpa [hwhole, hrest, htake, hdrop, Numeral.exponent?] using hne

/-- A plain numeral that has no more digits than results have is read as the decimal of its
digits. -/
theorem read_chars (hfew : p.digits.length ≤ Decimal.precision) :
    Decimal.read p.chars =
      .ok (.finite p.negative (ofDigits p.digits) (-p.places.length)) := by
  have hstrip : Text.strip Text.isBlank p.chars = p.chars :=
    Numeral.strip_of_forall fun c hmem => (p.kept_of_mem hmem).1
  have hungroup : Numeral.ungroup p.chars = p.chars :=
    List.filter_eq_self.2 fun c hmem => bne_iff_ne.2 (p.kept_of_mem hmem).2.2
  have hascii : p.chars.map Numeral.asciiDigit = p.chars := by
    rw [List.map_congr_left fun c hmem => (p.kept_of_mem hmem).2.1, List.map_id']
  have hplaces : p.places.length ≤ p.digits.length := by
    rw [digits, List.length_append]
    omega
  have hcount : Decimal.digitCount (ofDigits p.digits) ≤ p.digits.length :=
    Numeral.length_toDigits_le (List.length_pos_iff.2 p.digits_ne_nil)
      (Numeral.ofDigits_lt p.areDigits_digits)
  have hreadable : Decimal.readable (ofDigits p.digits) (-p.places.length) = true := by
    unfold Decimal.readable Decimal.greatestReadable Decimal.leastReadable
    unfold Decimal.precision at hfew
    simp only [Bool.and_eq_true, decide_eq_true_eq]
    omega
  unfold Decimal.read
  rw [hstrip, hungroup, hascii]
  dsimp only
  rw [p.splitSign_chars]
  dsimp only
  rw [Decimal.special?_eq_none _ fun c => p.isDigitOrPoint_of_mem, p.unsigned?_unsigned]
  dsimp only
  rw [if_pos hreadable]

end PlainNumeral

/-! ## Writing -/

namespace Decimal

/-- A coefficient with six places at most is written with as many places, and with a zero
before the point if there is nothing else. -/
theorem exists_unsigned_finiteText (c : Nat) {e : ℤ} (hlow : -6 ≤ e) (hhigh : e ≤ 0)
    (sign : Option Char) (hsign : ∀ c ∈ sign, c = '+' ∨ c = '-') :
    ∃ p : PlainNumeral, p.sign = sign ∧ p.unsigned = finiteText c e ∧ ofDigits p.digits = c ∧
      (p.places.length : ℤ) = -e ∧ p.digits.length ≤ max (digitCount c) 7 := by
  have hdigits := Numeral.areDigits_toDigits c
  have hread := Numeral.ofDigits_toDigits c
  have hsome : Nat.toDigits 10 c ≠ [] := Nat.toDigits_ne_nil
  have hlength := List.length_pos_iff.2 hsome
  unfold finiteText digitCount
  dsimp only
  rw [if_pos (by omega)]
  split_ifs with hwhole hpoint
  -- No places at all.
  · refine ⟨⟨sign, Nat.toDigits 10 c, none, hsign, hdigits, nofun, by simp⟩, rfl, ?_⟩
    simpa [PlainNumeral.unsigned, PlainNumeral.digits, PlainNumeral.places, hread] using hwhole
  -- The point stands among the digits.
  · generalize hw : (e + (Nat.toDigits 10 c).length - 1 + 1).toNat = w
    have hsplit := List.take_append_drop w (Nat.toDigits 10 c)
    refine ⟨⟨sign, (Nat.toDigits 10 c).take w, some ((Nat.toDigits 10 c).drop w), hsign,
      fun d hmem => hdigits d (List.mem_of_mem_take hmem),
      fun d hmem => hdigits d (List.mem_of_mem_drop hmem), by simp⟩, rfl, rfl, ?_⟩
    simp only [PlainNumeral.digits, PlainNumeral.places, Option.getD_some, hsplit, hread,
      List.length_drop, true_and]
    omega
  -- All digits are places, after a few zeros.
  · generalize hz : (-(e + (Nat.toDigits 10 c).length - 1) - 1).toNat = z
    have hplaces : AreDigits (List.replicate z '0' ++ Nat.toDigits 10 c) := by
      intro d hmem
      rcases List.mem_append.1 hmem with hzero | hdigit
      · rw [List.eq_of_mem_replicate hzero]
        rfl
      · exact hdigits d hdigit
    refine ⟨⟨sign, ['0'], some (List.replicate z '0' ++ Nat.toDigits 10 c), hsign,
      List.forall_mem_singleton.2 rfl, hplaces, by simp⟩, rfl, rfl, ?_⟩
    have hvalue : ofDigits ('0' :: (List.replicate z '0' ++ Nat.toDigits 10 c)) = c := by
      rw [Numeral.ofDigits_cons, Numeral.ofDigits_append, Numeral.ofDigits_replicate_zero, hread]
      simp
    refine ⟨hvalue, ?_⟩
    simp only [PlainNumeral.digits, PlainNumeral.places, Option.getD_some, List.length_append,
      List.length_replicate, List.length_cons, List.length_nil]
    omega

/-- A decimal with six places at most is written as a plain numeral, with as many places. -/
theorem exists_plainNumeral (negative : Bool) (c : Nat) {e : ℤ} (hlow : -6 ≤ e) (hhigh : e ≤ 0) :
    ∃ p : PlainNumeral, render (.finite negative c e) = p.chars ∧ p.negative = negative ∧
      ofDigits p.digits = c ∧ (p.places.length : ℤ) = -e ∧
      p.digits.length ≤ max (digitCount c) 7 := by
  have hsign : ∀ d ∈ (if negative then some '-' else none), d = '+' ∨ d = '-' := by
    cases negative
    · exact nofun
    · exact fun d hmem => .inr (Option.some.inj hmem).symm
  obtain ⟨p, hp, hunsigned, hrest⟩ := exists_unsigned_finiteText c hlow hhigh _ hsign
  refine ⟨p, ?_, ?_, hrest⟩
  · rw [PlainNumeral.chars, hp, hunsigned, render]
    cases negative
    · rfl
    · rfl
  · rw [PlainNumeral.negative, hp]
    cases negative
    · rfl
    · rfl

end Decimal

end TezosNode
