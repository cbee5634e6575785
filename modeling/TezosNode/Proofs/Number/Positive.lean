import TezosNode.Proofs.Number.Denotation
import TezosNode.Proofs.Number.Truncation
import TezosNode.Proofs.Text.CaseFold

set_option autoImplicit false

/-!
# Number: doubles above zero

A double is above zero if its value is, or if it is the infinity without a sign.  Every double is
above zero, or at zero or below it, or not a number, and only the second of the three can be told
by comparing it with zero.  No decimal notation is read as not-a-number; a text that is read so
spells it out in letters.
-/

namespace TezosNode

/-! ## Doubles -/

namespace Binary64

/-- Whether a number is above zero. -/
inductive IsPositive : Binary64 → Prop
  | value {x : Binary64} {q : ℚ} (hx : x.value? = some q) (hq : 0 < q) : IsPositive x
  | infinite : IsPositive (.infinite false)

theorem not_isPositive_nan : ¬ IsPositive .nan := by
  intro hpositive
  cases hpositive with
  | value hx => cases hx

theorem isPositive_finite_iff (negative : Bool) (m : Nat) (e : Int) :
    IsPositive (.finite negative m e) ↔ negative = false ∧ m ≠ 0 := by
  have hpower : (0 : ℚ) < 2 ^ e := zpow_pos two_pos e
  constructor
  · intro hpositive
    cases hpositive with
    | value hx hq =>
      obtain rfl := Option.some.inj hx
      cases negative with
      | false =>
        refine ⟨rfl, ?_⟩
        rintro rfl
        simp at hq
      | true =>
        have hnonneg : (0 : ℚ) ≤ (m : ℚ) * 2 ^ e := mul_nonneg (Nat.cast_nonneg m) hpower.le
        rw [if_pos rfl] at hq
        exact absurd hnonneg (not_le.2 (neg_pos.1 hq))
  · rintro ⟨rfl, hm⟩
    exact .value rfl (mul_pos (Nat.cast_pos.2 (Nat.pos_of_ne_zero hm)) hpower)

theorem isPositive_infinite_iff (negative : Bool) :
    IsPositive (.infinite negative) ↔ negative = false := by
  constructor
  · intro hpositive
    cases hpositive with
    | value hx => cases hx
    | infinite => rfl
  · rintro rfl
    exact .infinite

/-- What is neither zero nor negative is above zero, or it is not a number. -/
theorem isNonPositive_eq_false_iff (x : Binary64) :
    x.isNonPositive = false ↔ x.IsPositive ∨ x = .nan := by
  cases x with
  | finite negative m e =>
    rw [isPositive_finite_iff, isNonPositive, Bool.or_eq_false_iff, beq_eq_false_iff_ne]
    simp
  | infinite negative =>
    rw [isPositive_infinite_iff, isNonPositive]
    simp
  | nan => simp [isNonPositive]

/-! ### Decimal notation -/

theorem ofRatio_ne_nan (negative : Bool) (num den : Nat) : ofRatio negative num den ≠ .nan := by
  unfold ofRatio
  dsimp only
  split
  case isTrue => exact nofun
  case isFalse =>
    -- which number is rounded to does not matter here, only that it is finite or the infinity
    generalize roundHalfEven _ _ = m
    generalize exponentFor _ _ = e
    generalize (if m < Nat.pow 2 53 then (m, e) else (Nat.pow 2 52, e + 1)) = carried
    obtain ⟨m, e⟩ := carried
    dsimp only
    split
    case isTrue => exact nofun
    case isFalse => exact nofun

theorem ofDecimal_ne_nan (negative : Bool) (digits : Nat) (power : Int) :
    ofDecimal negative digits power ≠ .nan := by
  unfold ofDecimal
  dsimp only
  split
  · exact nofun
  split
  · exact nofun
  split
  · exact nofun
  split
  · exact ofRatio_ne_nan _ _ _
  · exact ofRatio_ne_nan _ _ _

end Binary64

/-! ## Texts -/

namespace Numeral

/-- Whether a text spells not-a-number: three letters, small or capital, after a sign or none and
with blanks around them. -/
inductive SpellsNan : List Char → Prop
  | intro {before sign word after : List Char} {negative : Bool}
      (hbefore : ∀ c ∈ before, isOuterBlank c = true) (hsign : IsSign sign negative)
      (hword : lower word = "nan".toList) (hafter : ∀ c ∈ after, isOuterBlank c = true) :
      SpellsNan (before ++ (sign ++ word) ++ after)

/-- Whether a character is neither a blank nor part of the notation of a number, and stands for
itself in a numeral. -/
structure IsLetter (c : Char) : Prop where
  isOuterBlank_eq : isOuterBlank c = false
  asciiDigit_eq : asciiDigit c = c
  isDigit_eq : isDigit c = false
  ne_underscore : c ≠ '_'
  ne_plus : c ≠ '+'
  ne_minus : c ≠ '-'

/-- The letters of the word are letters, in either case. -/
theorem isLetter_of_toLower_mem {c : Char} (hc : c.toLower ∈ "nan".toList) : IsLetter c := by
  have hsmall : ("nan".toList.all Char.isLower) = true := by decide
  have hall : ∀ n < 0x80, (Char.ofNat n).toLower ∈ "nan".toList →
      isOuterBlank (Char.ofNat n) = false ∧ asciiDigit (Char.ofNat n) = Char.ofNat n ∧
        isDigit (Char.ofNat n) = false ∧ Char.ofNat n ≠ '_' ∧ Char.ofNat n ≠ '+' ∧
        Char.ofNat n ≠ '-' := by
    decide +kernel
  have hascii : c.toNat < 0x80 :=
    Text.toNat_lt_of_isLower_toLower (List.all_eq_true.1 hsmall _ hc)
  obtain ⟨hblank, hstands, hdigit, hunderscore, hplus, hminus⟩ :=
    Char.of_ascii (P := fun c => c.toLower ∈ "nan".toList → isOuterBlank c = false ∧
      asciiDigit c = c ∧ isDigit c = false ∧ c ≠ '_' ∧ c ≠ '+' ∧ c ≠ '-') hall hascii hc
  exact ⟨hblank, hstands, hdigit, hunderscore, hplus, hminus⟩

theorem isLetter_of_lower {word : List Char} (hword : lower word = "nan".toList) {c : Char}
    (hmem : c ∈ word) : IsLetter c := by
  apply isLetter_of_toLower_mem
  rw [← hword]
  exact List.mem_map_of_mem hmem

/-- A sign that is split off stands before the rest. -/
theorem eq_append_of_splitSign {text body : List Char} {negative : Bool}
    (hsplit : splitSign text = (negative, body)) :
    ∃ sign, IsSign sign negative ∧ text = sign ++ body := by
  unfold splitSign at hsplit
  split at hsplit
  case h_1 =>
    obtain ⟨rfl, rfl⟩ := Prod.mk.inj hsplit
    exact ⟨['-'], .minus, rfl⟩
  case h_2 =>
    obtain ⟨rfl, rfl⟩ := Prod.mk.inj hsplit
    exact ⟨['+'], .plus, rfl⟩
  case h_3 =>
    obtain ⟨rfl, rfl⟩ := Prod.mk.inj hsplit
    exact ⟨[], .none, rfl⟩

/-- A sign is neither a blank nor a digit nor an underscore. -/
theorem of_mem_sign {sign : List Char} {negative : Bool} (hsign : IsSign sign negative) {c : Char}
    (hmem : c ∈ sign) :
    isOuterBlank c = false ∧ asciiDigit c = c ∧ isDigit c = false ∧ c ≠ '_' := by
  cases hsign with
  | none => cases hmem
  | plus =>
    obtain rfl := List.mem_singleton.1 hmem
    decide
  | minus =>
    obtain rfl := List.mem_singleton.1 hmem
    decide

/-! ### Underscores -/

/-- A text without underscores has none in a wrong place. -/
theorem groupedAfter_of_notMem {previous : Char} {text : List Char} (hprevious : previous ≠ '_')
    (hnone : '_' ∉ text) : groupedAfter previous text = true := by
  induction text generalizing previous with
  | nil => simp [groupedAfter, hprevious]
  | cons c rest ih =>
    rw [List.mem_cons, not_or] at hnone
    rw [groupedAfter, if_neg (Ne.symm hnone.1), ih (Ne.symm hnone.1) hnone.2]
    simp [hprevious]

/-- Where an underscore is grouped, a digit stands before it. -/
theorem exists_digit_of_grouped {previous : Char} {text : List Char}
    (hgrouped : groupedAfter previous text = true) (hmem : '_' ∈ text) :
    ∃ c ∈ previous :: text, isDigit c = true := by
  induction text generalizing previous with
  | nil => cases hmem
  | cons c rest ih =>
    obtain ⟨hrest, hdigit, -⟩ := of_groupedAfter_cons hgrouped
    rcases List.mem_cons.1 hmem with rfl | hmem
    · exact ⟨previous, List.mem_cons_self, hdigit rfl⟩
    · obtain ⟨d, hd, hdigit⟩ := ih hrest hmem
      exact ⟨d, List.mem_cons_of_mem previous hd, hdigit⟩

theorem ungroup_of_notMem {text : List Char} (hnone : '_' ∉ text) : ungroup text = text := by
  refine List.filter_eq_self.2 fun c hmem => ?_
  rw [bne_iff_ne]
  rintro rfl
  exact hnone hmem

/-- Without digits there are no underscores in a text that is grouped. -/
theorem underscore_notMem {text : List Char} (hgrouped : grouped text = true)
    (hnone : ∀ c ∈ ungroup text, isDigit c = false) : '_' ∉ text := by
  intro hmem
  obtain ⟨c, hc, hdigit⟩ := exists_digit_of_grouped hgrouped hmem
  rcases List.mem_cons.1 hc with rfl | hc
  · exact absurd hdigit (by decide)
  · have hkept : c ∈ ungroup text := by
      refine List.mem_filter.2 ⟨hc, bne_iff_ne.2 ?_⟩
      rintro rfl
      exact absurd hdigit (by decide)
    rw [hnone c hkept] at hdigit
    cases hdigit

/-! ### What is read as not-a-number -/

theorem double?_of_spellsNan {text : List Char} (htext : SpellsNan text) :
    double? text = some .nan := by
  obtain @⟨before, sign, word, after, negative, hbefore, hsign, hword, hafter⟩ := htext
  have hletter : ∀ c ∈ word, IsLetter c := fun _ => isLetter_of_lower hword
  have hparts : ∀ c ∈ sign ++ word, isOuterBlank c = false ∧ asciiDigit c = c ∧ c ≠ '_' := by
    intro c hmem
    rcases List.mem_append.1 hmem with hmem | hmem
    · obtain ⟨hblank, hstands, -, hunderscore⟩ := of_mem_sign hsign hmem
      exact ⟨hblank, hstands, hunderscore⟩
    · have hc := hletter c hmem
      exact ⟨hc.isOuterBlank_eq, hc.asciiDigit_eq, hc.ne_underscore⟩
  have hplain : plain (before ++ (sign ++ word) ++ after) = sign ++ word := by
    rw [plain, strip_append hbefore (fun c hmem => (hparts c hmem).1) hafter,
      List.map_congr_left fun c hmem => (hparts c hmem).2.1, List.map_id']
  have hnone : '_' ∉ sign ++ word := fun hmem => (hparts '_' hmem).2.2 rfl
  have hgrouped : grouped (sign ++ word) = true := groupedAfter_of_notMem (by decide) hnone
  have hsplit : splitSign (sign ++ word) = (negative, word) := by
    cases hsign with
    | plus => rfl
    | minus => rfl
    | none =>
      rw [List.nil_append]
      unfold splitSign
      split
      case h_1 => exact absurd rfl (hletter '-' List.mem_cons_self).ne_minus
      case h_2 => exact absurd rfl (hletter '+' List.mem_cons_self).ne_plus
      case h_3 => rfl
  unfold double?
  dsimp only
  rw [hplain, hgrouped, ungroup_of_notMem hnone, hsplit]
  dsimp only
  rw [hword]
  rfl

theorem spellsNan_of_double? {text : List Char} (hread : double? text = some .nan) :
    SpellsNan text := by
  unfold double? at hread
  dsimp only at hread
  split at hread
  case isTrue => cases hread
  case isFalse hgrouped =>
    rw [Bool.not_eq_true, Bool.not_eq_false'] at hgrouped
    generalize hsplit : splitSign (ungroup (plain text)) = parts at hread
    obtain ⟨negative, word⟩ := parts
    dsimp only at hread
    split at hread
    case isTrue => cases hread
    split at hread
    case isFalse =>
      obtain ⟨n, -, hn⟩ := Option.map_eq_some_iff.1 hread
      exact absurd hn (Binary64.ofDecimal_ne_nan _ _ _)
    case isTrue hword =>
      have hletter : ∀ c ∈ word, IsLetter c := fun _ => isLetter_of_lower hword
      -- A sign and letters have no digits, so there was no underscore to be dropped.
      have hnone : '_' ∉ plain text := by
        refine underscore_notMem hgrouped fun c hmem => ?_
        obtain ⟨sign, hsign, hbody⟩ := eq_append_of_splitSign hsplit
        rw [hbody, List.mem_append] at hmem
        rcases hmem with hmem | hmem
        · exact (of_mem_sign hsign hmem).2.2.1
        · exact (hletter c hmem).isDigit_eq
      rw [ungroup_of_notMem hnone, plain] at hsplit
      obtain ⟨sign, rest, hstrip, hsign, rfl⟩ := exists_of_splitSign hsplit
      have hrest : rest.map asciiDigit = rest := by
        have hsame : ∀ c ∈ rest, asciiDigit c = c := fun c hmem =>
          (eq_of_asciiDigit rfl (hletter _ (List.mem_map_of_mem hmem)).isDigit_eq).symm
        rw [List.map_congr_left hsame, List.map_id']
      obtain ⟨before, after, hbefore, hafter, htext⟩ := exists_of_strip isOuterBlank text
      rw [htext, hstrip]
      rw [hrest] at hword
      exact .intro hbefore hsign hword hafter

/-- The texts that are read as not-a-number are those that spell it. -/
theorem double?_eq_nan_iff (text : List Char) :
    double? text = some .nan ↔ SpellsNan text :=
  ⟨spellsNan_of_double?, double?_of_spellsNan⟩

end Numeral

end TezosNode
