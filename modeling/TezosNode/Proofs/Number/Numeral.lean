import Mathlib.Data.List.TakeWhile
import TezosNode.Number.Numeral

set_option autoImplicit false

/-!
# Number: reading numerals

An integer is read from the numeral that it is written as, unless it has too many digits;
and no integer that is read has too many.  So what has been read once can be written and
read again.
-/

namespace TezosNode.Numeral

/-! ## Digits -/

/-- Whether a text is made of digits of ASCII. -/
def AreDigits (text : List Char) : Prop := ∀ c ∈ text, isDigit c = true

theorem AreDigits.of_cons {c : Char} {text : List Char} (h : AreDigits (c :: text)) :
    isDigit c = true ∧ AreDigits text :=
  ⟨h c List.mem_cons_self, fun d hmem => h d (List.mem_cons_of_mem c hmem)⟩

/-- Digits after a number keep it below the next number and as many zeros. -/
theorem foldl_digits_lt {digits : List Char} (h : AreDigits digits) (n : Nat) :
    digits.foldl (fun n c => 10 * n + (c.toNat - 0x30)) n < (n + 1) * Nat.pow 10 digits.length := by
  induction digits generalizing n with
  | nil => exact Nat.lt_of_lt_of_eq (Nat.lt_succ_self n) (Nat.mul_one (n + 1)).symm
  | cons c digits ih =>
    obtain ⟨hdigit, hdigits⟩ := h.of_cons
    have hc : c.toNat - 0x30 < 10 := by
      simp only [isDigit, Bool.and_eq_true, decide_eq_true_eq] at hdigit
      omega
    calc (c :: digits).foldl (fun n c => 10 * n + (c.toNat - 0x30)) n
        < (10 * n + (c.toNat - 0x30) + 1) * Nat.pow 10 digits.length := ih hdigits _
      _ ≤ ((n + 1) * 10) * Nat.pow 10 digits.length := Nat.mul_le_mul_right _ (by omega)
      _ = (n + 1) * (Nat.pow 10 digits.length * 10) := by rw [Nat.mul_assoc, Nat.mul_comm 10]
      _ = (n + 1) * Nat.pow 10 (c :: digits).length := rfl

/-- Digits write less than a one and as many zeros. -/
theorem ofDigits_lt {digits : List Char} (h : AreDigits digits) :
    ofDigits digits < Nat.pow 10 digits.length := by
  have hfold := foldl_digits_lt h 0
  rwa [Nat.zero_add, Nat.one_mul] at hfold

theorem pow_le_pow {few many : Nat} (hle : few ≤ many) : Nat.pow 10 few ≤ Nat.pow 10 many :=
  Nat.pow_le_pow_right (by decide) hle

/-- A number below a one and some zeros has no more digits than zeros. -/
theorem length_toDigits_le {n zeros : Nat} (hsome : 0 < zeros) (hn : n < Nat.pow 10 zeros) :
    (Nat.toDigits 10 n).length ≤ zeros :=
  (Nat.length_toDigits_le_iff (by decide) hsome).2 hn

/-- The digits of a number are read as the number. -/
theorem ofDigits_toDigits (n : Nat) : ofDigits (Nat.toDigits 10 n) = n := by
  have hread := Nat.ofDigitChars_ten_toDigits (n := n)
  rw [Nat.ofDigitChars_eq_foldl] at hread
  exact hread

theorem isDigit_of_isDigit {c : Char} (hc : c.isDigit = true) : isDigit c = true := by
  simp only [Char.isDigit, Bool.and_eq_true, decide_eq_true_eq, UInt32.le_iff_toNat_le,
    ge_iff_le] at hc
  simp only [isDigit, Bool.and_eq_true, decide_eq_true_eq]
  exact hc

theorem areDigits_toDigits (n : Nat) : AreDigits (Nat.toDigits 10 n) := fun _ hmem =>
  isDigit_of_isDigit (Nat.isDigit_of_mem_toDigits (by decide) (by decide) hmem)

/-! ## Written numerals -/

/-- A digit or the sign of a negative number: what an integer is written with. -/
def IsWriting (c : Char) : Prop := isDigit c = true ∨ c = '-'

theorem isOuterBlank_of_isWriting {c : Char} (hc : IsWriting c) : isOuterBlank c = false := by
  rcases hc with hdigit | rfl
  · simp only [isDigit, Bool.and_eq_true, decide_eq_true_eq] at hdigit
    have hascii : Text.isAsciiBlank c = false := by
      simp only [Text.isAsciiBlank, Bool.or_eq_false_iff, Bool.and_eq_false_iff,
        decide_eq_false_iff_not]
      omega
    have hbelow : ¬0x7F ≤ c.toNat := by omega
    simp [isOuterBlank, hascii, hbelow]
  · decide

theorem asciiDigit_of_isWriting {c : Char} (hc : IsWriting c) : asciiDigit c = c := by
  rcases hc with hdigit | rfl
  · simp only [isDigit, Bool.and_eq_true, decide_eq_true_eq] at hdigit
    have hvalue : Text.digitValue? c = some (c.toNat - 0x30) := by
      rw [Text.digitValue?, if_pos (by omega), if_pos hdigit]
    rw [asciiDigit, hvalue]
    dsimp only
    rw [Nat.add_sub_cancel' hdigit.1, Char.ofNat_toNat]
  · rfl

/-- A text without blanks stays as it is where blanks around it are dropped. -/
theorem strip_of_forall {p : Char → Bool} {text : List Char} (hnone : ∀ c ∈ text, p c = false) :
    Text.strip p text = text := by
  have hkept : ∀ part : List Char, (∀ c ∈ part, p c = false) → part.dropWhile p = part := by
    intro part hpart
    cases part with
    | nil => rfl
    | cons c part => rw [List.dropWhile_cons_of_neg (by simp [hpart c])]
  rw [Text.strip, hkept text hnone, Text.dropEndWhile,
    hkept text.reverse fun c hmem => hnone c (List.mem_reverse.1 hmem), List.reverse_reverse]

/-- A written numeral is plain already. -/
theorem plain_of_forall {text : List Char} (hall : ∀ c ∈ text, IsWriting c) : plain text = text := by
  rw [plain, strip_of_forall fun c hmem => isOuterBlank_of_isWriting (hall c hmem),
    List.map_congr_left fun c hmem => asciiDigit_of_isWriting (hall c hmem), List.map_id']

/-- Without underscores, a text has none that stands in a wrong place. -/
theorem groupedAfter_of_areDigits {digits : List Char} (h : AreDigits digits) {previous : Char}
    (hprevious : previous ≠ '_') : groupedAfter previous digits = true := by
  induction digits generalizing previous with
  | nil => simpa [groupedAfter] using hprevious
  | cons c digits ih =>
    obtain ⟨hdigit, hdigits⟩ := h.of_cons
    have hc : c ≠ '_' := fun heq => by rw [heq] at hdigit; revert hdigit; decide
    rw [groupedAfter, if_neg hc, ih hdigits hc, hdigit, Bool.or_true, Bool.and_true]

theorem ungroup_of_areDigits {digits : List Char} (h : AreDigits digits) :
    ungroup digits = digits := by
  refine List.filter_eq_self.2 fun c hmem => bne_iff_ne.2 fun heq => ?_
  have hdigit := h c hmem
  rw [heq] at hdigit
  revert hdigit
  decide

/-- Digits begin with no sign. -/
theorem splitSign_of_areDigits {digits : List Char} (h : AreDigits digits) :
    splitSign digits = (false, digits) := by
  unfold splitSign
  split
  · exact absurd (h '-' List.mem_cons_self) (by decide)
  · exact absurd (h '+' List.mem_cons_self) (by decide)
  · rfl

/-! ## Integers -/

/-- What is read of a sign and digits. -/
def signed (negative : Bool) (digits : List Char) : Int :=
  if negative then -(ofDigits digits : Int) else ofDigits digits

theorem natAbs_signed (negative : Bool) (digits : List Char) :
    (signed negative digits).natAbs = ofDigits digits := by
  cases negative <;> simp [signed]

/-- Digits after a sign are read as the number that they write, if they are not too many. -/
theorem integer_of_splitSign {text digits : List Char} {negative : Bool}
    (hwriting : ∀ c ∈ text, IsWriting c) (hsign : splitSign text = (negative, digits))
    (hdigits : AreDigits digits) (hsome : digits ≠ []) :
    integer text =
      if maxDigits < digits.length then .error (.tooLong digits.length)
      else .ok (signed negative digits) := by
  have hall : ∀ c ∈ digits, (isDigit c || c == '_') = true := fun c hmem => by
    rw [hdigits c hmem, Bool.true_or]
  have hshown := List.takeWhile_eq_self_iff.2 hall
  have hrest := List.dropWhile_eq_nil_iff.2 hall
  have hgrouped : grouped digits = true := groupedAfter_of_areDigits hdigits (by decide)
  simp only [integer, plain_of_forall hwriting, hsign, hshown, hrest, ungroup_of_areDigits hdigits,
    hgrouped, List.isEmpty_eq_false_iff.2 hsome, signed]
  rfl

/-- An integer is written as its digits, after a sign if it is negative. -/
theorem toList_toString (n : Int) :
    (toString n).toList = (if n < 0 then ['-'] else []) ++ Nat.toDigits 10 n.natAbs := by
  cases n with
  | ofNat m =>
    have hsign : ¬Int.ofNat m < 0 := Int.not_lt.2 (Int.natCast_nonneg m)
    rw [if_neg hsign]
    exact Nat.toList_repr
  | negSucc m =>
    rw [if_pos (Int.negSucc_lt_zero m)]
    change ("-" ++ (m + 1).repr).toList = _
    rw [String.toList_append, Nat.toList_repr]
    rfl

theorem isWriting_of_mem_toString {n : Int} {c : Char} (hmem : c ∈ (toString n).toList) :
    IsWriting c := by
  rw [toList_toString, List.mem_append] at hmem
  rcases hmem with hsign | hdigit
  · split at hsign
    · exact .inr (List.mem_singleton.1 hsign)
    · cases hsign
  · exact .inl (areDigits_toDigits _ c hdigit)

theorem toList_toString_ne_nil (n : Int) : (toString n).toList ≠ [] := by
  rw [toList_toString]
  exact List.append_ne_nil_of_right_ne_nil _ Nat.toDigits_ne_nil

/-- The number of digits of an integer, its sign apart. -/
def size (n : Int) : Nat := (Nat.toDigits 10 n.natAbs).length

/-- A numeral is read as its integer, if it does not have too many digits. -/
theorem integer_toString_eq (n : Int) :
    integer (toString n).toList =
      if maxDigits < size n then .error (.tooLong (size n)) else .ok n := by
  have hsign : splitSign (toString n).toList = (decide (n < 0), Nat.toDigits 10 n.natAbs) := by
    rw [toList_toString]
    split
    case isTrue hneg => rw [decide_eq_true hneg]; rfl
    case isFalse hneg =>
      rw [decide_eq_false hneg]
      exact splitSign_of_areDigits (areDigits_toDigits n.natAbs)
  have hn : signed (decide (n < 0)) (Nat.toDigits 10 n.natAbs) = n := by
    rw [signed, ofDigits_toDigits]
    simp only [decide_eq_true_eq]
    omega
  rw [integer_of_splitSign (fun c => isWriting_of_mem_toString) hsign
    (areDigits_toDigits n.natAbs) Nat.toDigits_ne_nil, hn]
  rfl

/-- An integer without too many digits is read from its numeral. -/
theorem integer_toString {n : Int} (hn : n.natAbs < Nat.pow 10 maxDigits) :
    integer (toString n).toList = .ok n := by
  have hfew : size n ≤ maxDigits := length_toDigits_le (by decide) hn
  rw [integer_toString_eq, if_neg (Nat.not_lt.2 hfew)]

/-- No integer that is read has too many digits. -/
theorem natAbs_lt_of_integer {text : List Char} {n : Int} (hread : integer text = .ok n) :
    n.natAbs < Nat.pow 10 maxDigits := by
  have hungrouped : ∀ body : List Char,
      AreDigits (ungroup (body.takeWhile fun c => isDigit c || c == '_')) := by
    intro body c hmem
    obtain ⟨hmem, hne⟩ := List.mem_filter.1 hmem
    have hc := List.mem_takeWhile_imp hmem
    simpa [bne_iff_ne.1 hne] using hc
  rcases hsign : splitSign (plain text) with ⟨negative, body⟩
  simp only [integer, hsign] at hread
  split at hread
  · cases hread
  split at hread
  · cases hread
  split at hread
  · cases hread
  rename_i _ hfew _
  obtain rfl := Except.ok.inj hread
  change (signed negative _).natAbs < _
  rw [natAbs_signed]
  exact Nat.lt_of_lt_of_le (ofDigits_lt (hungrouped body)) (pow_le_pow (Nat.not_lt.1 hfew))

end TezosNode.Numeral
