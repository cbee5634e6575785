import TezosNode.Proofs.Json.Layout

set_option autoImplicit false

/-!
# JSON: written integers

An integer is written in one of two forms, as a number or as a string that holds its
numeral.  Both are read as the same integer, unless the numeral has too many digits; then
the number is no document and the string is a document without an integer.
-/

namespace TezosNode

/-! ## Digits -/

/-- The digits of a number begin with a digit. -/
theorem Numeral.exists_digit_of_toDigits (n : Nat) :
    ∃ c more, Nat.toDigits 10 n = c :: more ∧ isDigit c = true := by
  obtain ⟨c, more, hdigits⟩ := List.exists_cons_of_ne_nil (Nat.toDigits_ne_nil (n := n))
  refine ⟨c, more, hdigits, areDigits_toDigits n c ?_⟩
  rw [hdigits]
  exact List.mem_cons_self

/-- The digits of a number other than zero do not begin with a zero. -/
theorem Numeral.exists_toDigits_eq_cons {n : Nat} (hn : n ≠ 0) :
    ∃ c more, Nat.toDigits 10 n = c :: more ∧ c ≠ '0' := by
  cases hdigits : Nat.toDigits 10 n with
  | nil => exact absurd hdigits Nat.toDigits_ne_nil
  | cons c more =>
    refine ⟨c, more, rfl, ?_⟩
    rintro rfl
    have hall : AreDigits more := by
      have hall := areDigits_toDigits n
      rw [hdigits] at hall
      exact hall.of_cons.2
    have hvalue : ofDigits more = n := by
      have hvalue := ofDigits_toDigits n
      rw [hdigits] at hvalue
      exact hvalue
    have hlt : n < Nat.pow 10 more.length := by
      rw [← hvalue]
      exact ofDigits_lt hall
    cases more with
    | nil => exact hn (Nat.lt_one_iff.1 hlt)
    | cons d more =>
      -- Without the zero there would be too few digits for the number.
      have hlength := length_toDigits_le (Nat.succ_pos more.length) hlt
      rw [hdigits] at hlength
      exact absurd hlength (Nat.not_succ_le_self _)

namespace Json

/-! ## Numbers -/

theorem not_isDigit_of_isBlank {c : Char} (hc : isBlank c = true) :
    Numeral.isDigit c = false := by
  simp only [isBlank, Bool.or_eq_true, decide_eq_true_eq] at hc
  rcases hc with ((rfl | rfl) | rfl) | rfl <;> decide

theorem isBlank_of_isWriting {c : Char} (hc : Numeral.IsWriting c) : isBlank c = false := by
  cases hblank : isBlank c with
  | false => rfl
  | true =>
    rcases hc with hdigit | rfl
    · rw [not_isDigit_of_isBlank hblank] at hdigit
      cases hdigit
    · exact absurd hblank (by decide)

/-- Whether a number ends before a text: the text begins with nothing that continues one. -/
def EndsNumber (rest : List Char) : Prop :=
  ∀ c more, rest = c :: more → Numeral.isDigit c = false ∧ c ≠ '.' ∧ c ≠ 'e' ∧ c ≠ 'E'

theorem endsNumber_cons {c : Char} (rest : List Char)
    (hc : Numeral.isDigit c = false ∧ c ≠ '.' ∧ c ≠ 'e' ∧ c ≠ 'E') : EndsNumber (c :: rest) := by
  intro d more heq
  obtain ⟨rfl, -⟩ := List.cons.inj heq
  exact hc

/-- Blanks end a number. -/
theorem endsNumber_of_areBlanks {rest : List Char} (hrest : AreBlanks rest) : EndsNumber rest := by
  rintro c more rfl
  have hc := hrest c List.mem_cons_self
  have hne : ∀ d, isBlank d = false → c ≠ d := by
    rintro d hd rfl
    rw [hc] at hd
    cases hd
  exact ⟨not_isDigit_of_isBlank hc, hne '.' (by decide), hne 'e' (by decide), hne 'E' (by decide)⟩

/-- What comes after blanks ends a number if it does so itself. -/
theorem EndsNumber.append_areBlanks {blanks rest : List Char} (hblanks : AreBlanks blanks)
    (hrest : EndsNumber rest) : EndsNumber (blanks ++ rest) := by
  cases blanks with
  | nil => exact hrest
  | cons c blanks =>
    have hfirst : AreBlanks [c] := by
      intro d hmem
      obtain rfl := List.mem_singleton.1 hmem
      exact hblanks d List.mem_cons_self
    exact endsNumber_cons _ (endsNumber_of_areBlanks hfirst c [] rfl)

/-- Whether no digit stands at the beginning of a text. -/
def NoDigitHead (rest : List Char) : Prop := ∀ c more, rest = c :: more → Numeral.isDigit c = false

theorem EndsNumber.noDigitHead {rest : List Char} (hrest : EndsNumber rest) : NoDigitHead rest :=
  fun c more heq => (hrest c more heq).1

theorem takeWhile_isDigit_append {digits rest : List Char} (hdigits : Numeral.AreDigits digits)
    (hrest : NoDigitHead rest) : (digits ++ rest).takeWhile Numeral.isDigit = digits := by
  rw [List.takeWhile_append_of_pos hdigits]
  cases rest with
  | nil => exact List.append_nil digits
  | cons c rest =>
    rw [List.takeWhile_cons_of_neg (by simp [hrest c rest rfl]), List.append_nil]

/-- The digits of a number are all that is read where it ends. -/
theorem wholeDigits_toDigits_append (n : Nat) {rest : List Char} (hrest : EndsNumber rest) :
    wholeDigits (Nat.toDigits 10 n ++ rest) = Nat.toDigits 10 n := by
  by_cases hn : n = 0
  · subst hn
    rfl
  · obtain ⟨c, more, hdigits, hc⟩ := Numeral.exists_toDigits_eq_cons hn
    have hread := takeWhile_isDigit_append (Numeral.areDigits_toDigits n) hrest.noDigitHead
    rw [hdigits] at hread ⊢
    unfold wholeDigits
    split
    case h_1 heq =>
      obtain ⟨rfl, -⟩ := List.cons.inj heq
      exact absurd rfl hc
    case h_2 => exact hread

/-- No fraction stands where a number ends. -/
theorem fraction?_of_endsNumber {rest : List Char} (hrest : EndsNumber rest) :
    fraction? rest = none := by
  unfold fraction?
  split
  case h_1 => exact absurd rfl (hrest '.' _ rfl).2.1
  case h_2 => rfl

/-- No exponent stands where a number ends. -/
theorem exponent?_of_endsNumber {rest : List Char} (hrest : EndsNumber rest) :
    exponent? rest = none := by
  unfold exponent?
  split
  case h_1 c rest =>
    obtain ⟨-, -, hlower, hupper⟩ := hrest c rest rfl
    exact if_neg (not_or.2 ⟨hlower, hupper⟩)
  case h_2 => rfl

/-- A numeral that ends is read as its integer, if it does not have too many digits. -/
theorem number_toString (n : Int) {rest : List Char} (hrest : EndsNumber rest) :
    number ((toString n).toList ++ rest) =
      if Numeral.maxDigits < Numeral.size n then
        .error (.longInteger (Numeral.size n) ((toString n).toList ++ rest))
      else .ok (.integer n, rest) := by
  have hsome : (Nat.toDigits 10 n.natAbs).isEmpty = false :=
    List.isEmpty_eq_false_iff.2 Nat.toDigits_ne_nil
  have hread := wholeDigits_toDigits_append n.natAbs hrest
  rw [Numeral.toList_toString]
  by_cases hn : n < 0
  · have hvalue : -(n.natAbs : Int) = n := by omega
    simp only [if_pos hn, List.cons_append, List.nil_append, number, hread, hsome, List.drop_left,
      fraction?_of_endsNumber hrest, exponent?_of_endsNumber hrest, Option.getD_none,
      Option.isNone_none, Bool.and_self, Bool.false_eq_true, if_false, if_true,
      Numeral.ofDigits_toDigits, hvalue]
    rfl
  · have hvalue : (n.natAbs : Int) = n := by omega
    rw [if_neg hn, List.nil_append]
    unfold number
    dsimp only
    split
    case h_1 tail heq =>
      obtain ⟨c, more, hdigits, hc⟩ := Numeral.exists_digit_of_toDigits n.natAbs
      rw [hdigits] at heq
      obtain ⟨rfl, -⟩ := List.cons.inj heq
      exact absurd hc (by decide)
    case h_2 =>
      simp only [hread, hsome, List.drop_left, fraction?_of_endsNumber hrest,
        exponent?_of_endsNumber hrest, Option.getD_none, Option.isNone_none, Bool.and_self,
        Bool.false_eq_true, if_false, if_true, Numeral.ofDigits_toDigits, hvalue]
      rfl

/-! ## Values -/

/-- What begins with a digit, or with a sign and a digit, is a number. -/
theorem value_eq_number (fuel : Nat) {c : Char} {text : List Char}
    (hc : Numeral.isDigit c = true ∨
      c = '-' ∧ ∃ d more, text = d :: more ∧ Numeral.isDigit d = true) :
    value (fuel + 1) (c :: text) = number (c :: text) := by
  have hwriting : Numeral.isDigit c = true ∨ c = '-' := hc.imp_right And.left
  have hscalar : scalar (c :: text) = number (c :: text) := by
    unfold scalar
    split
    case h_6 heq =>
      obtain ⟨rfl, htext⟩ := List.cons.inj heq
      rcases hc with hdigit | ⟨-, d, more, rfl, hdigit⟩
      · exact absurd hdigit (by decide)
      · obtain ⟨rfl, -⟩ := List.cons.inj htext
        exact absurd hdigit (by decide)
    case h_7 => rfl
    all_goals
      rename_i heq
      obtain ⟨rfl, -⟩ := List.cons.inj heq
      exact absurd hwriting (by decide)
  rw [← hscalar]
  unfold value
  split
  case h_4 => rfl
  all_goals
    rename_i heq
    obtain ⟨rfl, -⟩ := List.cons.inj heq
    exact absurd hwriting (by decide)

/-- A numeral is read as a number. -/
theorem value_toString (fuel : Nat) (n : Int) (rest : List Char) :
    value (fuel + 1) ((toString n).toList ++ rest) = number ((toString n).toList ++ rest) := by
  obtain ⟨c, more, hdigits, hc⟩ := Numeral.exists_digit_of_toDigits n.natAbs
  rw [Numeral.toList_toString, hdigits]
  split
  · exact value_eq_number fuel (.inr ⟨rfl, c, _, rfl, hc⟩)
  · exact value_eq_number fuel (.inl hc)

/-- Characters that stand for themselves in a string are read as they are. -/
theorem stringFrom_of_forall (start read : List Char) {text : List Char} (rest : List Char)
    (hplain : ∀ c ∈ text, c ≠ '"' ∧ c ≠ '\\' ∧ 0x20 ≤ c.toNat) :
    stringFrom start read 0 (text ++ '"' :: rest) =
      .ok (String.ofList (read.reverse ++ text), rest) := by
  induction text generalizing read with
  | nil => simp [stringFrom]
  | cons c text ih =>
    obtain ⟨hc, htext⟩ := List.forall_mem_cons.1 hplain
    rw [List.cons_append, stringFrom, if_neg hc.1, if_neg hc.2.1, if_neg (Nat.not_lt.2 hc.2.2),
      ih _ htext, List.reverse_cons, List.append_assoc]
    rfl

/-- What an integer is written with stands for itself in a string. -/
theorem plain_of_isWriting {c : Char} (hc : Numeral.IsWriting c) :
    c ≠ '"' ∧ c ≠ '\\' ∧ 0x20 ≤ c.toNat := by
  rcases hc with hdigit | rfl
  · refine ⟨?_, ?_, ?_⟩
    · rintro rfl
      exact absurd hdigit (by decide)
    · rintro rfl
      exact absurd hdigit (by decide)
    · simp only [Numeral.isDigit, Bool.and_eq_true, decide_eq_true_eq] at hdigit
      omega
  · decide

/-- A numeral in quotes is read as a string. -/
theorem value_quoted_toString (fuel : Nat) (n : Int) (rest : List Char) :
    value (fuel + 1) ('"' :: ((toString n).toList ++ '"' :: rest)) =
      .ok (.string (toString n), rest) := by
  have hplain : ∀ c ∈ (toString n).toList, c ≠ '"' ∧ c ≠ '\\' ∧ 0x20 ≤ c.toNat :=
    fun c hmem => plain_of_isWriting (Numeral.isWriting_of_mem_toString hmem)
  simp only [value, stringFrom_of_forall _ [] rest hplain, List.reverse_nil, List.nil_append,
    String.ofList_toList]

/-! ## The two forms -/

/-- How a document writes an integer. -/
inductive IntegerForm where
  | number
  | string
  deriving DecidableEq, Repr, Inhabited

namespace IntegerForm

/-- The text of an integer in a form. -/
def text : IntegerForm → Int → List Char
  | number, n => (toString n).toList
  | string, n => '"' :: ((toString n).toList ++ ['"'])

/-- The value that an integer is in a form. -/
def value : IntegerForm → Int → Json
  | number, n => .integer n
  | string, n => .string (toString n)

end IntegerForm

section Forms

variable (form : IntegerForm) (n : Int)

/-- The text of an integer begins with no blank. -/
theorem skipBlanks_text (rest : List Char) :
    skipBlanks (form.text n ++ rest) = form.text n ++ rest := by
  cases form with
  | number =>
    obtain ⟨c, more, htext⟩ := List.exists_cons_of_ne_nil (Numeral.toList_toString_ne_nil n)
    have hwriting : Numeral.IsWriting c := by
      apply Numeral.isWriting_of_mem_toString (n := n)
      rw [htext]
      exact List.mem_cons_self
    rw [IntegerForm.text, htext]
    exact skipBlanks_cons (isBlank_of_isWriting hwriting) _
  | string => exact skipBlanks_cons (by decide) _

/-- What is read of an integer before blanks. -/
theorem value_text (fuel : Nat) {rest : List Char} (hrest : AreBlanks rest) :
    value (fuel + 1) (form.text n ++ rest) =
      if form = .number ∧ Numeral.maxDigits < Numeral.size n then
        .error (.longInteger (Numeral.size n) (form.text n ++ rest))
      else .ok (form.value n, rest) := by
  cases form with
  | number =>
    rw [IntegerForm.text, value_toString, number_toString n (endsNumber_of_areBlanks hrest)]
    simp only [true_and]
    rfl
  | string =>
    have htext : IntegerForm.string.text n ++ rest =
        '"' :: ((toString n).toList ++ '"' :: rest) := by
      simp [IntegerForm.text]
    rw [htext, value_quoted_toString, if_neg (by simp)]
    rfl

/-- The integer of an integer that is written in one of the forms. -/
theorem toInteger_value :
    (form.value n).toInteger =
      if form = .string ∧ Numeral.maxDigits < Numeral.size n then
        .error (.notNumeral (toString n) (.tooLong (Numeral.size n)))
      else .ok n := by
  cases form with
  | number =>
    rw [if_neg (by simp)]
    rfl
  | string =>
    change (Numeral.integer (toString n).toList).mapError (IntegerFault.notNumeral (toString n)) = _
    rw [Numeral.integer_toString_eq]
    simp only [true_and]
    split
    · rfl
    · rfl

/-- An integer of few digits is had of both forms. -/
theorem toInteger_value_of_le (hfew : Numeral.size n ≤ Numeral.maxDigits) :
    (form.value n).toInteger = .ok n := by
  rw [toInteger_value, if_neg fun hlong => Nat.not_lt.2 hfew hlong.2]

end Forms

/-! ## Documents -/

/-- Whether a body is an integer in one of the forms, with blanks around it, in any of the
encodings of a document. -/
def IsWritten (form : IntegerForm) (n : Int) (body : Bytes) : Prop :=
  ∃ before after, AreBlanks before ∧ AreBlanks after ∧
    Text.decodeDocument body = .ok (before ++ (form.text n ++ after))

/-- The characters that an integer is written with, and the blanks around it, are visible
characters of ASCII or blanks, and none of them is a letter. -/
theorem bounds_of_mem_text {form : IntegerForm} {n : Int} {before after : List Char}
    (hbefore : AreBlanks before) (hafter : AreBlanks after) {c : Char}
    (hmem : c ∈ before ++ (form.text n ++ after)) : 0 < c.toNat ∧ c.toNat < 0x41 := by
  have hblank : isBlank c = true → 0 < c.toNat ∧ c.toNat < 0x41 := by
    simp only [isBlank, Bool.or_eq_true, decide_eq_true_eq]
    rintro (((rfl | rfl) | rfl) | rfl) <;> decide
  have hwriting : c ∈ (toString n).toList → 0 < c.toNat ∧ c.toNat < 0x41 := by
    intro hmem
    rcases Numeral.isWriting_of_mem_toString hmem with hdigit | rfl
    · simp only [Numeral.isDigit, Bool.and_eq_true, decide_eq_true_eq] at hdigit
      omega
    · decide
  simp only [List.mem_append] at hmem
  rcases hmem with hmem | hmem | hmem
  · exact hblank (hbefore c hmem)
  · cases form with
    | number => exact hwriting hmem
    | string =>
      simp only [IntegerForm.text, List.mem_cons, List.mem_append, List.not_mem_nil,
        or_false] at hmem
      rcases hmem with rfl | hmem | rfl
      · decide
      · exact hwriting hmem
      · decide
  · exact hblank (hafter c hmem)

/-- An integer in UTF-8 without blanks around it is written. -/
theorem isWritten_encode (form : IntegerForm) (n : Int) :
    IsWritten form n (Text.Utf8.encode (form.text n)) := by
  have hnone : AreBlanks [] := by
    intro c hmem
    cases hmem
  refine ⟨[], [], hnone, hnone, ?_⟩
  rw [List.nil_append, List.append_nil]
  refine Text.decodeDocument_encode fun c hmem => ?_
  have hmem : c ∈ [] ++ (form.text n ++ []) := by simpa using hmem
  have hbounds := bounds_of_mem_text hnone hnone hmem
  exact ⟨hbounds.1, Nat.lt_trans hbounds.2 (by decide)⟩

/-- A body with an integer is read as the integer in its form, unless it is a number with too
many digits. -/
theorem decode_of_isWritten {form : IntegerForm} {n : Int} {body : Bytes}
    (hbody : IsWritten form n body) :
    decode body =
      if form = .number ∧ Numeral.maxDigits < Numeral.size n then
        .error (.longInteger (Numeral.size n))
      else .ok (form.value n) := by
  obtain ⟨before, after, hbefore, hafter, htext⟩ := hbody
  have hroom : excess? maxDepth (before ++ (form.text n ++ after)) = none := by
    refine excess?_of_forall (fun c hmem => ?_) _
    have hbounds := bounds_of_mem_text hbefore hafter hmem
    constructor <;> rintro rfl <;> exact absurd hbounds.2 (by decide)
  rw [decode_eq_parse htext hroom]
  unfold parse readText
  rw [skipBlanks_append hbefore, skipBlanks_text, value_text form n _ hafter]
  by_cases hlong : form = .number ∧ Numeral.maxDigits < Numeral.size n
  · rw [if_pos hlong, if_pos hlong]
    rfl
  · rw [if_neg hlong, if_neg hlong]
    dsimp only
    rw [skipBlanks_eq_nil_iff.2 hafter]
    rfl

/-- An integer is not nested at all. -/
theorem tooDeep?_of_isWritten {form : IntegerForm} {n : Int} {body : Bytes}
    (hbody : IsWritten form n body) : tooDeep? body = none := by
  unfold tooDeep?
  rw [decode_of_isWritten hbody]
  split_ifs
  · rfl
  · rfl

/-- An integer is no array. -/
theorem decode_ne_array_of_isWritten {form : IntegerForm} {n : Int} {body : Bytes}
    (hbody : IsWritten form n body) (items : List Json) : decode body ≠ .ok (.array items) := by
  intro harray
  rw [decode_of_isWritten hbody] at harray
  split at harray
  · cases harray
  · cases form with
    | number => cases harray
    | string => cases harray

end Json

end TezosNode
