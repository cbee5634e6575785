import TezosNode.Proofs.Json.Reading
import TezosNode.Proofs.Number.Shortest

set_option autoImplicit false

/-!
# JSON: texts of doubles

A double is written as a number with a fraction or an exponent, or as one of three words, and each
of these is read as a double wherever it stands.  A number is put together of digits before the
point, a fraction and an exponent; each part is read up to where the next one begins, since no
part begins with a digit.
-/

namespace TezosNode

/-- Whether a character is a visible one of ASCII. -/
def Text.IsVisible (c : Char) : Prop := 0x20 ≤ c.toNat ∧ c.toNat ≤ 0x7E

instance (c : Char) : Decidable (Text.IsVisible c) := inferInstanceAs (Decidable (_ ∧ _))

/-- A text is visible if all its characters turn out to be. -/
theorem Text.isVisible_of_all {text : List Char}
    (hall : (text.all fun c => decide (IsVisible c)) = true) {c : Char} (hmem : c ∈ text) :
    IsVisible c :=
  of_decide_eq_true (List.all_eq_true.1 hall c hmem)

theorem Numeral.isVisible_of_isDigit {c : Char} (hc : isDigit c = true) : Text.IsVisible c := by
  simp only [isDigit, Bool.and_eq_true, decide_eq_true_eq] at hc
  exact ⟨by omega, by omega⟩

namespace Json

open Numeral (AreDigits)

/-! ## Parts of numbers -/

/-- The digits of a number before its point: a lone zero, or digits that begin with another. -/
inductive IsWhole : List Char → Prop
  | zero : IsWhole ['0']
  | digits {digits : List Char} (h : Binary64.HasLeadingDigit digits) : IsWhole digits

/-- A fraction, if there is one. -/
inductive IsFraction : List Char → Prop
  | absent : IsFraction []
  | present {digits : List Char} (hsome : digits ≠ []) (hdigits : AreDigits digits) :
      IsFraction ('.' :: digits)

/-- An exponent, if there is one. -/
inductive IsExponent : List Char → Prop
  | absent : IsExponent []
  | present {sign : Char} {digits : List Char} (hsign : sign = '+' ∨ sign = '-')
      (hsome : digits ≠ []) (hdigits : AreDigits digits) : IsExponent ('e' :: sign :: digits)

/-- What a double is written with apart from words and signs. -/
inductive SpellsDouble : List Char → Prop
  | mk {whole fraction exponent : List Char} (hwhole : IsWhole whole)
      (hfraction : IsFraction fraction) (hexponent : IsExponent exponent)
      (hsome : fraction ≠ [] ∨ exponent ≠ []) : SpellsDouble (whole ++ (fraction ++ exponent))

theorem noDigitHead_cons {c : Char} (hc : Numeral.isDigit c = false) (rest : List Char) :
    NoDigitHead (c :: rest) := by
  intro d more heq
  obtain ⟨rfl, -⟩ := List.cons.inj heq
  exact hc

theorem dropWhile_isDigit_append {digits rest : List Char} (hdigits : AreDigits digits)
    (hrest : NoDigitHead rest) : (digits ++ rest).dropWhile Numeral.isDigit = rest := by
  rw [List.dropWhile_append_of_pos hdigits]
  cases rest with
  | nil => rfl
  | cons c rest => exact List.dropWhile_cons_of_neg (by simp [hrest c rest rfl])

/-! ### Digits before the point -/

namespace IsWhole

variable {whole rest : List Char}

theorem exists_digit (h : IsWhole whole) :
    ∃ c more, whole = c :: more ∧ Numeral.isDigit c = true := by
  cases h with
  | zero => exact ⟨'0', [], rfl, by decide⟩
  | digits h =>
    obtain ⟨hdigits, c, more, rfl, -⟩ := h
    exact ⟨c, more, rfl, hdigits c List.mem_cons_self⟩

theorem areDigits (h : IsWhole whole) : AreDigits whole := by
  cases h with
  | zero =>
    intro c hmem
    obtain rfl := List.mem_singleton.1 hmem
    decide
  | digits h => exact h.1

theorem wholeDigits_append (h : IsWhole whole) (hrest : NoDigitHead rest) :
    wholeDigits (whole ++ rest) = whole := by
  cases h with
  | zero => rfl
  | digits h =>
    obtain ⟨hdigits, c, more, rfl, hc⟩ := h
    have hread := takeWhile_isDigit_append hdigits hrest
    unfold wholeDigits
    split
    case h_1 heq => exact absurd (List.cons.inj heq).1 hc
    case h_2 => exact hread

end IsWhole

/-! ### Fractions and exponents -/

/-- Whether a text goes on with neither a digit nor a point. -/
def EndsFraction (rest : List Char) : Prop :=
  ∀ c more, rest = c :: more → Numeral.isDigit c = false ∧ c ≠ '.'

theorem EndsFraction.noDigitHead {rest : List Char} (hrest : EndsFraction rest) :
    NoDigitHead rest :=
  fun c more heq => (hrest c more heq).1

theorem EndsNumber.endsFraction {rest : List Char} (hrest : EndsNumber rest) :
    EndsFraction rest := by
  intro c more heq
  obtain ⟨hdigit, hpoint, -⟩ := hrest c more heq
  exact ⟨hdigit, hpoint⟩

/-- A fraction is read to its end, whatever follows the number. -/
theorem IsFraction.exists_places {fraction : List Char} (h : IsFraction fraction) :
    ∃ places, ∀ rest, EndsFraction rest →
      (fraction? (fraction ++ rest)).getD ([], fraction ++ rest) = (places, rest) ∧
        ((fraction? (fraction ++ rest)).isNone = true ↔ fraction = []) := by
  cases h with
  | absent =>
    refine ⟨[], fun rest hrest => ?_⟩
    have hnone : fraction? rest = none := by
      unfold fraction?
      split
      case h_1 more => exact absurd rfl (hrest '.' more rfl).2
      case h_2 => rfl
    rw [List.nil_append, hnone]
    exact ⟨rfl, iff_of_true rfl rfl⟩
  | @present digits hsome hdigits =>
    refine ⟨digits, fun rest hrest => ?_⟩
    have hnonempty : digits.isEmpty = false := List.isEmpty_eq_false_iff.2 hsome
    have hread : fraction? ('.' :: digits ++ rest) = some (digits, rest) := by
      simp only [List.cons_append, fraction?, takeWhile_isDigit_append hdigits hrest.noDigitHead,
        dropWhile_isDigit_append hdigits hrest.noDigitHead, hnonempty, Bool.false_eq_true,
        if_false]
    rw [hread]
    exact ⟨rfl, iff_of_false Bool.false_ne_true (List.cons_ne_nil _ _)⟩

/-- An exponent is read to its end, whatever follows the number. -/
theorem IsExponent.exists_power {exponent : List Char} (h : IsExponent exponent) :
    ∃ power, ∀ rest, EndsNumber rest →
      (exponent? (exponent ++ rest)).getD (0, exponent ++ rest) = (power, rest) ∧
        ((exponent? (exponent ++ rest)).isNone = true ↔ exponent = []) := by
  cases h with
  | absent =>
    refine ⟨0, fun rest hrest => ?_⟩
    rw [List.nil_append, exponent?_of_endsNumber hrest]
    exact ⟨rfl, iff_of_true rfl rfl⟩
  | @present sign digits hsign hsome hdigits =>
    have hsplit : ∃ negative, ∀ text, Numeral.splitSign (sign :: text) = (negative, text) := by
      rcases hsign with rfl | rfl
      · exact ⟨false, fun _ => rfl⟩
      · exact ⟨true, fun _ => rfl⟩
    obtain ⟨negative, hsplit⟩ := hsplit
    refine ⟨if negative then -(Numeral.ofDigits digits : Int) else Numeral.ofDigits digits,
      fun rest hrest => ?_⟩
    have hnonempty : digits.isEmpty = false := List.isEmpty_eq_false_iff.2 hsome
    have hread : exponent? ('e' :: sign :: digits ++ rest) =
        some (if negative then -(Numeral.ofDigits digits : Int) else Numeral.ofDigits digits,
          rest) := by
      simp only [List.cons_append, exponent?, true_or, if_true, hsplit,
        takeWhile_isDigit_append hdigits hrest.noDigitHead,
        dropWhile_isDigit_append hdigits hrest.noDigitHead, hnonempty, Bool.false_eq_true,
        if_false]
    rw [hread]
    exact ⟨rfl, iff_of_false Bool.false_ne_true (List.cons_ne_nil _ _)⟩

theorem IsExponent.endsFraction_append {exponent rest : List Char} (h : IsExponent exponent)
    (hrest : EndsNumber rest) : EndsFraction (exponent ++ rest) := by
  cases h with
  | absent => exact hrest.endsFraction
  | present =>
    intro c more heq
    obtain ⟨rfl, -⟩ := List.cons.inj heq
    decide

theorem IsFraction.noDigitHead_append {fraction rest : List Char} (h : IsFraction fraction)
    (hrest : NoDigitHead rest) : NoDigitHead (fraction ++ rest) := by
  cases h with
  | absent => exact hrest
  | present => exact noDigitHead_cons (by decide) _

/-! ## Numbers -/

/-- The sign of a number. -/
def signText (negative : Bool) : List Char := if negative then ['-'] else []

namespace SpellsDouble

variable {text rest : List Char}

theorem exists_digit (h : SpellsDouble text) :
    ∃ c more, text = c :: more ∧ Numeral.isDigit c = true := by
  cases h with
  | @mk whole fraction exponent hwhole =>
    obtain ⟨c, more, rfl, hc⟩ := hwhole.exists_digit
    exact ⟨c, more ++ (fraction ++ exponent), rfl, hc⟩

/-- A number with a fraction or an exponent is read as a double, whatever follows it. -/
theorem exists_number (h : SpellsDouble text) (negative : Bool) :
    ∃ y, ∀ rest, EndsNumber rest →
      number (signText negative ++ (text ++ rest)) = .ok (.double y, rest) := by
  cases h with
  | @mk whole fraction exponent hwhole hfraction hexponent hsome =>
    obtain ⟨places, hplaces⟩ := hfraction.exists_places
    obtain ⟨power, hpower⟩ := hexponent.exists_power
    refine ⟨.ofDecimal negative (Numeral.ofDigits (whole ++ places)) (power - places.length),
      fun rest hrest => ?_⟩
    have hafter := hexponent.endsFraction_append hrest
    obtain ⟨hplaces, hnoFraction⟩ := hplaces _ hafter
    obtain ⟨hpower, hnoExponent⟩ := hpower rest hrest
    have hdigits := hwhole.wholeDigits_append (hfraction.noDigitHead_append hafter.noDigitHead)
    have hdouble : ((fraction? (fraction ++ (exponent ++ rest))).isNone &&
        (exponent? (exponent ++ rest)).isNone) = false := by
      rw [Bool.and_eq_false_iff, ← Bool.not_eq_true, ← Bool.not_eq_true, hnoFraction, hnoExponent]
      exact hsome
    obtain ⟨c, more, hcons, hc⟩ := hwhole.exists_digit
    have hnonempty : whole.isEmpty = false := by rw [hcons]; rfl
    rw [List.append_assoc, List.append_assoc]
    cases negative with
    | true =>
      simp only [signText, if_true, List.cons_append, List.nil_append, number, hdigits, hnonempty,
        List.drop_left, hplaces, hpower, hdouble, Bool.false_eq_true, if_false]
    | false =>
      rw [signText, if_neg Bool.false_ne_true, List.nil_append]
      unfold number
      dsimp only
      split
      case h_1 heq =>
        rw [hcons] at heq
        obtain ⟨rfl, -⟩ := List.cons.inj heq
        exact absurd hc (by decide)
      case h_2 =>
        simp only [hdigits, hnonempty, List.drop_left, hplaces, hpower, hdouble,
          Bool.false_eq_true, if_false]

/-- It is written in visible characters. -/
theorem isVisible_of_mem (h : SpellsDouble text) {c : Char} (hmem : c ∈ text) :
    Text.IsVisible c := by
  have hall {digits : List Char} (hdigits : AreDigits digits) (hmem : c ∈ digits) :
      Text.IsVisible c :=
    Numeral.isVisible_of_isDigit (hdigits c hmem)
  cases h with
  | mk hwhole hfraction hexponent =>
    rcases List.mem_append.1 hmem with hmem | hmem
    · exact hall hwhole.areDigits hmem
    rcases List.mem_append.1 hmem with hmem | hmem
    · cases hfraction with
      | absent => cases hmem
      | present _ hdigits =>
        rcases List.mem_cons.1 hmem with rfl | hmem
        · decide
        · exact hall hdigits hmem
    · cases hexponent with
      | absent => cases hmem
      | present hsign _ hdigits =>
        rcases List.mem_cons.1 hmem with rfl | hmem
        · decide
        rcases List.mem_cons.1 hmem with rfl | hmem
        · rcases hsign with rfl | rfl <;> decide
        · exact hall hdigits hmem

end SpellsDouble

end Json

/-! ## Written doubles -/

namespace Binary64

open Json (SpellsDouble IsWhole IsFraction IsExponent signText)
open Numeral (AreDigits)

theorem areDigits_replicate_zero (count : Nat) : AreDigits (List.replicate count '0') := by
  intro c hmem
  obtain rfl := List.eq_of_mem_replicate hmem
  decide

theorem areDigits_append {digits more : List Char} (h : AreDigits digits) (hmore : AreDigits more) :
    AreDigits (digits ++ more) := by
  intro c hmem
  rcases List.mem_append.1 hmem with hmem | hmem
  · exact h c hmem
  · exact hmore c hmem

namespace HasLeadingDigit

variable {digits : List Char}

theorem append (h : HasLeadingDigit digits) {more : List Char} (hmore : AreDigits more) :
    HasLeadingDigit (digits ++ more) := by
  obtain ⟨hdigits, c, tail, rfl, hc⟩ := h
  exact ⟨areDigits_append hdigits hmore, c, tail ++ more, rfl, hc⟩

theorem take_succ (h : HasLeadingDigit digits) (n : Nat) :
    HasLeadingDigit (digits.take (n + 1)) := by
  obtain ⟨hdigits, c, tail, rfl, hc⟩ := h
  exact ⟨fun d hmem => hdigits d (List.mem_of_mem_take hmem), c, tail.take n, rfl, hc⟩

end HasLeadingDigit

/-- Digits without exponent have a fraction. -/
theorem spellsDouble_plainText {d : Digits} (h : HasLeadingDigit d.digits) :
    SpellsDouble (plainText d) := by
  obtain ⟨hdigits, c, more, hcons, -⟩ := id h
  unfold plainText
  split
  case isTrue =>
    have hfraction : IsFraction
        ('.' :: (List.replicate (-d.power - 1).toNat '0' ++ d.digits)) := by
      refine .present ?_ (areDigits_append (areDigits_replicate_zero _) hdigits)
      rw [hcons]
      exact List.append_ne_nil_of_right_ne_nil _ (List.cons_ne_nil _ _)
    have hspells := SpellsDouble.mk .zero hfraction .absent (.inl (List.cons_ne_nil _ _))
    simpa using hspells
  case isFalse =>
    dsimp only
    generalize hpadded :
      d.digits ++ List.replicate (d.power.toNat + 1 - d.digits.length) '0' = padded
    have hlead : HasLeadingDigit padded := hpadded ▸ h.append (areDigits_replicate_zero _)
    have hfraction : IsFraction ('.' :: (if (padded.drop (d.power.toNat + 1)).isEmpty then ['0']
        else padded.drop (d.power.toNat + 1))) := by
      split
      case isTrue =>
        refine .present (List.cons_ne_nil _ _) ?_
        exact areDigits_replicate_zero 1
      case isFalse hsome =>
        refine .present (fun hnil => hsome (List.isEmpty_iff.2 hnil)) ?_
        exact fun x hmem => hlead.1 x (List.mem_of_mem_drop hmem)
    have hspells := SpellsDouble.mk (.digits (hlead.take_succ d.power.toNat)) hfraction .absent
      (.inl (List.cons_ne_nil _ _))
    rwa [List.append_nil] at hspells

theorem isExponent_exponentText (width : Nat) (power : Int) :
    IsExponent ('e' :: exponentText width power) := by
  unfold exponentText
  dsimp only
  rw [List.cons_append]
  refine .present ?_ ?_ ?_
  · split
    case isTrue => exact .inr rfl
    case isFalse => exact .inl rfl
  · exact List.append_ne_nil_of_right_ne_nil _ Nat.toDigits_ne_nil
  · exact areDigits_append (areDigits_replicate_zero _) (Numeral.areDigits_toDigits _)

/-- Digits with exponent have one. -/
theorem spellsDouble_scientificText (layout : Layout) {d : Digits}
    (h : HasLeadingDigit d.digits) : SpellsDouble (scientificText layout d) := by
  have hexponent := isExponent_exponentText layout.exponentWidth d.power
  have hfirst := h.take_succ 0
  obtain ⟨hdigits, c, more, hcons, -⟩ := h
  rw [hcons] at hfirst hdigits
  unfold scientificText
  rw [hcons]
  dsimp only
  cases more with
  | nil =>
    exact .mk (.digits hfirst) .absent hexponent (.inr (List.cons_ne_nil _ _))
  | cons d more =>
    have hfraction : IsFraction ('.' :: d :: more) :=
      .present (List.cons_ne_nil _ _) hdigits.of_cons.2
    exact .mk (.digits hfirst) hfraction hexponent (.inr (List.cons_ne_nil _ _))

/-- A finite double in documents is a number, maybe with a sign. -/
theorem exists_render_finite (negative : Bool) (m : Nat) (e : Int) :
    ∃ body, render .document (.finite negative m e) = signText negative ++ body ∧
      SpellsDouble body := by
  refine ⟨_, rfl, ?_⟩
  by_cases hm : m = 0
  · rw [if_pos hm]
    have hzero : SpellsDouble "0.0".toList :=
      .mk .zero (.present (List.cons_ne_nil _ _) (areDigits_replicate_zero 1)) .absent
        (.inl (List.cons_ne_nil _ _))
    exact hzero
  · rw [if_neg hm]
    split
    case isTrue => exact spellsDouble_plainText (hasLeadingDigit_shortest hm e)
    case isFalse => exact spellsDouble_scientificText _ (hasLeadingDigit_shortest hm e)

/-- Every double in documents is written in visible characters. -/
theorem isVisible_of_mem_render (x : Binary64) {c : Char} (hmem : c ∈ x.render .document) :
    Text.IsVisible c := by
  cases x with
  | nan => exact Text.isVisible_of_all (by decide) hmem
  | infinite negative =>
    refine Text.isVisible_of_all ?_ hmem
    cases negative <;> decide
  | finite negative m e =>
    obtain ⟨body, hbody, hspells⟩ := exists_render_finite negative m e
    rw [hbody, List.mem_append] at hmem
    rcases hmem with hsign | hmem
    · cases negative with
      | true =>
        obtain rfl := List.mem_singleton.1 hsign
        decide
      | false => cases hsign
    · exact hspells.isVisible_of_mem hmem

end Binary64

namespace Json

/-- Every double is written as a text that is read as a double. -/
theorem exists_reads_render (x : Binary64) : ∃ y, Reads (.double y) (x.render .document) := by
  cases x with
  | nan => exact ⟨.nan, .of_succ ⟨'N', "aN".toList, rfl, by decide, by decide⟩ fun _ _ => rfl⟩
  | infinite negative =>
    cases negative with
    | true =>
      exact ⟨.infinite true,
        .of_succ ⟨'-', "Infinity".toList, rfl, by decide, by decide⟩ fun _ _ => rfl⟩
    | false =>
      exact ⟨.infinite false,
        .of_succ ⟨'I', "nfinity".toList, rfl, by decide, by decide⟩ fun _ _ => rfl⟩
  | finite negative m e =>
    obtain ⟨body, hbody, hspells⟩ := Binary64.exists_render_finite negative m e
    obtain ⟨y, hnumber⟩ := hspells.exists_number negative
    obtain ⟨c, more, hcons, hc⟩ := hspells.exists_digit
    have hfirst : ∃ d tail, signText negative ++ body = d :: tail ∧
        (Numeral.isDigit d = true ∨
          d = '-' ∧ ∃ f after, tail = f :: after ∧ Numeral.isDigit f = true) := by
      cases negative with
      | true => exact ⟨'-', body, rfl, .inr ⟨rfl, c, more, hcons, hc⟩⟩
      | false => exact ⟨c, more, hcons, .inl hc⟩
    obtain ⟨d, tail, htext, hd⟩ := hfirst
    rw [hbody]
    refine ⟨y, .of_succ (htext ▸ beginsValue_of_isWriting (hd.imp_right And.left) tail) ?_⟩
    intro fuel rest _ hrest
    have hd' : Numeral.isDigit d = true ∨
        d = '-' ∧ ∃ f after, tail ++ rest = f :: after ∧ Numeral.isDigit f = true := by
      refine hd.imp_right ?_
      rintro ⟨hsign, f, after, rfl, hf⟩
      exact ⟨hsign, f, after ++ rest, rfl, hf⟩
    have hread := hnumber rest hrest
    rw [← List.append_assoc, htext, List.cons_append] at hread
    rw [htext, List.cons_append, value_eq_number fuel hd', hread]

end Json

end TezosNode
