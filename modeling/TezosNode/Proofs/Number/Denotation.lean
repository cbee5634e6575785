import Mathlib.Data.Nat.Digits.Defs
import TezosNode.Proofs.Number.Numeral
import TezosNode.Proofs.Text.Utf8

set_option autoImplicit false

/-!
# Number: what numerals denote

A numeral is digits of any script, with at most one underscore between two of them, after a
sign or none and with blanks around it; the number that it denotes is the value of its
digits in their places.  This is said here apart from the reader.  What the reader makes of a
text is the number that the text denotes.
-/

namespace TezosNode.Numeral

/-! ## Numerals -/

/-- Digits with their values, and at most one underscore between two of them. -/
inductive SpellsDigits : List Char → List Nat → Prop
  | last {c : Char} {v : Nat} (hc : Text.digitValue? c = some v) : SpellsDigits [c] [v]
  | more {c : Char} {v : Nat} {gap text : List Char} {values : List Nat}
      (hc : Text.digitValue? c = some v) (hgap : gap = [] ∨ gap = ['_'])
      (htext : SpellsDigits text values) : SpellsDigits (c :: (gap ++ text)) (v :: values)

/-- A sign, and whether it is that of a negative number. -/
inductive IsSign : List Char → Bool → Prop
  | none : IsSign [] false
  | plus : IsSign ['+'] false
  | minus : IsSign ['-'] true

/-- The integer that a numeral denotes. -/
inductive Denotes : List Char → Int → Prop
  | intro {before sign digits after : List Char} {negative : Bool} {values : List Nat}
      (hbefore : ∀ c ∈ before, isOuterBlank c = true)
      (hsign : IsSign sign negative) (hdigits : SpellsDigits digits values)
      (hafter : ∀ c ∈ after, isOuterBlank c = true) :
      Denotes (before ++ (sign ++ digits) ++ after)
        (if negative = true then -((Nat.ofDigits 10 values.reverse : Nat) : Int)
          else (Nat.ofDigits 10 values.reverse : Nat))

/-! ## Digits of any script -/

theorem lt_ten_of_digitValue? {c : Char} {v : Nat} (hc : Text.digitValue? c = some v) : v < 10 := by
  unfold Text.digitValue? at hc
  split at hc
  · split at hc
    · obtain rfl := Option.some.inj hc
      omega
    · cases hc
  · obtain ⟨z, hfound, rfl⟩ := Option.map_eq_some_iff.1 hc
    have hz := List.find?_some hfound
    simp only [Bool.and_eq_true, decide_eq_true_eq] at hz
    omega

theorem toNat_digit {v : Nat} (hv : v < 10) : (Char.ofNat (0x30 + v)).toNat = 0x30 + v :=
  Char.toNat_ofNat (.inl (by omega))

theorem asciiDigit_of_digitValue? {c : Char} {v : Nat} (hc : Text.digitValue? c = some v) :
    asciiDigit c = Char.ofNat (0x30 + v) := by
  rw [asciiDigit, hc]

/-- A digit becomes a digit of ASCII. -/
theorem isDigit_asciiDigit {c : Char} {v : Nat} (hc : Text.digitValue? c = some v) :
    isDigit (asciiDigit c) = true := by
  have hv := lt_ten_of_digitValue? hc
  rw [asciiDigit_of_digitValue? hc, isDigit, toNat_digit hv]
  simp only [Bool.and_eq_true, decide_eq_true_eq]
  omega

theorem asciiDigit_ne_underscore {c : Char} {v : Nat} (hc : Text.digitValue? c = some v) :
    asciiDigit c ≠ '_' := by
  intro heq
  have hdigit := isDigit_asciiDigit hc
  rw [heq] at hdigit
  exact absurd hdigit (by decide)

/-- What becomes a digit of ASCII is a digit. -/
theorem exists_digitValue? {c : Char} (hc : isDigit (asciiDigit c) = true) :
    ∃ v, Text.digitValue? c = some v := by
  cases hvalue : Text.digitValue? c with
  | some v => exact ⟨v, rfl⟩
  | none =>
    rw [asciiDigit, hvalue] at hc
    dsimp only at hc
    simp only [isDigit, Bool.and_eq_true, decide_eq_true_eq] at hc
    rw [Text.digitValue?, if_pos (by omega), if_pos hc] at hvalue
    cases hvalue

/-- What becomes another character than a digit is that character. -/
theorem eq_of_asciiDigit {c d : Char} (hc : asciiDigit c = d) (hd : isDigit d = false) :
    c = d := by
  cases hvalue : Text.digitValue? c with
  | none =>
    rw [asciiDigit, hvalue] at hc
    exact hc
  | some v =>
    rw [← hc, isDigit_asciiDigit hvalue] at hd
    cases hd

/-! ## Digits in groups -/

/-- What is left of a character that is grouped after another. -/
theorem of_groupedAfter_cons {previous c : Char} {text : List Char}
    (hgrouped : groupedAfter previous (c :: text) = true) :
    groupedAfter c text = true ∧ (c = '_' → isDigit previous = true) ∧
      (previous = '_' → isDigit c = true) := by
  unfold groupedAfter at hgrouped
  split at hgrouped
  case isTrue hc =>
    obtain ⟨hprevious, htext⟩ := Bool.and_eq_true_iff.1 hgrouped
    refine ⟨htext, fun _ => hprevious, ?_⟩
    rintro rfl
    exact absurd hprevious (by decide)
  case isFalse hc =>
    obtain ⟨hdigit, htext⟩ := Bool.and_eq_true_iff.1 hgrouped
    refine ⟨htext, fun heq => absurd heq hc, ?_⟩
    rintro rfl
    simpa using hdigit

/-- Digits and underscores that are grouped after a digit spell digits with it. -/
theorem exists_spellsDigits {c : Char} {v : Nat} (hc : Text.digitValue? c = some v) :
    (text : List Char) →
    (∀ d ∈ text, isDigit (asciiDigit d) = true ∨ d = '_') →
    groupedAfter (asciiDigit c) (text.map asciiDigit) = true →
    ∃ values, SpellsDigits (c :: text) values
  | [], _, _ => ⟨[v], .last hc⟩
  | [d], hall, hgrouped => by
    obtain ⟨hlast, -, -⟩ := of_groupedAfter_cons hgrouped
    rcases hall d List.mem_cons_self with hdigit | rfl
    · obtain ⟨w, hd⟩ := exists_digitValue? hdigit
      exact ⟨[v, w], .more hc (.inl rfl) (.last hd)⟩
    · cases hlast
  | d :: e :: text, hall, hgrouped => by
    obtain ⟨hd, hrest⟩ := List.forall_mem_cons.1 hall
    obtain ⟨htail, -, -⟩ := of_groupedAfter_cons hgrouped
    rcases hd with hdigit | rfl
    · obtain ⟨w, hd⟩ := exists_digitValue? hdigit
      obtain ⟨values, hvalues⟩ := exists_spellsDigits hd (e :: text) hrest htail
      exact ⟨v :: values, .more hc (.inl rfl) hvalues⟩
    · -- After an underscore there is a digit.
      obtain ⟨htail', -, hdigit⟩ := of_groupedAfter_cons htail
      obtain ⟨w, he⟩ := exists_digitValue? (hdigit rfl)
      obtain ⟨values, hvalues⟩ :=
        exists_spellsDigits he text (List.forall_mem_cons.1 hrest).2 htail'
      exact ⟨v :: values, .more hc (.inr rfl) hvalues⟩

/-- Digits become digits of ASCII with the same values. -/
theorem ungroup_of_spellsDigits {text : List Char} {values : List Nat}
    (htext : SpellsDigits text values) :
    (∀ v ∈ values, v < 10) ∧
      ungroup (text.map asciiDigit) = values.map fun v => Char.ofNat (0x30 + v) := by
  have hdigit : ∀ {c v}, Text.digitValue? c = some v → v < 10 ∧
      ungroup [asciiDigit c] = [Char.ofNat (0x30 + v)] := by
    intro c v hc
    have hv := lt_ten_of_digitValue? hc
    have hne := asciiDigit_ne_underscore hc
    refine ⟨hv, ?_⟩
    rw [ungroup, List.filter_cons_of_pos (by simpa using hne), asciiDigit_of_digitValue? hc]
    rfl
  induction htext with
  | last hc =>
    obtain ⟨hv, hread⟩ := hdigit hc
    exact ⟨by simpa using hv, hread⟩
  | @more c v gap text values hc hgap htext ih =>
    obtain ⟨hv, hread⟩ := hdigit hc
    have hskip : ungroup (gap.map asciiDigit) = [] := by
      rcases hgap with rfl | rfl <;> rfl
    refine ⟨List.forall_mem_cons.2 ⟨hv, ih.1⟩, ?_⟩
    have hcons : ungroup ((c :: (gap ++ text)).map asciiDigit) =
        ungroup [asciiDigit c] ++
          (ungroup (gap.map asciiDigit) ++ ungroup (text.map asciiDigit)) := by
      simp only [ungroup, ← List.filter_append, List.map_cons, List.map_append,
        List.singleton_append]
    rw [hcons, hread, hskip, ih.2]
    rfl

/-- What is read of digits is their value in their places. -/
theorem ofDigits_of_spellsDigits {text : List Char} {values : List Nat}
    (htext : SpellsDigits text values) :
    ofDigits (ungroup (text.map asciiDigit)) = Nat.ofDigits 10 values.reverse := by
  obtain ⟨hbound, hread⟩ := ungroup_of_spellsDigits htext
  have hfold : ∀ (values : List Nat) (start : Nat), (∀ v ∈ values, v < 10) →
      values.foldl (fun n v => 10 * n + ((Char.ofNat (0x30 + v)).toNat - 0x30)) start =
        values.foldl (fun n v => v + 10 * n) start := by
    intro values
    induction values with
    | nil => exact fun _ _ => rfl
    | cons v values ih =>
      intro start hvalues
      obtain ⟨hv, hrest⟩ := List.forall_mem_cons.1 hvalues
      rw [List.foldl_cons, List.foldl_cons, ih _ hrest, toNat_digit hv, Nat.add_sub_cancel_left,
        Nat.add_comm]
  rw [hread, ofDigits, List.foldl_map, hfold values 0 hbound, Nat.ofDigits_eq_foldr,
    List.foldr_reverse]
  rfl

/-! ## Texts -/

/-- A text is what is left of it with the characters that were dropped at its ends. -/
theorem exists_of_strip (p : Char → Bool) (text : List Char) :
    ∃ before after, (∀ c ∈ before, p c = true) ∧ (∀ c ∈ after, p c = true) ∧
      text = before ++ Text.strip p text ++ after := by
  refine ⟨text.takeWhile p, ((text.dropWhile p).reverse.takeWhile p).reverse,
    fun _ hmem => List.mem_takeWhile_imp hmem,
    fun _ hmem => List.mem_takeWhile_imp (List.mem_reverse.1 hmem), ?_⟩
  have hend : text.dropWhile p =
      Text.strip p text ++ ((text.dropWhile p).reverse.takeWhile p).reverse := by
    rw [Text.strip, Text.dropEndWhile, ← List.reverse_append, List.takeWhile_append_dropWhile,
      List.reverse_reverse]
  rw [List.append_assoc, ← hend, List.takeWhile_append_dropWhile]

/-- A sign is split off a text as it stands there. -/
theorem exists_of_splitSign {text body : List Char} {negative : Bool}
    (hsign : splitSign (text.map asciiDigit) = (negative, body)) :
    ∃ sign rest, text = sign ++ rest ∧ IsSign sign negative ∧ body = rest.map asciiDigit := by
  unfold splitSign at hsign
  split at hsign
  case h_1 tail heq =>
    obtain ⟨c, rest, rfl, hc, rfl⟩ := List.map_eq_cons_iff.1 heq
    obtain ⟨rfl, rfl⟩ := Prod.mk.inj hsign
    obtain rfl := eq_of_asciiDigit hc (by decide)
    exact ⟨['-'], rest, rfl, .minus, rfl⟩
  case h_2 tail heq =>
    obtain ⟨c, rest, rfl, hc, rfl⟩ := List.map_eq_cons_iff.1 heq
    obtain ⟨rfl, rfl⟩ := Prod.mk.inj hsign
    obtain rfl := eq_of_asciiDigit hc (by decide)
    exact ⟨['+'], rest, rfl, .plus, rfl⟩
  case h_3 =>
    obtain ⟨rfl, rfl⟩ := Prod.mk.inj hsign
    exact ⟨[], text, rfl, .none, rfl⟩

/-- What is read of a text is the integer that the text denotes. -/
theorem denotes_of_integer {text : List Char} {n : Int} (hread : integer text = .ok n) :
    Denotes text n := by
  obtain ⟨before, after, hbefore, hafter, htext⟩ := exists_of_strip isOuterBlank text
  rcases hsplit : splitSign (plain text) with ⟨negative, body⟩
  obtain ⟨sign, digits, hstrip, hsign, rfl⟩ := exists_of_splitSign hsplit
  simp only [integer, hsplit] at hread
  split at hread
  · cases hread
  case isFalse hformed =>
  split at hread
  · cases hread
  split at hread
  · cases hread
  case isFalse hwhole =>
  rw [Bool.not_eq_true, Bool.not_eq_false', List.isEmpty_iff] at hwhole
  have hshown : (digits.map asciiDigit).takeWhile (fun c => isDigit c || c == '_') =
      digits.map asciiDigit :=
    List.takeWhile_eq_self_iff.2 (List.dropWhile_eq_nil_iff.1 hwhole)
  have hall : ∀ d ∈ digits, isDigit (asciiDigit d) = true ∨ d = '_' := by
    intro d hmem
    have hd := List.dropWhile_eq_nil_iff.1 hwhole _ (List.mem_map_of_mem hmem)
    rcases Bool.or_eq_true_iff.1 hd with hdigit | hunderscore
    · exact .inl hdigit
    · exact .inr (eq_of_asciiDigit (beq_iff_eq.1 hunderscore) (by decide))
  rw [hshown] at hread hformed
  rw [Bool.or_eq_true, not_or, Bool.not_eq_true, Bool.not_eq_true, Bool.not_eq_false',
    List.isEmpty_eq_false_iff] at hformed
  obtain ⟨hsome, hgrouped⟩ := hformed
  cases digits with
  | nil => exact absurd rfl hsome
  | cons c digits =>
    -- What is grouped begins with a digit.
    obtain ⟨hrest, hfirst, -⟩ := of_groupedAfter_cons hgrouped
    obtain ⟨hc, hdigits⟩ := List.forall_mem_cons.1 hall
    have hc : isDigit (asciiDigit c) = true := by
      rcases hc with hdigit | rfl
      · exact hdigit
      · exact absurd (hfirst rfl) (by decide)
    obtain ⟨v, hv⟩ := exists_digitValue? hc
    obtain ⟨values, hvalues⟩ := exists_spellsDigits hv digits hdigits hrest
    rw [ofDigits_of_spellsDigits hvalues] at hread
    obtain rfl := Except.ok.inj hread
    rw [htext, hstrip]
    exact .intro hbefore hsign hvalues hafter

/-! ## Numerals between blanks -/

/-- Characters of a class are dropped at the ends of a text that has none. -/
theorem strip_append {p : Char → Bool} {before text after : List Char}
    (hbefore : ∀ c ∈ before, p c = true) (htext : ∀ c ∈ text, p c = false)
    (hafter : ∀ c ∈ after, p c = true) : Text.strip p (before ++ text ++ after) = text := by
  unfold Text.strip Text.dropEndWhile
  rw [List.append_assoc, List.dropWhile_append_of_pos hbefore]
  cases text with
  | nil =>
    rw [List.nil_append, List.dropWhile_eq_nil_iff.2 hafter]
    rfl
  | cons c text =>
    have hlast : ((c :: text).reverse).dropWhile p = (c :: text).reverse := by
      obtain ⟨d, more, hreverse⟩ :=
        List.exists_cons_of_ne_nil (List.reverse_ne_nil_iff.2 (List.cons_ne_nil c text))
      have hd : d ∈ c :: text := by
        rw [← List.mem_reverse, hreverse]
        exact List.mem_cons_self
      rw [hreverse, List.dropWhile_cons_of_neg (by simp [htext d hd])]
    rw [List.cons_append, List.dropWhile_cons_of_neg (by simp [htext c List.mem_cons_self]),
      ← List.cons_append, List.reverse_append,
      List.dropWhile_append_of_pos fun d hmem => hafter d (List.mem_reverse.1 hmem), hlast,
      List.reverse_reverse]

end TezosNode.Numeral
