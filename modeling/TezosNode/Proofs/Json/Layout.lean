import TezosNode.Proofs.Json.Integer
import TezosNode.Proofs.Text.Document

set_option autoImplicit false

/-!
# JSON: blanks and empty arrays

A document is one value with blanks around it, and blanks around a value change nothing.
An array is read to be empty only where nothing but blanks stands in its brackets, since
every element that is read is kept.  So a document that is an empty array is made of blanks
and two brackets.
-/

namespace TezosNode.Json

/-! ## Blanks -/

/-- Whether a text is made of blanks. -/
def AreBlanks (text : List Char) : Prop := ∀ c ∈ text, isBlank c = true

theorem exists_of_skipBlanks (text : List Char) :
    ∃ blanks, AreBlanks blanks ∧ text = blanks ++ skipBlanks text :=
  ⟨text.takeWhile isBlank, fun _ hmem => List.mem_takeWhile_imp hmem,
    List.takeWhile_append_dropWhile.symm⟩

theorem skipBlanks_append {blanks : List Char} (hblanks : AreBlanks blanks)
    (text : List Char) : skipBlanks (blanks ++ text) = skipBlanks text :=
  List.dropWhile_append_of_pos hblanks

theorem skipBlanks_eq_nil_iff {text : List Char} : skipBlanks text = [] ↔ AreBlanks text :=
  List.dropWhile_eq_nil_iff

theorem skipBlanks_cons {c : Char} (hc : isBlank c = false) (text : List Char) :
    skipBlanks (c :: text) = c :: text := by
  rw [skipBlanks, List.dropWhile_cons_of_neg (by simp [hc])]

/-! ## Documents -/

/-- A document is a value with blanks before it and after it. -/
theorem exists_of_parse {text : List Char} {v : Json} (hread : parse text = .ok v) :
    ∃ before body after, AreBlanks before ∧ AreBlanks after ∧ text = before ++ body ∧
      value (2 * text.length + 2) body = .ok (v, after) := by
  obtain ⟨before, hbefore, htext⟩ := exists_of_skipBlanks text
  unfold parse readText at hread
  cases hvalue : value (2 * text.length + 2) (skipBlanks text) with
  | error stop =>
    rw [hvalue] at hread
    cases hread
  | ok read =>
    obtain ⟨w, after⟩ := read
    rw [hvalue] at hread
    dsimp only at hread
    split at hread
    case h_1 hafter =>
      obtain rfl := Except.ok.inj hread
      exact ⟨before, skipBlanks text, after, hbefore, skipBlanks_eq_nil_iff.1 hafter, htext,
        hvalue⟩
    case h_2 => cases hread

/-- A value with blanks before it and after it is a document. -/
theorem parse_of_value {before body after : List Char} {v : Json} (hbefore : AreBlanks before)
    (hafter : AreBlanks after) (hfirst : skipBlanks body = body)
    (hvalue : ∀ fuel, value (fuel + 1) body = .ok (v, after)) :
    parse (before ++ body) = .ok v := by
  unfold parse readText
  rw [skipBlanks_append hbefore, hfirst, hvalue]
  dsimp only
  rw [skipBlanks_eq_nil_iff.2 hafter]
  rfl

/-- A text of ASCII without zeros that is written in UTF-8 is read as it is, if there is room for
its parts. -/
theorem decode_encode {text : List Char}
    (hascii : (text.all fun c => 0 < c.toNat && c.toNat < 0x80) = true)
    (hroom : excess? maxDepth text = none) : decode (Text.Utf8.encode text) = parse text := by
  have hbounds : ∀ c ∈ text, 0 < c.toNat ∧ c.toNat < 0x80 := by
    intro c hmem
    simpa using List.all_eq_true.1 hascii c hmem
  exact decode_eq_parse (Text.decodeDocument_encode hbounds) hroom

/-! ## Empty arrays -/

/-- The elements that are read make no empty array. -/
theorem ne_nil_of_elements {fuel : Nat} {read items : List Json} {text rest : List Char}
    (hread : elements fuel read text = .ok (.array items, rest)) : items ≠ [] := by
  induction fuel generalizing read text with
  | zero => cases hread
  | succ fuel ih =>
    cases elementsStep_of_elements hread with
    | last => exact List.reverse_ne_nil_iff.2 (List.cons_ne_nil _ _)
    | next _ _ hmore => exact ih hmore

/-- A value that is an empty array has blanks in its brackets. -/
theorem exists_of_value_empty {fuel : Nat} {text rest : List Char}
    (hread : value fuel text = .ok (.array [], rest)) :
    ∃ within, AreBlanks within ∧ text = '[' :: (within ++ ']' :: rest) := by
  cases fuel with
  | zero => cases hread
  | succ fuel =>
    cases valueStep_of_value hread with
    | object _ hmembers =>
      obtain ⟨fields, hfields⟩ := of_members hmembers
      cases hfields
    | @emptyArray body htext hclosed =>
      obtain ⟨within, hwithin, hbody⟩ := exists_of_skipBlanks body
      rw [hclosed] at hbody
      exact ⟨within, hwithin, by rw [htext, hbody]⟩
    | array _ helements => exact absurd rfl (ne_nil_of_elements helements)
    | scalar hscalar =>
      rcases of_scalar hscalar with hnull | ⟨b, hbool⟩ | hnan | ⟨negative, hinfinite⟩ | hnumber
      · cases hnull
      · cases hbool
      · cases hnan
      · cases hinfinite
      · rcases of_number hnumber with ⟨_, _, _, _, hinteger⟩ | ⟨_, _, _, hdouble⟩
        · cases hinteger
        · cases hdouble

/-- The documents that are an empty array: two brackets with blanks around and between
them. -/
theorem parse_eq_empty_array_iff {text : List Char} :
    parse text = .ok (.array []) ↔
      ∃ before within after, AreBlanks before ∧ AreBlanks within ∧ AreBlanks after ∧
        text = before ++ '[' :: (within ++ ']' :: after) := by
  constructor
  · intro hread
    obtain ⟨before, body, after, hbefore, hafter, rfl, hvalue⟩ := exists_of_parse hread
    obtain ⟨within, hwithin, rfl⟩ := exists_of_value_empty hvalue
    exact ⟨before, within, after, hbefore, hwithin, hafter, rfl⟩
  · rintro ⟨before, within, after, hbefore, hwithin, hafter, rfl⟩
    refine parse_of_value hbefore hafter (skipBlanks_cons (by decide) _) fun fuel => ?_
    simp only [value, skipBlanks_append hwithin, skipBlanks_cons (by decide : isBlank ']' = false)]

end TezosNode.Json
