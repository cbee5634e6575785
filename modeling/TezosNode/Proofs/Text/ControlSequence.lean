import TezosNode.Proofs.Number.Numeral
import TezosNode.Text.ControlSequence
import TezosNode.Text.Quoted

set_option autoImplicit false

/-!
# Text: texts without escape characters

A text without an escape character has no control sequences, so that it goes to a terminal
and to a file as it is.  Numerals and quoted texts never have one, whatever is quoted.
-/

namespace TezosNode.Text

/-- A string without an escape character. -/
def IsEscapeFree (s : String) : Prop := escapeCharacter ∉ s.toList

instance (s : String) : Decidable (IsEscapeFree s) :=
  inferInstanceAs (Decidable (escapeCharacter ∉ s.toList))

/-- Without an escape character there is nothing to drop. -/
theorem dropControlSequences_of_notMem {text : List Char} (h : escapeCharacter ∉ text) :
    dropControlSequences text = text := by
  unfold dropControlSequences
  rw [List.splitOn_eq_singleton h]
  exact List.append_nil text

/-! ## Strings that are put together -/

theorem isEscapeFree_ofList {text : List Char} (h : escapeCharacter ∉ text) :
    IsEscapeFree (String.ofList text) := by
  unfold IsEscapeFree
  rwa [String.toList_ofList]

theorem IsEscapeFree.append {s t : String} (hs : IsEscapeFree s) (ht : IsEscapeFree t) :
    IsEscapeFree (s ++ t) := by
  unfold IsEscapeFree
  rw [String.toList_append, List.mem_append]
  rintro (hmem | hmem)
  · exact hs hmem
  · exact ht hmem

theorem IsEscapeFree.intercalate {mark : String} {parts : List String} (hmark : IsEscapeFree mark)
    (hparts : ∀ s ∈ parts, IsEscapeFree s) : IsEscapeFree (mark.intercalate parts) := by
  induction parts with
  | nil => exact List.not_mem_nil
  | cons s rest ih =>
    have hs := hparts s List.mem_cons_self
    have hrest := ih fun t hmem => hparts t (List.mem_cons_of_mem s hmem)
    cases rest with
    | nil =>
      unfold IsEscapeFree
      rw [String.toList_intercalate]
      simpa [IsEscapeFree] using hs
    | cons t rest =>
      unfold IsEscapeFree at hrest ⊢
      rw [String.toList_intercalate] at hrest ⊢
      simp only [List.map_cons, List.intercalate_cons_cons, List.mem_append] at hrest ⊢
      rintro ((hmem | hmem) | hmem)
      · exact hs hmem
      · exact hmark hmem
      · exact hrest hmem

/-! ## Numerals -/

theorem escape_notMem_toDigits (n : Nat) : escapeCharacter ∉ Nat.toDigits 10 n := by
  intro hmem
  have hdigit := Numeral.areDigits_toDigits n _ hmem
  revert hdigit
  decide

theorem isEscapeFree_int (n : Int) : IsEscapeFree (toString n) := by
  intro hmem
  rcases Numeral.isWriting_of_mem_toString hmem with hdigit | hsign
  · revert hdigit
    decide
  · revert hsign
    decide

theorem isEscapeFree_nat (n : Nat) : IsEscapeFree (toString n) := isEscapeFree_int n

/-! ## Quoted texts -/

theorem escape_notMem_hexDigits (width n : Nat) : escapeCharacter ∉ hexDigits width n := by
  induction width generalizing n with
  | zero => exact List.not_mem_nil
  | succ width ih =>
    have hall : ∀ d < 16, hexDigit d ≠ escapeCharacter := by decide
    unfold hexDigits
    rw [List.mem_append, List.mem_singleton]
    rintro (hmem | hdigit)
    · exact ih _ hmem
    · exact hall (n % 16) (Nat.mod_lt n (by decide)) hdigit.symm

namespace Quoted

/-- Between quotes an escape character is given by its code. -/
theorem escape_notMem_escape {quote : Char} (hquote : quote ≠ escapeCharacter) (c : Char) :
    escapeCharacter ∉ escape quote c := by
  have hcode : ∀ letter : Char, letter ≠ escapeCharacter → ∀ width : Nat,
      escapeCharacter ∉ '\\' :: letter :: hexDigits width c.toNat := by
    intro letter hletter width
    rw [List.mem_cons, List.mem_cons, not_or, not_or]
    exact ⟨by decide, hletter.symm, escape_notMem_hexDigits width c.toNat⟩
  unfold escape
  split
  · rename_i hspecial
    have hc : escapeCharacter ≠ c := by
      rintro rfl
      rcases hspecial with heq | heq
      · exact hquote heq.symm
      · revert heq
        decide
    rw [List.mem_cons, List.mem_singleton, not_or]
    exact ⟨by decide, hc⟩
  · split
    · decide
    · split
      · decide
      · split
        · decide
        · split
          · rename_i hprintable
            rw [List.mem_singleton]
            rintro rfl
            revert hprintable
            decide
          · split
            · exact hcode 'x' (by decide) 2
            · split
              · exact hcode 'u' (by decide) 4
              · exact hcode 'U' (by decide) 8

/-- Quoted texts have no escape characters. -/
theorem escape_notMem_render (text : List Char) : escapeCharacter ∉ render text := by
  have hquote : quoteFor text ≠ escapeCharacter := by
    unfold quoteFor
    split
    · decide
    · decide
  unfold render
  dsimp only
  rw [List.cons_append, List.mem_cons, List.mem_append, List.mem_flatMap, List.mem_singleton]
  rintro (hmem | ⟨c, _, hmem⟩ | hmem)
  · exact hquote hmem.symm
  · exact escape_notMem_escape hquote c hmem
  · exact hquote hmem.symm

theorem isEscapeFree_quote (s : String) : IsEscapeFree (quote s) :=
  isEscapeFree_ofList (escape_notMem_render s.toList)

end Quoted

end TezosNode.Text
