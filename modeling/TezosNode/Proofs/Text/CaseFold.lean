import Mathlib.Data.List.Basic
import TezosNode.Proofs.Url.Percent
import TezosNode.Text.CaseFold

set_option autoImplicit false

/-!
# Text: words in capitals

A word is put in capitals character by character, as it is folded.  Where the folding is a
word of small letters, both ways agree, but for two characters that are capitals themselves
and have a folding in ASCII all the same: the kelvin sign and the capital sharp s.
-/

namespace TezosNode.Text

/-- The characters beyond ASCII whose capitals are in ASCII, with them. -/
def asciiCapitals : List (Char × String) :=
  [('\u00df', "SS"), ('\u0131', "I"), ('\u017f', "S"), ('\ufb00', "FF"), ('\ufb01', "FI"),
    ('\ufb02', "FL"), ('\ufb03', "FFI"), ('\ufb04', "FFL"), ('\ufb05', "ST"), ('\ufb06', "ST")]

/-- The capitals of a character, as far as they are in ASCII. -/
def upperChar (c : Char) : List Char :=
  match asciiCapitals.find? fun f => f.1 == c with
  | some f => f.2.toList
  | none => [c.toUpper]

/-- A word in capitals. -/
def upperCase (word : String) : String := String.ofList (word.toList.flatMap upperChar)

/-- A character that is a small letter of ASCII in lower case is in ASCII itself. -/
theorem toNat_lt_of_isLower_toLower {c : Char} (hc : c.toLower.isLower = true) :
    c.toNat < 0x80 := by
  delta Char.toLower at hc
  split at hc
  · rename_i hcapital
    have hle : c.toNat ≤ 'Z'.toNat := UInt32.le_iff_toNat_le.1 hcapital.2
    exact Nat.lt_of_le_of_lt hle (by decide)
  · have halpha : c.isAlpha = true := by
      delta Char.isAlpha
      rw [hc, Bool.or_true]
    apply Url.toNat_lt_of_isAsciiAlnum
    rw [Url.isAsciiAlnum, halpha, Bool.true_or]

/-- A character that folds to small letters has the capitals of these letters, unless it is a
capital beyond ASCII. -/
theorem upperChar_of_foldChar {c : Char} (hletters : ∀ d ∈ foldChar c, d.isLower = true)
    (hsharp : c ≠ '\u1e9e') (hkelvin : c ≠ '\u212a') :
    upperChar c = (foldChar c).map Char.toUpper := by
  have htable : ∀ f ∈ asciiFoldings, f.1 ≠ '\u1e9e' → f.1 ≠ '\u212a' →
      upperChar f.1 = (foldChar f.1).map Char.toUpper := by
    decide +kernel
  have hascii : ∀ n < 0x80, upperChar (Char.ofNat n) = [(Char.ofNat n).toLower.toUpper] := by
    decide +kernel
  cases hfind : asciiFoldings.find? fun f => f.1 == c with
  | some f =>
    have hc : f.1 = c := by simpa using List.find?_some hfind
    have hcapitals := htable f (List.mem_of_find?_eq_some hfind)
    rw [hc] at hcapitals
    exact hcapitals hsharp hkelvin
  | none =>
    have hfold : foldChar c = [c.toLower] := by
      unfold foldChar
      rw [hfind]
    rw [hfold] at hletters ⊢
    have hlower := hletters c.toLower List.mem_cons_self
    exact Char.of_ascii (P := fun c => upperChar c = [c.toLower.toUpper]) hascii
      (toNat_lt_of_isLower_toLower hlower)

/-- A word that folds to small letters is these in capitals, if no character of the word can
be one of the two capitals beyond ASCII. -/
theorem upperCase_of_foldCase {word small : String} (hfold : foldCase word = small)
    (hletters : small.toList.all Char.isLower = true) (hsharp : ¬['s', 's'] <:+: small.toList)
    (hkelvin : ¬['k'] <:+: small.toList) :
    upperCase word = String.ofList (small.toList.map Char.toUpper) := by
  subst hfold
  unfold foldCase at hletters hsharp hkelvin ⊢
  rw [String.toList_ofList] at hletters hsharp hkelvin ⊢
  have hpart : ∀ c ∈ word.toList, foldChar c <:+: word.toList.flatMap foldChar := by
    intro c hmem
    rw [List.flatMap_def]
    exact List.infix_of_mem_flatten (List.mem_map_of_mem hmem)
  have hall : ∀ c ∈ word.toList, upperChar c = (foldChar c).map Char.toUpper := by
    intro c hmem
    apply upperChar_of_foldChar
    · intro d hd
      exact List.all_eq_true.1 hletters d (List.mem_flatMap.2 ⟨c, hmem, hd⟩)
    · rintro rfl
      exact hsharp (hpart _ hmem)
    · rintro rfl
      exact hkelvin (hpart _ hmem)
  unfold upperCase
  rw [List.flatMap_congr hall, List.map_flatMap]

end TezosNode.Text
