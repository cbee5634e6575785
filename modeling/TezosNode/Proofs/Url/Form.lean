import TezosNode.Proofs.Url.Reading
import TezosNode.Url.Form

set_option autoImplicit false

/-!
# URL: reading forms

Parameters that were written as a form are read as the same parameters in the same order.
A written key or value has neither of the marks around it, and only characters that a query
keeps, so that it passes through the query of a URL unchanged.
-/

namespace TezosNode.Url

/-! ## Characters of a form -/

/-- The characters of a written key or value. -/
def isWritten (c : Char) : Bool := c = '+' || c = '%' || inForm c

/-- A character in a form. -/
def formChar (c : Char) : List Char :=
  if c = ' ' then ['+'] else if inForm c then [c] else percentChar c

theorem isWritten_of_isEncoding {c : Char} (hc : isEncoding c = true) : isWritten c = true :=
  of_isEncoding (by decide) hc

theorem isWritten_of_mem_formChar {c d : Char} (hmem : d ∈ formChar c) : isWritten d = true := by
  unfold formChar at hmem
  split at hmem
  · obtain rfl := List.mem_singleton.1 hmem
    rfl
  · split at hmem
    case isTrue hform =>
      obtain rfl := List.mem_singleton.1 hmem
      simp [isWritten, hform]
    case isFalse => exact isWritten_of_isEncoding (isEncoding_of_mem_percentChar hmem)

theorem isWritten_of_mem_encodeComponent {s : String} {d : Char} (hmem : d ∈ encodeComponent s) :
    isWritten d = true := by
  obtain ⟨_, _, hd⟩ := List.mem_flatMap.1 hmem
  exact isWritten_of_mem_formChar hd

theorem toNat_lt_of_inForm {c : Char} (hc : inForm c = true) : c.toNat < 0x80 := by
  simp only [inForm, Bool.or_eq_true, decide_eq_true_eq] at hc
  rcases hc with (((halnum | rfl) | rfl) | rfl) | rfl
  · exact toNat_lt_of_isAsciiAlnum halnum
  all_goals decide

theorem toNat_lt_of_isWritten {c : Char} (hc : isWritten c = true) : c.toNat < 0x80 := by
  simp only [isWritten, Bool.or_eq_true, decide_eq_true_eq] at hc
  rcases hc with (rfl | rfl) | hform
  · decide
  · decide
  · exact toNat_lt_of_inForm hform

/-- A query keeps a written character, and it is no mark between keys and values. -/
theorem of_isWritten {c : Char} (hc : isWritten c = true) :
    inQuery c = true ∧ c ≠ '&' ∧ c ≠ '=' := by
  have hall : ∀ n < 0x80, isWritten (Char.ofNat n) = true →
      inQuery (Char.ofNat n) = true ∧ Char.ofNat n ≠ '&' ∧ Char.ofNat n ≠ '=' := by decide +kernel
  have hascii := toNat_lt_of_isWritten hc
  revert hc
  exact Char.of_ascii (P := fun c => isWritten c = true → inQuery c = true ∧ c ≠ '&' ∧ c ≠ '=')
    hall hascii

/-! ## Keys and values -/

/-- What reading a form makes of a character before it decodes the encoded octets. -/
def spaceOfPlus (c : Char) : Char := if c = '+' then ' ' else c

theorem spaceOfPlus_of_ne {c : Char} (hc : c ≠ '+') : spaceOfPlus c = c := if_neg hc

/-- A written character is read as the octets of the character. -/
theorem percentOctetsFrom_formChar (read : Bytes) (rest : List Char) (c : Char) :
    percentOctetsFrom read 0 ((formChar c).map spaceOfPlus ++ rest) =
      percentOctetsFrom ((String.utf8EncodeChar c).reverse ++ read) 0 rest := by
  unfold formChar
  split
  case isTrue hspace =>
    subst hspace
    exact percentOctetsFrom_of_ne read rest (by decide)
  case isFalse =>
    split
    case isTrue hform =>
      have hplus : c ≠ '+' := fun heq => by rw [heq] at hform; revert hform; decide
      have hpercent : c ≠ '%' := fun heq => by rw [heq] at hform; revert hform; decide
      rw [List.map_singleton, spaceOfPlus_of_ne hplus]
      exact percentOctetsFrom_of_ne read rest hpercent
    case isFalse =>
      have hsame : (percentChar c).map spaceOfPlus = percentChar c :=
        List.map_congr_left (fun d hmem => spaceOfPlus_of_ne fun heq => by
          have hd := isEncoding_of_mem_percentChar hmem
          rw [heq] at hd
          revert hd
          decide) |>.trans (List.map_id _)
      rw [hsame, percentOctetsFrom_percentChar]

/-- A written text is read as its octets. -/
theorem percentOctetsFrom_flatMap_formChar (read : Bytes) (chars : List Char) :
    percentOctetsFrom read 0 ((chars.flatMap formChar).map spaceOfPlus) =
      read.reverse ++ Text.Utf8.encode chars := by
  induction chars generalizing read with
  | nil => rw [List.flatMap_nil, List.map_nil, percentOctetsFrom]; simp [Text.Utf8.encode]
  | cons c chars ih =>
    rw [List.flatMap_cons, List.map_append, percentOctetsFrom_formChar, ih, List.reverse_append,
      List.reverse_reverse, List.append_assoc]
    rfl

/-- A key or a value is read as it was before it was written. -/
theorem decodeComponent_encodeComponent (s : String) : decodeComponent (encodeComponent s) = s := by
  have hoctets : percentOctets ((s.toList.flatMap formChar).map spaceOfPlus) =
      Text.Utf8.encode s.toList :=
    percentOctetsFrom_flatMap_formChar [] s.toList
  change String.ofList (Text.Utf8.decodeLossy
    (percentOctets ((s.toList.flatMap formChar).map spaceOfPlus))) = s
  rw [hoctets, Text.Utf8.decodeLossy_encode, String.ofList_toList]

/-! ## Parameters -/

/-- A parameter is read as it was before it was written. -/
theorem decodeParam_encodeParam (p : Param) : decodeParam (encodeParam p) = p := by
  have hkey : ∀ c ∈ encodeComponent p.1, (c != '=') = true := fun c hmem =>
    bne_iff_ne.2 (of_isWritten (isWritten_of_mem_encodeComponent hmem)).2.2
  rw [decodeParam, encodeParam, List.takeWhile_append_of_pos hkey, List.dropWhile_append_of_pos hkey,
    List.takeWhile_cons_of_neg (by decide), List.dropWhile_cons_of_neg (by decide), List.append_nil,
    List.drop_one, List.tail_cons, decodeComponent_encodeComponent, decodeComponent_encodeComponent]

/-- A written parameter has written characters around its mark. -/
theorem eq_or_isWritten_of_mem_encodeParam {p : Param} {c : Char} (hmem : c ∈ encodeParam p) :
    c = '=' ∨ isWritten c = true := by
  rcases List.mem_append.1 hmem with hkey | hvalue
  · exact .inr (isWritten_of_mem_encodeComponent hkey)
  · exact (List.mem_cons.1 hvalue).imp_right isWritten_of_mem_encodeComponent

theorem not_mem_encodeParam (p : Param) : '&' ∉ encodeParam p := by
  intro hmem
  rcases eq_or_isWritten_of_mem_encodeParam hmem with hmark | hwritten
  · exact absurd hmark (by decide)
  · exact (of_isWritten hwritten).2.1 rfl

/-- Parameters are read as they were before they were written. -/
theorem decodeParams_encodeParams (params : List Param) :
    decodeParams (encodeParams params) = params := by
  by_cases hnil : params = []
  · subst hnil
    rfl
  have hsplit : (encodeParams params).splitOn '&' = params.map encodeParam := by
    refine List.splitOn_intercalate '&' ?_ (by simpa using hnil)
    rintro _ hmem
    obtain ⟨p, _, rfl⟩ := List.mem_map.1 hmem
    exact not_mem_encodeParam p
  have hwritten : (params.map encodeParam).filter (!·.isEmpty) = params.map encodeParam := by
    refine List.filter_eq_self.2 fun _ hmem => ?_
    obtain ⟨p, _, rfl⟩ := List.mem_map.1 hmem
    simp [encodeParam]
  rw [decodeParams, hsplit, hwritten, List.map_map]
  exact List.map_id'' decodeParam_encodeParam params

/-- The query of a URL keeps written parameters as they are. -/
theorem percentEncode_encodeParams (params : List Param) :
    percentEncode inQuery (encodeParams params) = encodeParams params := by
  refine percentEncode_of_forall fun c hmem => ?_
  rcases eq_or_mem_of_mem_intercalate hmem with rfl | ⟨_, htext, hmem⟩
  · rfl
  obtain ⟨p, _, rfl⟩ := List.mem_map.1 htext
  rcases eq_or_isWritten_of_mem_encodeParam hmem with rfl | hwritten
  · rfl
  · exact (of_isWritten hwritten).1

/-! ## Lengths -/

theorem length_le_encodeComponent (s : String) : s.length ≤ (encodeComponent s).length := by
  have hchar : ∀ c, 1 ≤ (formChar c).length := by
    intro c
    unfold formChar
    split
    · exact Nat.le_refl 1
    split
    · exact Nat.le_refl 1
    · obtain ⟨rest, hrest⟩ := exists_percentChar c
      rw [hrest]
      exact Nat.le_add_left 1 rest.length
  have hchars : ∀ chars : List Char, chars.length ≤ (chars.flatMap formChar).length := by
    intro chars
    induction chars with
    | nil => exact Nat.le_refl 0
    | cons c chars ih =>
      rw [List.flatMap_cons, List.length_append, List.length_cons, Nat.add_comm]
      exact Nat.add_le_add (hchar c) ih
  exact hchars s.toList

theorem length_le_encodeParam (p : Param) : p.1.length + p.2.length < (encodeParam p).length := by
  have hkey := length_le_encodeComponent p.1
  have hvalue := length_le_encodeComponent p.2
  rw [encodeParam, List.length_append, List.length_cons]
  omega

theorem length_le_intercalate {mark : Char} {texts : List (List Char)} {text : List Char}
    (hmem : text ∈ texts) : text.length ≤ ([mark].intercalate texts).length := by
  induction texts with
  | nil => cases hmem
  | cons first texts ih =>
    cases texts with
    | nil =>
      obtain rfl := List.mem_singleton.1 hmem
      exact Nat.le_of_eq (congrArg List.length List.intercalate_singleton.symm)
    | cons next texts =>
      rw [List.intercalate_cons_cons, List.length_append, List.length_append]
      rcases List.mem_cons.1 hmem with rfl | hmem
      · omega
      · have hrest := ih hmem
        omega

/-- A form is longer than each key and value in it. -/
theorem length_lt_encodeParams {params : List Param} {p : Param} (hmem : p ∈ params) :
    p.1.length + p.2.length < (encodeParams params).length :=
  Nat.lt_of_lt_of_le (length_le_encodeParam p)
    (length_le_intercalate (List.mem_map_of_mem hmem))

end TezosNode.Url
