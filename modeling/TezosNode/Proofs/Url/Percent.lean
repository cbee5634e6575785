import TezosNode.Proofs.Text.Utf8
import TezosNode.Url.Percent

set_option autoImplicit false

/-!
# URL: reading percent encodings

An encoded octet is read as that octet, and a character that was written either as itself
or in encoded octets is read as its octets of UTF-8.  The characters of an encoding are
few, so that what an encoding can hold is known without looking at what was encoded.

Every text is read from its start: encoded octets as themselves, characters as their octets.
Encoding a path does not change how it is read, since a path keeps `%` and all digits.
-/

namespace TezosNode.Url

/-- A letter or digit of ASCII is a character of ASCII. -/
theorem toNat_lt_of_isAsciiAlnum {c : Char} (hc : isAsciiAlnum c = true) : c.toNat < 0x80 := by
  delta isAsciiAlnum Char.isAlpha Char.isUpper Char.isLower Char.isDigit at hc
  simp only [Bool.or_eq_true, Bool.and_eq_true, decide_eq_true_eq, UInt32.le_iff_toNat_le,
    ge_iff_le] at hc
  change c.val.toNat < 0x80
  have hupper : 'Z'.val.toNat = 90 := rfl
  have hlower : 'z'.val.toNat = 122 := rfl
  have hdigit : '9'.val.toNat = 57 := rfl
  omega

/-! ## Digits -/

/-- A digit is read as the number that it was written for. -/
theorem hexValue?_upperHexDigit {n : Nat} (hn : n < 16) :
    Text.hexValue? (Text.upperHexDigit n) = some n := by
  have hall : ∀ n < 16, Text.hexValue? (Text.upperHexDigit n) = some n := by decide
  exact hall n hn

/-- The two digits of an octet are read as that octet. -/
theorem hexNumber?_octet (b : UInt8) :
    Text.hexNumber? [Text.upperHexDigit (b.toNat / 16), Text.upperHexDigit (b.toNat % 16)] =
      some b.toNat := by
  have hb : b.toNat < 256 := b.toNat_lt
  simp only [Text.hexNumber?, List.foldl_cons, List.foldl_nil, Option.bind_some,
    hexValue?_upperHexDigit (show b.toNat / 16 < 16 by omega),
    hexValue?_upperHexDigit (show b.toNat % 16 < 16 by omega), Option.map_some, Option.some.injEq]
  omega

/-! ## Reading -/

section Reading

variable (read : Bytes) (rest : List Char)

/-- An encoded octet is read as that octet. -/
theorem percentOctetsFrom_percentOctet (b : UInt8) :
    percentOctetsFrom read 0 (percentOctet b ++ rest) = percentOctetsFrom (b :: read) 0 rest := by
  change percentOctetsFrom read 0 ('%' :: Text.upperHexDigit (b.toNat / 16) ::
    Text.upperHexDigit (b.toNat % 16) :: rest) = _
  rw [percentOctetsFrom, hexNumber?_octet]
  dsimp only
  rw [UInt8.ofNat_toNat]
  rfl

/-- A character that begins no encoding is read as its octets. -/
theorem percentOctetsFrom_of_ne {c : Char} (hc : c ≠ '%') :
    percentOctetsFrom read 0 (c :: rest) =
      percentOctetsFrom ((String.utf8EncodeChar c).reverse ++ read) 0 rest := by
  rw [percentOctetsFrom]
  exact fun _ _ _ hpercent => absurd hpercent hc

/-- Encoded octets are read as those octets. -/
theorem percentOctetsFrom_flatMap (octets : Bytes) :
    percentOctetsFrom read 0 (octets.flatMap percentOctet ++ rest) =
      percentOctetsFrom (octets.reverse ++ read) 0 rest := by
  induction octets generalizing read with
  | nil => rfl
  | cons b octets ih =>
    rw [List.flatMap_cons, List.append_assoc, percentOctetsFrom_percentOctet, ih,
      List.reverse_cons, List.append_assoc]
    rfl

/-- An encoded character is read as its octets. -/
theorem percentOctetsFrom_percentChar (c : Char) :
    percentOctetsFrom read 0 (percentChar c ++ rest) =
      percentOctetsFrom ((String.utf8EncodeChar c).reverse ++ read) 0 rest :=
  percentOctetsFrom_flatMap read rest (String.utf8EncodeChar c)

end Reading

/-! ## What encodings hold -/

/-- The characters of encoded octets. -/
def isEncoding (c : Char) : Bool := "%0123456789ABCDEF".toList.contains c

/-- What holds of the few characters of encoded octets holds of each. -/
theorem of_isEncoding {p : Char → Bool} (hall : "%0123456789ABCDEF".toList.all p = true) {c : Char}
    (hc : isEncoding c = true) : p c = true :=
  List.all_eq_true.1 hall c (List.contains_iff_mem.1 hc)

theorem isEncoding_upperHexDigit {n : Nat} (hn : n < 16) :
    isEncoding (Text.upperHexDigit n) = true := by
  have hall : ∀ n < 16, isEncoding (Text.upperHexDigit n) = true := by decide
  exact hall n hn

theorem isEncoding_of_mem_percentChar {c d : Char} (hmem : d ∈ percentChar c) :
    isEncoding d = true := by
  obtain ⟨b, _, hd⟩ := List.mem_flatMap.1 hmem
  have hb : b.toNat < 256 := b.toNat_lt
  simp only [percentOctet, List.mem_cons, List.not_mem_nil, or_false] at hd
  rcases hd with rfl | rfl | rfl
  · decide
  · exact isEncoding_upperHexDigit (by omega)
  · exact isEncoding_upperHexDigit (by omega)

/-- An encoded character begins with `%`. -/
theorem exists_percentChar (c : Char) : ∃ rest, percentChar c = '%' :: rest := by
  obtain ⟨b, octets, hoctets⟩ : ∃ b octets, String.utf8EncodeChar c = b :: octets :=
    List.exists_cons_of_ne_nil (String.utf8EncodeChar_ne_nil)
  rw [percentChar, hoctets, List.flatMap_cons]
  exact ⟨_, rfl⟩

/-! ## What encoding keeps -/

section Keeping

variable {keeps : Char → Bool} {text : List Char}

theorem percentEncode_cons (keeps : Char → Bool) (c : Char) (text : List Char) :
    percentEncode keeps (c :: text) =
      (if keeps c then [c] else percentChar c) ++ percentEncode keeps text :=
  List.flatMap_cons

/-- A character of an encoded text is one that is kept or belongs to an encoding. -/
theorem keeps_or_isEncoding {c : Char} (hmem : c ∈ percentEncode keeps text) :
    keeps c = true ∨ isEncoding c = true := by
  obtain ⟨d, _, hc⟩ := List.mem_flatMap.1 hmem
  split at hc
  case isTrue hkept =>
    obtain rfl := List.mem_singleton.1 hc
    exact .inl hkept
  case isFalse => exact .inr (isEncoding_of_mem_percentChar hc)

/-- An encoded text that does not begin with an encoding begins as the text does. -/
theorem exists_of_percentEncode_eq_cons {c : Char} {rest : List Char} (hc : c ≠ '%')
    (hencoded : percentEncode keeps text = c :: rest) :
    ∃ text', text = c :: text' ∧ rest = percentEncode keeps text' := by
  cases text with
  | nil => cases hencoded
  | cons d text' =>
    rw [percentEncode_cons] at hencoded
    split at hencoded
    · obtain ⟨rfl, rfl⟩ := List.cons.inj hencoded
      exact ⟨text', rfl, rfl⟩
    · obtain ⟨more, hmore⟩ := exists_percentChar d
      rw [hmore] at hencoded
      exact absurd (List.cons.inj hencoded).1.symm hc

/-- Only an empty text is encoded as nothing. -/
theorem percentEncode_eq_nil_iff : percentEncode keeps text = [] ↔ text = [] := by
  refine ⟨fun hencoded => ?_, fun hnil => by rw [hnil]; rfl⟩
  cases text with
  | nil => rfl
  | cons c text =>
    rw [percentEncode_cons] at hencoded
    split at hencoded
    · cases hencoded
    · obtain ⟨more, hmore⟩ := exists_percentChar c
      rw [hmore] at hencoded
      cases hencoded

/-- An encoded text without any encoding is the text. -/
theorem percentEncode_of_not_mem (hnone : '%' ∉ percentEncode keeps text) :
    percentEncode keeps text = text := by
  induction text with
  | nil => rfl
  | cons c text ih =>
    rw [percentEncode_cons] at hnone ⊢
    split at hnone
    case isTrue hkept =>
      rw [if_pos hkept, ih fun hmem => hnone (List.mem_append_right [c] hmem)]
      rfl
    case isFalse =>
      obtain ⟨more, hmore⟩ := exists_percentChar c
      rw [hmore] at hnone
      exact absurd List.mem_cons_self hnone

/-- A text of which every character is kept stays as it is. -/
theorem percentEncode_of_forall (hkept : ∀ c ∈ text, keeps c = true) :
    percentEncode keeps text = text := by
  induction text with
  | nil => rfl
  | cons c text ih =>
    rw [percentEncode_cons, if_pos (hkept c List.mem_cons_self)]
    exact congrArg (c :: ·) (ih fun d hmem => hkept d (List.mem_cons_of_mem c hmem))

end Keeping

/-! ## Encoded octets in a text -/

/-- The octet that an encoding at the start of a text stands for. -/
def encodedOctet? : List Char → Option Nat
  | '%' :: a :: b :: _ => Text.hexNumber? [a, b]
  | _ => none

theorem exists_of_encodedOctet? {text : List Char} {n : Nat} (hoctet : encodedOctet? text = some n) :
    ∃ a b rest, text = '%' :: a :: b :: rest ∧ Text.hexNumber? [a, b] = some n := by
  unfold encodedOctet? at hoctet
  split at hoctet
  · exact ⟨_, _, _, rfl, hoctet⟩
  · cases hoctet

theorem encodedOctet?_of_ne {c : Char} {rest : List Char} (hc : c ≠ '%') :
    encodedOctet? (c :: rest) = none := by
  cases hoctet : encodedOctet? (c :: rest) with
  | none => rfl
  | some n =>
    obtain ⟨a, b, more, hcons, -⟩ := exists_of_encodedOctet? hoctet
    exact absurd (List.cons.inj hcons).1 hc

/-- A text is read from its start: it is empty, it begins with an encoded octet, or it begins
with a character that stands for itself. -/
theorem percent_induction {motive : List Char → Prop} (nil : motive [])
    (octet : ∀ (a b : Char) (n : Nat) (rest : List Char),
      Text.hexNumber? [a, b] = some n → motive rest → motive ('%' :: a :: b :: rest))
    (char : ∀ (c : Char) (rest : List Char),
      encodedOctet? (c :: rest) = none → motive rest → motive (c :: rest)) :
    (text : List Char) → motive text
  | [] => nil
  | c :: rest => by
    cases hoctet : encodedOctet? (c :: rest) with
    | none => exact char c rest hoctet (percent_induction nil octet char rest)
    | some n =>
      obtain ⟨a, b, more, hcons, hnumber⟩ := exists_of_encodedOctet? hoctet
      obtain ⟨rfl, rfl⟩ := List.cons.inj hcons
      exact octet a b n more hnumber (percent_induction nil octet char more)
termination_by text => text.length

/-- What has been read stands before what is still to be read. -/
theorem percentOctetsFrom_eq_append (read : Bytes) (skip : Nat) (text : List Char) :
    percentOctetsFrom read skip text = read.reverse ++ percentOctetsFrom [] skip text := by
  induction text generalizing read skip with
  | nil => simp [percentOctetsFrom]
  | cons c rest ih =>
    cases skip with
    | succ skip => exact ih read skip
    | zero =>
      unfold percentOctetsFrom
      split
      · split <;> rw [ih, ih [_]] <;> simp
      · rw [ih, ih (_ ++ [])]
        simp

/-- An encoded octet at the start is read as that octet. -/
theorem percentOctets_octet {a b : Char} {n : Nat} (rest : List Char)
    (hnumber : Text.hexNumber? [a, b] = some n) :
    percentOctets ('%' :: a :: b :: rest) = UInt8.ofNat n :: percentOctets rest := by
  rw [percentOctets, percentOctetsFrom, hnumber]
  exact percentOctetsFrom_eq_append [UInt8.ofNat n] 0 rest

/-- A character that begins no encoded octet is read as its own octets. -/
theorem percentOctets_char {c : Char} {rest : List Char}
    (hnone : encodedOctet? (c :: rest) = none) :
    percentOctets (c :: rest) = String.utf8EncodeChar c ++ percentOctets rest := by
  have hread : percentOctets (c :: rest) =
      percentOctetsFrom ((String.utf8EncodeChar c).reverse ++ []) 0 rest := by
    by_cases hc : c = '%'
    · subst hc
      match rest, hnone with
      | [], _ => rfl
      | [a], _ => rfl
      | a :: b :: more, hnone =>
        rw [percentOctets, percentOctetsFrom, show Text.hexNumber? [a, b] = none from hnone]
        rfl
    · exact percentOctetsFrom_of_ne [] rest hc
  rw [hread, percentOctetsFrom_eq_append, List.append_nil, List.reverse_reverse]
  rfl

/-! ## Encoding before reading -/

/-- The digits of an encoded octet are digits. -/
theorem isSome_hexValue?_of_hexNumber? {a b : Char} {n : Nat}
    (hnumber : Text.hexNumber? [a, b] = some n) :
    (Text.hexValue? a).isSome = true ∧ (Text.hexValue? b).isSome = true := by
  simp only [Text.hexNumber?, List.foldl_cons, List.foldl_nil, Option.bind_some,
    Option.bind_eq_some_iff, Option.map_eq_some_iff] at hnumber
  obtain ⟨_, ⟨high, hhigh, -⟩, low, hlow, -⟩ := hnumber
  exact ⟨by rw [hhigh]; rfl, by rw [hlow]; rfl⟩

theorem toNat_lt_of_isSome_hexValue? {c : Char} (hdigit : (Text.hexValue? c).isSome = true) :
    c.toNat < 0x80 := by
  refine Nat.lt_of_not_le fun hbeyond => ?_
  simp only [Text.hexValue?] at hdigit
  rw [if_neg (by omega), if_neg (by omega), if_neg (by omega)] at hdigit
  cases hdigit

theorem ne_percent_of_isSome_hexValue? {c : Char} (hdigit : (Text.hexValue? c).isSome = true) :
    c ≠ '%' := by
  rintro rfl
  cases hdigit

section Encoding

variable {keeps : Char → Bool}

/-- What is encoded makes no octet with a `%` before it. -/
theorem encodedOctet?_cons_percentEncode {c : Char} {rest : List Char}
    (hnone : encodedOctet? (c :: rest) = none) :
    encodedOctet? (c :: percentEncode keeps rest) = none := by
  cases hoctet : encodedOctet? (c :: percentEncode keeps rest) with
  | none => rfl
  | some n =>
    obtain ⟨a, b, more, hcons, hnumber⟩ := exists_of_encodedOctet? hoctet
    obtain ⟨rfl, hencoded⟩ := List.cons.inj hcons
    obtain ⟨ha, hb⟩ := isSome_hexValue?_of_hexNumber? hnumber
    obtain ⟨rest, rfl, hmore⟩ :=
      exists_of_percentEncode_eq_cons (ne_percent_of_isSome_hexValue? ha) hencoded
    obtain ⟨rest, rfl, -⟩ :=
      exists_of_percentEncode_eq_cons (ne_percent_of_isSome_hexValue? hb) hmore.symm
    exact absurd hnone (by rw [encodedOctet?, hnumber]; exact Option.some_ne_none n)

/-- A part that keeps `%` and all digits is read as it was before it was encoded. -/
theorem percentOctets_percentEncode (hpercent : keeps '%' = true)
    (hdigits : ∀ c, (Text.hexValue? c).isSome = true → keeps c = true) (text : List Char) :
    percentOctets (percentEncode keeps text) = percentOctets text := by
  induction text using percent_induction with
  | nil => rfl
  | octet a b n rest hnumber ih =>
    obtain ⟨ha, hb⟩ := isSome_hexValue?_of_hexNumber? hnumber
    have hkept : percentEncode keeps ('%' :: a :: b :: rest) =
        '%' :: a :: b :: percentEncode keeps rest := by
      rw [percentEncode_cons, percentEncode_cons, percentEncode_cons, if_pos hpercent,
        if_pos (hdigits a ha), if_pos (hdigits b hb)]
      rfl
    rw [hkept, percentOctets_octet _ hnumber, percentOctets_octet _ hnumber, ih]
  | char c rest hnone ih =>
    rw [percentOctets_char hnone, ← ih, percentEncode_cons]
    split
    · exact percentOctets_char (encodedOctet?_cons_percentEncode hnone)
    · rw [percentOctets, percentOctetsFrom_percentChar, percentOctetsFrom_eq_append,
        List.append_nil, List.reverse_reverse]
      rfl

end Encoding

/-- The digits of octets are among the characters that a path keeps. -/
theorem inPath_of_isSome_hexValue? {c : Char} (hdigit : (Text.hexValue? c).isSome = true) :
    inPath c = true := by
  have hall : ∀ n < 0x80, (Text.hexValue? (Char.ofNat n)).isSome = true →
      inPath (Char.ofNat n) = true := by decide +kernel
  exact Char.of_ascii (P := fun c => (Text.hexValue? c).isSome = true → inPath c = true) hall
    (toNat_lt_of_isSome_hexValue? hdigit) hdigit

/-- A path is read as it was before it was encoded. -/
theorem percentDecode_percentEncode_inPath (path : List Char) :
    percentDecode (percentEncode inPath path) = percentDecode path := by
  rw [percentDecode, percentOctets_percentEncode (by decide) fun _ => inPath_of_isSome_hexValue?]
  rfl

end TezosNode.Url
