import TezosNode.Json.Printer
import TezosNode.Proofs.Json.Layout

set_option autoImplicit false

/-!
# JSON: escaped strings

A string is written in visible characters of ASCII, whatever its characters are: some stand
for themselves, some are escaped by a letter, the others by their code, and those beyond the
basic plane by the two halves of a surrogate pair.  `Spells` lists these four ways.  All of
them are read back as the character, so that a written string is read as it was.
-/

namespace TezosNode

/-! ## Hexadecimal digits -/

namespace Text

theorem hexValue?_hexDigit : ∀ d < 16, hexValue? (hexDigit d) = some d := by decide

theorem length_hexDigits (width n : Nat) : (hexDigits width n).length = width := by
  induction width generalizing n with
  | zero => rfl
  | succ width ih => rw [hexDigits, List.length_append, ih, List.length_singleton]

/-- The last digits of a number that has no others are the number. -/
theorem hexNumber?_hexDigits {width n : Nat} (hn : n < Nat.pow 16 width) :
    hexNumber? (hexDigits width n) = some n := by
  induction width generalizing n with
  | zero =>
    obtain rfl : n = 0 := Nat.lt_one_iff.1 hn
    rfl
  | succ width ih =>
    have hfirst : n / 16 < Nat.pow 16 width := Nat.div_lt_of_lt_mul (by rwa [Nat.mul_comm])
    rw [hexDigits, hexNumber?_append, ih hfirst, Option.bind_some,
      hexValue?_hexDigit _ (Nat.mod_lt n (by decide)), Option.map_some, Nat.div_add_mod]

/-- A unit of sixteen bits has four digits. -/
theorem exists_hexDigits_four {u : Nat} (hu : u < 0x10000) :
    ∃ a b c d, hexDigits 4 u = [a, b, c, d] ∧ hexNumber? [a, b, c, d] = some u := by
  have hread : hexNumber? (hexDigits 4 u) = some u := hexNumber?_hexDigits hu
  have hlength := length_hexDigits 4 u
  match hexDigits 4 u, hread, hlength with
  | [a, b, c, d], hread, _ => exact ⟨a, b, c, d, rfl, hread⟩

/-- Hexadecimal digits are visible characters of ASCII. -/
theorem bounds_of_mem_hexDigits {width n : Nat} {c : Char} (hmem : c ∈ hexDigits width n) :
    0x20 ≤ c.toNat ∧ c.toNat ≤ 0x7E := by
  induction width generalizing n with
  | zero => cases hmem
  | succ width ih =>
    rcases List.mem_append.1 hmem with hfirst | hlast
    · exact ih hfirst
    · have hall : ∀ d < 16, 0x20 ≤ (hexDigit d).toNat ∧ (hexDigit d).toNat ≤ 0x7E := by decide
      obtain rfl := List.mem_singleton.1 hlast
      exact hall _ (Nat.mod_lt n (by decide))

/-! ## Surrogates -/

/-- The codes of characters leave out the surrogates. -/
theorem toNat_bounds (c : Char) : c.toNat < 0xD800 ∨ 0xDFFF < c.toNat ∧ c.toNat < 0x110000 :=
  c.valid

/-- No character is a surrogate. -/
theorem not_surrogate (c : Char) :
    isHighSurrogate c.toNat = false ∧ isLowSurrogate c.toNat = false := by
  have hbounds := toNat_bounds c
  simp only [isHighSurrogate, isLowSurrogate, Bool.and_eq_false_iff, decide_eq_false_iff_not,
    Nat.not_le]
  omega

end Text

namespace Json

/-! ## Characters -/

/-- The first half of the surrogate pair of a character. -/
def highHalf (c : Char) : Nat := 0xD800 + (c.toNat - 0x10000) / 0x400

/-- The second half of the surrogate pair of a character. -/
def lowHalf (c : Char) : Nat := 0xDC00 + (c.toNat - 0x10000) % 0x400

/-- The halves of a pair are what they are read as, and make up their character. -/
theorem halves_of_le {c : Char} (hc : 0x10000 ≤ c.toNat) :
    Text.isHighSurrogate (highHalf c) = true ∧ Text.isLowSurrogate (lowHalf c) = true ∧
      Text.joinSurrogates (highHalf c) (lowHalf c) = c.toNat := by
  have hbounds := Text.toNat_bounds c
  unfold Text.isHighSurrogate Text.isLowSurrogate Text.joinSurrogates highHalf lowHalf
  generalize c.toNat = n at hc hbounds ⊢
  refine ⟨?_, ?_, ?_⟩
  · rw [Bool.and_eq_true, decide_eq_true_eq, decide_eq_true_eq]
    omega
  · rw [Bool.and_eq_true, decide_eq_true_eq, decide_eq_true_eq]
    omega
  · omega

/-- The ways to write a character of a string. -/
inductive Spells : Char → List Char → Prop
  /-- by a letter after a backslash -/
  | letter {c letter : Char} (hletter : escapeLetter? letter = some c) (hu : letter ≠ 'u')
      (hvisible : 0x20 ≤ letter.toNat ∧ letter.toNat ≤ 0x7E) : Spells c ['\\', letter]
  /-- by itself -/
  | plain {c : Char} (hquote : c ≠ '"') (hbackslash : c ≠ '\\')
      (hvisible : 0x20 ≤ c.toNat ∧ c.toNat ≤ 0x7E) : Spells c [c]
  /-- by its code -/
  | unit {c : Char} (hc : c.toNat < 0x10000) : Spells c (unicodeEscape c.toNat)
  /-- by the codes of two surrogates -/
  | pair {c : Char} (hc : 0x10000 ≤ c.toNat) :
      Spells c (unicodeEscape (highHalf c) ++ unicodeEscape (lowHalf c))

/-- Every character is written in one of these ways. -/
theorem spells_escapeChar (c : Char) : Spells c (escapeChar c) := by
  unfold escapeChar
  split
  case isTrue hc => exact hc ▸ @Spells.letter _ '"' rfl (by decide) (by decide)
  split
  case isTrue hc => exact hc ▸ @Spells.letter _ '\\' rfl (by decide) (by decide)
  split
  case isTrue hc => exact hc ▸ @Spells.letter _ 'n' rfl (by decide) (by decide)
  split
  case isTrue hc => exact hc ▸ @Spells.letter _ 'r' rfl (by decide) (by decide)
  split
  case isTrue hc => exact hc ▸ @Spells.letter _ 't' rfl (by decide) (by decide)
  split
  case isTrue hc => exact hc ▸ @Spells.letter _ 'b' rfl (by decide) (by decide)
  split
  case isTrue hc => exact hc ▸ @Spells.letter _ 'f' rfl (by decide) (by decide)
  split
  case isTrue hquote hbackslash _ _ _ _ _ hvisible => exact .plain hquote hbackslash hvisible
  split
  case isTrue hc => exact .unit hc
  case isFalse hc => exact .pair (Nat.not_lt.1 hc)

theorem visible_unicodeEscape {u : Nat} {c : Char} (hmem : c ∈ unicodeEscape u) :
    0x20 ≤ c.toNat ∧ c.toNat ≤ 0x7E := by
  rcases List.mem_cons.1 hmem with rfl | hmem
  · decide
  rcases List.mem_cons.1 hmem with rfl | hmem
  · decide
  · exact Text.bounds_of_mem_hexDigits hmem

/-- What a character is written with is visible. -/
theorem Spells.visible {c d : Char} {text : List Char} (hspells : Spells c text)
    (hmem : d ∈ text) : 0x20 ≤ d.toNat ∧ d.toNat ≤ 0x7E := by
  cases hspells with
  | letter _ _ hvisible =>
    rcases List.mem_cons.1 hmem with rfl | hmem
    · decide
    · obtain rfl := List.mem_singleton.1 hmem
      exact hvisible
  | plain _ _ hvisible =>
    obtain rfl := List.mem_singleton.1 hmem
    exact hvisible
  | unit => exact visible_unicodeEscape hmem
  | pair =>
    rcases List.mem_append.1 hmem with hhigh | hlow
    · exact visible_unicodeEscape hhigh
    · exact visible_unicodeEscape hlow

/-! ## Reading escapes -/

section Reading

variable (start read : List Char)

/-- The characters of an escape are passed over. -/
theorem stringFrom_skip (skipped rest : List Char) :
    stringFrom start read skipped.length (skipped ++ rest) = stringFrom start read 0 rest := by
  induction skipped with
  | nil => rfl
  | cons c skipped ih => exact ih

/-- A backslash is read as the escape that it begins. -/
theorem stringFrom_backslash (text : List Char) {rest : List Char} {c : Char}
    (hescape : escape start (text ++ rest) = .ok (c, text.length)) :
    stringFrom start read 0 ('\\' :: (text ++ rest)) = stringFrom start (c :: read) 0 rest := by
  rw [stringFrom, if_neg (by decide), if_pos rfl, hescape]
  exact stringFrom_skip start (c :: read) text rest

/-- The letter of an escape is read as its character. -/
theorem escape_letter {c letter : Char} (hletter : escapeLetter? letter = some c)
    (hu : letter ≠ 'u') (rest : List Char) : escape start (letter :: rest) = .ok (c, 1) := by
  unfold escape
  split
  case h_1 heq => cases heq
  case h_2 heq => exact absurd (List.cons.inj heq).1 hu
  case h_3 heq => exact absurd (List.cons.inj heq).1 hu
  case h_4 heq =>
    obtain ⟨rfl, -⟩ := List.cons.inj heq
    rw [hletter]

/-- The code of a character is read as the character, if the string goes on. -/
theorem escape_unit {c : Char} (hc : c.toNat < 0x10000) {rest : List Char} (hrest : rest ≠ []) :
    escape start ('u' :: (Text.hexDigits 4 c.toNat ++ rest)) = .ok (c, 5) := by
  obtain ⟨d₁, d₂, d₃, d₄, hdigits, hread⟩ := Text.exists_hexDigits_four hc
  obtain ⟨next, more, rfl⟩ := List.exists_cons_of_ne_nil hrest
  obtain ⟨hhigh, hlow⟩ := Text.not_surrogate c
  simp only [hdigits, List.cons_append, List.nil_append, escape, hread, hhigh, hlow,
    Text.charOfUnit, Bool.or_self, Bool.false_eq_true, if_false, Char.ofNat_toNat]

/-- The codes of a surrogate pair are read as its character, if the string goes on. -/
theorem escape_pair {c : Char} (hc : 0x10000 ≤ c.toNat) {rest : List Char} (hrest : rest ≠ []) :
    escape start ('u' :: (Text.hexDigits 4 (highHalf c) ++ (unicodeEscape (lowHalf c) ++ rest))) =
      .ok (c, 11) := by
  obtain ⟨hhigh, hlow, hjoined⟩ := halves_of_le hc
  have hhighBound : highHalf c < 0x10000 := by
    simp only [Text.isHighSurrogate, Bool.and_eq_true, decide_eq_true_eq] at hhigh
    omega
  have hlowBound : lowHalf c < 0x10000 := by
    simp only [Text.isLowSurrogate, Bool.and_eq_true, decide_eq_true_eq] at hlow
    omega
  obtain ⟨d₁, d₂, d₃, d₄, hfirst, hreadFirst⟩ := Text.exists_hexDigits_four hhighBound
  obtain ⟨e₁, e₂, e₃, e₄, hsecond, hreadSecond⟩ := Text.exists_hexDigits_four hlowBound
  obtain ⟨next, more, rfl⟩ := List.exists_cons_of_ne_nil hrest
  simp only [unicodeEscape, hfirst, hsecond, List.cons_append, List.nil_append, escape,
    hreadFirst, hhigh, secondEscape?, hreadSecond, hlow, hjoined, if_true, Char.ofNat_toNat]

/-- However a character is written, it is read back, if the string goes on. -/
theorem stringFrom_of_spells {c : Char} {text rest : List Char} (hspells : Spells c text)
    (hrest : rest ≠ []) :
    stringFrom start read 0 (text ++ rest) = stringFrom start (c :: read) 0 rest := by
  cases hspells with
  | @letter letter hletter hu _ =>
    exact stringFrom_backslash start read [letter] (escape_letter start hletter hu rest)
  | plain hquote hbackslash hvisible =>
    rw [List.singleton_append, stringFrom, if_neg hquote, if_neg hbackslash,
      if_neg (Nat.not_lt.2 hvisible.1)]
  | unit hc =>
    have hlength := Text.length_hexDigits 4 c.toNat
    refine stringFrom_backslash start read ('u' :: Text.hexDigits 4 c.toNat) ?_
    rw [List.cons_append, escape_unit start hc hrest, List.length_cons, hlength]
  | pair hc =>
    have hhigh := Text.length_hexDigits 4 (highHalf c)
    have hlow := Text.length_hexDigits 4 (lowHalf c)
    refine stringFrom_backslash start read
      ('u' :: (Text.hexDigits 4 (highHalf c) ++ unicodeEscape (lowHalf c))) ?_
    rw [List.cons_append, List.append_assoc, escape_pair start hc hrest]
    simp only [unicodeEscape, List.length_cons, List.length_append, hhigh, hlow]

/-- Characters are read back one after another, up to the closing quote. -/
theorem stringFrom_escaped (text rest : List Char) :
    stringFrom start read 0 (text.flatMap escapeChar ++ '"' :: rest) =
      .ok (String.ofList (read.reverse ++ text), rest) := by
  induction text generalizing read with
  | nil => simp [stringFrom]
  | cons c text ih =>
    rw [List.flatMap_cons, List.append_assoc,
      stringFrom_of_spells start read (spells_escapeChar c) (by simp), ih, List.reverse_cons,
      List.append_assoc, List.singleton_append]

end Reading

/-! ## Strings -/

theorem stringText_append (s : String) (rest : List Char) :
    stringText s ++ rest = '"' :: (s.toList.flatMap escapeChar ++ '"' :: rest) := by
  simp [stringText]

/-- A written string is read as it was. -/
theorem stringFrom_stringText (s : String) (rest : List Char) :
    stringFrom (stringText s ++ rest) [] 0 (s.toList.flatMap escapeChar ++ '"' :: rest) =
      .ok (s, rest) := by
  rw [stringFrom_escaped, List.reverse_nil, List.nil_append, String.ofList_toList]

/-- A string that has been written is a value. -/
theorem value_stringText (fuel : Nat) (s : String) (rest : List Char) :
    value (fuel + 1) (stringText s ++ rest) = .ok (.string s, rest) := by
  have hread := stringFrom_stringText s rest
  rw [stringText_append] at hread ⊢
  rw [value, hread]

/-- A string that has been written is the name of a field, with the colon and a blank after
it. -/
theorem name_stringText (s : String) {rest : List Char} (hrest : skipBlanks rest = rest) :
    name (stringText s ++ ':' :: ' ' :: rest) = .ok (s, rest) := by
  have hread := stringFrom_stringText s (':' :: ' ' :: rest)
  rw [stringText_append] at hread ⊢
  simp only [name, hread, skipBlanks_cons (by decide : isBlank ':' = false)]
  rw [skipBlanks, List.dropWhile_cons_of_pos (by decide), ← skipBlanks, hrest]

/-- The characters of a written string are visible characters of ASCII. -/
theorem visible_stringText {s : String} {c : Char} (hmem : c ∈ stringText s) :
    0x20 ≤ c.toNat ∧ c.toNat ≤ 0x7E := by
  simp only [stringText, List.mem_cons, List.mem_append, List.mem_flatMap, List.not_mem_nil,
    or_false] at hmem
  rcases hmem with (rfl | ⟨d, -, hd⟩) | rfl
  · decide
  · exact (spells_escapeChar d).visible hd
  · decide

theorem ascii_stringText {s : String} {c : Char} (hmem : c ∈ stringText s) :
    0 < c.toNat ∧ c.toNat < 0x80 := by
  have hvisible := visible_stringText hmem
  omega

/-- There is always room for a written string, whose brackets open nothing. -/
theorem excess?_stringText (s : String) (room : Nat) : excess? room (stringText s) = none := by
  obtain ⟨used, htext, hthrough⟩ := Look.exists_of_stringFrom (stringFrom_stringText s [])
  have hused : stringText s = '"' :: used := by
    rw [← List.append_nil (stringText s), stringText_append]
    exact congrArg _ (htext.trans (List.append_nil used))
  rw [hused]
  exact excess?_eq_none_iff.2 ⟨_, hthrough room⟩

/-- A written string is a document that is the string. -/
theorem decode_stringText (s : String) :
    decode (Text.Utf8.encode (stringText s)) = .ok (.string s) := by
  have hnone : AreBlanks [] := by
    intro c hmem
    cases hmem
  have hfirst : skipBlanks (stringText s) = stringText s := skipBlanks_cons (by decide) _
  have hvalue : ∀ fuel, value (fuel + 1) (stringText s) = .ok (.string s, []) := by
    intro fuel
    have hread := value_stringText fuel s []
    rwa [List.append_nil] at hread
  have hascii : ((stringText s).all fun c => 0 < c.toNat && c.toNat < 0x80) = true := by
    rw [List.all_eq_true]
    intro c hmem
    obtain ⟨hlow, hhigh⟩ := ascii_stringText hmem
    simp [hlow, hhigh]
  rw [decode_encode hascii (excess?_stringText s maxDepth)]
  exact @parse_of_value [] _ [] _ hnone hnone hfirst hvalue

end Json

end TezosNode
