import TezosNode.Text.Utf8

set_option autoImplicit false

/-!
# Text: reading what was written in UTF-8

The octets of a character are one segment, whatever follows them, and that segment is the
character.  The segments of a written text are therefore its characters, and the lossy
reader, which leaves characters alone, gives the text back.

What is read of any octets has no more characters of ASCII than the octets have octets of
ASCII, since every sequence that begins beyond ASCII spells a character beyond it.
-/

namespace TezosNode

/-- What holds of the first 128 characters holds of every character of ASCII. -/
theorem Char.of_ascii {P : Char → Prop} (hall : ∀ n < 0x80, P (Char.ofNat n)) {c : Char}
    (hc : c.toNat < 0x80) : P c := by
  have hP := hall c.toNat hc
  rwa [Char.ofNat_toNat] at hP

theorem Char.toNat_ofNat {n : Nat} (hvalid : n.isValidChar) : (Char.ofNat n).toNat = n := by
  rw [Char.ofNat, dif_pos hvalid]
  rfl

namespace Text.Utf8

/-! ## One character -/

/-- An octet in its range is taken into the scalar value, with more to come. -/
theorem continuation_cons {bits owed low high taken n : Nat} (rest : Bytes) (hn : n < 256)
    (hlow : low ≤ n) (hhigh : n ≤ high) :
    continuation bits (owed + 2) low high taken (UInt8.ofNat n :: rest) =
      continuation (bits * 64 + (n - 0x80)) (owed + 1) 0x80 0xBF (taken + 1) rest := by
  rw [continuation, UInt8.toNat_ofNat_of_lt' hn, if_pos ⟨hlow, hhigh⟩]

/-- The last octet that a sequence owes ends it. -/
theorem continuation_last {bits low high taken n : Nat} (rest : Bytes) (hn : n < 256)
    (hlow : low ≤ n) (hhigh : n ≤ high) :
    continuation bits 1 low high taken (UInt8.ofNat n :: rest) =
      .scalar (Char.ofNat (bits * 64 + (n - 0x80))) (taken + 1) := by
  rw [continuation, UInt8.toNat_ofNat_of_lt' hn, if_pos ⟨hlow, hhigh⟩]

/-- An octet of ASCII is a character by itself. -/
theorem segmentAt_ascii {n : Nat} (rest : Bytes) (hn : n < 0x80) :
    segmentAt (UInt8.ofNat n) rest = .scalar (Char.ofNat n) 1 := by
  rw [segmentAt, UInt8.toNat_ofNat_of_lt' (Nat.lt_trans hn (by decide)), if_pos hn]

/-- A sequence of more than one octet that is no surrogate goes on as its first octet
announces. -/
theorem segmentAt_of_lead {n bits owed low high : Nat} {rest : Bytes} (hfirst : 0x80 ≤ n)
    (hn : n < 256) (hlead : lead? n = some ⟨bits, owed, low, high⟩)
    (hsurrogate : n = 0xED → spellsSurrogate rest = false) :
    segmentAt (UInt8.ofNat n) rest = continuation bits owed low high 1 rest := by
  rw [segmentAt, UInt8.toNat_ofNat_of_lt' hn, if_neg (by omega), hlead]
  dsimp only
  rw [if_neg]
  rintro ⟨hed, hspells⟩
  rw [hsurrogate hed] at hspells
  cases hspells

/-- A sequence of two octets. -/
theorem segmentAt_two {v : Nat} (rest : Bytes) (hlow : 0x80 ≤ v) (hhigh : v < 0x800) :
    segmentAt (UInt8.ofNat (v / 64 % 32 + 192)) (UInt8.ofNat (v % 64 + 128) :: rest) =
      .scalar (Char.ofNat v) 2 := by
  have hlead : lead? (v / 64 % 32 + 192) = some ⟨v / 64, 1, 0x80, 0xBF⟩ := by
    have hbits : v / 64 % 32 + 192 - 0xC0 = v / 64 := by omega
    rw [lead?, if_pos (by omega), hbits]
  rw [segmentAt_of_lead (by omega) (by omega) hlead (by omega),
    continuation_last rest (by omega) (by omega) (by omega)]
  have hv : v / 64 * 64 + (v % 64 + 128 - 0x80) = v := by omega
  rw [hv]

/-- A sequence of three octets, which spells no surrogate. -/
theorem segmentAt_three {v : Nat} (rest : Bytes) (hlow : 0x800 ≤ v) (hhigh : v < 0x10000)
    (hvalid : v < 0xD800 ∨ 0xDFFF < v) :
    segmentAt (UInt8.ofNat (v / 4096 % 16 + 224))
        (UInt8.ofNat (v / 64 % 64 + 128) :: UInt8.ofNat (v % 64 + 128) :: rest) =
      .scalar (Char.ofNat v) 3 := by
  -- The second octet has a narrower range after `E0` and after `ED`.
  have hlead : ∃ low high, lead? (v / 4096 % 16 + 224) = some ⟨v / 4096, 2, low, high⟩ ∧
      low ≤ v / 64 % 64 + 128 ∧ v / 64 % 64 + 128 ≤ high := by
    have hbits : v / 4096 % 16 + 224 - 0xE0 = v / 4096 := by omega
    have hfirst : ¬ (0xC2 ≤ v / 4096 % 16 + 224 ∧ v / 4096 % 16 + 224 ≤ 0xDF) := by omega
    rw [lead?, if_neg hfirst]
    by_cases he0 : v / 4096 % 16 + 224 = 0xE0
    · have hzero : v / 4096 = 0 := by omega
      rw [if_pos he0, hzero]
      exact ⟨_, _, rfl, by omega, by omega⟩
    · rw [if_neg he0]
      by_cases hed : v / 4096 % 16 + 224 = 0xED
      · have hd : v / 4096 = 0xD := by omega
        rw [if_pos hed, hd]
        exact ⟨_, _, rfl, by omega, by omega⟩
      · rw [if_neg hed, if_pos (by omega), hbits]
        exact ⟨_, _, rfl, by omega, by omega⟩
  obtain ⟨low, high, hlead, hsecondLow, hsecondHigh⟩ := hlead
  have hsurrogate : v / 4096 % 16 + 224 = 0xED → spellsSurrogate
      (UInt8.ofNat (v / 64 % 64 + 128) :: UInt8.ofNat (v % 64 + 128) :: rest) = false := by
    intro hed
    rw [spellsSurrogate, UInt8.toNat_ofNat_of_lt' (by omega : v / 64 % 64 + 128 < 256)]
    have hsecond : ¬ 0xA0 ≤ v / 64 % 64 + 128 := by omega
    simp [hsecond]
  rw [segmentAt_of_lead (by omega) (by omega) hlead hsurrogate,
    continuation_cons _ (by omega) hsecondLow hsecondHigh,
    continuation_last rest (by omega) (by omega) (by omega)]
  have hv : (v / 4096 * 64 + (v / 64 % 64 + 128 - 0x80)) * 64 + (v % 64 + 128 - 0x80) = v := by
    omega
  rw [hv]

/-- A sequence of four octets. -/
theorem segmentAt_four {v : Nat} (rest : Bytes) (hlow : 0x10000 ≤ v) (hhigh : v < 0x110000) :
    segmentAt (UInt8.ofNat (v / 262144 % 8 + 240))
        (UInt8.ofNat (v / 4096 % 64 + 128) :: UInt8.ofNat (v / 64 % 64 + 128) ::
          UInt8.ofNat (v % 64 + 128) :: rest) =
      .scalar (Char.ofNat v) 4 := by
  have hlead : ∃ low high, lead? (v / 262144 % 8 + 240) = some ⟨v / 262144, 3, low, high⟩ ∧
      low ≤ v / 4096 % 64 + 128 ∧ v / 4096 % 64 + 128 ≤ high := by
    have hbits : v / 262144 % 8 + 240 - 0xF0 = v / 262144 := by omega
    rw [lead?, if_neg (by omega), if_neg (by omega), if_neg (by omega), if_neg (by omega)]
    by_cases hf0 : v / 262144 % 8 + 240 = 0xF0
    · have hzero : v / 262144 = 0 := by omega
      rw [if_pos hf0, hzero]
      exact ⟨_, _, rfl, by omega, by omega⟩
    · rw [if_neg hf0]
      by_cases hf4 : v / 262144 % 8 + 240 = 0xF4
      · have hfour : v / 262144 = 4 := by omega
        rw [if_neg (by omega), if_pos hf4, hfour]
        exact ⟨_, _, rfl, by omega, by omega⟩
      · rw [if_pos (by omega), hbits]
        exact ⟨_, _, rfl, by omega, by omega⟩
  obtain ⟨low, high, hlead, hsecondLow, hsecondHigh⟩ := hlead
  rw [segmentAt_of_lead (by omega) (by omega) hlead (by omega),
    continuation_cons _ (by omega) hsecondLow hsecondHigh,
    continuation_cons _ (by omega) (by omega) (by omega),
    continuation_last rest (by omega) (by omega) (by omega)]
  have hv : ((v / 262144 * 64 + (v / 4096 % 64 + 128 - 0x80)) * 64 +
      (v / 64 % 64 + 128 - 0x80)) * 64 + (v % 64 + 128 - 0x80) = v := by
    omega
  rw [hv]

/-- The octets of a character are one segment, which is the character. -/
theorem segmentAt_utf8EncodeChar (c : Char) (rest : Bytes) :
    ∃ b more, String.utf8EncodeChar c = b :: more ∧
      segmentAt b (more ++ rest) = .scalar c (more.length + 1) := by
  have hvalid : c.val.toNat < 0xD800 ∨ (0xDFFF < c.val.toNat ∧ c.val.toNat < 0x110000) := c.valid
  have hchar : Char.ofNat c.val.toNat = c := Char.ofNat_toNat c
  change ∃ b more, (if c.val.toNat ≤ 127 then _ else if c.val.toNat ≤ 2047 then _ else
    if c.val.toNat ≤ 65535 then _ else _) = b :: more ∧ _
  by_cases hone : c.val.toNat ≤ 127
  · rw [if_pos hone]
    refine ⟨_, _, rfl, ?_⟩
    exact (segmentAt_ascii rest (by omega)).trans (by rw [hchar]; rfl)
  · rw [if_neg hone]
    by_cases htwo : c.val.toNat ≤ 2047
    · rw [if_pos htwo]
      refine ⟨_, _, rfl, ?_⟩
      exact (segmentAt_two rest (by omega) (by omega)).trans (by rw [hchar]; rfl)
    · rw [if_neg htwo]
      by_cases hthree : c.val.toNat ≤ 65535
      · rw [if_pos hthree]
        refine ⟨_, _, rfl, ?_⟩
        exact (segmentAt_three rest (by omega) (by omega) (by omega)).trans (by rw [hchar]; rfl)
      · rw [if_neg hthree]
        refine ⟨_, _, rfl, ?_⟩
        exact (segmentAt_four rest (by omega) (by omega)).trans (by rw [hchar]; rfl)

/-! ## Texts -/

/-- Octets that belong to a segment that has been read are passed over. -/
theorem segmentsFrom_skip (found : List Segment) (more rest : Bytes) :
    segmentsFrom found more.length (more ++ rest) = segmentsFrom found 0 rest := by
  induction more with
  | nil => rfl
  | cons b more ih =>
    rw [List.length_cons, List.cons_append]
    exact ih

/-- The segments of a text are its characters. -/
theorem segmentsFrom_encode (found : List Segment) (text : List Char) :
    segmentsFrom found 0 (encode text) =
      found.reverse ++ text.map fun c => .scalar c (String.utf8EncodeChar c).length := by
  induction text generalizing found with
  | nil => simp [encode, segmentsFrom]
  | cons c text ih =>
    obtain ⟨b, more, hc, hsegment⟩ := segmentAt_utf8EncodeChar c (encode text)
    have hencode : encode (c :: text) = b :: (more ++ encode text) := by
      rw [encode, List.flatMap_cons, hc]
      rfl
    rw [hencode, segmentsFrom, hsegment, Segment.size, Nat.add_sub_cancel, segmentsFrom_skip, ih,
      List.reverse_cons, List.append_assoc, List.map_cons, hc, List.length_cons]
    rfl

/-- What was written as UTF-8 is read back. -/
theorem decodeLossy_encode (text : List Char) : decodeLossy (encode text) = text := by
  rw [decodeLossy, segments, segmentsFrom_encode, List.reverse_nil, List.nil_append,
    List.flatMap_map]
  exact List.flatMap_singleton' text

/-! ## Characters of ASCII -/

/-- The number of characters of ASCII in a text. -/
def asciiCount (text : List Char) : Nat := text.countP (·.toNat < 0x80)

/-- The number of octets that are characters of ASCII. -/
def asciiOctets (octets : Bytes) : Nat := octets.countP (·.toNat < 0x80)

theorem asciiCount_append (text more : List Char) :
    asciiCount (text ++ more) = asciiCount text + asciiCount more :=
  List.countP_append

theorem asciiCount_cons (c : Char) (text : List Char) :
    asciiCount (c :: text) = asciiCount [c] + asciiCount text :=
  asciiCount_append [c] text

theorem asciiOctets_append (octets more : Bytes) :
    asciiOctets (octets ++ more) = asciiOctets octets + asciiOctets more :=
  List.countP_append

/-- How many scalar values a number of octets tells apart after those before them. -/
def reach : Nat → Nat
  | 0 => 1
  | owed + 1 => 64 * reach owed

/-- The scalar value of a sequence lies where its first octet and the range of the next one
put it. -/
theorem exists_of_continuation {bits owed low high taken size : Nat} {c : Char} {rest : Bytes}
    (hlow : 0x80 ≤ low) (hhigh : high ≤ 0xBF)
    (hscalar : continuation bits (owed + 1) low high taken rest = .scalar c size) :
    ∃ v, c = Char.ofNat v ∧ (bits * 64 + (low - 0x80)) * reach owed ≤ v ∧
      v < (bits * 64 + (high - 0x80) + 1) * reach owed := by
  induction owed generalizing bits low high taken rest with
  | zero =>
    cases rest with
    | nil => cases hscalar
    | cons b rest =>
      rw [continuation] at hscalar
      split at hscalar
      case isFalse => cases hscalar
      case isTrue hrange =>
        obtain ⟨rfl, -⟩ := Segment.scalar.inj hscalar
        exact ⟨_, rfl, by simp only [reach]; omega, by simp only [reach]; omega⟩
  | succ owed ih =>
    cases rest with
    | nil => cases hscalar
    | cons b rest =>
      rw [continuation] at hscalar
      split at hscalar
      case isFalse => cases hscalar
      case isTrue hrange =>
        obtain ⟨v, hv, hfrom, hto⟩ := ih (Nat.le_refl _) (Nat.le_refl _) hscalar
        refine ⟨v, hv, ?_, ?_⟩
        · rw [reach, ← Nat.mul_assoc]
          refine Nat.le_trans (Nat.mul_le_mul_right _ ?_) hfrom
          omega
        · rw [reach, ← Nat.mul_assoc]
          refine Nat.lt_of_lt_of_le hto (Nat.mul_le_mul_right _ ?_)
          omega

/-- What first octets announce keeps the value beyond ASCII and away from surrogates. -/
theorem bounds_of_lead {n : Nat} {l : Lead} (hlead : lead? n = some l) :
    ∃ owed, l.owed = owed + 1 ∧ 0x80 ≤ l.low ∧ l.high ≤ 0xBF ∧
      0x80 ≤ (l.bits * 64 + (l.low - 0x80)) * reach owed ∧
      ((l.bits * 64 + (l.high - 0x80) + 1) * reach owed ≤ 0xD800 ∨
        0xE000 ≤ (l.bits * 64 + (l.low - 0x80)) * reach owed ∧
          (l.bits * 64 + (l.high - 0x80) + 1) * reach owed ≤ 0x110000) := by
  unfold lead? at hlead
  repeat' split at hlead
  -- One case for each range of first octets, and one for those that begin nothing.
  case isFalse.isFalse.isFalse.isFalse.isFalse.isFalse.isFalse => cases hlead
  all_goals
    obtain rfl := Option.some.inj hlead
    refine ⟨_, rfl, by dsimp only; omega, by dsimp only; omega, ?_, ?_⟩
    · simp only [reach]
      omega
    · simp only [reach]
      omega

/-- A first octet beyond ASCII begins no character of ASCII. -/
theorem le_toNat_of_segmentAt {b : UInt8} {rest : Bytes} {c : Char} {size : Nat}
    (hb : 0x80 ≤ b.toNat) (hscalar : segmentAt b rest = .scalar c size) : 0x80 ≤ c.toNat := by
  rw [segmentAt, if_neg (Nat.not_lt.2 hb)] at hscalar
  split at hscalar
  · cases hscalar
  case h_2 l hlead =>
    split at hscalar
    · cases hscalar
    obtain ⟨owed, howed, hlow, hhigh, hleast, hmost⟩ := bounds_of_lead hlead
    rw [howed] at hscalar
    obtain ⟨v, rfl, hfrom, hto⟩ := exists_of_continuation hlow hhigh hscalar
    have hvalid : v.isValidChar := by
      rcases hmost with hmost | ⟨habove, hmost⟩
      · exact .inl (by omega)
      · exact .inr ⟨by omega, by omega⟩
    rw [Char.toNat_ofNat hvalid]
    exact Nat.le_trans hleast hfrom

/-- A segment holds a character of ASCII only if its first octet is one. -/
theorem asciiCount_replaced_segmentAt (b : UInt8) (rest : Bytes) :
    asciiCount (segmentAt b rest).replaced ≤ asciiOctets [b] := by
  by_cases hb : b.toNat < 0x80
  · rw [segmentAt, if_pos hb, asciiOctets, List.countP_singleton, if_pos (decide_eq_true hb)]
    exact List.countP_le_length
  · have hnone : ∀ c ∈ (segmentAt b rest).replaced, ¬ decide (c.toNat < 0x80) = true := by
      intro c hmem
      cases hsegment : segmentAt b rest with
      | scalar d size =>
        rw [hsegment] at hmem
        obtain rfl := List.mem_singleton.1 hmem
        have hbeyond := le_toNat_of_segmentAt (Nat.not_lt.1 hb) hsegment
        simpa using hbeyond
      | surrogate =>
        rw [hsegment] at hmem
        obtain rfl := List.eq_of_mem_replicate (n := 3) hmem
        decide
      | illFormed reason size =>
        rw [hsegment] at hmem
        obtain rfl := List.mem_singleton.1 hmem
        decide
    rw [asciiCount, List.countP_eq_zero.2 hnone]
    exact Nat.zero_le _

/-- The segments of octets hold no more characters of ASCII than the octets do. -/
theorem asciiCount_segmentsFrom (found : List Segment) (skip : Nat) (octets : Bytes) :
    asciiCount ((segmentsFrom found skip octets).flatMap Segment.replaced) ≤
      asciiCount (found.reverse.flatMap Segment.replaced) + asciiOctets octets := by
  induction octets generalizing found skip with
  | nil =>
    cases skip <;> exact Nat.le_refl _
  | cons b rest ih =>
    have hcons : asciiOctets (b :: rest) = asciiOctets [b] + asciiOctets rest :=
      asciiOctets_append [b] rest
    cases skip with
    | zero =>
      rw [segmentsFrom]
      refine Nat.le_trans (ih _ _) ?_
      have hsegment := asciiCount_replaced_segmentAt b rest
      rw [List.reverse_cons, List.flatMap_append, List.flatMap_singleton, asciiCount_append]
      omega
    | succ skip =>
      rw [segmentsFrom]
      have hrest := ih found skip
      omega

/-- Reading octets makes no characters of ASCII. -/
theorem asciiCount_decodeLossy_le (octets : Bytes) :
    asciiCount (decodeLossy octets) ≤ asciiOctets octets := by
  have hcount := asciiCount_segmentsFrom [] 0 octets
  have hnone : asciiCount (([] : List Segment).reverse.flatMap Segment.replaced) = 0 := rfl
  rwa [hnone, Nat.zero_add] at hcount

/-- The octets of a character beyond ASCII lie beyond ASCII. -/
theorem le_toNat_of_mem_utf8EncodeChar {c : Char} {b : UInt8} (hc : 0x80 ≤ c.toNat)
    (hmem : b ∈ String.utf8EncodeChar c) : 0x80 ≤ b.toNat := by
  have hoctet : ∀ n, 0x80 ≤ n → n < 256 → 0x80 ≤ (UInt8.ofNat n).toNat := by
    intro n hfrom hto
    rwa [UInt8.toNat_ofNat_of_lt' hto]
  have hbeyond : ¬ c.val.toNat ≤ 127 := Nat.not_le.2 hc
  simp only [String.utf8EncodeChar, if_neg hbeyond] at hmem
  split at hmem
  · simp only [List.mem_cons, List.not_mem_nil, or_false] at hmem
    rcases hmem with rfl | rfl <;> exact hoctet _ (by omega) (by omega)
  · split at hmem
    · simp only [List.mem_cons, List.not_mem_nil, or_false] at hmem
      rcases hmem with rfl | rfl | rfl <;> exact hoctet _ (by omega) (by omega)
    · simp only [List.mem_cons, List.not_mem_nil, or_false] at hmem
      rcases hmem with rfl | rfl | rfl | rfl <;> exact hoctet _ (by omega) (by omega)

/-- A character has no more octets of ASCII than it counts as characters of ASCII. -/
theorem asciiOctets_utf8EncodeChar_le (c : Char) :
    asciiOctets (String.utf8EncodeChar c) ≤ asciiCount [c] := by
  by_cases hc : c.toNat < 0x80
  · have hone : String.utf8EncodeChar c = [UInt8.ofNat c.toNat] :=
      if_pos (Nat.le_of_lt_succ hc)
    rw [hone, asciiCount, List.countP_singleton, if_pos (decide_eq_true hc)]
    exact List.countP_le_length
  · rw [asciiOctets, List.countP_eq_zero.2]
    · exact Nat.zero_le _
    · intro b hmem
      rw [decide_eq_true_iff, Nat.not_lt]
      exact le_toNat_of_mem_utf8EncodeChar (Nat.not_lt.1 hc) hmem

end Text.Utf8

end TezosNode
