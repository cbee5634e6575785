import TezosNode.Proofs.Text.Utf8
import TezosNode.Text.Encoding

set_option autoImplicit false

/-!
# Text: octets of a document in ASCII

A document may come in any of five encodings, and yet some things about its text can be
told from its octets.  If the text is made of characters of ASCII, every octet that is
neither zero nor beyond ASCII is the code of one of these characters: the wider encodings
put zeros around it, and the octets of a byte order mark lie beyond ASCII.
-/

namespace TezosNode.Text

/-- Whether a text is made of characters of ASCII. -/
def IsAscii (text : List Char) : Prop := ∀ c ∈ text, c.toNat < 0x80

/-- Whether an octet, if it is neither zero nor beyond ASCII, is the code of a character of
a text. -/
def Accounts (text : List Char) (b : UInt8) : Prop :=
  0 < b.toNat → b.toNat < 0x80 → ∃ c ∈ text, c.toNat = b.toNat

/-! ## Units -/

/-- A unit whose character is one of ASCII is the code of that character. -/
theorem toNat_charOfUnit {u : Nat} (hu : u ≤ 0x10FFFF) (hascii : (charOfUnit u).toNat < 0x80) :
    (charOfUnit u).toNat = u := by
  unfold charOfUnit at hascii ⊢
  split
  case isTrue hsurrogate =>
    rw [if_pos hsurrogate] at hascii
    exact absurd hascii (by decide)
  case isFalse hscalar =>
    simp only [isHighSurrogate, isLowSurrogate, Bool.or_eq_true, Bool.and_eq_true,
      decide_eq_true_eq] at hscalar
    have hvalid : u.isValidChar := by
      unfold Nat.isValidChar
      omega
    exact Char.toNat_ofNat hvalid

/-- A surrogate pair spells no character of ASCII. -/
theorem le_toNat_joinSurrogates {u v : Nat} (hu : isHighSurrogate u = true)
    (hv : isLowSurrogate v = true) : 0x80 ≤ (Char.ofNat (joinSurrogates u v)).toNat := by
  simp only [isHighSurrogate, isLowSurrogate, Bool.and_eq_true, decide_eq_true_eq] at hu hv
  have hvalid : (joinSurrogates u v).isValidChar := by
    unfold Nat.isValidChar joinSurrogates
    omega
  rw [Char.toNat_ofNat hvalid]
  unfold joinSurrogates
  omega

theorem unit16_le (order : ByteOrder) (a b : UInt8) : unit16 order a b ≤ 0xFFFF := by
  have ha := a.toNat_lt
  have hb := b.toNat_lt
  cases order <;> simp only [unit16] <;> omega

/-- The octets of a unit of ASCII are its code and a zero. -/
theorem accounts_of_unit16 {order : ByteOrder} {a b : UInt8} {text : List Char}
    (hascii : IsAscii text) (hmem : charOfUnit (unit16 order a b) ∈ text) :
    Accounts text a ∧ Accounts text b := by
  have hvalue := toNat_charOfUnit (Nat.le_trans (unit16_le order a b) (by decide)) (hascii _ hmem)
  have hcode := hascii _ hmem
  have ha := a.toNat_lt
  have hb := b.toNat_lt
  cases order with
  | little =>
    simp only [unit16] at hvalue hcode hmem
    exact ⟨fun _ _ => ⟨_, hmem, by omega⟩, fun hpos _ => by omega⟩
  | big =>
    simp only [unit16] at hvalue hcode hmem
    exact ⟨fun hpos _ => by omega, fun _ _ => ⟨_, hmem, by omega⟩⟩

/-- The octets of a unit of ASCII are its code and three zeros. -/
theorem accounts_of_unit32 {order : ByteOrder} {a b c d : UInt8} {text : List Char}
    (hascii : IsAscii text) (hwithin : unit32 order a b c d ≤ 0x10FFFF)
    (hmem : charOfUnit (unit32 order a b c d) ∈ text) :
    Accounts text a ∧ Accounts text b ∧ Accounts text c ∧ Accounts text d := by
  have hvalue := toNat_charOfUnit hwithin (hascii _ hmem)
  have hcode := hascii _ hmem
  cases order with
  | little =>
    simp only [unit32, unit16] at hvalue hcode hmem
    exact ⟨fun _ _ => ⟨_, hmem, by omega⟩, fun hpos _ => by omega, fun hpos _ => by omega,
      fun hpos _ => by omega⟩
  | big =>
    simp only [unit32, unit16] at hvalue hcode hmem
    exact ⟨fun hpos _ => by omega, fun hpos _ => by omega, fun hpos _ => by omega,
      fun _ _ => ⟨_, hmem, by omega⟩⟩

/-! ## Texts -/

/-- What has been read of units of two octets stays in the text, and the text accounts for
all octets that follow. -/
theorem accounts_of_readUnits16 {order : ByteOrder} {read text : List Char} {offset : Nat}
    {octets : Bytes} (hread : readUnits16 order read offset octets = .ok text)
    (hascii : IsAscii text) :
    (∀ c ∈ read, c ∈ text) ∧ ∀ b ∈ octets, Accounts text b := by
  fun_induction readUnits16 order read offset octets with
  | case1 read offset =>
    obtain rfl := Except.ok.inj hread
    exact ⟨fun c hmem => List.mem_reverse.2 hmem, by simp⟩
  | case2 read offset a => cases hread
  | case3 read offset a b u c d rest v hpair ih =>
    obtain ⟨hu, hv⟩ := Bool.and_eq_true_iff.1 hpair
    have hmem := (ih hread).1 _ List.mem_cons_self
    exact absurd (hascii _ hmem) (Nat.not_lt.2 (le_toNat_joinSurrogates hu hv))
  | case4 read offset a b u c d rest v hpair ih =>
    obtain ⟨hkept, hrest⟩ := List.forall_mem_cons.1 (ih hread).1
    obtain ⟨ha, hb⟩ := accounts_of_unit16 hascii hkept
    exact ⟨hrest, List.forall_mem_cons.2 ⟨ha, List.forall_mem_cons.2 ⟨hb, (ih hread).2⟩⟩⟩
  | case5 read offset a b rest u hshort ih =>
    obtain ⟨hkept, hrest⟩ := List.forall_mem_cons.1 (ih hread).1
    obtain ⟨ha, hb⟩ := accounts_of_unit16 hascii hkept
    exact ⟨hrest, List.forall_mem_cons.2 ⟨ha, List.forall_mem_cons.2 ⟨hb, (ih hread).2⟩⟩⟩

/-- The same for units of four octets. -/
theorem accounts_of_readUnits32 {order : ByteOrder} {read text : List Char} {offset : Nat}
    {octets : Bytes} (hread : readUnits32 order read offset octets = .ok text)
    (hascii : IsAscii text) :
    (∀ c ∈ read, c ∈ text) ∧ ∀ b ∈ octets, Accounts text b := by
  fun_induction readUnits32 order read offset octets with
  | case1 read offset =>
    obtain rfl := Except.ok.inj hread
    exact ⟨fun c hmem => List.mem_reverse.2 hmem, by simp⟩
  | case2 read offset a b c d rest u hbeyond => cases hread
  | case3 read offset a b c d rest u hwithin ih =>
    obtain ⟨hkept, hrest⟩ := List.forall_mem_cons.1 (ih hread).1
    obtain ⟨ha, hb, hc, hd⟩ := accounts_of_unit32 hascii (Nat.not_lt.1 hwithin) hkept
    refine ⟨hrest, ?_⟩
    simp only [List.forall_mem_cons]
    exact ⟨ha, hb, hc, hd, (ih hread).2⟩
  | case4 => cases hread

/-- A segment with a character of ASCII is one octet, the code of that character. -/
theorem segmentAt_of_ascii {b : UInt8} {rest : Bytes}
    (hascii : (Utf8.segmentAt b rest).char.toNat < 0x80) :
    (Utf8.segmentAt b rest).size = 1 ∧ (Utf8.segmentAt b rest).char.toNat = b.toNat := by
  by_cases hb : b.toNat < 0x80
  · have hvalid : b.toNat.isValidChar := .inl (by omega)
    have hvalue : Utf8.segmentAt b rest = .scalar (Char.ofNat b.toNat) 1 := by
      rw [Utf8.segmentAt, if_pos hb]
    rw [hvalue]
    exact ⟨rfl, Char.toNat_ofNat hvalid⟩
  · have hreplaced : ¬ '\uFFFD'.toNat < 0x80 := by decide
    cases hsegment : Utf8.segmentAt b rest with
    | scalar c size =>
      rw [hsegment] at hascii
      have hbeyond := Utf8.le_toNat_of_segmentAt (Nat.not_lt.1 hb) hsegment
      exact absurd hascii (Nat.not_lt.2 hbeyond)
    | surrogate =>
      rw [hsegment] at hascii
      exact absurd hascii hreplaced
    | illFormed reason size =>
      rw [hsegment] at hascii
      exact absurd hascii hreplaced

/-- Segments that have been read stay. -/
theorem mem_segmentsFrom {found : List Utf8.Segment} {s : Utf8.Segment} (hmem : s ∈ found)
    (skip : Nat) (octets : Bytes) : s ∈ Utf8.segmentsFrom found skip octets := by
  fun_induction Utf8.segmentsFrom found skip octets with
  | case1 found skip => exact List.mem_reverse.2 hmem
  | case2 found b rest skip ih => exact ih hmem
  | case3 found b rest segment ih => exact ih (List.mem_cons_of_mem _ hmem)

/-- A text of ASCII accounts for the octets that were cut into its segments. -/
theorem accounts_of_segmentsFrom {found : List Utf8.Segment} {octets : Bytes} {text : List Char}
    (htext : (Utf8.segmentsFrom found 0 octets).map Utf8.Segment.char = text)
    (hascii : IsAscii text) : ∀ b ∈ octets, Accounts text b := by
  induction octets generalizing found with
  | nil => simp
  | cons b rest ih =>
    rw [Utf8.segmentsFrom] at htext
    have hmem : (Utf8.segmentAt b rest).char ∈ text := by
      rw [← htext]
      exact List.mem_map_of_mem (mem_segmentsFrom List.mem_cons_self _ _)
    obtain ⟨hsize, hcode⟩ := segmentAt_of_ascii (hascii _ hmem)
    rw [hsize] at htext
    exact List.forall_mem_cons.2 ⟨fun _ _ => ⟨_, hmem, hcode⟩, ih htext⟩

/-! ## Documents -/

/-- The octets of a byte order mark are zero or lie beyond ASCII. -/
theorem accounts_of_mem_mark (text : List Char) {octets : Bytes} {b : UInt8}
    (hmem : b ∈ octets.take (Encoding.detect octets).2) : Accounts text b := by
  have hoctet : b = 0 ∨ 0x80 ≤ b.toNat := by
    unfold Encoding.detect at hmem
    split at hmem
    all_goals
      simp only [List.take_succ_cons, List.take_zero, List.mem_cons, List.not_mem_nil,
        or_false] at hmem
    · rcases hmem with rfl | rfl | rfl | rfl <;> decide
    · rcases hmem with rfl | rfl | rfl | rfl <;> decide
    · rcases hmem with rfl | rfl <;> decide
    · rcases hmem with rfl | rfl <;> decide
    · rcases hmem with rfl | rfl | rfl <;> decide
  intro hpos hcode
  rcases hoctet with rfl | hbeyond
  · exact absurd hpos (by decide)
  · omega

/-- A document whose text is made of characters of ASCII accounts for all its octets, in
whichever encoding it comes. -/
theorem accounts_of_decodeDocument {octets : Bytes} {text : List Char}
    (hread : decodeDocument octets = .ok text) (hascii : IsAscii text) :
    ∀ b ∈ octets, Accounts text b := by
  intro b hmem
  rw [← List.take_append_drop (Encoding.detect octets).2 octets, List.mem_append] at hmem
  rcases hmem with hmark | hbody
  · exact accounts_of_mem_mark text hmark
  · unfold decodeDocument at hread
    dsimp only at hread
    split at hread
    · unfold Utf8.decode at hread
      dsimp only at hread
      split at hread
      · cases hread
      · exact accounts_of_segmentsFrom (Except.ok.inj hread) hascii b hbody
    · exact (accounts_of_readUnits16 hread hascii).2 b hbody
    · exact (accounts_of_readUnits32 hread hascii).2 b hbody

/-! ## Texts written in UTF-8 -/

/-- Characters have no fault. -/
theorem firstFault?_of_scalars (surrogates : Bool) (offset : Nat) (text : List Char) :
    Utf8.firstFault? surrogates offset
      (text.map fun c => .scalar c (String.utf8EncodeChar c).length) = none := by
  induction text generalizing offset with
  | nil => rfl
  | cons c text ih => exact ih _

/-- A written text is read back by the strict reader. -/
theorem decode_encode (surrogates : Bool) (text : List Char) :
    Utf8.decode surrogates (Utf8.encode text) = .ok text := by
  unfold Utf8.decode Utf8.segments
  rw [Utf8.segmentsFrom_encode, List.reverse_nil, List.nil_append]
  dsimp only
  rw [firstFault?_of_scalars, List.map_map]
  exact congrArg Except.ok (List.map_id' text)

/-- Octets of ASCII without zeros show no other encoding than UTF-8. -/
theorem detect_of_ascii {octets : Bytes} (hascii : ∀ b ∈ octets, b ≠ 0 ∧ b.toNat < 0x80) :
    Encoding.detect octets = (.utf8, 0) := by
  have hzeros : Encoding.ofZeros octets = .utf8 := by
    unfold Encoding.ofZeros
    split
    case h_1 a b c d rest => rw [if_neg (hascii a (by simp)).1, if_neg (hascii b (by simp)).1]
    case h_2 a b => rw [if_neg (hascii a (by simp)).1, if_neg (hascii b (by simp)).1]
    case h_3 => rfl
  unfold Encoding.detect
  split
  case h_6 => rw [hzeros]
  all_goals exact absurd (hascii _ List.mem_cons_self) (by decide)

/-- A text of ASCII without zeros is written in octets of ASCII without zeros. -/
theorem ascii_of_mem_encode {text : List Char} (hascii : ∀ c ∈ text, 0 < c.toNat ∧ c.toNat < 0x80)
    {b : UInt8} (hmem : b ∈ Utf8.encode text) : b ≠ 0 ∧ b.toNat < 0x80 := by
  obtain ⟨c, hc, hb⟩ := List.mem_flatMap.1 hmem
  obtain ⟨hpos, hcode⟩ := hascii c hc
  have hone : String.utf8EncodeChar c = [UInt8.ofNat c.toNat] :=
    if_pos (Nat.le_of_lt_succ hcode)
  rw [hone] at hb
  obtain rfl := List.mem_singleton.1 hb
  have hvalue : (UInt8.ofNat c.toNat).toNat = c.toNat :=
    UInt8.toNat_ofNat_of_lt' (Nat.lt_trans hcode (by decide))
  refine ⟨?_, by omega⟩
  intro hzero
  rw [hzero] at hvalue
  exact absurd hvalue (Nat.ne_of_lt hpos)

/-- A text of ASCII without zeros that is written in UTF-8 is a document. -/
theorem decodeDocument_encode {text : List Char}
    (hascii : ∀ c ∈ text, 0 < c.toNat ∧ c.toNat < 0x80) :
    decodeDocument (Utf8.encode text) = .ok text := by
  unfold decodeDocument
  rw [detect_of_ascii fun b hmem => ascii_of_mem_encode hascii hmem]
  dsimp only
  rw [List.drop_zero, decode_encode]
  rfl

end TezosNode.Text
