import Mathlib.Data.List.InsertIdx
import TezosNode.Proofs.Url.Percent
import TezosNode.Url.Domain

set_option autoImplicit false

/-!
# URL: domain names in ASCII

A name beyond ASCII is sent in ASCII, and then it is made of letters, digits and hyphens between
dots.  A label that was in ASCII is checked by what it stands for: if it is no form of another
label, by its own characters, and otherwise by the label that it is the form of, in which all its
characters before the last hyphen stand.  The form of a label beyond ASCII has the label's own
characters of ASCII and digits.
-/

namespace TezosNode.Url

/-- Whether a character can stand in a label in ASCII. -/
def InLabel (c : Char) : Prop := isAsciiAlnum c = true ∨ c = '-'

instance (c : Char) : Decidable (InLabel c) := inferInstanceAs (Decidable (_ ∨ _))

theorem inHost_of_inLabel {c : Char} (hc : InLabel c) : inHost c = true := by
  rcases hc with halnum | rfl
  · simp [inHost, isUnreserved, halnum]
  · decide

/-- A character that can stand in labels in lower case can stand there as it is. -/
theorem inLabel_of_toLower {c : Char} (hascii : c.toNat < 0x80) (hc : InLabel c.toLower) :
    InLabel c := by
  have hall : ∀ n < 0x80, InLabel (Char.ofNat n).toLower → InLabel (Char.ofNat n) := by
    decide +kernel
  revert hc
  exact Char.of_ascii (P := fun c => InLabel c.toLower → InLabel c) hall hascii

/-- A character of texts around marks is a mark or a character of one of them. -/
theorem eq_or_mem_of_mem_intercalate {mark c : Char} {texts : List (List Char)}
    (hmem : c ∈ [mark].intercalate texts) : c = mark ∨ ∃ text ∈ texts, c ∈ text := by
  induction texts with
  | nil => cases hmem
  | cons text texts ih =>
    cases texts with
    | nil =>
      rw [List.intercalate_singleton] at hmem
      exact .inr ⟨text, List.mem_singleton_self text, hmem⟩
    | cons next texts =>
      rw [List.intercalate_cons_cons, List.append_assoc, List.mem_append, List.mem_append,
        List.mem_singleton] at hmem
      rcases hmem with htext | hmark | hrest
      · exact .inr ⟨text, List.mem_cons_self, htext⟩
      · exact .inl hmark
      · exact (ih hrest).imp_right fun ⟨t, ht, hc⟩ => ⟨t, List.mem_cons_of_mem text ht, hc⟩

namespace Label

namespace Punycode

/-! ## Digits -/

theorem inLabel_of_digit? {c : Char} {value : Nat} (h : digit? c = some value) : InLabel c := by
  unfold digit? at h
  split at h
  case isTrue hletter =>
    have hlower : c.isLower = true := by
      delta Char.isLower
      exact Bool.and_eq_true_iff.2 ⟨decide_eq_true hletter.1, decide_eq_true hletter.2⟩
    exact .inl (Bool.or_eq_true_iff.2 (.inl (Bool.or_eq_true_iff.2 (.inr hlower))))
  case isFalse =>
    split at h
    case isTrue hdigit => exact .inl (by simp [isAsciiAlnum, hdigit])
    case isFalse => cases h

theorem inLabel_digit {value : Nat} (hvalue : value < base) : InLabel (digit value) := by
  have hall : ∀ value < base, InLabel (digit value) := by decide +kernel
  exact hall value hvalue

theorem threshold_le (bias place : Nat) : threshold bias place ≤ 26 :=
  Nat.max_le.2 ⟨by decide, Nat.min_le_left _ _⟩

/-- A number is written in digits. -/
theorem inLabel_of_mem_digits {bias place n : Nat} {c : Char} (hmem : c ∈ digits bias place n) :
    InLabel c := by
  have hle : threshold bias place < base := Nat.lt_of_le_of_lt (threshold_le bias place) (by decide)
  fun_induction digits bias place n with
  | case1 place n t hlast =>
    rw [List.mem_singleton.1 hmem]
    exact inLabel_digit (Nat.lt_trans hlast hle)
  | case2 place n t _ ih =>
    rcases List.mem_cons.1 hmem with rfl | hrest
    · have hmod : (n - t) % (base - t) < base - t := Nat.mod_lt _ (Nat.sub_pos_of_lt hle)
      exact inLabel_digit (by omega)
    · exact ih hrest (Nat.lt_of_le_of_lt (threshold_le bias (place + 1)) (by decide))

/-- So are all insertions. -/
theorem inLabel_of_mem_writeAll {label : List Nat} {insertions : List (Nat × Nat)} {cursor : Cursor}
    {size : Nat} {c : Char} (hmem : c ∈ writeAll label cursor size insertions) : InLabel c := by
  induction insertions generalizing cursor size with
  | nil => cases hmem
  | cons insertion rest ih =>
    rcases List.mem_append.1 hmem with hfirst | hrest
    · exact inLabel_of_mem_digits hfirst
    · exact ih hrest

/-- The form of a label has the label's characters of ASCII, hyphens and digits. -/
theorem of_mem_encode {label : List Nat} {c : Char} (hmem : c ∈ encode label) :
    (∃ code ∈ label, code < 0x80 ∧ c = Char.ofNat code) ∨ InLabel c := by
  rcases List.mem_append.1 hmem with hplain | hdigits
  · split at hplain
    · cases hplain
    · rcases List.mem_append.1 hplain with hplain | hhyphen
      · obtain ⟨code, hcode, rfl⟩ := List.mem_map.1 hplain
        obtain ⟨hlabel, hascii⟩ := List.mem_filter.1 hcode
        exact .inl ⟨code, hlabel, of_decide_eq_true hascii, rfl⟩
      · exact .inr (.inr (List.mem_singleton.1 hhyphen))
  · exact .inr (inLabel_of_mem_writeAll hdigits)

/-! ## Reading -/

/-- The text that is read as a number is made of digits. -/
theorem exists_of_number? {bias place weight n : Nat} {text rest : List Char}
    (h : number? bias place weight text = some (n, rest)) :
    ∃ used, text = used ++ rest ∧ ∀ c ∈ used, InLabel c := by
  induction text generalizing place weight n rest with
  | nil => cases h
  | cons c text ih =>
    unfold number? at h
    split at h
    · cases h
    case h_2 value hvalue =>
      have hc := inLabel_of_digit? hvalue
      dsimp only at h
      split at h
      · obtain ⟨-, rfl⟩ := Prod.mk.inj (Option.some.inj h)
        exact ⟨[c], rfl, List.forall_mem_singleton.2 hc⟩
      · obtain ⟨⟨m, more⟩, hread, heq⟩ := Option.map_eq_some_iff.1 h
        obtain ⟨-, rfl⟩ := Prod.mk.inj heq
        obtain ⟨used, rfl, hused⟩ := ih hread
        exact ⟨c :: used, rfl, List.forall_mem_cons.2 ⟨hc, hused⟩⟩

/-- Insertions are read from digits, and leave what is there in place. -/
theorem of_insertAll? {cursor : Cursor} {codes label : List Nat} {text : List Char}
    (h : insertAll? cursor codes text = some label) :
    (∀ c ∈ text, InLabel c) ∧ ∀ code ∈ codes, code ∈ label := by
  fun_induction insertAll? cursor codes text with
  | case1 cursor codes text hnone =>
    obtain rfl := Option.some.inj h
    rw [List.isEmpty_iff.1 hnone]
    exact ⟨List.forall_mem_nil _, fun _ hmem => hmem⟩
  | case2 => cases h
  | case3 => cases h
  | case4 cursor codes text _ delta rest hread size way code place _ ih =>
    obtain ⟨used, rfl, hused⟩ := exists_of_number? hread
    obtain ⟨hrest, hcodes⟩ := ih h
    have hplace : place ≤ codes.length := Nat.le_of_lt_succ (Nat.mod_lt _ (Nat.succ_pos _))
    refine ⟨List.forall_mem_append.2 ⟨hused, hrest⟩, fun other hmem => hcodes other ?_⟩
    exact (List.mem_insertIdx hplace).2 (.inr hmem)

/-- A form has a plain text, perhaps with a hyphen after it, and digits. -/
theorem exists_of_decode? {text : List Char} {label : List Nat} (h : decode? text = some label) :
    ∃ plain digits : List Char, insertAll? .start (plain.map Char.toNat) digits = some label ∧
      ∀ c ∈ text, c ∈ plain ∨ c = '-' ∨ c ∈ digits := by
  refine ⟨_, _, h, fun c hmem => ?_⟩
  have hsplit : text = (text.reverse.dropWhile (· != '-')).reverse ++
      (text.reverse.takeWhile (· != '-')).reverse := by
    rw [← List.reverse_append, List.takeWhile_append_dropWhile, List.reverse_reverse]
  generalize (text.reverse.takeWhile (· != '-')).reverse = digits at hsplit ⊢
  cases hrest : text.reverse.dropWhile (· != '-') with
  | nil =>
    rw [hrest, List.reverse_nil, List.nil_append] at hsplit
    exact .inr (.inr (hsplit ▸ hmem))
  | cons mark front =>
    have hmark : mark = '-' := by
      have hhead := List.head?_dropWhile_not (· != '-') text.reverse
      rw [hrest] at hhead
      simpa using hhead
    rw [hrest, List.reverse_cons, hmark] at hsplit
    have htake : text.take (text.length - digits.length) = front.reverse ++ ['-'] := by
      rw [hsplit, List.length_append, Nat.add_sub_cancel, List.take_left]
    rw [htake, List.dropLast_concat]
    rw [hsplit, List.append_assoc] at hmem
    rcases List.mem_append.1 hmem with hplain | hmem
    · exact .inl hplain
    · exact .inr ((List.mem_cons.1 hmem).imp_right id)

/-- The characters of a form are in the label that it is the form of, or can stand in labels. -/
theorem of_decode? {text : List Char} {label : List Nat} (h : decode? text = some label) :
    ∀ c ∈ text, c.toNat ∈ label ∨ InLabel c := by
  obtain ⟨plain, digits, hread, htext⟩ := exists_of_decode? h
  obtain ⟨hdigits, hplain⟩ := of_insertAll? hread
  intro c hmem
  rcases htext c hmem with hmem | rfl | hmem
  · exact .inl (hplain _ (List.mem_map_of_mem hmem))
  · exact .inr (.inr rfl)
  · exact .inr (hdigits c hmem)

end Punycode

/-! ## Labels -/

/-- A code point that may stand in a label is permitted or has a rule of its own. -/
theorem of_checkCode {before after : List Nat} {code : Nat}
    (h : checkCode before code after = .ok ()) :
    isPermitted code = true ∨ isJoiner code = true ∨ isContextual code = true := by
  unfold checkCode at h
  split at h
  case isTrue hpermitted => exact .inl hpermitted
  split at h
  case isTrue hjoiner => exact .inr (.inl hjoiner)
  split at h
  case isTrue hcontextual => exact .inr (.inr hcontextual)
  case isFalse => cases h

theorem of_checkCodesFrom_cons {before after : List Nat} {code : Nat}
    (h : checkCodesFrom before (code :: after) = .ok ()) :
    checkCode before code after = .ok () ∧ checkCodesFrom (code :: before) after = .ok () := by
  rw [checkCodesFrom] at h
  cases hcode : checkCode before code after with
  | error f =>
    rw [hcode] at h
    cases h
  | ok _ =>
    rw [hcode] at h
    exact ⟨rfl, h⟩

theorem of_checkCodesFrom {before label : List Nat} (h : checkCodesFrom before label = .ok ()) :
    ∀ code ∈ label, isPermitted code = true ∨ isJoiner code = true ∨ isContextual code = true := by
  induction label generalizing before with
  | nil => exact List.forall_mem_nil _
  | cons code after ih =>
    obtain ⟨hcode, hrest⟩ := of_checkCodesFrom_cons h
    exact List.forall_mem_cons.2 ⟨of_checkCode hcode, ih hrest⟩

theorem checkCodes_of_check {label : List Nat} (h : check label = .ok ()) :
    checkCodes label = .ok () := by
  cases hcodes : checkCodes label with
  | ok => rfl
  | error f =>
    unfold check at h
    simp only [bind, Except.bind, hcodes] at h
    repeat' split at h
    all_goals cases h

/-- The permitted code points of ASCII. -/
def asciiRanges : List (Nat × Nat) := [(0x2D, 0x2D), (0x30, 0x39), (0x61, 0x7A)]

/-- A permitted code point of ASCII is a hyphen, a digit or a letter. -/
theorem inRanges_of_isPermitted {code : Nat} (hascii : code < 0x80)
    (h : isPermitted code = true) : Text.inRanges asciiRanges code = true := by
  have hranges : (permittedRanges.all fun r => 0x80 ≤ r.1 || asciiRanges.contains r) = true := by
    decide +kernel
  have halternating : (alternatingRanges.all fun r => 0x80 ≤ r.1) = true := by decide +kernel
  rcases Bool.or_eq_true_iff.1 h with hrange | hrange
  · obtain ⟨r, hr, hin⟩ := List.any_eq_true.1 hrange
    rcases Bool.or_eq_true_iff.1 (List.all_eq_true.1 hranges r hr) with hlow | hkept
    · simp only [Bool.and_eq_true, decide_eq_true_eq] at hin hlow
      omega
    · exact List.any_eq_true.2 ⟨r, List.contains_iff_mem.1 hkept, hin⟩
  · obtain ⟨r, hr, hin⟩ := List.any_eq_true.1 hrange
    have hlow := List.all_eq_true.1 halternating r hr
    simp only [Bool.and_eq_true, decide_eq_true_eq] at hin hlow
    omega

/-- The characters of ASCII that a label has. -/
theorem inLabel_of_check {label : List Nat} (h : check label = .ok ()) {code : Nat}
    (hmem : code ∈ label) (hascii : code < 0x80) : InLabel (Char.ofNat code) := by
  have hkept : ∀ n < 0x80, Text.inRanges asciiRanges n = true → InLabel (Char.ofNat n) := by
    decide +kernel
  have hbeyond : ∀ n < 0x80, isJoiner n = false ∧ isContextual n = false := by decide +kernel
  have hcode := of_checkCodesFrom (checkCodes_of_check h) code hmem
  rw [(hbeyond code hascii).1, (hbeyond code hascii).2] at hcode
  have hpermitted : isPermitted code = true := by simpa using hcode
  exact hkept code hascii (inRanges_of_isPermitted hascii hpermitted)

theorem inLabel_of_mem_encodedStart {c : Char} (hmem : c ∈ encodedStart) : InLabel c := by
  have hall : (encodedStart.all fun c => decide (InLabel c)) = true := by decide
  exact of_decide_eq_true (List.all_eq_true.1 hall c hmem)

/-- The characters of a text in lower case are in the label that it stands for, or can stand in
labels. -/
theorem of_decode {text : List Char} {label : List Nat} (h : decode text = .ok label) :
    ∀ c ∈ text.map Char.toLower, c.toNat ∈ label ∨ InLabel c := by
  unfold decode at h
  dsimp only at h
  split at h
  case isFalse =>
    obtain rfl := Except.ok.inj h
    exact fun c hmem => .inl (List.mem_map_of_mem hmem)
  case isTrue hstart =>
    split at h
    · cases h
    split at h
    · cases h
    split at h
    case h_2 => cases h
    case h_1 hform =>
      obtain rfl := Except.ok.inj h
      obtain ⟨form, htext⟩ := List.isPrefixOf_iff_prefix.1 hstart
      rw [← htext, List.drop_left] at hform
      rw [← htext]
      intro c hmem
      rcases List.mem_append.1 hmem with hmem | hmem
      · exact .inr (inLabel_of_mem_encodedStart hmem)
      · exact Punycode.of_decode? hform c hmem

end Label

namespace Domain

/-! ## Forms of labels -/

theorem toNat_toLower_lt {c : Char} (hascii : c.toNat < 0x80) : c.toLower.toNat < 0x80 :=
  Char.of_ascii (P := fun c => c.toLower.toNat < 0x80) (by decide +kernel) hascii

/-- A label in ASCII that was checked has letters, digits and hyphens. -/
theorem inLabel_of_checkLabel {text : List Char} (hascii : ∀ c ∈ text, c.toNat < 0x80)
    (hcheck : checkLabel text = .ok ()) {c : Char} (hmem : c ∈ text) : InLabel c := by
  refine inLabel_of_toLower (hascii c hmem) ?_
  unfold checkLabel at hcheck
  split at hcheck
  · cases hcheck
  case h_2 label hdecode =>
    split at hcheck
    · cases hcheck
    case h_2 hlabel =>
      rcases Label.of_decode hdecode _ (List.mem_map_of_mem hmem) with hcode | hin
      · have hin := Label.inLabel_of_check hlabel hcode (toNat_toLower_lt (hascii c hmem))
        rwa [Char.ofNat_toNat] at hin
      · exact hin

/-- So has the form in ASCII of every label. -/
theorem inLabel_of_formOf? {text form : List Char} (h : formOf? text = some form) {c : Char}
    (hmem : c ∈ form) : InLabel c := by
  unfold formOf? at h
  split at h
  case isTrue hascii =>
    split at h
    case h_1 hcheck =>
      obtain rfl := Option.some.inj h
      exact inLabel_of_checkLabel (by simpa using hascii) hcheck hmem
    case h_2 => cases h
  case isFalse =>
    split at h
    case h_1 hcheck =>
      obtain rfl := Option.some.inj h
      rcases List.mem_append.1 hmem with hstart | hencoded
      · exact Label.inLabel_of_mem_encodedStart hstart
      · rcases Label.Punycode.of_mem_encode hencoded with ⟨code, hcode, hascii, rfl⟩ | hin
        · exact Label.inLabel_of_check hcheck hcode hascii
        · exact hin
    case h_2 => cases h

/-! ## Forms of names -/

theorem inLabel_of_mapM {labels forms : List (List Char)}
    (h : labels.mapM encodeLabel? = some forms) : ∀ form ∈ forms, ∀ c ∈ form, InLabel c := by
  induction labels generalizing forms with
  | nil =>
    obtain rfl := Option.some.inj h
    exact List.forall_mem_nil _
  | cons label labels ih =>
    rw [List.mapM_cons] at h
    obtain ⟨form, hfirst, h⟩ := Option.bind_eq_some_iff.1 h
    obtain ⟨rest, hrest, h⟩ := Option.bind_eq_some_iff.1 h
    obtain rfl := Option.some.inj h
    obtain ⟨hform, -⟩ := Option.filter_eq_some_iff.1 hfirst
    exact List.forall_mem_cons.2 ⟨fun c hmem => inLabel_of_formOf? hform hmem, ih hrest⟩

/-- A name in ASCII has letters, digits, hyphens and dots. -/
theorem of_encode? {host name : List Char} (h : encode? host = some name) :
    ∀ c ∈ name, InLabel c ∨ c = '.' := by
  unfold encode? at h
  dsimp only at h
  split at h
  · cases h
  split at h
  · cases h
  case h_2 forms hforms =>
    have hform : ∀ c ∈ ['.'].intercalate forms, InLabel c ∨ c = '.' := by
      intro c hmem
      rcases eq_or_mem_of_mem_intercalate hmem with hdot | ⟨form, hform, hc⟩
      · exact .inr hdot
      · exact .inl (inLabel_of_mapM hforms form hform c hc)
    split at h
    · split at h
      · cases h
      · obtain rfl := Option.some.inj h
        exact List.forall_mem_append.2 ⟨hform, List.forall_mem_singleton.2 (.inr rfl)⟩
    · split at h
      · cases h
      · obtain rfl := Option.some.inj h
        exact hform

/-- All characters of such a name are kept. -/
theorem inHost_of_encode? {host name : List Char} (h : encode? host = some name) :
    ∀ c ∈ name, inHost c = true := by
  intro c hmem
  rcases of_encode? h c hmem with hlabel | rfl
  · exact inHost_of_inLabel hlabel
  · decide

end Domain

end TezosNode.Url
