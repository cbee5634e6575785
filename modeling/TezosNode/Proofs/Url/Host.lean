import TezosNode.Proofs.Url.Domain
import TezosNode.Url.Basic

set_option autoImplicit false

/-!
# URL: hosts that are sent

A host is sent as an address of version 4, as an address of version 6 without its brackets, or as
a name whose characters are all kept.  `normalHost` gives nothing else, and reads each of them again
from how it stands in a text, with one exception.  A name in ASCII that was no address does not
become one by being encoded; but the form in ASCII of a name beyond ASCII, whose digits and dots
need not have been those of ASCII, may look like an address of version 4 and be none, and then it
cannot be read again.
-/

namespace TezosNode.Url

/-! ## Characters of hosts -/

theorem toNat_lt_of_contains {marks : List Char} {c : Char}
    (hmarks : (marks.all fun d => d.toNat < 0x80) = true) (hc : marks.contains c = true) :
    c.toNat < 0x80 := by
  simpa using List.all_eq_true.1 hmarks c (List.contains_iff_mem.1 hc)

theorem toNat_lt_of_inHost {c : Char} (hc : inHost c = true) : c.toNat < 0x80 := by
  simp only [inHost, isUnreserved, Bool.or_eq_true] at hc
  rcases hc with ((halnum | hc) | hc) | hc
  · exact toNat_lt_of_isAsciiAlnum halnum
  all_goals exact toNat_lt_of_contains (by decide) hc

/-- A character that a name keeps is no mark around a name, and is kept in lower case. -/
theorem of_inHost {c : Char} (hc : inHost c = true) :
    c ≠ ':' ∧ c ≠ '@' ∧ c ≠ '[' ∧ inHost c.toLower = true := by
  have hall : ∀ n < 0x80, inHost (Char.ofNat n) = true → Char.ofNat n ≠ ':' ∧
      Char.ofNat n ≠ '@' ∧ Char.ofNat n ≠ '[' ∧ inHost (Char.ofNat n).toLower = true := by
    decide +kernel
  have hascii := toNat_lt_of_inHost hc
  revert hc
  exact Char.of_ascii
    (P := fun c => inHost c = true → c ≠ ':' ∧ c ≠ '@' ∧ c ≠ '[' ∧ inHost c.toLower = true)
    hall hascii

theorem toLower_of_beyond_ascii {c : Char} (hbeyond : 0x80 ≤ c.toNat) : c.toLower = c := by
  refine dif_neg fun ⟨_, hle⟩ => ?_
  have hcode : c.toNat ≤ 'Z'.toNat := UInt32.le_iff_toNat_le.1 hle
  exact Nat.not_lt.2 (Nat.le_trans hbeyond hcode) (by decide)

/-- A letter in lower case stays as it is. -/
theorem toLower_toLower (c : Char) : c.toLower.toLower = c.toLower := by
  by_cases hascii : c.toNat < 0x80
  · have hall : ∀ n < 0x80, (Char.ofNat n).toLower.toLower = (Char.ofNat n).toLower := by
      decide +kernel
    exact Char.of_ascii (P := fun c => c.toLower.toLower = c.toLower) hall hascii
  · have hsame : c.toLower = c := toLower_of_beyond_ascii (Nat.not_lt.1 hascii)
    rw [hsame, hsame]

theorem map_toLower_map_toLower (text : List Char) :
    (text.map Char.toLower).map Char.toLower = text.map Char.toLower := by
  rw [List.map_map]
  exact List.map_congr_left fun c _ => toLower_toLower c

theorem inHost_of_isEncoding {c : Char} (hc : isEncoding c = true) : inHost c = true :=
  of_isEncoding (by decide) hc

/-- Whether a character can stand in an address of version 4. -/
def InAddress (c : Char) : Prop := c.isDigit = true ∨ c = '.'

theorem inAddress_of_looksLikeIpv4 {text : List Char} (h : looksLikeIpv4 text = true) {c : Char}
    (hmem : c ∈ text) : InAddress c := by
  simp only [looksLikeIpv4, Bool.and_eq_true, List.all_eq_true] at h
  rw [← @List.intercalate_splitOn _ text _ _ '.'] at hmem
  rcases eq_or_mem_of_mem_intercalate hmem with hmark | ⟨part, hpart, hc⟩
  · exact .inr hmark
  · exact .inl ((h.2 part hpart).2 c hc)

/-- A character of an address is no mark and begins no encoding. -/
theorem InAddress.ne {c : Char} (hc : InAddress c) : c ≠ ':' ∧ c ≠ '@' ∧ c ≠ '[' ∧ c ≠ '%' := by
  refine ⟨?_, ?_, ?_, ?_⟩ <;> rintro rfl <;> exact absurd hc (by unfold InAddress; decide)

/-- Only a character of an address has one in lower case. -/
theorem toLower_eq_of_inAddress {c : Char} (hc : InAddress c.toLower) : c.toLower = c := by
  by_cases hascii : c.toNat < 0x80
  · have hall : ∀ n < 0x80, (Char.ofNat n).toLower.isDigit = true ∨ (Char.ofNat n).toLower = '.' →
        (Char.ofNat n).toLower = Char.ofNat n := by decide +kernel
    revert hc
    exact Char.of_ascii (P := fun c => InAddress c.toLower → c.toLower = c) hall hascii
  · exact toLower_of_beyond_ascii (Nat.not_lt.1 hascii)

theorem map_toLower_of_looksLikeIpv4 {text : List Char}
    (hlooks : looksLikeIpv4 (text.map Char.toLower) = true) : text.map Char.toLower = text :=
  (List.map_congr_left fun _ hmem => toLower_eq_of_inAddress
    (inAddress_of_looksLikeIpv4 hlooks (List.mem_map_of_mem hmem))).trans (List.map_id text)

theorem mem_colon_of_isIpv6 {host : List Char} (h : isIpv6 host = true) : ':' ∈ host := by
  simp only [isIpv6, Bool.and_eq_true] at h
  have hparts : ∃ parts, ipv6Parts? (host.takeWhile (· != '%')) = some parts := by
    rcases hparts : ipv6Parts? (host.takeWhile (· != '%')) with _ | parts
    · simp [hparts] at h
    · exact ⟨parts, rfl⟩
  obtain ⟨parts, hparts⟩ := hparts
  refine Classical.byContradiction fun hnone => ?_
  have hsingle : (host.takeWhile (· != '%')).splitOn ':' = [host.takeWhile (· != '%')] :=
    List.splitOn_eq_singleton fun hmem => hnone ((List.takeWhile_sublist _).mem hmem)
  rw [ipv6Parts?, hsingle] at hparts
  simp at hparts

/-! ## Forms -/

/-- The forms in which hosts are sent; an address of version 6 has lost its brackets. -/
inductive IsSentHost : List Char → Prop
  | ipv4 {host : List Char} (hlooks : looksLikeIpv4 host = true) (haddress : isIpv4 host = true) :
      IsSentHost host
  | ipv6 {host : List Char} (haddress : isIpv6 host = true) (huser : '@' ∉ host) : IsSentHost host
  | name {host : List Char} (hlooks : looksLikeIpv4 host = false)
      (hkept : ∀ c ∈ host, inHost c = true) : IsSentHost host
  /-- a name beyond ASCII whose form looks like an address of version 4 and is none -/
  | guise {host : List Char} (hlooks : looksLikeIpv4 host = true)
      (haddress : isIpv4 host = false) : IsSentHost host

/-- Whether a host that is sent can be read again: it is an address of version 4 if it looks like
one. -/
def IsReadable (host : List Char) : Prop := looksLikeIpv4 host = true → isIpv4 host = true

instance (host : List Char) : Decidable (IsReadable host) :=
  inferInstanceAs (Decidable (_ → _))

/-- A host whose characters are all kept is sent. -/
theorem isSentHost_of_kept {host : List Char} (hkept : ∀ c ∈ host, inHost c = true) :
    IsSentHost host := by
  cases hlooks : looksLikeIpv4 host with
  | false => exact .name hlooks hkept
  | true =>
    cases haddress : isIpv4 host with
    | false => exact .guise hlooks haddress
    | true => exact .ipv4 hlooks haddress

/-- A name in ASCII does not look like an address of version 4 once it is sent, since it did not
before. -/
theorem looksLikeIpv4_percentEncode {text : List Char} (hlooks : looksLikeIpv4 text = false) :
    looksLikeIpv4 (percentEncode inHost (text.map Char.toLower)) = false := by
  refine Bool.eq_false_iff.2 fun hsent => ?_
  have hlower : percentEncode inHost (text.map Char.toLower) = text.map Char.toLower :=
    percentEncode_of_not_mem fun hmem => (inAddress_of_looksLikeIpv4 hsent hmem).ne.2.2.2 rfl
  rw [hlower] at hsent
  rw [map_toLower_of_looksLikeIpv4 hsent, hlooks] at hsent
  cases hsent

theorem isSentHost_of_normalHost {text host : List Char} (hhost : normalHost text = .ok host)
    (huser : '@' ∉ text) : IsSentHost host := by
  unfold normalHost at hhost
  split at hhost
  case isTrue hlooks =>
    split at hhost
    case isTrue haddress =>
      obtain rfl := Except.ok.inj hhost
      exact .ipv4 hlooks haddress
    case isFalse => cases hhost
  case isFalse hlooks =>
    split at hhost
    · dsimp only at hhost
      split at hhost
      case isTrue haddress =>
        obtain rfl := Except.ok.inj hhost
        exact .ipv6 haddress fun hmem =>
          huser (List.mem_of_mem_drop ((List.dropLast_sublist _).mem hmem))
      case isFalse => cases hhost
    · split at hhost
      case isTrue =>
        obtain rfl := Except.ok.inj hhost
        refine .name (looksLikeIpv4_percentEncode (by simpa using hlooks)) ?_
        exact fun c hmem => (keeps_or_isEncoding hmem).elim id inHost_of_isEncoding
      case isFalse =>
        split at hhost
        case h_1 hname =>
          obtain rfl := Except.ok.inj hhost
          exact isSentHost_of_kept (Domain.inHost_of_encode? hname)
        case h_2 => cases hhost

/-! ## Reading again -/

/-- A host in brackets. -/
def bracketed (host : List Char) : List Char := '[' :: host ++ [']']

/-- The host as it stands in a text: an address of version 6 has brackets. -/
def textOfHost (host : List Char) : List Char :=
  if host.contains ':' then bracketed host else host

theorem textOfHost_of_mem {host : List Char} (hcolon : ':' ∈ host) :
    textOfHost host = bracketed host :=
  if_pos (List.contains_iff_mem.2 hcolon)

theorem textOfHost_of_not_mem {host : List Char} (hcolon : ':' ∉ host) : textOfHost host = host :=
  if_neg (mt List.contains_iff_mem.1 hcolon)

namespace IsSentHost

variable {host : List Char}

/-- The marks around a host and its user do not stand in it, brackets apart. -/
theorem not_mem (h : IsSentHost host) : '@' ∉ host := by
  cases h with
  | ipv4 hlooks => exact fun hmem => (inAddress_of_looksLikeIpv4 hlooks hmem).ne.2.1 rfl
  | ipv6 _ huser => exact huser
  | name _ hkept => exact fun hmem => (of_inHost (hkept _ hmem)).2.1 rfl
  | guise hlooks => exact fun hmem => (inAddress_of_looksLikeIpv4 hlooks hmem).ne.2.1 rfl

theorem not_mem_textOfHost (h : IsSentHost host) : '@' ∉ textOfHost host := by
  unfold textOfHost
  split
  · intro hmem
    rcases List.mem_append.1 hmem with hhost | hmark
    · exact h.not_mem ((List.mem_cons.1 hhost).resolve_left (by decide))
    · exact absurd (List.mem_singleton.1 hmark) (by decide)
  · exact h.not_mem

/-- A host without brackets has no mark that would need them. -/
theorem not_mem_of_not_mem (h : IsSentHost host) (hcolon : ':' ∉ host) : '[' ∉ host := by
  cases h with
  | ipv4 hlooks => exact fun hmem => (inAddress_of_looksLikeIpv4 hlooks hmem).ne.2.2.1 rfl
  | ipv6 haddress => exact absurd (mem_colon_of_isIpv6 haddress) hcolon
  | name _ hkept => exact fun hmem => (of_inHost (hkept _ hmem)).2.2.1 rfl
  | guise hlooks => exact fun hmem => (inAddress_of_looksLikeIpv4 hlooks hmem).ne.2.2.1 rfl

/-- A host that looks like an address and is none is refused when it is read again. -/
theorem normalHost_of_not_isReadable (hguise : ¬IsReadable host) :
    normalHost (textOfHost host) = .error (.ipv4 host) := by
  obtain ⟨hlooks, haddress⟩ := Classical.not_imp.1 hguise
  have hcolon : ':' ∉ host := fun hmem => (inAddress_of_looksLikeIpv4 hlooks hmem).ne.1 rfl
  rw [textOfHost_of_not_mem hcolon, normalHost, if_pos hlooks, if_neg haddress]

/-- A host that is read again can be. -/
theorem isReadable_of_normalHost {again : List Char}
    (hread : normalHost (textOfHost host) = .ok again) : IsReadable host := by
  by_cases hreadable : IsReadable host
  · exact hreadable
  · rw [normalHost_of_not_isReadable hreadable] at hread
    cases hread

/-- A host that was sent and can be read again is read as itself if it is an address, and in lower
case if it is a name. -/
theorem normalHost_textOfHost_cases (h : IsSentHost host) (hreadable : IsReadable host) :
    normalHost (textOfHost host) = .ok host ∨
      normalHost (textOfHost host) = .ok (host.map Char.toLower) := by
  cases h with
  | ipv4 hlooks haddress =>
    have hcolon : ':' ∉ host := fun hmem => (inAddress_of_looksLikeIpv4 hlooks hmem).ne.1 rfl
    left
    rw [textOfHost_of_not_mem hcolon, normalHost, if_pos hlooks, if_pos haddress]
  | ipv6 haddress =>
    have hlooks : looksLikeIpv4 (bracketed host) = false := by
      refine Bool.eq_false_iff.2 fun hlooks => ?_
      exact (inAddress_of_looksLikeIpv4 (c := '[') hlooks List.mem_cons_self).ne.2.2.1 rfl
    have hbrackets : (bracketed host).head? = some '[' ∧ (bracketed host).getLast? = some ']' :=
      ⟨rfl, List.getLast?_concat⟩
    have hinner : ((bracketed host).drop 1).dropLast = host := List.dropLast_concat
    left
    rw [textOfHost_of_mem (mem_colon_of_isIpv6 haddress), normalHost, hlooks,
      if_neg Bool.false_ne_true, if_pos hbrackets, hinner]
    exact if_pos haddress
  | name hlooks hkept =>
    have hcolon : ':' ∉ host := fun hmem => (of_inHost (hkept _ hmem)).1 rfl
    have hbrackets : ¬(host.head? = some '[' ∧ host.getLast? = some ']') := fun hbrackets =>
      (of_inHost (hkept _ (List.mem_of_head? hbrackets.1))).2.2.1 rfl
    have hascii : (host.all fun c => c.toNat < 0x80) = true :=
      List.all_eq_true.2 fun c hmem => decide_eq_true (toNat_lt_of_inHost (hkept c hmem))
    have hlower : percentEncode inHost (host.map Char.toLower) = host.map Char.toLower := by
      apply percentEncode_of_forall
      intro c hmem
      obtain ⟨d, hd, rfl⟩ := List.mem_map.1 hmem
      exact (of_inHost (hkept d hd)).2.2.2
    right
    rw [textOfHost_of_not_mem hcolon, normalHost, hlooks, if_neg Bool.false_ne_true,
      if_neg hbrackets, if_pos hascii, hlower]
  | guise hlooks haddress =>
    rw [hreadable hlooks] at haddress
    cases haddress

/-- What is read of a host that was sent differs in letter case only: an encoded octet is
encoded in upper case and read in lower case. -/
theorem normalHost_textOfHost (h : IsSentHost host) (hreadable : IsReadable host) :
    ∃ again, normalHost (textOfHost host) = .ok again ∧
      again.map Char.toLower = host.map Char.toLower := by
  rcases h.normalHost_textOfHost_cases hreadable with hsame | hlower
  · exact ⟨host, hsame, rfl⟩
  · exact ⟨host.map Char.toLower, hlower, map_toLower_map_toLower host⟩

/-- A host that was read again stays as it is when it is read once more. -/
theorem normalHost_again (h : IsSentHost host) {again : List Char}
    (hread : normalHost (textOfHost host) = .ok again) :
    normalHost (textOfHost again) = .ok again := by
  have hreadable := isReadable_of_normalHost hread
  rcases h.normalHost_textOfHost_cases hreadable with hsame | hlower
  · obtain rfl := Except.ok.inj (hsame.symm.trans hread)
    exact hsame
  · obtain rfl := Except.ok.inj (hlower.symm.trans hread)
    have hsent : IsSentHost (host.map Char.toLower) :=
      isSentHost_of_normalHost hlower h.not_mem_textOfHost
    have hagain : IsReadable (host.map Char.toLower) := by
      intro hlooks
      have hsame := map_toLower_of_looksLikeIpv4 hlooks
      rw [hsame] at hlooks ⊢
      exact hreadable hlooks
    rcases hsent.normalHost_textOfHost_cases hagain with hsame | hagain
    · exact hsame
    · rw [hagain, map_toLower_map_toLower]

end IsSentHost

end TezosNode.Url
