import TezosNode.Proofs.Url.Frame

set_option autoImplicit false

/-!
# URL: options in steps

A URL that takes two lists of options at once takes the first of them, and then the second.  The
first list alone makes a query that is no longer than that of both, since parameters by key are the
same parameters in another order.  After the first list the other parts are as long as before,
except that a port may be left out, and a host that has been read again can be read once more.
-/

namespace TezosNode.Url

/-! ## Lengths of forms -/

/-- A form is as long as its parameters with a mark after each, less the last mark. -/
theorem length_encodeParams (params : List Param) :
    (encodeParams params).length = (params.flatMap fun p => encodeParam p ++ ['&']).length - 1 := by
  induction params with
  | nil => rfl
  | cons p rest ih =>
    cases rest with
    | nil => simp [encodeParams]
    | cons q rest =>
      have hsplit : encodeParams (p :: q :: rest) =
          encodeParam p ++ ['&'] ++ encodeParams (q :: rest) :=
        List.intercalate_cons_cons
      rw [hsplit, List.flatMap_cons, List.length_append, List.length_append, ih]
      simp only [List.flatMap_cons, List.length_append, List.length_singleton]
      omega

/-- The order of parameters makes no difference to the length of their form. -/
theorem length_encodeParams_of_perm {params others : List Param} (hperm : params.Perm others) :
    (encodeParams params).length = (encodeParams others).length := by
  rw [length_encodeParams, length_encodeParams, (hperm.flatMap_right _).length_eq]

theorem length_encodeParams_le_append (params more : List Param) :
    (encodeParams params).length ≤ (encodeParams (params ++ more)).length := by
  rw [length_encodeParams, length_encodeParams, List.flatMap_append, List.length_append]
  omega

/-- More options make no shorter query. -/
theorem length_queryWith_le (u : Url) (options more : List Param) :
    (u.queryWith options).length ≤ (u.queryWith (options ++ more)).length := by
  rw [queryWith, queryWith, length_encodeParams_of_perm (groupByKey_perm _),
    length_encodeParams_of_perm (groupByKey_perm (u.params ++ (options ++ more))),
    ← List.append_assoc]
  exact length_encodeParams_le_append _ more

/-! ## Lengths of authorities -/

/-- No letter becomes a colon in lower case. -/
theorem toLower_eq_colon_iff {c : Char} : c.toLower = ':' ↔ c = ':' := by
  by_cases hascii : c.toNat < 0x80
  · have hall : ∀ n < 0x80, (Char.ofNat n).toLower = ':' ↔ Char.ofNat n = ':' := by decide +kernel
    exact Char.of_ascii (P := fun c => c.toLower = ':' ↔ c = ':') hall hascii
  · rw [toLower_of_beyond_ascii (Nat.not_lt.1 hascii)]

/-- Hosts that are the same up to letter case have texts of one length. -/
theorem length_hostText_of_map_toLower {u v : Url}
    (hhost : v.host.map Char.toLower = u.host.map Char.toLower) :
    v.hostText.length = u.hostText.length := by
  have hmem : ∀ host : List Char, ':' ∈ host ↔ ':' ∈ host.map Char.toLower := by
    intro host
    simp [List.mem_map, toLower_eq_colon_iff]
  have hcolon : v.host.contains ':' = u.host.contains ':' := by
    rw [Bool.eq_iff_iff, List.contains_iff_mem, List.contains_iff_mem, hmem v.host, hhost,
      ← hmem u.host]
  have hlength : v.host.length = u.host.length := by
    simpa using congrArg List.length hhost
  rw [hostText, hostText, hcolon]
  split <;> simp [hlength]

/-- A URL with the frame of another one, and its port or none, has no longer authority. -/
theorem length_authority_le {u v : Url} (hframe : v.SameFrame u)
    (hport : v.port = none ∨ v.port = u.port) : v.authority.length ≤ u.authority.length := by
  have hhost := length_hostText_of_map_toLower hframe.host_eq
  have hportText : v.portText.length ≤ u.portText.length := by
    rcases hport with hnone | hsame
    · rw [portText, hnone]
      exact Nat.zero_le _
    · rw [portText, portText, hsame]
  simp only [authority, netloc, hframe.userInfo_eq, List.length_append]
  omega

/-! ## Both lists -/

variable {u v : Url} {options more : List Param}

/-- A URL that takes two lists of options takes the first. -/
theorem takes_of_append (htakes : u.Takes (options ++ more)) : u.Takes options := by
  rcases htakes with hnil | ⟨hfits, hreadable⟩
  · exact .inl (List.append_eq_nil_iff.1 hnil).1
  · refine .inr ⟨fun part => Nat.le_trans ?_ (hfits part), hreadable⟩
    cases part with
    | query =>
      rw [partText, partText]
      exact u.length_queryWith_le options more
    | _ => rw [partText, partText]

namespace IsRead

/-- A URL that took two lists of options takes the second after the first. -/
theorem takes_of_attach (h : u.IsRead) (hattach : u.attach options = .ok v)
    (htakes : u.Takes (options ++ more)) : v.Takes more := by
  by_cases hnone : options = []
  · subst hnone
    obtain rfl := Except.ok.inj (u.attach_nil.symm.trans hattach)
    exact htakes
  by_cases hlast : more = []
  · exact .inl hlast
  have hsome : options ++ more ≠ [] := fun hnil => hnone (List.append_eq_nil_iff.1 hnil).1
  obtain ⟨hfits, -⟩ := htakes.resolve_left hsome
  obtain ⟨hframe, hport⟩ := h.frame_of_attach hattach
  have hleft : v.port = none ∨ v.port = u.port := by
    rw [hport]
    split
    · exact .inl rfl
    · exact .inr rfl
  refine .inr ⟨fun part => Nat.le_trans ?_ (hfits part), h.isReadable_of_attach hattach hnone⟩
  cases part with
  | scheme => rw [partText, partText, hframe.scheme_eq]
  | authority => exact length_authority_le hframe hleft
  | path => rw [partText, partText, hframe.path_eq]
  | query => rw [partText, partText, queryWith_of_attach hattach more]
  | fragment => rw [partText, partText, hframe.fragment_eq]

end IsRead

end TezosNode.Url
