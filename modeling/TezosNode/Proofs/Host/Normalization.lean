import TezosNode.Host

set_option autoImplicit false

/-!
# Hosts: what normalizing leaves

A host loses its slash before its scheme is looked for, so that one step can undo what the other
relies on: `http:/` is a name and no beginning of a URL.  The URL of a host always begins with a
scheme of the web.  Whether it ends in a slash depends on what is left of the host: a single slash
leaves nothing, so that the URL ends with the scheme's own slashes, and of two slashes one is left.
These are the hosts of `KeepsSlash`.  The URLs of all others end in no slash, and a URL that ends in
none is its own URL, while one that does loses its slash and so is not.
-/

namespace TezosNode.Host

/-! ## Slashes at the end -/

/-- Whether a text ends in a slash. -/
def EndsInSlash (text : List Char) : Prop := ∃ front, text = front ++ ['/']

/-- Whether a host is a single slash or ends in two. -/
def KeepsSlash (host : List Char) : Prop := host = ['/'] ∨ ['/', '/'] <:+ host

/-- Only the end of a text tells whether it ends in a slash. -/
theorem endsInSlash_append_iff (start : List Char) {text : List Char} (htext : text ≠ []) :
    EndsInSlash (start ++ text) ↔ EndsInSlash text := by
  unfold EndsInSlash
  rw [← List.getLast?_eq_some_iff, ← List.getLast?_eq_some_iff, List.getLast?_append,
    List.getLast?_eq_some_getLast htext, Option.some_or]

theorem dropSlash_concat (front : List Char) : dropSlash (front ++ ['/']) = front := by
  simp [dropSlash]

theorem dropSlash_of_not_endsInSlash {text : List Char} (h : ¬EndsInSlash text) :
    dropSlash text = text :=
  if_neg fun hlast => h (List.getLast?_eq_some_iff.1 hlast)

/-- A slash stays where nothing or another slash is before the one that is dropped. -/
theorem keepsSlash_concat_iff (front : List Char) :
    KeepsSlash (front ++ ['/']) ↔ front = [] ∨ EndsInSlash front := by
  unfold KeepsSlash EndsInSlash
  refine or_congr ?_ ?_
  · simp
  · constructor
    · rintro ⟨rest, hrest⟩
      have hsame : front ++ ['/'] = rest ++ ['/'] ++ ['/'] := by
        rw [← hrest, List.append_assoc, List.singleton_append]
      exact ⟨rest, List.append_cancel_right hsame⟩
    · rintro ⟨rest, rfl⟩
      exact ⟨rest, by rw [List.append_assoc, List.singleton_append]⟩

theorem KeepsSlash.endsInSlash {host : List Char} (h : KeepsSlash host) : EndsInSlash host := by
  rcases h with rfl | ⟨rest, rfl⟩
  · exact ⟨[], rfl⟩
  · exact ⟨rest ++ ['/'], by rw [List.append_assoc, List.singleton_append]⟩

/-- The hosts that keep a slash are those of which dropping one leaves nothing or another one. -/
theorem keepsSlash_iff {host : List Char} (hne : host ≠ []) :
    KeepsSlash host ↔ dropSlash host = [] ∨ EndsInSlash (dropSlash host) := by
  by_cases hslash : EndsInSlash host
  · obtain ⟨front, rfl⟩ := hslash
    rw [dropSlash_concat, keepsSlash_concat_iff]
  · rw [dropSlash_of_not_endsInSlash hslash]
    exact iff_of_false (fun h => hslash h.endsInSlash) fun h => h.elim hne hslash

/-! ## Schemes in front -/

/-- Whether a text begins with a scheme of the web. -/
def HasScheme (text : List Char) : Prop := http <+: text ∨ https <+: text

theorem HasScheme.ne_nil {text : List Char} (h : HasScheme text) : text ≠ [] := by
  rintro rfl
  rcases h with hhttp | hhttps
  · exact absurd (List.prefix_nil.1 hhttp) (by decide)
  · exact absurd (List.prefix_nil.1 hhttps) (by decide)

/-- A scheme is put in front of what has none. -/
theorem withScheme_cases (text : List Char) :
    (HasScheme text ∧ withScheme text = text) ∨
      (¬HasScheme text ∧ withScheme text = http ++ text) := by
  have htest : (http.isPrefixOf text || https.isPrefixOf text) = true ↔ HasScheme text := by
    rw [Bool.or_eq_true, List.isPrefixOf_iff_prefix, List.isPrefixOf_iff_prefix]
    rfl
  by_cases h : HasScheme text
  · exact .inl ⟨h, if_pos (htest.2 h)⟩
  · exact .inr ⟨h, if_neg fun hstart => h (htest.1 hstart)⟩

theorem withScheme_of_hasScheme {text : List Char} (h : HasScheme text) :
    withScheme text = text := by
  rcases withScheme_cases text with ⟨-, heq⟩ | ⟨hnone, -⟩
  · exact heq
  · exact absurd h hnone

theorem hasScheme_withScheme (text : List Char) : HasScheme (withScheme text) := by
  rcases withScheme_cases text with ⟨h, heq⟩ | ⟨-, heq⟩
  · rwa [heq]
  · rw [heq]
    exact .inl (List.prefix_append http text)

/-- A scheme in front makes a text longer or leaves it as it is. -/
theorem length_withScheme (text : List Char) :
    (withScheme text).length = text.length ∨
      (withScheme text).length = http.length + text.length := by
  rcases withScheme_cases text with ⟨-, heq⟩ | ⟨-, heq⟩
  · exact .inl (by rw [heq])
  · exact .inr (by rw [heq, List.length_append])

/-- With a scheme in front a text ends in a slash if it did, or if nothing stands behind the
scheme. -/
theorem endsInSlash_withScheme_iff (text : List Char) :
    EndsInSlash (withScheme text) ↔ text = [] ∨ EndsInSlash text := by
  rcases withScheme_cases text with ⟨h, heq⟩ | ⟨-, heq⟩
  · rw [heq, or_iff_right h.ne_nil]
  · rw [heq]
    by_cases hempty : text = []
    · subst hempty
      exact iff_of_true ⟨"http:/".toList, rfl⟩ (.inl rfl)
    · rw [endsInSlash_append_iff http hempty, or_iff_right hempty]

/-! ## URLs of hosts -/

/-- A host that is not empty has a URL. -/
theorem normalize_of_ne {host : String} (hne : host ≠ "") :
    normalize host = .ok (String.ofList (withScheme (dropSlash host.toList))) :=
  if_neg hne

/-- A text with a scheme is its own URL just where it ends in no slash: without its slash it is too
short, and with another scheme too long. -/
theorem withScheme_dropSlash_eq_iff {text : List Char} (h : HasScheme text) :
    withScheme (dropSlash text) = text ↔ ¬EndsInSlash text := by
  constructor
  · rintro heq ⟨front, rfl⟩
    rw [dropSlash_concat] at heq
    have hlength := length_withScheme front
    have hhttp : http.length = 7 := rfl
    rw [heq, List.length_append, List.length_singleton, hhttp] at hlength
    omega
  · intro hslash
    rw [dropSlash_of_not_endsInSlash hslash, withScheme_of_hasScheme h]

/-- A URL is its own URL just where it ends in no slash. -/
theorem normalize_eq_self_iff {text : List Char} (h : HasScheme text) :
    normalize (String.ofList text) = .ok (String.ofList text) ↔ ¬EndsInSlash text := by
  have hne : String.ofList text ≠ "" := fun hempty =>
    h.ne_nil (String.ofList_eq_empty_iff.1 hempty)
  rw [normalize_of_ne hne, Except.ok.injEq, String.toList_ofList, String.ofList_inj,
    withScheme_dropSlash_eq_iff h]

/-- A slash at the end makes no difference to a host without one. -/
theorem normalize_append_slash {host : String} (hne : host ≠ "")
    (hslash : ¬EndsInSlash host.toList) : normalize (host ++ "/") = normalize host := by
  have hne' : host ++ "/" ≠ "" := fun hempty => hne (String.append_eq_empty_iff.1 hempty).1
  have hlist : (host ++ "/").toList = host.toList ++ ['/'] := String.toList_append
  rw [normalize_of_ne hne, normalize_of_ne hne', hlist, dropSlash_concat,
    dropSlash_of_not_endsInSlash hslash]

/-- What normalizing makes of any host that is not empty.  There is a URL, and it begins with a
scheme of the web.  It ends in a slash just where the host is a single slash or ends in two, and
these are just the hosts whose URL is not its own URL.  A host without a slash at its end has the
URL that it has with one. -/
theorem normalize_settles (host : String) (hne : host ≠ "") :
    ∃ url, normalize host = .ok url ∧ HasScheme url.toList ∧
      (EndsInSlash url.toList ↔ KeepsSlash host.toList) ∧
      (normalize url = .ok url ↔ ¬KeepsSlash host.toList) ∧
      (¬EndsInSlash host.toList → normalize (host ++ "/") = .ok url) := by
  have hlist : host.toList ≠ [] := fun hempty => hne (String.toList_eq_nil_iff.1 hempty)
  have hscheme := hasScheme_withScheme (dropSlash host.toList)
  have hends : EndsInSlash (withScheme (dropSlash host.toList)) ↔ KeepsSlash host.toList := by
    rw [endsInSlash_withScheme_iff, keepsSlash_iff hlist]
  refine ⟨_, normalize_of_ne hne, ?_, ?_, ?_, fun hslash => ?_⟩
  · rwa [String.toList_ofList]
  · rw [String.toList_ofList, hends]
  · rw [normalize_eq_self_iff hscheme, hends]
  · rw [normalize_append_slash hne hslash, normalize_of_ne hne]

/-- A scheme without its second slash is a name, one of two slashes stays, and a name has the same
URL with a slash and without. -/
theorem normalize_settles_of_slashes :
    normalize "http:/" = .ok "http://http:" ∧ normalize "http://http:" = .ok "http://http:" ∧
      normalize "a//" = .ok "http://a/" ∧ normalize "http://a/" ≠ .ok "http://a/" ∧
      normalize "a" = .ok "http://a" ∧ normalize "a/" = .ok "http://a" := by
  refine ⟨rfl, ?_, rfl, ?_, rfl, ?_⟩
  · obtain ⟨url, hurl, -, -, hself, -⟩ := normalize_settles "http:/" (by decide)
    obtain rfl : "http://http:" = url := Except.ok.inj hurl
    refine hself.2 ?_
    unfold KeepsSlash
    decide
  · obtain ⟨url, hurl, -, -, hself, -⟩ := normalize_settles "a//" (by decide)
    obtain rfl : "http://a/" = url := Except.ok.inj hurl
    refine fun heq => hself.1 heq ?_
    unfold KeepsSlash
    decide
  · obtain ⟨url, hurl, -, -, -, hslash⟩ := normalize_settles "a" (by decide)
    obtain rfl : "http://a" = url := Except.ok.inj hurl
    refine hslash ?_
    unfold EndsInSlash
    rw [← List.getLast?_eq_some_iff]
    decide

end TezosNode.Host
