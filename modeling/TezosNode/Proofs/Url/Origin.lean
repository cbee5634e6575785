import TezosNode.Proofs.Host.Normalization
import TezosNode.Proofs.Url.Options

set_option autoImplicit false

/-!
# URL: where a URL leads

A URL leads to a node by its scheme, its user information, its host and its port.  A path
that begins with a slash ends the authority before it, so that a URL to which such a path is
added leads where the URL alone does, whatever the path holds.  Options change none of these
parts either, since each is in a form that is read as itself: only the letters of encoded
octets in a host are read in lower case.
-/

namespace TezosNode.Url

/-- Whether two URLs lead to the same node; hosts are the same up to letter case. -/
structure SameOrigin (u v : Url) : Prop where
  scheme_eq : u.scheme = v.scheme
  userInfo_eq : u.userInfo = v.userInfo
  host_eq : u.host.map Char.toLower = v.host.map Char.toLower
  port_eq : u.port = v.port

theorem SameOrigin.refl (u : Url) : u.SameOrigin u := ⟨rfl, rfl, rfl, rfl⟩

theorem SameOrigin.trans {u v w : Url} (h : u.SameOrigin v) (h' : v.SameOrigin w) :
    u.SameOrigin w where
  scheme_eq := h.scheme_eq.trans h'.scheme_eq
  userInfo_eq := h.userInfo_eq.trans h'.userInfo_eq
  host_eq := h.host_eq.trans h'.host_eq
  port_eq := h.port_eq.trans h'.port_eq

/-! ## URLs of hosts -/

/-- The beginnings of the URLs of hosts, each with its scheme. -/
inductive IsWebStart : List Char → List Char → Prop
  | http : IsWebStart Host.http "http".toList
  | https : IsWebStart Host.https "https".toList

/-- The URL of a host begins with a scheme of the web. -/
theorem exists_of_normalize {host url : String} (hurl : Host.normalize host = .ok url) :
    ∃ start scheme rest, IsWebStart start scheme ∧ url.toList = start ++ rest := by
  have hne : host ≠ "" := by
    rintro rfl
    cases hurl
  rw [Host.normalize_of_ne hne] at hurl
  obtain rfl := Except.ok.inj hurl
  rw [String.toList_ofList]
  rcases Host.hasScheme_withScheme (Host.dropSlash host.toList) with ⟨rest, hrest⟩ | ⟨rest, hrest⟩
  · exact ⟨_, _, rest, .http, hrest.symm⟩
  · exact ⟨_, _, rest, .https, hrest.symm⟩

namespace IsWebStart

variable {start scheme : List Char}

/-- Schemes of the web are read as they stand. -/
theorem map_toLower (h : IsWebStart start scheme) : scheme.map Char.toLower = scheme := by
  cases h <;> rfl

theorem scheme_ne_nil (h : IsWebStart start scheme) : scheme ≠ [] := by
  cases h <;> exact List.cons_ne_nil _ _

/-- The authority follows the scheme and goes up to the first mark that ends it. -/
theorem split_eq (h : IsWebStart start scheme) (rest : List Char) :
    split (start ++ rest) =
      ⟨scheme, rest.takeWhile (!endsAuthority ·),
        (splitPath (rest.dropWhile (!endsAuthority ·))).1,
        (splitPath (rest.dropWhile (!endsAuthority ·))).2.1,
        (splitPath (rest.dropWhile (!endsAuthority ·))).2.2⟩ := by
  cases h <;> rfl

end IsWebStart

/-! ## Adding a path -/

/-- A mark that ends the first part of a text ends it before anything that is added. -/
theorem takeWhile_append_cons {α : Type} {p : α → Bool} {mark : α} (hmark : p mark = false)
    (text more : List α) : (text ++ mark :: more).takeWhile p = text.takeWhile p := by
  rw [List.takeWhile_append, List.takeWhile_cons_of_neg (by simp [hmark]), List.append_nil]
  split
  case isTrue hall => exact ((List.takeWhile_sublist p).eq_of_length hall).symm
  case isFalse => rfl

theorem checkPrintable_eq_ok_iff {text : List Char} :
    checkPrintable text = .ok () ↔ ∀ c ∈ text, isControl c = false := by
  have hnone : text.dropWhile (!isControl ·) = [] ↔ ∀ c ∈ text, isControl c = false := by
    rw [List.dropWhile_eq_nil_iff]
    simp
  rw [← hnone]
  unfold checkPrintable
  split
  case h_1 c rest hrest =>
    rw [hrest]
    exact ⟨fun hok => (nomatch hok), fun hnil => (nomatch hnil)⟩
  case h_2 hnil =>
    rw [hnil]
    exact ⟨fun _ => rfl, fun _ => rfl⟩

/-- A text is read if it is short and printable and its parts are read. -/
theorem parse_eq_ok_iff {text : List Char} {u : Url} :
    parse text = .ok u ↔
      text.length ≤ maxLength ∧ (∀ c ∈ text, isControl c = false) ∧ ofParts (split text) = .ok u := by
  rw [← checkPrintable_eq_ok_iff]
  unfold parse
  by_cases hlong : maxLength < text.length
  · simp only [if_pos hlong, bind, Except.bind]
    exact ⟨fun hok => (nomatch hok), fun ⟨hshort, _⟩ => absurd hlong (Nat.not_lt.2 hshort)⟩
  · simp only [if_neg hlong, bind, Except.bind]
    have hshort := Nat.not_lt.1 hlong
    cases hprint : checkPrintable text with
    | error fault => exact ⟨fun hok => (nomatch hok), fun ⟨_, hok, _⟩ => (nomatch hok)⟩
    | ok _ => exact ⟨fun hread => ⟨hshort, rfl, hread⟩, fun ⟨_, _, hread⟩ => hread⟩

/-- The path that a text begins with. -/
theorem splitPath_fst (text : List Char) :
    (splitPath text).1 = text.takeWhile fun c => c != '?' && c != '#' := by
  unfold splitPath
  dsimp only
  split
  · split <;> rfl
  · rfl
  · rfl

/-- What follows an authority is a path that fits there. -/
theorem isAttached_splitPath (rest : List Char) :
    IsAttached (splitPath (rest.dropWhile (!endsAuthority ·))).1 := by
  rw [splitPath_fst]
  cases hdrop : rest.dropWhile (!endsAuthority ·) with
  | nil => exact .inl rfl
  | cons c more =>
    have hends : endsAuthority c = true := by
      have hhead := List.head?_dropWhile_not (!endsAuthority ·) rest
      rw [hdrop] at hhead
      simpa using hhead
    simp only [endsAuthority, Bool.or_eq_true, decide_eq_true_eq] at hends
    rcases hends with (rfl | rfl) | rfl
    · exact .inr rfl
    · exact .inl rfl
    · exact .inl rfl

/-- Parts with a scheme and a path that fits are read if their authority is. -/
theorem exists_ofParts_of_authority {p q : Parts} {u : Url} (hread : ofParts p = .ok u)
    (hscheme : q.scheme = p.scheme) (hsome : q.scheme ≠ [])
    (hauthority : q.authority = p.authority) (hpath : IsAttached q.path) :
    ∃ v, ofParts q = .ok v ∧ v.host = u.host ∧ u.SameOrigin v := by
  obtain ⟨hhost, hport, -, huscheme, huserInfo, -, -, -⟩ := exists_of_ofParts hread
  rw [← hauthority] at hhost hport huserInfo
  rw [← hscheme] at hport huscheme
  have hfits : ∀ after, checkPath q.path (!q.scheme.isEmpty) after = .ok () := by
    intro after
    have hattached : checkPath q.path (!q.scheme.isEmpty) true = .ok () :=
      checkPath_attached.2 hpath
    apply checkPath_of_imp hattached (fun _ => rfl)
    intro hnone
    simp [hsome] at hnone
  obtain ⟨v, hv⟩ : ∃ v, ofParts q = .ok v := by
    simp only [ofParts, hhost, hport, bind, Except.bind, hfits]
    exact ⟨_, rfl⟩
  obtain ⟨hhost', hport', -, hvscheme, huserInfo', -, -, -⟩ := exists_of_ofParts hv
  rw [hhost] at hhost'
  rw [hport] at hport'
  have hsame : v.host = u.host := (Except.ok.inj hhost').symm
  refine ⟨v, hv, hsame, ?_⟩
  exact {
    scheme_eq := huscheme.trans hvscheme.symm
    userInfo_eq := huserInfo.trans huserInfo'.symm
    host_eq := by rw [hsame]
    port_eq := Except.ok.inj hport' }

/-- A path that begins with a slash does not change where the URL of a host leads, and the
URL can be read without it. -/
theorem exists_parse_of_append {host url : String} {path : List Char} {u : Url}
    (hurl : Host.normalize host = .ok url) (hslash : path.head? = some '/')
    (hread : parse (url.toList ++ path) = .ok u) :
    ∃ v, parse url.toList = .ok v ∧ v.host = u.host ∧ u.SameOrigin v := by
  obtain ⟨start, scheme, rest, hstart, htext⟩ := exists_of_normalize hurl
  obtain ⟨more, rfl⟩ := List.head?_eq_some_iff.1 hslash
  obtain ⟨hlength, hprint, hparts⟩ := parse_eq_ok_iff.1 hread
  have hauthority : rest.takeWhile (!endsAuthority ·) =
      (rest ++ '/' :: more).takeWhile (!endsAuthority ·) :=
    (takeWhile_append_cons rfl rest more).symm
  rw [htext, List.append_assoc, hstart.split_eq] at hparts
  obtain ⟨v, hv, hhost, hsame⟩ := exists_ofParts_of_authority
    (q := split (start ++ rest)) hparts
    (by rw [hstart.split_eq]) (by rw [hstart.split_eq]; exact hstart.scheme_ne_nil)
    (by rw [hstart.split_eq]; exact hauthority)
    (by rw [hstart.split_eq]; exact isAttached_splitPath rest)
  refine ⟨v, parse_eq_ok_iff.2 ⟨?_, ?_, ?_⟩, hhost, hsame⟩
  · rw [List.length_append] at hlength
    exact Nat.le_trans (Nat.le_add_right _ _) hlength
  · intro c hmem
    exact hprint c (List.mem_append_left _ hmem)
  · rw [htext]
    exact hv

/-! ## Attaching options -/

/-- What holds of a URL whose scheme, user information and port are read as themselves. -/
structure IsSettled (u : Url) : Prop where
  isSent : u.IsSent
  scheme : u.scheme.map Char.toLower = u.scheme
  userInfo : percentEncode inUserInfo u.userInfo = u.userInfo
  port : ∀ n, u.port = some n → defaultPort? u.scheme ≠ some n

/-- What is encoded stays as it is when it is encoded again. -/
theorem percentEncode_percentEncode {keeps : Char → Bool}
    (hall : "%0123456789ABCDEF".toList.all keeps = true) (text : List Char) :
    percentEncode keeps (percentEncode keeps text) = percentEncode keeps text := by
  apply percentEncode_of_forall
  intro c hmem
  rcases keeps_or_isEncoding hmem with hkept | hencoding
  · exact hkept
  · exact of_isEncoding hall hencoding

/-- No port that is read is the usual one of its scheme. -/
theorem defaultPort?_ne_of_normalPort {text scheme : List Char} {n : Int}
    (hport : normalPort text scheme = .ok (some n)) : defaultPort? scheme ≠ some n := by
  unfold normalPort at hport
  split at hport
  · cases hport
  split at hport
  · cases hport
  · split at hport
    · cases hport
    case isFalse husual =>
      obtain rfl := Option.some.inj (Except.ok.inj hport)
      exact husual

/-- With a scheme in lower case, the parts of a URL that was read are in their final form. -/
theorem isSettled_of_ofParts {p : Parts} {u : Url} (hread : ofParts p = .ok u)
    (hscheme : p.scheme.map Char.toLower = p.scheme) : u.IsSettled := by
  obtain ⟨-, hport, -, huscheme, huserInfo, -, -, -⟩ := exists_of_ofParts hread
  have hsame : u.scheme = p.scheme := huscheme.trans hscheme
  refine ⟨isSent_of_ofParts hread, ?_, ?_, ?_⟩
  · rw [hsame, hscheme]
  · rw [huserInfo]
    exact percentEncode_percentEncode (by decide) _
  · intro n hn
    rw [hn] at hport
    rw [hsame]
    exact defaultPort?_ne_of_normalPort hport

/-- The parts of a URL of a host are in their final form, whatever is added to the host. -/
theorem isSettled_of_parse {host url : String} {more : List Char} {u : Url}
    (hurl : Host.normalize host = .ok url) (hread : parse (url.toList ++ more) = .ok u) :
    u.IsSettled := by
  obtain ⟨start, scheme, rest, hstart, htext⟩ := exists_of_normalize hurl
  obtain ⟨-, -, hparts⟩ := parse_eq_ok_iff.1 hread
  rw [htext, List.append_assoc, hstart.split_eq] at hparts
  exact isSettled_of_ofParts hparts hstart.map_toLower

/-- Options do not change where a URL leads. -/
theorem sameOrigin_of_attach {u v : Url} {options : List Param} (hsettled : u.IsSettled)
    (hattach : u.attach options = .ok v) : v.SameOrigin u := by
  by_cases hsome : options = []
  · subst hsome
    obtain rfl := Except.ok.inj (u.attach_nil.symm.trans hattach)
    exact .refl u
  rw [u.attach_of_ne_nil hsome, withQuery_eq_ok_iff] at hattach
  obtain ⟨hhost, hport, -, hscheme, huserInfo, -, -, -⟩ := exists_of_ofParts hattach.2
  rw [hsettled.isSent.splitUserInfo_authority] at hhost hport huserInfo
  rw [hsettled.isSent.splitHost_netloc] at hhost hport
  obtain ⟨again, hagain, hsame⟩ := hsettled.isSent.host.normalHost_textOfHost
    (IsSentHost.isReadable_of_normalHost hhost)
  refine ⟨hscheme.trans hsettled.scheme, huserInfo.trans hsettled.userInfo, ?_, ?_⟩
  · rw [hagain] at hhost
    rw [← Except.ok.inj hhost]
    exact hsame
  · rw [normalPort_portText hsettled.isSent.port] at hport
    rw [← Except.ok.inj hport]
    cases hn : u.port with
    | none => rfl
    | some n => exact if_neg (hsettled.port n hn)

end TezosNode.Url
