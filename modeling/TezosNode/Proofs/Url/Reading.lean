import TezosNode.Proofs.Number.Numeral
import TezosNode.Proofs.Url.Host

set_option autoImplicit false

/-!
# URL: reading parts again

A URL that gets a new query has its other parts read again from the form in which they are
sent.  The two halves of the proof that this can fail for the host alone meet at `IsSent`, which
says what that form has: reading parts gives only such URLs, and the parts of every such URL can be
read if its host can.  A new query is therefore refused for the length of a part or for the host,
and for nothing else.
-/

namespace TezosNode.Url

/-! ## Splitting -/

theorem bne_of_not_mem {mark : Char} {text : List Char} (hnone : mark ∉ text) :
    ∀ c ∈ text, (c != mark) = true := fun _ hmem =>
  bne_iff_ne.2 fun heq => hnone (heq ▸ hmem)

/-- The text after the last mark, or the whole text if there is none. -/
def afterLast (mark : Char) (text : List Char) : List Char :=
  (text.reverse.takeWhile (· != mark)).reverse

section AfterLast

variable {mark : Char} {text : List Char}

theorem not_mem_afterLast : mark ∉ afterLast mark text := by
  intro hmem
  have hne := List.mem_takeWhile_imp (List.mem_reverse.1 hmem)
  exact bne_iff_ne.1 hne rfl

theorem afterLast_of_not_mem (hnone : mark ∉ text) : afterLast mark text = text := by
  have hall := bne_of_not_mem (mt List.mem_reverse.1 hnone)
  rw [afterLast, List.takeWhile_eq_self_iff.2 hall, List.reverse_reverse]

theorem afterLast_append_cons (front : List Char) (hnone : mark ∉ text) :
    afterLast mark (front ++ mark :: text) = text := by
  have hall := bne_of_not_mem (mt List.mem_reverse.1 hnone)
  rw [afterLast, List.reverse_append, List.reverse_cons, List.append_assoc, List.singleton_append,
    List.takeWhile_append_of_pos hall, List.takeWhile_cons_of_neg (by simp), List.append_nil,
    List.reverse_reverse]

end AfterLast

theorem splitUserInfo_eq (authority : List Char) :
    splitUserInfo authority =
      (authority.take (authority.length - (afterLast '@' authority).length - 1),
        afterLast '@' authority) :=
  rfl

theorem splitUserInfo_of_not_mem {netloc : List Char} (hnone : '@' ∉ netloc) :
    splitUserInfo netloc = ([], netloc) := by
  rw [splitUserInfo_eq, afterLast_of_not_mem hnone, Nat.sub_self, Nat.zero_sub, List.take_zero]

theorem splitUserInfo_append_cons (userInfo : List Char) {netloc : List Char}
    (hnone : '@' ∉ netloc) : splitUserInfo (userInfo ++ '@' :: netloc) = (userInfo, netloc) := by
  have hlength : (userInfo ++ '@' :: netloc).length - netloc.length - 1 = userInfo.length := by
    rw [List.length_append, List.length_cons]
    omega
  rw [splitUserInfo_eq, afterLast_append_cons userInfo hnone, hlength, List.take_left]

/-- A text that begins with no bracket is split at its first colon. -/
theorem splitHost_of_head? {text : List Char} (hhead : text.head? ≠ some '[') :
    splitHost text = (text.takeWhile (· != ':'), text.dropWhile (· != ':')) := by
  unfold splitHost
  split
  · exact absurd rfl hhead
  · rfl

/-- A text that begins with a bracket is split after its last closing bracket. -/
theorem splitHost_of_bracket {text front : List Char} (hhead : text.head? = some '[')
    (hfront : text.take (text.length - (afterLast ']' text).length) = front) (hsome : front ≠ []) :
    splitHost text = (front, afterLast ']' text) := by
  obtain ⟨rest, rfl⟩ := List.head?_eq_some_iff.1 hhead
  subst hfront
  exact if_neg fun hempty => hsome (List.isEmpty_iff.1 hempty)

theorem splitHost_bracketed (host : List Char) {rest : List Char} (hnone : ']' ∉ rest) :
    splitHost (bracketed host ++ rest) = (bracketed host, rest) := by
  have hrest : afterLast ']' (bracketed host ++ rest) = rest := by
    rw [bracketed, List.append_assoc]
    exact afterLast_append_cons ('[' :: host) hnone
  have htake : (bracketed host ++ rest).take
      ((bracketed host ++ rest).length - (afterLast ']' (bracketed host ++ rest)).length) =
        bracketed host := by
    rw [hrest, List.length_append, Nat.add_sub_cancel, List.take_left]
  rw [splitHost_of_bracket rfl htake (List.cons_ne_nil _ _), hrest]

theorem mem_of_mem_splitHost {text : List Char} {c : Char} (hmem : c ∈ (splitHost text).1) :
    c ∈ text := by
  have hplain := (List.takeWhile_sublist (· != ':') (l := text)).mem (a := c)
  unfold splitHost at hmem
  dsimp only at hmem
  split at hmem
  · split at hmem
    · exact hplain hmem
    · exact List.mem_of_mem_take hmem
  · exact hplain hmem

/-! ## Ports -/

/-- A port that was read can be read again, though it may be the usual one of another
scheme. -/
theorem normalPort_portText {u : Url}
    (hport : ∀ n, u.port = some n → n.natAbs < Nat.pow 10 Numeral.maxDigits) (scheme : List Char) :
    normalPort (dropColon u.portText) scheme =
      .ok (u.port.bind fun n => if defaultPort? scheme = some n then none else some n) := by
  unfold portText
  cases hread : u.port with
  | none => rfl
  | some n =>
    change normalPort (toString n).toList scheme = _
    have hsome : (toString n).toList.isEmpty = false :=
      List.isEmpty_eq_false_iff.2 (Numeral.toList_toString_ne_nil n)
    rw [normalPort, hsome, if_neg Bool.false_ne_true, Numeral.integer_toString (hport n hread)]
    rfl

theorem natAbs_lt_of_normalPort {text scheme : List Char} {n : Int}
    (hport : normalPort text scheme = .ok (some n)) : n.natAbs < Nat.pow 10 Numeral.maxDigits := by
  unfold normalPort at hport
  split at hport
  · cases hport
  split at hport
  · cases hport
  case h_2 m hread =>
    split at hport
    · cases hport
    · obtain rfl := Option.some.inj (Except.ok.inj hport)
      exact Numeral.natAbs_lt_of_integer hread

theorem portText_cases (u : Url) :
    u.portText = [] ∨ ∃ n : Int, u.portText = ':' :: (toString n).toList := by
  unfold portText
  split
  · exact .inr ⟨_, rfl⟩
  · exact .inl rfl

/-- None of the marks before a port stands in it. -/
theorem not_mem_portText (u : Url) {mark : Char} (hcolon : mark ≠ ':') (hsign : mark ≠ '-')
    (hdigit : Numeral.isDigit mark = false) : mark ∉ u.portText := by
  intro hmem
  rcases u.portText_cases with hnone | ⟨n, hsome⟩
  · rw [hnone] at hmem
    cases hmem
  · rw [hsome] at hmem
    rcases List.mem_cons.1 hmem with hmark | hmem
    · exact hcolon hmark
    · rcases Numeral.isWriting_of_mem_toString hmem with hmark | hmark
      · rw [hdigit] at hmark
        cases hmark
      · exact hsign hmark

/-! ## Paths -/

/-- Whether a path can follow an authority. -/
def IsAttached (path : List Char) : Prop := path = [] ∨ path.head? = some '/'

/-- Taking segments one by one never takes away the empty one that stands for the root. -/
theorem getLast?_foldl_addSegment (segments : List (List Char)) {before : List (List Char)}
    (hroot : before.getLast? = some []) :
    (segments.foldl addSegment before).getLast? = some [] := by
  induction segments generalizing before with
  | nil => exact hroot
  | cons segment segments ih =>
    refine ih ?_
    obtain ⟨latest, earlier, rfl⟩ : ∃ latest earlier, before = latest :: earlier :=
      List.exists_cons_of_ne_nil fun hnil => by simp [hnil] at hroot
    unfold addSegment
    split
    · exact hroot
    split
    · split
      · exact hroot
      case isFalse hne =>
        cases earlier with
        | nil => exact absurd (congrArg (fun l => [l]) (by simpa using hroot)) hne
        | cons => simpa using hroot
    · simpa using hroot

theorem isAttached_resolveDots {path : List Char} (h : IsAttached path) :
    IsAttached (resolveDots path) := by
  rcases h with rfl | hslash
  · exact .inl rfl
  obtain ⟨rest, rfl⟩ := List.head?_eq_some_iff.1 hslash
  have hsplit : ('/' :: rest).splitOn '/' = [] :: rest.splitOn '/' :=
    @List.splitOn_append_cons_self_of_not_mem _ [] _ _ '/' List.not_mem_nil rest
  have hroot : (('/' :: rest).splitOn '/' |>.foldl addSegment []).reverse.head? = some [] := by
    rw [List.head?_reverse, hsplit]
    exact getLast?_foldl_addSegment (rest.splitOn '/') rfl
  obtain ⟨segments, hsegments⟩ := List.head?_eq_some_iff.1 hroot
  unfold resolveDots
  dsimp only
  split
  · rw [hsegments]
    cases segments with
    | nil => exact .inl rfl
    | cons => exact .inr rfl
  · exact .inr rfl

theorem isAttached_percentEncode {path : List Char} (h : IsAttached path) :
    IsAttached (percentEncode inPath path) := by
  rcases h with rfl | hslash
  · exact .inl rfl
  · obtain ⟨rest, rfl⟩ := List.head?_eq_some_iff.1 hslash
    exact .inr rfl

theorem checkPath_attached {path : List Char} {hasScheme : Bool} :
    checkPath path hasScheme true = .ok () ↔ IsAttached path := by
  unfold checkPath IsAttached
  rw [if_pos rfl]
  split
  case isTrue h => exact ⟨fun _ => h, fun _ => rfl⟩
  case isFalse h => exact ⟨fun hok => (nomatch hok), fun hattached => absurd hattached h⟩

theorem checkPath_alone {path : List Char} :
    checkPath path false false = .ok () ↔ ¬['/', '/'] <+: path ∧ path.head? ≠ some ':' := by
  unfold checkPath
  rw [if_neg Bool.false_ne_true, if_neg Bool.false_ne_true, ← List.isPrefixOf_iff_prefix]
  split
  case isTrue h => exact ⟨fun hok => (nomatch hok), fun hpath => absurd h hpath.1⟩
  case isFalse hslashes =>
    split
    case isTrue h => exact ⟨fun hok => (nomatch hok), fun hpath => absurd h hpath.2⟩
    case isFalse hcolon => exact ⟨fun _ => ⟨hslashes, hcolon⟩, fun _ => rfl⟩

/-- A path that cannot be taken for another part cannot be once it is encoded. -/
theorem checkPath_percentEncode {path : List Char} (h : checkPath path false false = .ok ()) :
    checkPath (percentEncode inPath path) false false = .ok () := by
  obtain ⟨hslashes, hcolon⟩ := checkPath_alone.1 h
  refine checkPath_alone.2 ⟨fun ⟨rest, hencoded⟩ => ?_, fun hhead => ?_⟩
  · obtain ⟨path, rfl, hrest⟩ := exists_of_percentEncode_eq_cons (by decide) hencoded.symm
    obtain ⟨path, rfl, -⟩ := exists_of_percentEncode_eq_cons (by decide) hrest.symm
    exact hslashes ⟨path, rfl⟩
  · obtain ⟨rest, hencoded⟩ := List.head?_eq_some_iff.1 hhead
    obtain ⟨path, rfl, -⟩ := exists_of_percentEncode_eq_cons (by decide) hencoded
    exact hcolon rfl

/-- A path that fits its place still does so without an authority, if there is a scheme. -/
theorem checkPath_of_imp {path : List Char} {hasScheme before after : Bool}
    (h : checkPath path hasScheme before = .ok ()) (hless : after = true → before = true)
    (hsame : hasScheme = false → after = before) : checkPath path hasScheme after = .ok () := by
  cases hasScheme with
  | false => rwa [hsame rfl]
  | true =>
    cases after with
    | false => rfl
    | true => rwa [hless rfl] at h

/-! ## URLs that are sent -/

/-- Whether a URL has an authority. -/
def hasAuthority (u : Url) : Bool := !u.userInfo.isEmpty || !u.host.isEmpty || u.port.isSome

/-- What holds of a URL in the form in which it is sent. -/
structure IsSent (u : Url) : Prop where
  host : IsSentHost u.host
  port : ∀ n, u.port = some n → n.natAbs < Nat.pow 10 Numeral.maxDigits
  path : checkPath u.path (!u.scheme.isEmpty) u.hasAuthority = .ok ()

/-- What reading parts goes through when it succeeds. -/
theorem exists_of_ofParts {p : Parts} {u : Url} (hread : ofParts p = .ok u) :
    normalHost (splitHost (splitUserInfo p.authority).2).1 = .ok u.host ∧
    normalPort (dropColon (splitHost (splitUserInfo p.authority).2).2) p.scheme = .ok u.port ∧
    checkPath p.path (!p.scheme.isEmpty) u.hasAuthority = .ok () ∧
    u.scheme = p.scheme.map Char.toLower ∧
    u.userInfo = percentEncode inUserInfo (splitUserInfo p.authority).1 ∧
    u.path = percentEncode inPath
      (if !p.scheme.isEmpty || u.hasAuthority then resolveDots p.path else p.path) ∧
    u.query = p.query.map (percentEncode inQuery) ∧
    u.fragment = p.fragment.map (percentEncode inFragment) := by
  rcases huser : splitUserInfo p.authority with ⟨userInfo, rest⟩
  rcases hsplit : splitHost rest with ⟨hostText, portText⟩
  simp only [ofParts, huser, hsplit] at hread
  rcases hhost : normalHost hostText with fault | host
  · rw [hhost] at hread
    cases hread
  rcases hport : normalPort (dropColon portText) p.scheme with fault | port
  · rw [hhost, hport] at hread
    cases hread
  rw [hhost, hport] at hread
  simp only [bind, Except.bind, pure, Except.pure] at hread
  split at hread
  · cases hread
  case h_2 hpath =>
    obtain rfl := Except.ok.inj hread
    have huserInfo : (percentEncode inUserInfo userInfo).isEmpty = userInfo.isEmpty := by
      rw [Bool.eq_iff_iff, List.isEmpty_iff, List.isEmpty_iff, percentEncode_eq_nil_iff]
    refine ⟨rfl, rfl, ?_, rfl, rfl, ?_, rfl, rfl⟩
    · simpa only [hasAuthority, huserInfo] using hpath
    · simp only [hasAuthority, huserInfo]

/-- Reading parts gives URLs in the form in which they are sent. -/
theorem isSent_of_ofParts {p : Parts} {u : Url} (hread : ofParts p = .ok u) : u.IsSent := by
  obtain ⟨hhost, hport, hpath, hscheme, -, hsent, -, -⟩ := exists_of_ofParts hread
  have hempty : u.scheme.isEmpty = p.scheme.isEmpty := by rw [hscheme, List.isEmpty_map]
  refine ⟨isSentHost_of_normalHost hhost ?_, fun n hn => natAbs_lt_of_normalPort (hn ▸ hport), ?_⟩
  · exact fun hmem => not_mem_afterLast (mem_of_mem_splitHost hmem)
  · rw [hempty, hsent]
    cases hauthority : u.hasAuthority with
    | true =>
      rw [hauthority] at hpath
      rw [Bool.or_true, if_pos rfl]
      exact checkPath_attached.2 (isAttached_percentEncode
        (isAttached_resolveDots (checkPath_attached.1 hpath)))
    | false =>
      rw [hauthority] at hpath
      cases hnone : p.scheme.isEmpty with
      | false => rfl
      | true =>
        rw [hnone] at hpath
        exact checkPath_percentEncode hpath

namespace IsSent

variable {u : Url}

/-- The host and the port are split where they were put together. -/
theorem splitHost_netloc (h : u.IsSent) : splitHost u.netloc = (textOfHost u.host, u.portText) := by
  change splitHost (textOfHost u.host ++ u.portText) = _
  unfold textOfHost
  split
  case isTrue =>
    exact splitHost_bracketed u.host (u.not_mem_portText (by decide) (by decide) rfl)
  case isFalse hcolon =>
    have hnone : ':' ∉ u.host := mt List.contains_iff_mem.2 hcolon
    have hhost := bne_of_not_mem hnone
    have hbracket : '[' ∉ u.host := h.host.not_mem_of_not_mem hnone
    rw [splitHost_of_head?, List.takeWhile_append_of_pos hhost, List.dropWhile_append_of_pos hhost]
    · rcases u.portText_cases with hnone | ⟨n, hsome⟩
      · rw [hnone, List.takeWhile_nil, List.append_nil, List.dropWhile_nil]
      · rw [hsome, List.takeWhile_cons_of_neg (by decide), List.append_nil,
          List.dropWhile_cons_of_neg (by decide)]
    · intro hhead
      rcases List.mem_append.1 (List.mem_of_head? hhead) with hmem | hmem
      · exact hbracket hmem
      · exact u.not_mem_portText (by decide) (by decide) rfl hmem

/-- The user information is split from the host where it was put before it. -/
theorem splitUserInfo_authority (h : u.IsSent) :
    splitUserInfo u.authority = (u.userInfo, u.netloc) := by
  have huser : '@' ∉ u.netloc := by
    intro hmem
    rcases List.mem_append.1 hmem with hhost | hport
    · exact h.host.not_mem_textOfHost hhost
    · exact u.not_mem_portText (by decide) (by decide) rfl hport
  unfold authority
  split
  case isTrue hnone =>
    rw [List.isEmpty_iff.1 hnone, List.nil_append]
    exact splitUserInfo_of_not_mem huser
  case isFalse =>
    rw [List.append_assoc]
    exact splitUserInfo_append_cons u.userInfo huser

/-- What is read of the host of a URL whose parts are read again. -/
theorem normalHost_of_ofParts (h : u.IsSent) {query : Option (List Char)} {v : Url}
    (hagain : ofParts ⟨u.scheme, u.authority, u.path, query, u.fragment⟩ = .ok v) :
    normalHost (textOfHost u.host) = .ok v.host := by
  obtain ⟨hhost, -⟩ := exists_of_ofParts hagain
  rwa [h.splitUserInfo_authority, h.splitHost_netloc] at hhost

/-- The parts of a URL that is sent cannot be read again if its host cannot. -/
theorem ofParts_of_not_isReadable (h : u.IsSent) (hguise : ¬IsReadable u.host)
    (query : Option (List Char)) :
    ofParts ⟨u.scheme, u.authority, u.path, query, u.fragment⟩ = .error (.ipv4 u.host) := by
  simp only [ofParts, h.splitUserInfo_authority, h.splitHost_netloc,
    IsSentHost.normalHost_of_not_isReadable hguise, bind, Except.bind]

/-- The parts of a URL that is sent can be read again if its host can, whatever its query. -/
theorem exists_ofParts (h : u.IsSent) (hreadable : IsReadable u.host)
    (query : Option (List Char)) :
    ∃ v, ofParts ⟨u.scheme, u.authority, u.path, query, u.fragment⟩ = .ok v := by
  obtain ⟨again, hhost, hsame⟩ := h.host.normalHost_textOfHost hreadable
  have hport := normalPort_portText h.port u.scheme
  have hpath : checkPath u.path (!u.scheme.isEmpty) (!u.userInfo.isEmpty || !again.isEmpty ||
      (u.port.bind fun n => if defaultPort? u.scheme = some n then none else some n).isSome) =
        .ok () := by
    have hnone : again.isEmpty = u.host.isEmpty := by
      rw [← List.isEmpty_map, hsame, List.isEmpty_map]
    rw [hnone]
    -- a port may be the usual one now that the scheme is in lower case, so the authority may be
    -- gone; without a scheme there is no usual port
    refine checkPath_of_imp h.path (fun hauthority => ?_) fun hscheme => ?_
    · simp only [hasAuthority, Bool.or_eq_true] at hauthority ⊢
      refine hauthority.imp_right fun hport => ?_
      cases hread : u.port with
      | none => simp [hread] at hport
      | some => rfl
    · have hnil : u.scheme = [] := by simpa using hscheme
      have husual : defaultPort? u.scheme = none := by
        rw [hnil]
        rfl
      simp [husual, hasAuthority]
  simp only [ofParts, h.splitUserInfo_authority, h.splitHost_netloc, hhost, hport, bind, Except.bind,
    hpath]
  exact ⟨_, rfl⟩

end IsSent

theorem isSent_of_parse {text : List Char} {u : Url} (hread : parse text = .ok u) : u.IsSent := by
  unfold parse at hread
  simp only [bind, Except.bind] at hread
  split at hread
  · cases hread
  split at hread
  · cases hread
  · exact isSent_of_ofParts hread

/-! ## Lengths -/

/-- The parts in the order in which their lengths are checked. -/
def Part.all : List Part := [.scheme, .authority, .path, .query, .fragment]

theorem Part.mem_all (part : Part) : part ∈ Part.all := by
  cases part <;> decide

/-- The text of each part of a URL that gets a new query. -/
def partText (u : Url) (query : List Char) : Part → List Char
  | .scheme => u.scheme
  | .authority => u.authority
  | .path => u.path
  | .query => query
  | .fragment => u.fragment.getD []

/-- Whether a part is longer than a part can be. -/
def isTooLong (u : Url) (query : List Char) (part : Part) : Bool :=
  maxLength < (u.partText query part).length

/-- Checks of lengths end at the first part that is too long. -/
theorem forM_checkLength (u : Url) (query : List Char) (parts : List Part) :
    (forM parts fun part => checkLength part (u.partText query part)) =
      match parts.find? (u.isTooLong query) with
      | some part => .error (.partTooLong part)
      | none => .ok () := by
  induction parts with
  | nil => rfl
  | cons part parts ih =>
    rw [List.forM_cons, ih, checkLength, List.find?_cons]
    by_cases hlong : maxLength < (u.partText query part).length
    · simp [isTooLong, hlong, bind, Except.bind]
    · simp [isTooLong, hlong, bind, Except.bind]

/-- A new query is refused for the first part that is too long; otherwise all parts are read
again. -/
theorem withQuery_eq (u : Url) (query : List Char) :
    u.withQuery query =
      match Part.all.find? (u.isTooLong query) with
      | some part => .error (.partTooLong part)
      | none => ofParts ⟨u.scheme, u.authority, u.path, some query, u.fragment⟩ := by
  have hchecks : u.withQuery query =
      (forM Part.all fun part => checkLength part (u.partText query part)) >>= fun _ =>
        ofParts ⟨u.scheme, u.authority, u.path, some query, u.fragment⟩ := by
    simp only [Part.all, List.forM_cons, List.forM_nil, bind_assoc, pure_bind]
    rfl
  rw [hchecks, forM_checkLength]
  split <;> rfl

/-- A URL gets a new query if no part is too long and the parts are read. -/
theorem withQuery_eq_ok_iff {u v : Url} {query : List Char} :
    u.withQuery query = .ok v ↔
      (∀ part, (u.partText query part).length ≤ maxLength) ∧
        ofParts ⟨u.scheme, u.authority, u.path, some query, u.fragment⟩ = .ok v := by
  have hfits : Part.all.find? (u.isTooLong query) = none ↔
      ∀ part, (u.partText query part).length ≤ maxLength := by
    simp [isTooLong, Part.mem_all]
  rw [← hfits, withQuery_eq]
  cases Part.all.find? (u.isTooLong query) with
  | none => simp
  | some part => simp

end TezosNode.Url
