import TezosNode.Proofs.Url.Literal

set_option autoImplicit false

/-!
# URL: what options leave as it is

Options are attached by reading all parts of a URL again, so what stays as it is are the
parts that reading does not change twice.  A path has a form that both of its steps keep, no
segment of dots: taking segments away leaves none, and encoding makes none, since a slash
and a dot are encoded as themselves and no encoding has any.  The other parts are in lower
case or encoded once and for all.

A port is the exception.  It is compared with the usual one of the scheme as the scheme was
written, so that a scheme with capital letters leaves a port in its URL that is left out when
the URL is read again.
-/

namespace TezosNode.Url

/-! ## Paths without segments of dots -/

/-- Pieces do not have the mark that they were split at. -/
theorem not_mem_of_mem_splitOn {mark : Char} {text piece : List Char}
    (hpiece : piece ∈ text.splitOn mark) : mark ∉ piece := by
  induction text generalizing piece with
  | nil =>
    obtain rfl := List.mem_singleton.1 hpiece
    exact List.not_mem_nil
  | cons c rest ih =>
    rw [List.splitOn_cons_eq_if_modifyHead] at hpiece
    split at hpiece
    case isTrue =>
      rcases List.mem_cons.1 hpiece with rfl | hlater
      · exact List.not_mem_nil
      · exact ih hlater
    case isFalse hne =>
      obtain ⟨first, later, hsplit⟩ := List.exists_cons_of_ne_nil (List.splitOn_ne_nil mark rest)
      rw [hsplit, List.modifyHead_cons] at hpiece
      rw [hsplit] at ih
      rcases List.mem_cons.1 hpiece with rfl | hlater
      · intro hmem
        rcases List.mem_cons.1 hmem with rfl | hfirst
        · exact hne BEq.rfl
        · exact ih List.mem_cons_self hfirst
      · exact ih (List.mem_cons_of_mem first hlater)

/-- Taking segments one by one takes only such as are not of dots. -/
theorem mem_of_mem_foldl_addSegment {segments before : List (List Char)} {segment : List Char}
    (hmem : segment ∈ segments.foldl addSegment before) :
    segment ∈ before ∨ segment ∈ segments ∧ isDots segment = false := by
  induction segments generalizing before with
  | nil => exact .inl hmem
  | cons next rest ih =>
    rcases ih hmem with hadded | ⟨hrest, hplain⟩
    · unfold addSegment at hadded
      split at hadded
      · exact .inl hadded
      split at hadded
      · split at hadded
        · exact .inl hadded
        · exact .inl (List.mem_of_mem_drop hadded)
      case isFalse hdot hdots =>
        rcases List.mem_cons.1 hadded with rfl | hbefore
        · exact .inr ⟨List.mem_cons_self, by simp [isDots, hdot, hdots]⟩
        · exact .inl hbefore
    · exact .inr ⟨List.mem_cons_of_mem next hrest, hplain⟩

/-- A path has the segments that it was put together from. -/
theorem hasDots_intercalate {segments : List (List Char)} (hslash : ∀ s ∈ segments, '/' ∉ s)
    (hplain : ∀ s ∈ segments, isDots s = false) :
    hasDots (['/'].intercalate segments) = false := by
  by_cases hnone : segments = []
  · subst hnone
    rfl
  · rw [hasDots, List.splitOn_intercalate '/' hslash hnone, List.any_eq_false]
    intro segment hmem hdots
    rw [hplain segment hmem] at hdots
    cases hdots

/-- No segment of dots is left in a path. -/
theorem hasDots_resolveDots (path : List Char) : hasDots (resolveDots path) = false := by
  rw [resolveDots_eq]
  split
  case isFalse hnone => exact Bool.eq_false_iff.2 hnone
  case isTrue =>
    have hmem : ∀ segment ∈ ((path.splitOn '/').foldl addSegment []).reverse,
        segment ∈ path.splitOn '/' ∧ isDots segment = false := fun segment hsegment =>
      (mem_of_mem_foldl_addSegment (List.mem_reverse.1 hsegment)).resolve_left List.not_mem_nil
    apply hasDots_intercalate
    · intro segment hsegment
      exact not_mem_of_mem_splitOn (hmem segment hsegment).1
    · intro segment hsegment
      exact (hmem segment hsegment).2

section Encoding

variable {keeps : Char → Bool}

/-- Segments are encoded one by one if the slash between them is kept. -/
theorem percentEncode_intercalate (hslash : keeps '/' = true) (segments : List (List Char)) :
    percentEncode keeps (['/'].intercalate segments) =
      ['/'].intercalate (segments.map (percentEncode keeps)) := by
  have hkept : percentEncode keeps ['/'] = ['/'] := by
    rw [percentEncode_cons, if_pos hslash]
    rfl
  induction segments with
  | nil => rfl
  | cons segment rest ih =>
    cases rest with
    | nil => simp
    | cons next rest =>
      rw [List.intercalate_cons_cons, percentEncode, List.flatMap_append, List.flatMap_append]
      change percentEncode keeps segment ++ percentEncode keeps ['/'] ++
        percentEncode keeps (['/'].intercalate (next :: rest)) = _
      rw [hkept, ih]
      exact (List.intercalate_cons_cons).symm

/-- An encoded text has a mark that no encoding has just if the text has it. -/
theorem mem_of_mem_percentEncode {mark : Char} {text : List Char}
    (hmark : isEncoding mark = false) (hmem : mark ∈ percentEncode keeps text) : mark ∈ text := by
  obtain ⟨c, hc, hmem⟩ := List.mem_flatMap.1 hmem
  split at hmem
  · obtain rfl := List.mem_singleton.1 hmem
    exact hc
  · rw [isEncoding_of_mem_percentChar hmem] at hmark
    cases hmark

/-- No segment becomes one of dots by being encoded. -/
theorem isDots_of_isDots_percentEncode {segment : List Char}
    (hdots : isDots (percentEncode keeps segment) = true) : isDots segment = true := by
  have hdot : ('.' : Char) ≠ '%' := by decide
  rcases Bool.or_eq_true_iff.1 hdots with hone | htwo
  · obtain ⟨rest, rfl, hrest⟩ := exists_of_percentEncode_eq_cons hdot (eq_of_beq hone)
    rw [percentEncode_eq_nil_iff.1 hrest.symm]
    rfl
  · obtain ⟨second, rfl, hsecond⟩ := exists_of_percentEncode_eq_cons hdot (eq_of_beq htwo)
    obtain ⟨rest, rfl, hrest⟩ := exists_of_percentEncode_eq_cons hdot hsecond.symm
    rw [percentEncode_eq_nil_iff.1 hrest.symm]
    rfl

/-- Encoding a path makes no segments of dots. -/
theorem hasDots_percentEncode {path : List Char} (hslash : keeps '/' = true)
    (hnone : hasDots path = false) : hasDots (percentEncode keeps path) = false := by
  rw [← @List.intercalate_splitOn _ path _ _ '/', percentEncode_intercalate hslash]
  rw [hasDots, List.any_eq_false] at hnone
  apply hasDots_intercalate
  · intro encoded hmem
    obtain ⟨segment, hsegment, rfl⟩ := List.mem_map.1 hmem
    exact fun hslash => not_mem_of_mem_splitOn hsegment (mem_of_mem_percentEncode rfl hslash)
  · intro encoded hmem
    obtain ⟨segment, hsegment, rfl⟩ := List.mem_map.1 hmem
    refine Bool.eq_false_iff.2 fun hdots => ?_
    exact hnone segment hsegment (isDots_of_isDots_percentEncode hdots)

end Encoding

/-- A path that was resolved, if it was, and then encoded stays as it is when both is done
again. -/
theorem percentEncode_resolveDots_again (resolves : Bool) (path : List Char) :
    let sent := percentEncode inPath (if resolves then resolveDots path else path)
    percentEncode inPath (if resolves then resolveDots sent else sent) = sent := by
  cases resolves with
  | false => exact percentEncode_percentEncode (by decide) path
  | true =>
    change percentEncode inPath (resolveDots (percentEncode inPath (resolveDots path))) = _
    rw [resolveDots_of_hasDots (hasDots_percentEncode rfl (hasDots_resolveDots path))]
    exact percentEncode_percentEncode (by decide) (resolveDots path)

/-! ## Reading parts again -/

/-- Whether a URL was read from parts, as all are that requests have. -/
def IsRead (u : Url) : Prop := ∃ p, ofParts p = .ok u

/-- What two URLs share that may differ in their ports and queries; hosts are the same up to
letter case. -/
structure SameFrame (u v : Url) : Prop where
  scheme_eq : u.scheme = v.scheme
  userInfo_eq : u.userInfo = v.userInfo
  host_eq : u.host.map Char.toLower = v.host.map Char.toLower
  path_eq : u.path = v.path
  fragment_eq : u.fragment = v.fragment

theorem SameFrame.refl (u : Url) : u.SameFrame u := ⟨rfl, rfl, rfl, rfl, rfl⟩

/-- Whether a URL names a port although it is the usual one of its scheme. -/
def NamesUsualPort (u : Url) : Prop := u.port ≠ none ∧ defaultPort? u.scheme = u.port

instance (u : Url) : Decidable u.NamesUsualPort :=
  inferInstanceAs (Decidable (_ ∧ _))

namespace IsRead

variable {u v : Url}

theorem isSent (h : u.IsRead) : u.IsSent := by
  obtain ⟨p, hread⟩ := h
  exact isSent_of_ofParts hread

theorem of_parse {text : List Char} (hread : parse text = .ok u) : u.IsRead :=
  ⟨split text, (parse_eq_ok_iff.1 hread).2.2⟩

/-- The scheme of a URL that was read is in lower case. -/
theorem scheme_map_toLower (h : u.IsRead) : u.scheme.map Char.toLower = u.scheme := by
  obtain ⟨p, hread⟩ := h
  obtain ⟨-, -, -, hscheme, -⟩ := exists_of_ofParts hread
  rw [hscheme, map_toLower_map_toLower]

theorem percentEncode_userInfo (h : u.IsRead) :
    percentEncode inUserInfo u.userInfo = u.userInfo := by
  obtain ⟨p, hread⟩ := h
  obtain ⟨-, -, -, -, huserInfo, -⟩ := exists_of_ofParts hread
  rw [huserInfo]
  exact percentEncode_percentEncode (by decide) _

theorem map_percentEncode_fragment (h : u.IsRead) :
    u.fragment.map (percentEncode inFragment) = u.fragment := by
  obtain ⟨p, hread⟩ := h
  obtain ⟨-, -, -, -, -, -, -, hfragment⟩ := exists_of_ofParts hread
  rw [hfragment, Option.map_map]
  apply Option.map_congr
  intro text _
  exact percentEncode_percentEncode (by decide) text

/-- The path of a URL that was read is in its final form. -/
theorem percentEncode_path (h : u.IsRead) :
    percentEncode inPath
      (if !u.scheme.isEmpty || u.hasAuthority then resolveDots u.path else u.path) = u.path := by
  obtain ⟨p, hread⟩ := h
  obtain ⟨-, -, -, hscheme, -, hpath, -, -⟩ := exists_of_ofParts hread
  have hempty : u.scheme.isEmpty = p.scheme.isEmpty := by rw [hscheme, List.isEmpty_map]
  rw [hempty, hpath]
  exact percentEncode_resolveDots_again _ p.path

/-- The port that is left when a URL is read again. -/
theorem port_again (h : u.IsRead) {port : Option Int}
    (hport : normalPort (dropColon u.portText) u.scheme = .ok port) :
    port = if u.NamesUsualPort then none else u.port := by
  rw [normalPort_portText h.isSent.port] at hport
  rw [← Except.ok.inj hport]
  cases hn : u.port with
  | none => rw [ite_self]; rfl
  | some n =>
    have husual : defaultPort? u.scheme = some n ↔ u.NamesUsualPort := by simp [NamesUsualPort, hn]
    exact if_congr husual rfl rfl

/-- A URL whose parts are read again keeps its frame, and its port unless this is the usual
one. -/
theorem frame_of_ofParts (h : u.IsRead) {query : Option (List Char)}
    (hagain : ofParts ⟨u.scheme, u.authority, u.path, query, u.fragment⟩ = .ok v) :
    v.SameFrame u ∧ v.port = if u.NamesUsualPort then none else u.port := by
  obtain ⟨hhost, hport, -, hscheme, huserInfo, hpath, -, hfragment⟩ := exists_of_ofParts hagain
  rw [h.isSent.splitUserInfo_authority] at hhost hport huserInfo
  rw [h.isSent.splitHost_netloc] at hhost hport
  obtain ⟨again, hnormal, hsame⟩ := h.isSent.host.normalHost_textOfHost
    (IsSentHost.isReadable_of_normalHost hhost)
  obtain rfl : again = v.host := Except.ok.inj (hnormal.symm.trans hhost)
  have huser : v.userInfo = u.userInfo := huserInfo.trans h.percentEncode_userInfo
  have hleft := h.port_again hport
  -- with a scheme a path is resolved both times; without one no port is left out, so that the
  -- authority is there both times or neither time
  have hresolves : (!u.scheme.isEmpty || v.hasAuthority) =
      (!u.scheme.isEmpty || u.hasAuthority) := by
    cases hnone : u.scheme.isEmpty with
    | false => rfl
    | true =>
      have husual : defaultPort? u.scheme = none := by
        rw [List.isEmpty_iff.1 hnone]
        rfl
      have hkept : ¬u.NamesUsualPort := fun ⟨hsome, hdefault⟩ =>
        hsome (hdefault.symm.trans husual)
      have hempty : v.host.isEmpty = u.host.isEmpty := by
        rw [← List.isEmpty_map, hsame, List.isEmpty_map]
      rw [hasAuthority, hasAuthority, huser, hempty, hleft, if_neg hkept]
  refine ⟨?_, hleft⟩
  exact {
    scheme_eq := hscheme.trans h.scheme_map_toLower
    userInfo_eq := huser
    host_eq := hsame
    path_eq := by
      rw [hpath, hresolves]
      exact h.percentEncode_path
    fragment_eq := hfragment.trans h.map_percentEncode_fragment }

/-- A URL with options has the frame of the URL, and its port unless this is the usual one. -/
theorem frame_of_attach (h : u.IsRead) {options : List Param} (hattach : u.attach options = .ok v) :
    v.SameFrame u ∧ v.port = if options ≠ [] ∧ u.NamesUsualPort then none else u.port := by
  by_cases hsome : options = []
  · subst hsome
    obtain rfl := Except.ok.inj (u.attach_nil.symm.trans hattach)
    exact ⟨.refl u, by simp⟩
  · rw [u.attach_of_ne_nil hsome] at hattach
    obtain ⟨hframe, hport⟩ := h.frame_of_ofParts (withQuery_eq_ok_iff.1 hattach).2
    exact ⟨hframe, by rw [hport]; simp [hsome]⟩

theorem of_attach (h : u.IsRead) {options : List Param} (hattach : u.attach options = .ok v) :
    v.IsRead := by
  by_cases hsome : options = []
  · subst hsome
    obtain rfl := Except.ok.inj (u.attach_nil.symm.trans hattach)
    exact h
  · rw [u.attach_of_ne_nil hsome] at hattach
    exact ⟨_, (withQuery_eq_ok_iff.1 hattach).2⟩

/-- The host of a URL with options can be read again, as it has been. -/
theorem isReadable_of_attach (h : u.IsRead) {options : List Param}
    (hattach : u.attach options = .ok v) (hsome : options ≠ []) : IsReadable v.host := by
  rw [u.attach_of_ne_nil hsome] at hattach
  have hread := h.isSent.normalHost_of_ofParts (withQuery_eq_ok_iff.1 hattach).2
  exact IsSentHost.isReadable_of_normalHost (h.isSent.host.normalHost_again hread)

end IsRead

/-- No port is the usual one if the scheme was written in lower case. -/
theorem not_namesUsualPort_of_ofParts {p : Parts} {u : Url} (hread : ofParts p = .ok u)
    (hscheme : p.scheme.map Char.toLower = p.scheme) : ¬u.NamesUsualPort := by
  rintro ⟨hsome, hdefault⟩
  obtain ⟨n, hn⟩ := Option.ne_none_iff_exists'.1 hsome
  exact (isSettled_of_ofParts hread hscheme).port n hn (hdefault.trans hn)

/-! ## Options in steps -/

namespace IsRead

variable {u v w : Url}

/-- Parts that are read twice more are as they were after the first time, their query apart. -/
theorem ofParts_again (h : u.IsRead) {query query' : Option (List Char)}
    (hv : ofParts ⟨u.scheme, u.authority, u.path, query, u.fragment⟩ = .ok v)
    (hw : ofParts ⟨v.scheme, v.authority, v.path, query', v.fragment⟩ = .ok w) :
    ofParts ⟨u.scheme, u.authority, u.path, query', u.fragment⟩ = .ok w := by
  have hreadable := IsSentHost.isReadable_of_normalHost (h.isSent.normalHost_of_ofParts hv)
  obtain ⟨w', hw'⟩ := h.isSent.exists_ofParts hreadable query'
  have hread : v.IsRead := ⟨_, hv⟩
  obtain ⟨hframe, hport⟩ := h.frame_of_ofParts hv
  obtain ⟨hframe', hport'⟩ := h.frame_of_ofParts hw'
  obtain ⟨hframe'', hport''⟩ := hread.frame_of_ofParts hw
  have hhost : w'.host = w.host := by
    have hv := h.isSent.normalHost_of_ofParts hv
    have hagain := h.isSent.host.normalHost_again hv
    rw [h.isSent.normalHost_of_ofParts hw'] at hv
    rw [hread.isSent.normalHost_of_ofParts hw] at hagain
    exact (Except.ok.inj hv).trans (Except.ok.inj hagain).symm
  -- the scheme is in lower case by now, so that no port is left out the second time
  have hsame : w'.port = w.port := by
    rw [hport'', if_neg (not_namesUsualPort_of_ofParts hv h.scheme_map_toLower), hport, hport']
  have hquery : w'.query = w.query := by
    obtain ⟨-, -, -, -, -, -, hfirst, -⟩ := exists_of_ofParts hw'
    obtain ⟨-, -, -, -, -, -, hsecond, -⟩ := exists_of_ofParts hw
    exact hfirst.trans hsecond.symm
  have hscheme := hframe'.scheme_eq.trans (hframe''.scheme_eq.trans hframe.scheme_eq).symm
  have huser := hframe'.userInfo_eq.trans (hframe''.userInfo_eq.trans hframe.userInfo_eq).symm
  have hpath := hframe'.path_eq.trans (hframe''.path_eq.trans hframe.path_eq).symm
  have hfragment :=
    hframe'.fragment_eq.trans (hframe''.fragment_eq.trans hframe.fragment_eq).symm
  rw [hw']
  cases w'
  cases w
  simp only [mk.injEq, Except.ok.injEq]
  exact ⟨hscheme, huser, hhost, hsame, hpath, hquery, hfragment⟩

/-- Options that are attached in two steps are attached as if at once. -/
theorem attach_append (h : u.IsRead) {options more : List Param} (hv : u.attach options = .ok v)
    (hw : v.attach more = .ok w) : u.attach (options ++ more) = .ok w := by
  by_cases hnone : options = []
  · subst hnone
    obtain rfl := Except.ok.inj (u.attach_nil.symm.trans hv)
    exact hw
  by_cases hlast : more = []
  · subst hlast
    obtain rfl := Except.ok.inj (v.attach_nil.symm.trans hw)
    rwa [List.append_nil]
  have hsome : options ++ more ≠ [] := fun hnil => hnone (List.append_eq_nil_iff.1 hnil).1
  have hquery := queryWith_of_attach hv more
  rw [u.attach_of_ne_nil hnone, withQuery_eq_ok_iff] at hv
  rw [v.attach_of_ne_nil hlast, hquery, withQuery_eq_ok_iff] at hw
  rw [u.attach_of_ne_nil hsome, withQuery_eq_ok_iff]
  refine ⟨?_, h.ofParts_again hv.2 hw.2⟩
  intro part
  cases part with
  | query => simpa only [partText] using hw.1 .query
  | scheme => simpa only [partText] using hv.1 .scheme
  | authority => simpa only [partText] using hv.1 .authority
  | path => simpa only [partText] using hv.1 .path
  | fragment => simpa only [partText] using hv.1 .fragment

end IsRead

end TezosNode.Url
