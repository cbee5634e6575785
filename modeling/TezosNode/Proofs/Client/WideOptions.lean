import TezosNode.Proofs.Client.Attaching

set_option autoImplicit false

/-!
# Client: options of code points

Options may come in code points, and a surrogate among them is no character.  Options without
surrogates are those of their characters, so that it makes no difference whether they are attached
all at once or list by list.  An option with a surrogate cannot be written, and all options are
written before anything else is done with them: together with such an option, other options are
refused for it, even if the URL did not take them.
-/

namespace TezosNode

/-! ## Texts of code points -/

namespace Text

/-- A text has octets if none of its code points is a surrogate. -/
theorem encodeFault?_eq_none_iff {text : List CodePoint} :
    encodeFault? text = none ↔ ∀ c ∈ text, c.isSurrogate = false := by
  unfold encodeFault?
  cases hrest : text.dropWhile (!·.isSurrogate) with
  | nil =>
    have hall := List.dropWhile_eq_nil_iff.1 hrest
    exact iff_of_true rfl fun c hmem => by simpa using hall c hmem
  | cons c rest =>
    have hmem : c ∈ text := (List.dropWhile_sublist _).mem (hrest ▸ List.mem_cons_self)
    have hc := List.head?_dropWhile_not (!·.isSurrogate) text
    rw [hrest] at hc
    cases c with
    | character c => simp [CodePoint.isSurrogate] at hc
    | surrogate u => exact iff_of_false (Option.some_ne_none _) fun hall => nomatch hall _ hmem

theorem CodePoint.toString_ofString (s : String) : toString (ofString s) = s := by
  unfold toString ofString
  rw [List.filterMap_map]
  change String.ofList (s.toList.filterMap some) = s
  rw [List.filterMap_some, String.ofList_toList]

end Text

namespace Url

/-! ## Parameters of code points -/

namespace WideParam

/-- Whether a parameter is made of characters. -/
def IsPlain (p : WideParam) : Prop := ∀ c ∈ p.1 ++ p.2, c.isSurrogate = false

theorem encodeFault?_eq_none_iff {p : WideParam} : p.encodeFault? = none ↔ p.IsPlain := by
  rw [encodeFault?, Option.or_eq_none_iff, Text.encodeFault?_eq_none_iff,
    Text.encodeFault?_eq_none_iff, IsPlain, List.forall_mem_append]

theorem isPlain_ofParam (p : Param) : (ofParam p).IsPlain := by
  intro c hmem
  rw [ofParam, List.mem_append] at hmem
  rcases hmem with hmem | hmem
  · obtain ⟨d, -, rfl⟩ := List.mem_map.1 hmem
    rfl
  · obtain ⟨d, -, rfl⟩ := List.mem_map.1 hmem
    rfl

theorem toParam_ofParam (p : Param) : (ofParam p).toParam = p :=
  Prod.ext (Text.CodePoint.toString_ofString p.1) (Text.CodePoint.toString_ofString p.2)

end WideParam

variable {options more : List WideParam}

/-- Options of characters are attached as the strings that they are. -/
theorem attachWide_of_plain (u : Url) (hplain : ∀ p ∈ options, p.IsPlain) :
    u.attachWide options = (u.attach (options.map WideParam.toParam)).mapError .url := by
  have hnone : (groupByKey (u.params.map WideParam.ofParam ++ options)).findSome?
      WideParam.encodeFault? = none := by
    refine List.findSome?_eq_none_iff.2 fun p hmem => WideParam.encodeFault?_eq_none_iff.2 ?_
    rcases List.mem_append.1 (mem_groupByKey.1 hmem) with hparam | hoption
    · obtain ⟨q, -, rfl⟩ := List.mem_map.1 hparam
      exact WideParam.isPlain_ofParam q
    · exact hplain p hoption
  unfold attachWide
  dsimp only
  rw [hnone]

/-- An option with a surrogate is refused, whatever comes with it. -/
theorem attachWide_of_surrogate (u : Url) {p : WideParam} (hmem : p ∈ options)
    (hsurrogate : ¬p.IsPlain) : ∃ fault, u.attachWide options = .error (.unencodable fault) := by
  have hsome : (groupByKey (u.params.map WideParam.ofParam ++ options)).findSome?
      WideParam.encodeFault? ≠ none := by
    intro hnone
    refine hsurrogate (WideParam.encodeFault?_eq_none_iff.1 ?_)
    exact List.findSome?_eq_none_iff.1 hnone p (mem_groupByKey.2 (List.mem_append_right _ hmem))
  obtain ⟨fault, hfault⟩ := Option.ne_none_iff_exists'.1 hsome
  refine ⟨fault, ?_⟩
  unfold attachWide
  dsimp only
  rw [hfault]

end Url

/-! ## Requests -/

namespace Request

variable {r : Request} {options more : List Url.WideParam}

theorem attachWide_of_plain (r : Request) (hplain : ∀ p ∈ options, p.IsPlain) :
    r.attachWide options = (r.attach (options.map Url.WideParam.toParam)).mapError .url := by
  rw [attachWide, attach, r.url.attachWide_of_plain hplain]
  cases r.url.attach (options.map Url.WideParam.toParam) with
  | ok => rfl
  | error => rfl

theorem attachWide_of_surrogate (r : Request) {p : Url.WideParam} (hmem : p ∈ options)
    (hsurrogate : ¬p.IsPlain) : ∃ fault, r.attachWide options = .error (.unencodable fault) := by
  obtain ⟨fault, hurl⟩ := r.url.attachWide_of_surrogate hmem hsurrogate
  refine ⟨fault, ?_⟩
  rw [attachWide, hurl]
  rfl

/-- Without options a request stays as it is. -/
theorem attachWide_nil (r : Request) : r.attachWide [] = .ok r := by
  rw [r.attachWide_of_plain (List.forall_mem_nil _)]
  rfl

theorem isRead_of_attachWide {r' : Request} (hread : r.url.IsRead)
    (hplain : ∀ p ∈ options, p.IsPlain) (hattach : r.attachWide options = .ok r') :
    r'.url.IsRead := by
  rw [r.attachWide_of_plain hplain] at hattach
  cases hplainly : r.attach (options.map Url.WideParam.toParam) with
  | error fault =>
    rw [hplainly] at hattach
    cases hattach
  | ok r'' =>
    rw [hplainly] at hattach
    obtain rfl : r'' = r' := Except.ok.inj hattach
    exact isRead_of_attach hread hplainly

/-- A fault may be renamed before or after what comes next, if that renames its own alike. -/
theorem bind_mapError {ε ε' α β : Type} {rename : ε → ε'} {next : α → Except ε β}
    {next' : α → Except ε' β} (hnext : ∀ a, next' a = (next a).mapError rename)
    (x : Except ε α) : (x.mapError rename).bind next' = (x.bind next).mapError rename := by
  cases x with
  | error => rfl
  | ok a => exact hnext a

/-- Two lists of options without surrogates come to the same as both at once. -/
theorem sameOutcome_of_plain (hread : r.url.IsRead) (hplain : ∀ p ∈ options ++ more, p.IsPlain) :
    SameOutcome ((r.attachWide options).bind (·.attachWide more))
      (r.attachWide (options ++ more)) := by
  obtain ⟨hoptions, hmore⟩ := List.forall_mem_append.1 hplain
  rw [r.attachWide_of_plain hoptions, r.attachWide_of_plain hplain, List.map_append,
    bind_mapError fun r' : Request => r'.attachWide_of_plain hmore]
  exact sameOutcome_append hread _ _

/-- Options without surrogates that are attached to a request in two lists, one after the other,
come to the same as both lists at once: to the same request, so to the same text of its URL, or to
a fault of the URL either way.  So do any number of lists.  An option with a surrogate makes both
ways fail. -/
theorem attachWide_in_steps (hread : r.url.IsRead) :
    (∀ options more : List Url.WideParam, (∀ p ∈ options ++ more, p.IsPlain) →
      SameOutcome ((r.attachWide options).bind (·.attachWide more))
        (r.attachWide (options ++ more))) ∧
    (∀ lists : List (List Url.WideParam), (∀ p ∈ lists.flatten, p.IsPlain) →
      SameOutcome (lists.foldlM attachWide r) (r.attachWide lists.flatten)) ∧
    ∀ options more : List Url.WideParam, (∃ p ∈ options ++ more, ¬p.IsPlain) →
      (∃ fault, (r.attachWide options).bind (·.attachWide more) = .error fault) ∧
      ∃ fault, r.attachWide (options ++ more) = .error (.unencodable fault) := by
  refine ⟨fun options more hplain => sameOutcome_of_plain hread hplain, ?_, ?_⟩
  · intro lists hplain
    induction lists generalizing r with
    | nil =>
      rw [List.flatten_nil, r.attachWide_nil]
      exact .attached r
    | cons options rest ih =>
      rw [List.flatten_cons] at hplain ⊢
      obtain ⟨hoptions, hrest⟩ := List.forall_mem_append.1 hplain
      have hstep := sameOutcome_of_plain hread hplain
      rw [List.foldlM_cons]
      cases hattach : r.attachWide options with
      | error fault =>
        simp only [hattach, Except.bind, bind] at hstep ⊢
        exact hstep
      | ok r' =>
        simp only [hattach, Except.bind, bind] at hstep ⊢
        exact (ih (isRead_of_attachWide hread hoptions hattach) hrest).trans hstep
  · rintro options more ⟨p, hmem, hsurrogate⟩
    refine ⟨?_, r.attachWide_of_surrogate hmem hsurrogate⟩
    rcases List.mem_append.1 hmem with hoption | hlater
    · obtain ⟨fault, hfirst⟩ := r.attachWide_of_surrogate hoption hsurrogate
      rw [hfirst]
      exact ⟨.unencodable fault, rfl⟩
    · cases hattach : r.attachWide options with
      | error fault => exact ⟨fault, rfl⟩
      | ok r' =>
        obtain ⟨fault, hlast⟩ := r'.attachWide_of_surrogate hlater hsurrogate
        refine ⟨.unencodable fault, ?_⟩
        rw [Except.bind, hlast]

/-- Strings are options without surrogates, and what they come to as strings they come to in code
points. -/
theorem attachWide_ofParam (r : Request) (params : List Url.Param) :
    r.attachWide (params.map Url.WideParam.ofParam) = (r.attach params).mapError .url := by
  have hplain : ∀ p ∈ params.map Url.WideParam.ofParam, p.IsPlain := by
    intro p hmem
    obtain ⟨q, -, rfl⟩ := List.mem_map.1 hmem
    exact Url.WideParam.isPlain_ofParam q
  rw [r.attachWide_of_plain hplain, List.map_map]
  have hsame : Url.WideParam.toParam ∘ Url.WideParam.ofParam = id :=
    funext Url.WideParam.toParam_ofParam
  rw [hsame, List.map_id]

/-- The queried request with the marks. -/
def withMarks : Request :=
  { queried with url := { queried.url with
    query := some "a=1&a=%26%3D%2B&%C3%A9=+%25%23".toList } }

/-- The queried request with the marks and then a key that the query has already. -/
def withMarksAndKey : Request :=
  { queried with url := { queried.url with
    query := some "a=1&a=%26%3D%2B&a=2&%C3%A9=+%25%23".toList } }

theorem attach_key_withMarks : withMarks.attach [("a", "2")] = .ok withMarksAndKey := by
  decide +kernel

/-- The key finds its place among the marks, be it that they come together or one after the
other. -/
theorem attachWide_in_steps_of_marks :
    SameOutcome (.ok withMarksAndKey) (queried.attachWide
      (marks.map Url.WideParam.ofParam ++ [("a", "2")].map Url.WideParam.ofParam)) := by
  have hplain : ∀ p ∈ marks.map Url.WideParam.ofParam ++ [("a", "2")].map Url.WideParam.ofParam,
      p.IsPlain := by
    intro p hmem
    rw [← List.map_append] at hmem
    obtain ⟨q, -, rfl⟩ := List.mem_map.1 hmem
    exact Url.WideParam.isPlain_ofParam q
  have hsame := (attachWide_in_steps (isRead_of_make make_queried)).1 _ _ hplain
  have hmarks : queried.attachWide (marks.map Url.WideParam.ofParam) = .ok withMarks := by
    rw [attachWide_ofParam, attach_marks]
    rfl
  have hkey : withMarks.attachWide ([("a", "2")].map Url.WideParam.ofParam) =
      .ok withMarksAndKey := by
    rw [attachWide_ofParam, attach_key_withMarks]
    rfl
  rw [hmarks, Except.bind, hkey] at hsame
  exact hsame

/-- An option with a surrogate after one that the URL does not take: one after the other they are
refused for a fault of the URL, but at once for the surrogate. -/
theorem exists_faults_of_surrogate {p : Url.Param} {odd : Url.WideParam} (hread : r.url.IsRead)
    (hfull : ¬r.url.Takes [p]) (hodd : ¬odd.IsPlain) :
    ∃ fault other, (r.attachWide [Url.WideParam.ofParam p]).bind (·.attachWide [odd]) =
        .error (.url fault) ∧
      r.attachWide [Url.WideParam.ofParam p, odd] = .error (.unencodable other) ∧
      ¬SameOutcome ((r.attachWide [Url.WideParam.ofParam p]).bind (·.attachWide [odd]))
        (r.attachWide [Url.WideParam.ofParam p, odd]) := by
  obtain ⟨fault, hrefused⟩ := attach_of_not_takes hread hfull
  have hfirst := r.attachWide_ofParam [p]
  rw [List.map_singleton, hrefused] at hfirst
  obtain ⟨other, honce⟩ := r.attachWide_of_surrogate
    (List.mem_cons_of_mem (Url.WideParam.ofParam p) (List.mem_singleton.2 rfl)) hodd
  have hsteps : (r.attachWide [Url.WideParam.ofParam p]).bind (·.attachWide [odd]) =
      .error (.url fault) := by
    rw [hfirst]
    rfl
  refine ⟨fault, other, hsteps, honce, ?_⟩
  rw [hsteps, honce]
  intro hsame
  cases hsame

/-- A key with a surrogate for its value. -/
def oddOption : Url.WideParam :=
  (Text.CodePoint.ofString "k", [.surrogate ⟨0xDCFF, by decide, by decide⟩])

theorem attachWide_differs_of_surrogate :
    ∃ r fault other, make .get "http://node/x".toList none = .ok r ∧
      (r.attachWide [Url.WideParam.ofParam Url.longOption]).bind (·.attachWide [oddOption]) =
        .error (.url fault) ∧
      r.attachWide [Url.WideParam.ofParam Url.longOption, oddOption] =
        .error (.unencodable other) ∧
      ¬SameOutcome
        ((r.attachWide [Url.WideParam.ofParam Url.longOption]).bind (·.attachWide [oddOption]))
        (r.attachWide [Url.WideParam.ofParam Url.longOption, oddOption]) := by
  have hodd : ¬oddOption.IsPlain := fun hplain =>
    nomatch hplain _ (List.mem_append_right _ List.mem_cons_self)
  obtain ⟨fault, other, hfaults⟩ := exists_faults_of_surrogate (isRead_of_make make_unqueried)
    (Url.not_takes_of_long List.mem_cons_self Url.maxLength_lt_longOption) hodd
  exact ⟨unqueried, fault, other, make_unqueried, hfaults⟩

end Request

end TezosNode
