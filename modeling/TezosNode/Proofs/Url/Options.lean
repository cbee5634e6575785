import TezosNode.Proofs.Url.Form
import TezosNode.Proofs.Url.Grouping

set_option autoImplicit false

/-!
# URL: options

What options do to a URL that they are attached to.  They are refused just where a part of
the URL gets too long or its host cannot be read again.  Otherwise the URL has its own parameters
and then the options, by key: a key that comes again has its later values moved up to its first,
so the order as a whole is kept just where no key comes again after another one.
-/

namespace TezosNode.Url

variable {u v : Url} {options : List Param}

/-! ## When options are refused -/

/-- The query that a URL gets with options. -/
def queryWith (u : Url) (options : List Param) : List Char :=
  encodeParams (groupByKey (u.params ++ options))

/-- Whether a URL takes options: there are none, or no part gets too long and the host can be read
again. -/
def Takes (u : Url) (options : List Param) : Prop :=
  options = [] ∨ (∀ part, (u.partText (u.queryWith options) part).length ≤ maxLength) ∧
    IsReadable u.host

/-- The faults for which a URL refuses options. -/
inductive Refuses (u : Url) (options : List Param) : Fault → Prop
  /-- a part gets too long -/
  | crowded {part : Part}
      (hlong : maxLength < (u.partText (u.queryWith options) part).length) :
      Refuses u options (.partTooLong part)
  /-- the host looks like an address and is none -/
  | guise (hlooks : looksLikeIpv4 u.host = true) (haddress : isIpv4 u.host = false) :
      Refuses u options (.ipv4 u.host)

theorem attach_nil (u : Url) : u.attach [] = .ok u := rfl

theorem attach_of_ne_nil (u : Url) (hsome : options ≠ []) :
    u.attach options = u.withQuery (u.queryWith options) := by
  rw [attach, if_neg (by simpa using hsome), queryWith]

/-- A URL that is sent gets the options that it takes. -/
theorem exists_attach_of_takes (hsent : u.IsSent) (htakes : u.Takes options) :
    ∃ v, u.attach options = .ok v := by
  rcases htakes with rfl | ⟨hfits, hreadable⟩
  · exact ⟨u, u.attach_nil⟩
  by_cases hsome : options = []
  · exact ⟨u, hsome ▸ u.attach_nil⟩
  obtain ⟨v, hread⟩ := hsent.exists_ofParts hreadable (some (u.queryWith options))
  refine ⟨v, ?_⟩
  rw [u.attach_of_ne_nil hsome, withQuery_eq_ok_iff]
  exact ⟨hfits, hread⟩

/-- Options that a URL does not take are refused for a part that is too long or for the host. -/
theorem attach_of_not_takes (hsent : u.IsSent) (hfull : ¬u.Takes options) :
    ∃ fault, u.Refuses options fault ∧ u.attach options = .error fault := by
  obtain ⟨hsome, hrefused⟩ := not_or.1 hfull
  rw [u.attach_of_ne_nil hsome, withQuery_eq]
  cases hfind : Part.all.find? (u.isTooLong (u.queryWith options)) with
  | some part =>
    exact ⟨_, .crowded (by simpa [isTooLong] using List.find?_some hfind), rfl⟩
  | none =>
    have hfits : ∀ part, (u.partText (u.queryWith options) part).length ≤ maxLength := by
      intro part
      simpa [isTooLong] using List.find?_eq_none.1 hfind part part.mem_all
    have hguise : ¬IsReadable u.host := fun hreadable => hrefused ⟨hfits, hreadable⟩
    obtain ⟨hlooks, haddress⟩ := Classical.not_imp.1 hguise
    exact ⟨_, .guise hlooks (Bool.eq_false_iff.2 haddress),
      hsent.ofParts_of_not_isReadable hguise _⟩

/-- No URL takes an option that is longer than a part can be. -/
theorem not_takes_of_long {p : Param} (hmem : p ∈ options)
    (hlong : maxLength < p.1.length + p.2.length) : ¬u.Takes options := by
  rintro (rfl | ⟨hfits, -⟩)
  · cases hmem
  · have hlength := length_lt_encodeParams
      (mem_groupByKey.2 (List.mem_append_right u.params hmem))
    exact Nat.lt_irrefl _ (Nat.lt_trans hlong (Nat.lt_of_lt_of_le hlength (hfits .query)))

/-! ## What options add -/

/-- A URL with a new query has that query. -/
theorem queryText_of_withQuery {query : List Char} (h : u.withQuery query = .ok v) :
    v.queryText = percentEncode inQuery query := by
  obtain ⟨-, -, -, -, -, -, hquery, -⟩ := exists_of_ofParts (withQuery_eq_ok_iff.1 h).2
  rw [queryText, hquery]
  rfl

/-- The parameters that stand in the query with options are those before and the options, by
key. -/
theorem decodeParams_of_attach (h : u.attach options = .ok v) (hsome : options ≠ []) :
    decodeParams v.queryText = groupByKey (decodeParams u.queryText ++ options) := by
  rw [u.attach_of_ne_nil hsome] at h
  rw [queryText_of_withQuery h, queryWith, percentEncode_encodeParams, decodeParams_encodeParams,
    params, groupByKey_append_groupByKey]

/-- In the query with options every key has the values it had and then those of the options,
and no parameter is lost or added. -/
theorem ofKey_decodeParams_of_attach (h : u.attach options = .ok v) :
    (∀ key, ofKey key (decodeParams v.queryText) =
      ofKey key (decodeParams u.queryText) ++ ofKey key options) ∧
    (decodeParams v.queryText).Perm (decodeParams u.queryText ++ options) := by
  by_cases hsome : options = []
  · subst hsome
    obtain rfl := Except.ok.inj (u.attach_nil.symm.trans h)
    rw [List.append_nil]
    exact ⟨fun key => (List.append_nil _).symm, .refl _⟩
  · rw [decodeParams_of_attach h hsome]
    refine ⟨fun key => ?_, groupByKey_perm _⟩
    rw [ofKey_groupByKey, ofKey_append]

theorem params_of_attach (h : u.attach options = .ok v) :
    v.params = groupByKey (u.params ++ options) := by
  by_cases hsome : options = []
  · subst hsome
    obtain rfl := Except.ok.inj h
    rw [List.append_nil, params, groupByKey_groupByKey]
  · rw [params, decodeParams_of_attach h hsome, params, groupByKey_groupByKey,
      groupByKey_append_groupByKey]

/-- The query that a URL gets with more options is the one that it gets with all at once. -/
theorem queryWith_of_attach (h : u.attach options = .ok v) (more : List Param) :
    v.queryWith more = u.queryWith (options ++ more) := by
  rw [queryWith, queryWith, params_of_attach h, groupByKey_append_groupByKey, List.append_assoc]

/-- A URL with options has its parameters and then the options, by key, and its query spells
just those.  None is lost or added, and every key has its old values and then the new ones
in the order given.  The order as a whole is kept just where no key comes again after
another one. -/
theorem attach_params (h : u.attach options = .ok v) :
    v.params = groupByKey (u.params ++ options) ∧
    (options ≠ [] → decodeParams v.queryText = v.params) ∧
    v.params.Perm (u.params ++ options) ∧
    (∀ key, ofKey key v.params = ofKey key u.params ++ ofKey key options) ∧
    (v.params = u.params ++ options ↔ Together (u.params ++ options)) := by
  have hparams := params_of_attach h
  refine ⟨hparams, fun hsome => ?_, ?_, fun key => ?_, ?_⟩
  · rw [hparams, decodeParams_of_attach h hsome, params, groupByKey_append_groupByKey]
  · rw [hparams]
    exact groupByKey_perm _
  · rw [hparams, ofKey_groupByKey, ofKey_append]
  · rw [hparams]
    exact groupByKey_eq_self_iff

/-- A URL without a query. -/
def unqueried : Url := ⟨"http".toList, [], "node".toList, none, "/x".toList, none, none⟩

/-- Options in which a key comes again after another one. -/
def interleaved : List Param := [("a", "1"), ("b", "2"), ("a", "3")]

theorem attach_interleaved :
    unqueried.attach interleaved = .ok { unqueried with query := some "a=1&a=3&b=2".toList } :=
  rfl

/-- The values of a key that comes again keep their order, and move up to its first. -/
theorem attach_params_of_interleaved :
    ∃ v, unqueried.attach interleaved = .ok v ∧
      v.params = [("a", "1"), ("a", "3"), ("b", "2")] ∧
      ofKey "a" v.params = [("a", "1"), ("a", "3")] := by
  obtain ⟨hparams, -, -, hkey, -⟩ := attach_params attach_interleaved
  exact ⟨_, attach_interleaved, hparams, hkey "a"⟩

/-- Options in which a key comes again after another one do not stay in the order given. -/
theorem params_interleaved_ne :
    ∃ v, unqueried.attach interleaved = .ok v ∧
      v.params ≠ unqueried.params ++ interleaved :=
  ⟨_, attach_interleaved, by decide⟩

end TezosNode.Url
