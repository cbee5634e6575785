import TezosNode.Proofs.Client.Construction
import TezosNode.Proofs.Url.Steps

set_option autoImplicit false

/-!
# Client: requests with options

Options change the query of a request and nothing else of it, and the query spells what it
spelled before and then the options, key by key.  Whatever characters they hold, no option
can be taken for two, for none or for another part of the URL.

Of the URL a port is left out where the scheme has it as its usual one, which is not the case
in any URL whose scheme was written in lower case.  The header that names the host has been
written before and keeps the port.

It makes no difference whether two lists of options are attached at once or one after the other:
the request is the same in the end, and where its URL does not take them they are refused either
way.
-/

namespace TezosNode

namespace Request

variable {r r' : Request} {options : List Url.Param}

theorem isRead_of_make {method : Method} {text : List Char} {body : Option Bytes}
    (hmake : make method text body = .ok r) : r.url.IsRead := by
  unfold make at hmake
  split at hmake
  · cases hmake
  case h_2 u hread =>
    split at hmake
    · cases hmake
    · obtain rfl := Except.ok.inj hmake
      exact .of_parse hread

/-- A request gets options by getting another URL. -/
theorem exists_of_attach (hattach : r.attach options = .ok r') :
    ∃ u, r.url.attach options = .ok u ∧ r' = { r with url := u } := by
  unfold attach at hattach
  cases hurl : r.url.attach options with
  | error fault =>
    rw [hurl] at hattach
    cases hattach
  | ok u =>
    rw [hurl] at hattach
    exact ⟨u, rfl, (Except.ok.inj hattach).symm⟩

/-- With options the URL of a request is still one that was read, so that what holds of the
first options holds of all that follow. -/
theorem isRead_of_attach (hread : r.url.IsRead) (hattach : r.attach options = .ok r') :
    r'.url.IsRead := by
  obtain ⟨u, hurl, rfl⟩ := exists_of_attach hattach
  exact hread.of_attach hurl

/-- Options that are attached in two steps are attached as if at once. -/
theorem attach_append {more : List Url.Param} {r'' : Request} (hread : r.url.IsRead)
    (hattach : r.attach options = .ok r') (hmore : r'.attach more = .ok r'') :
    r.attach (options ++ more) = .ok r'' := by
  obtain ⟨u, hurl, rfl⟩ := exists_of_attach hattach
  obtain ⟨v, hagain, rfl⟩ := exists_of_attach hmore
  rw [attach, hread.attach_append hurl hagain]
  rfl

/-- A request with options differs in its URL alone.  In the query every key has its old
values and then those of the options, in their order, and nothing is lost or added.  The
scheme, the user information, the path and the fragment are the same, and so is the host up
to letter case.  The port is the same as well unless it is the usual one of the scheme; then
it is left out, and the scheme was not written in lower case. -/
theorem attach_frame (hread : r.url.IsRead) (hattach : r.attach options = .ok r') :
    r' = { r with url := r'.url } ∧
    (∀ key, Url.ofKey key (Url.decodeParams r'.url.queryText) =
      Url.ofKey key (Url.decodeParams r.url.queryText) ++ Url.ofKey key options) ∧
    (Url.decodeParams r'.url.queryText).Perm (Url.decodeParams r.url.queryText ++ options) ∧
    r'.url.SameFrame r.url ∧
    (r'.url.port = if options ≠ [] ∧ r.url.NamesUsualPort then none else r.url.port) ∧
    (r.url.NamesUsualPort →
      ∀ p, Url.ofParts p = .ok r.url → p.scheme.map Char.toLower ≠ p.scheme) := by
  obtain ⟨u, hurl, rfl⟩ := exists_of_attach hattach
  obtain ⟨hkeys, hperm⟩ := Url.ofKey_decodeParams_of_attach hurl
  obtain ⟨hframe, hport⟩ := hread.frame_of_attach hurl
  refine ⟨rfl, hkeys, hperm, hframe, hport, fun husual p hparts hscheme => ?_⟩
  exact Url.not_namesUsualPort_of_ofParts hparts hscheme husual

/-- A request whose URL has a query and a fragment. -/
def queried : Request :=
  ⟨.post, ⟨"http".toList, [], "node".toList, some 8732, "/x".toList, some "a=1".toList,
    some "f".toList⟩, some "node:8732".toList, some []⟩

/-- Options that hold the marks of queries and a letter beyond ASCII. -/
def marks : List Url.Param := [("a", "&=+"), ("é", " %#")]

theorem make_queried :
    make .post "http://node:8732/x?a=1#f".toList (some []) = .ok queried :=
  rfl

theorem attach_marks :
    queried.attach marks = .ok { queried with url := { queried.url with
      query := some "a=1&a=%26%3D%2B&%C3%A9=+%25%23".toList } } :=
  rfl

/-- No mark in an option ends it or begins another one. -/
theorem attach_frame_of_marks :
    ∃ r', queried.attach marks = .ok r' ∧
      Url.ofKey "a" (Url.decodeParams r'.url.queryText) = [("a", "1"), ("a", "&=+")] ∧
      Url.ofKey "é" (Url.decodeParams r'.url.queryText) = [("é", " %#")] ∧
      r'.url.SameFrame queried.url ∧ r'.url.port = some 8732 := by
  obtain ⟨-, hkeys, -, hframe, hport, -⟩ :=
    attach_frame (isRead_of_make make_queried) attach_marks
  exact ⟨_, attach_marks, hkeys "a", hkeys "é", hframe, hport⟩

/-- The usual port of a scheme with capital letters is left out with options. -/
theorem attach_port_ne_of_capital :
    ∃ r r', make .get "HTTP://node:80/x".toList none = .ok r ∧
      r.attach [("a", "1")] = .ok r' ∧ r.url.port = some 80 ∧ r'.url.port ≠ r.url.port :=
  ⟨_, _, rfl, rfl, rfl, by decide⟩

/-! ## List by list -/

/-- Whether two ways to attach options come to the same: one request, or both are refused for a
fault of the URL. -/
inductive SameOutcome : Except Url.AttachFault Request → Except Url.AttachFault Request → Prop
  | attached (r : Request) : SameOutcome (.ok r) (.ok r)
  | refused (fault other : Url.Fault) : SameOutcome (.error (.url fault)) (.error (.url other))

theorem SameOutcome.trans {first second third : Except Url.AttachFault Request}
    (h : SameOutcome first second) (h' : SameOutcome second third) : SameOutcome first third := by
  cases h with
  | attached => exact h'
  | refused fault =>
    cases h' with
    | refused _ other => exact .refused fault other

theorem exists_attach_of_takes (hread : r.url.IsRead) (htakes : r.url.Takes options) :
    ∃ r', r.attach options = .ok r' := by
  obtain ⟨u, hurl⟩ := Url.exists_attach_of_takes hread.isSent htakes
  refine ⟨{ r with url := u }, ?_⟩
  rw [attach, hurl]
  rfl

theorem attach_of_not_takes (hread : r.url.IsRead) (hfull : ¬r.url.Takes options) :
    ∃ fault, r.attach options = .error fault := by
  obtain ⟨fault, -, hurl⟩ := Url.attach_of_not_takes hread.isSent hfull
  refine ⟨fault, ?_⟩
  rw [attach, hurl]
  rfl

/-- Two lists of options come to the same as both at once, whichever of them the URL does not
take. -/
theorem sameOutcome_append (hread : r.url.IsRead) (options more : List Url.Param) :
    SameOutcome (((r.attach options).bind (·.attach more)).mapError .url)
      ((r.attach (options ++ more)).mapError .url) := by
  by_cases hroom : r.url.Takes options
  case neg =>
    obtain ⟨fault, hrefused⟩ := attach_of_not_takes hread hroom
    obtain ⟨other, hboth⟩ := attach_of_not_takes hread (mt Url.takes_of_append hroom)
    rw [hrefused, hboth]
    exact .refused fault other
  case pos =>
    obtain ⟨r', hattach⟩ := exists_attach_of_takes hread hroom
    obtain ⟨u, hurl, rfl⟩ := exists_of_attach hattach
    have hagain : u.IsRead := hread.of_attach hurl
    rw [hattach]
    change SameOutcome ((({ r with url := u } : Request).attach more).mapError .url) _
    by_cases hlast : u.Takes more
    · obtain ⟨r'', hmore⟩ := exists_attach_of_takes (r := { r with url := u }) hagain hlast
      rw [hmore, attach_append hread hattach hmore]
      exact .attached r''
    · obtain ⟨fault, hrefused⟩ := attach_of_not_takes (r := { r with url := u }) hagain hlast
      obtain ⟨other, hboth⟩ :=
        attach_of_not_takes hread (mt (hread.takes_of_attach hurl) hlast)
      rw [hrefused, hboth]
      exact .refused fault other

end Request

end TezosNode
