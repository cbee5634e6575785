import TezosNode.Proofs.Client.Destination
import TezosNode.Proofs.Json.Escaping

set_option autoImplicit false

/-!
# Client: injected operations

The operation to inject is the content of one request, as a document of ASCII that is read back
as the operation, and the chain is a parameter of its URL, which is read back as well.  Whatever
characters either of them holds, the node gets both as they are.

The URL keeps the parameters that the host brings with it.  A host that has a query takes the
path into it, so that the chain is not the only parameter then.
-/

namespace TezosNode

/-! ## URLs without a query -/

namespace Url

theorem mem_of_mem_splitScheme {text : List Char} {c : Char} (hmem : c ∈ (splitScheme text).2) :
    c ∈ text := by
  unfold splitScheme at hmem
  split at hmem
  case h_1 => exact List.mem_cons_of_mem _ hmem
  case h_2 =>
    split at hmem
    case h_1 rest hrest =>
      split at hmem
      case isTrue =>
        have hsuffix := List.mem_cons_of_mem ':' hmem
        rw [← hrest] at hsuffix
        exact (List.dropWhile_sublist _).subset hsuffix
      case isFalse => exact hmem
    case h_2 => exact hmem
  case h_3 => cases hmem

theorem mem_of_mem_splitAuthority {text : List Char} {c : Char}
    (hmem : c ∈ (splitAuthority text).2) : c ∈ text := by
  unfold splitAuthority at hmem
  split at hmem
  case h_1 rest =>
    exact List.mem_cons_of_mem _ (List.mem_cons_of_mem _ ((List.dropWhile_sublist _).subset hmem))
  case h_2 => exact hmem

theorem splitPath_query_of_not_mem {text : List Char} (hnone : '?' ∉ text) :
    (splitPath text).2.1 = none := by
  unfold splitPath
  dsimp only
  split
  case h_1 rest hrest =>
    have hmark : '?' ∈ '?' :: rest := List.mem_cons_self
    rw [← hrest] at hmark
    exact absurd ((List.drop_sublist _ text).subset hmark) hnone
  case h_2 => rfl
  case h_3 => rfl

/-- A text without the mark of queries is read as a URL without a query. -/
theorem query_of_parse {text : List Char} {u : Url} (hnone : '?' ∉ text)
    (hread : parse text = .ok u) : u.query = none := by
  obtain ⟨-, -, hparts⟩ := parse_eq_ok_iff.1 hread
  obtain ⟨-, -, -, -, -, -, hquery, -⟩ := exists_of_ofParts hparts
  have hsplit : (split text).query = none := by
    refine splitPath_query_of_not_mem fun hmem => hnone ?_
    exact mem_of_mem_splitScheme (mem_of_mem_splitAuthority hmem)
  rw [hquery, hsplit]
  rfl

/-- A parameter after others is the only one just where there are no others. -/
theorem groupByKey_append_singleton_iff {params : List Param} {p : Param} :
    groupByKey (params ++ [p]) = [p] ↔ params = [] := by
  constructor
  · intro halone
    have hlength := (groupByKey_perm (params ++ [p])).length_eq
    rw [halone, List.length_append, List.length_singleton] at hlength
    exact List.eq_nil_of_length_eq_zero (by omega)
  · rintro rfl
    exact List.perm_singleton.1 (groupByKey_perm [p])

end Url

/-! ## Requests to inject -/

/-- The request to inject an operation posts the operation as a document. -/
theorem Operation.inquiry?_injectOperation (operation chain : String) :
    (Operation.injectOperation operation chain).inquiry? =
      some ⟨.post, Endpoint.injectionPath, some (Text.Utf8.encode (Json.stringText operation)),
        [("chain", chain)]⟩ :=
  rfl

namespace Session

/-- Every request that injects an operation posts a document of ASCII that is read back as the
operation, and the length that it tells is that of the document.  Its query has the parameters
that the URL of the host and the path brings and then the chain, by key.  So the chain is the
only parameter just where that URL brings none, which is so for every host without a question
mark. -/
theorem injected_operation (s : Session) (operation chain : String) :
    ∃ events, (s.perform (.injectOperation operation chain)).2.trace = s.trace ++ events ∧
      ∀ p ∈ requests events,
        (p.2.method = .post ∧ ∃ body, p.2.body = some body ∧ (∀ b ∈ body, b.toNat < 0x80) ∧
          Json.decode body = .ok (.string operation) ∧ p.2.contentLength? = some body.length) ∧
        (∃ u, Url.parse (s.client.host ++ Endpoint.injectionPath).toList = .ok u ∧
          Url.decodeParams p.2.url.queryText =
            Url.groupByKey (Url.decodeParams u.queryText ++ [("chain", chain)]) ∧
          (Url.decodeParams p.2.url.queryText = [("chain", chain)] ↔
            Url.decodeParams u.queryText = [])) ∧
        ('?' ∉ s.client.host.toList →
          Url.decodeParams p.2.url.queryText = [("chain", chain)]) := by
  obtain ⟨events, htrace, hall⟩ :=
    madeBy_of_inquiry (Operation.inquiry?_injectOperation operation chain) s
  refine ⟨events, htrace, ?_⟩
  intro p hsent
  obtain ⟨-, _, rfl, hrequest⟩ := hall p (mem_attempts_of_mem_requests hsent)
  obtain ⟨u, v, hread, hattach, hp⟩ := Inquiry.of_request hrequest
  have hparams : Url.decodeParams v.queryText =
      Url.groupByKey (Url.decodeParams u.queryText ++ [("chain", chain)]) :=
    Url.decodeParams_of_attach hattach (by simp)
  rw [hp]
  refine ⟨⟨rfl, _, rfl, ?_, Json.decode_stringText operation, rfl⟩, ⟨u, ?_, hparams, ?_⟩, ?_⟩
  · intro b hmem
    exact (Text.ascii_of_mem_encode (fun _ => Json.ascii_stringText) hmem).2
  · rw [String.toList_append]
    exact hread
  · rw [hparams]
    exact Url.groupByKey_append_singleton_iff
  · intro hnone
    have hnowhere : '?' ∉ s.client.host.toList ++ Endpoint.injectionPath.toList := by
      rw [List.mem_append, not_or]
      exact ⟨hnone, by decide⟩
    rw [hparams, Url.groupByKey_append_singleton_iff, Url.queryText,
      Url.query_of_parse hnowhere hread]
    rfl

/-- An operation of quotes, a backslash, a line break and a character beyond the basic plane, for
a chain with the marks of queries and a letter beyond ASCII: the node gets both as they are. -/
theorem injected_operation_of_marks :
    let s : Session := answering [.plain] [.success "\"oo\""]
    let operation := "\"\\\n𐍈"
    let chain := "&=+ é"
    ∃ p ∈ requests (s.perform (.injectOperation operation chain)).2.trace,
      Url.decodeParams p.2.url.queryText = [("chain", chain)] ∧
        ∃ body, p.2.body = some body ∧ Json.decode body = .ok (.string operation) := by
  intro s operation chain
  obtain ⟨p, hsent⟩ : ∃ p, p ∈ requests (s.perform (.injectOperation operation chain)).2.trace := by
    refine List.exists_mem_of_ne_nil _ ?_
    decide +kernel
  obtain ⟨events, htrace, hall⟩ := injected_operation s operation chain
  have hevents : p ∈ requests events := by
    rw [htrace, requests_append] at hsent
    exact hsent
  obtain ⟨⟨-, body, hbody, -, hdecode, -⟩, -, halone⟩ := hall p hevents
  exact ⟨p, hsent, halone (by decide), body, hbody, hdecode⟩

/-- The session of a client whose host has a query. -/
def queriedHost : Session :=
  ⟨⟨"http://node?x=1", .default, 0, none⟩, [.plain], [.success "\"oo\""], [], []⟩

/-- The query of a host takes the path into it and stays, so that the chain is not the only
parameter. -/
theorem injected_params_of_queried_host :
    start (some "http://node?x=1") .default [.plain] 0 [.success "\"oo\""] [] = .ok queriedHost ∧
      ∃ p ∈ requests (queriedHost.perform (.injectOperation "ab" "main")).2.trace,
        Url.decodeParams p.2.url.queryText = [("x", "1/injection/operation"), ("chain", "main")] ∧
          Url.decodeParams p.2.url.queryText ≠ [("chain", "main")] := by
  refine ⟨rfl, ?_⟩
  have hparams : ∃ p ∈ requests (queriedHost.perform (.injectOperation "ab" "main")).2.trace,
      Url.decodeParams p.2.url.queryText =
        [("x", "1/injection/operation"), ("chain", "main")] := by
    decide +kernel
  obtain ⟨p, hsent, hp⟩ := hparams
  exact ⟨p, hsent, hp, by rw [hp]; decide⟩

end Session

end TezosNode
