import TezosNode.Proofs.Client.Destination
import TezosNode.Proofs.Url.Literal

set_option autoImplicit false

/-!
# Client: which document a request asks for

The paths of endpoints have names of blocks and addresses in them, one of which the node
gives: the hash at which a bootstrap asks for constants.  A name is put there as it is.  With
a plain host, the request asks for the document that is documented just if every name stands
for itself in a path; other names lead to other documents of the same node.
-/

namespace TezosNode

/-! ## Documented paths -/

/-- The path that is documented for an operation about a block, with the names that stand in
it. -/
inductive Operation.AsksFor : Operation → String → List String → Prop
  | block (id : String) : AsksFor (.block id) ("/chains/main/blocks/" ++ id) [id]
  | constants (blockHash : String) :
      AsksFor (.constants blockHash)
        ("/chains/main/blocks/" ++ blockHash ++ "/context/constants") [blockHash]
  | balance (blockHash address : String) :
      AsksFor (.balance blockHash address)
        ("/chains/main/blocks/" ++ blockHash ++ "/context/contracts/" ++ address ++ "/balance")
        [blockHash, address]
  | counter (blockHash address : String) :
      AsksFor (.counter blockHash address)
        ("/chains/main/blocks/" ++ blockHash ++ "/context/contracts/" ++ address ++ "/counter")
        [blockHash, address]

namespace Endpoint

theorem isLiteral_blockPath_iff (id : String) :
    Url.IsLiteral (blockPath id).toList ↔ Url.IsLiteral id.toList := by
  have hpath : (blockPath id).toList = "/chains/main/blocks".toList ++ '/' :: id.toList := by
    rw [blockPath, String.toList_append]
    rfl
  rw [hpath, Url.isLiteral_append_slash_iff]
  exact and_iff_right (by decide)

theorem isLiteral_constantsPath_iff (blockHash : String) :
    Url.IsLiteral (constantsPath blockHash).toList ↔ Url.IsLiteral blockHash.toList := by
  have hpath : (constantsPath blockHash).toList =
      (blockPath blockHash).toList ++ '/' :: "context/constants".toList := by
    rw [constantsPath, String.toList_append]
    rfl
  rw [hpath, Url.isLiteral_append_slash_iff, isLiteral_blockPath_iff]
  exact and_iff_left (by decide)

/-- The names of the block and of the contract stand between slashes. -/
theorem isLiteral_contractPath_append_iff (blockHash address : String) {document : List Char}
    (hdocument : Url.IsLiteral document) :
    Url.IsLiteral ((contractPath blockHash address).toList ++ '/' :: document) ↔
      Url.IsLiteral blockHash.toList ∧ Url.IsLiteral address.toList := by
  have hpath : (contractPath blockHash address).toList =
      (blockPath blockHash).toList ++ '/' :: ("context/contracts".toList ++
        '/' :: address.toList) := by
    rw [contractPath, String.toList_append, String.toList_append, List.append_assoc]
    rfl
  have hmiddle : Url.IsLiteral "context/contracts".toList := by decide
  rw [hpath, Url.isLiteral_append_slash_iff, Url.isLiteral_append_slash_iff,
    Url.isLiteral_append_slash_iff, isLiteral_blockPath_iff]
  exact ⟨fun ⟨⟨hblock, _, haddress⟩, _⟩ => ⟨hblock, haddress⟩,
    fun ⟨hblock, haddress⟩ => ⟨⟨hblock, hmiddle, haddress⟩, hdocument⟩⟩

end Endpoint

/-- An operation about a block is an inquiry for the path that is documented for it, which is
literal just if all its names are. -/
theorem Operation.AsksFor.exists_inquiry {op : Operation} {path : String} {names : List String}
    (h : op.AsksFor path names) :
    ∃ q, op.inquiry? = some q ∧ q.path = path ∧ q.options = [] ∧ IsRooted q.path ∧
      (Url.IsLiteral path.toList ↔ ∀ name ∈ names, Url.IsLiteral name.toList) := by
  cases h with
  | block id =>
    refine ⟨_, rfl, rfl, rfl, Endpoint.isRooted_blockPath id, ?_⟩
    rw [List.forall_mem_singleton]
    exact Endpoint.isLiteral_blockPath_iff id
  | constants blockHash =>
    refine ⟨_, rfl, rfl, rfl, Endpoint.isRooted_constantsPath blockHash, ?_⟩
    rw [List.forall_mem_singleton]
    exact Endpoint.isLiteral_constantsPath_iff blockHash
  | balance blockHash address =>
    refine ⟨_, rfl, rfl, rfl, (Endpoint.isRooted_contractPath blockHash address).append _, ?_⟩
    rw [List.forall_mem_cons, List.forall_mem_singleton, String.toList_append]
    exact Endpoint.isLiteral_contractPath_append_iff blockHash address (by decide)
  | counter blockHash address =>
    refine ⟨_, rfl, rfl, rfl, (Endpoint.isRooted_contractPath blockHash address).append _, ?_⟩
    rw [List.forall_mem_cons, List.forall_mem_singleton, String.toList_append]
    exact Endpoint.isLiteral_contractPath_append_iff blockHash address (by decide)

/-! ## Requests to plain hosts -/

/-- From a plain host, a request without options has the path of its inquiry and no query
just if that path is literal. -/
theorem Inquiry.path_of_request_iff {q : Inquiry} {host : String} {r : Request}
    (hplain : Url.IsPlain host.toList) (hpath : IsRooted q.path) (hnone : q.options = [])
    (hrequest : q.request host = .ok r) :
    String.ofList r.url.decodedPath = q.path ∧ r.url.queryText = [] ↔
      Url.IsLiteral q.path.toList := by
  obtain ⟨u, hread, hattach, -⟩ := Inquiry.exists_of_request hrequest
  rw [hnone, Url.attach_nil] at hattach
  rw [← String.toList_inj, String.toList_ofList, ← Except.ok.inj hattach]
  exact Url.decodedPath_eq_iff hplain hpath hread

namespace Session

/-- With a plain host, a request about a block asks for the document of the documented path,
without a query, just if all names in it are literal.  The second request of a bootstrap asks
for the constants at the head in the same way: just if the hash is literal that the node has
given. -/
theorem documented_path_iff (s : Session) (hplain : Url.IsPlain s.client.host.toList) :
    (∀ op path names, Operation.AsksFor op path names →
      ∃ events, (s.perform op).2.trace = s.trace ++ events ∧
        ∀ p ∈ requests events,
          (String.ofList p.2.url.decodedPath = path ∧ p.2.url.queryText = [] ↔
            ∀ name ∈ names, Url.IsLiteral name.toList)) ∧
    ∀ head, (Endpoint.head.runIn s).1 = .ok head →
      ∃ events, (s.perform .bootstrap).2.trace = (Endpoint.head.runIn s).2.trace ++ events ∧
        ∀ p ∈ requests events,
          (String.ofList p.2.url.decodedPath =
              "/chains/main/blocks/" ++ head.hash ++ "/context/constants" ∧
            p.2.url.queryText = [] ↔ Url.IsLiteral head.hash.toList) := by
  constructor
  · intro op path names hasks
    obtain ⟨q, hop, rfl, hnone, hrooted, hnames⟩ := hasks.exists_inquiry
    obtain ⟨events, htrace, hall⟩ := madeBy_of_inquiry hop s
    refine ⟨events, htrace, ?_⟩
    intro p hsent
    obtain ⟨-, _, rfl, hrequest⟩ := hall p (mem_attempts_of_mem_requests hsent)
    exact (Inquiry.path_of_request_iff hplain hrooted hnone hrequest).trans hnames
  · intro head hhead
    obtain ⟨events, htrace, hall⟩ := (Action.bootstrapRun s).madeBy_after_head hhead
    rw [perform_bootstrap]
    refine ⟨events, htrace, ?_⟩
    intro p hsent
    obtain ⟨-, _, rfl, hrequest⟩ := hall p (mem_attempts_of_mem_requests hsent)
    have hclient : (Endpoint.head.runIn s).2.client = s.client := by
      rw [Endpoint.runIn_head]
      exact Inquiry.head.call_client s
    rw [hclient] at hrequest
    have hrooted : IsRooted (Inquiry.constants head.hash).path :=
      Endpoint.isRooted_constantsPath head.hash
    exact (Inquiry.path_of_request_iff hplain hrooted rfl hrequest).trans
      (Endpoint.isLiteral_constantsPath_iff head.hash)

/-- A head that has been read, by its hash. -/
theorem exists_head_of_hash {s : Session} {hash : String}
    (hhash : (Endpoint.head.runIn s).1.toOption.map Block.hash = some hash) :
    ∃ head, (Endpoint.head.runIn s).1 = .ok head ∧ head.hash = hash := by
  cases hhead : (Endpoint.head.runIn s).1 with
  | error f =>
    rw [hhead] at hhash
    cases hhash
  | ok head =>
    rw [hhead] at hhash
    exact ⟨head, rfl, Option.some.inj hhash⟩

/-- A node whose head has a hash with a space, a letter beyond ASCII and a `%` that begins no
encoded octet. -/
def reportingLiteral : Session :=
  answering [.plain] [.success "\x7b\"hash\":\"B%1 \u00e9\"\x7d"]

/-- Such a hash is encoded on the way and is read as itself. -/
theorem documented_path_iff_of_literal_hash :
    ∃ p ∈ requests (reportingLiteral.perform .bootstrap).2.trace,
      p.2.url.path = "/chains/main/blocks/B%1%20%C3%A9/context/constants".toList ∧
        String.ofList p.2.url.decodedPath = "/chains/main/blocks/B%1 \u00e9/context/constants" ∧
        p.2.url.queryText = [] := by
  have hplain : Url.IsPlain reportingLiteral.client.host.toList :=
    ⟨_, _, "node".toList, .http, rfl, by decide⟩
  obtain ⟨head, hhead, hname⟩ := @exists_head_of_hash reportingLiteral "B%1 \u00e9"
    (by decide +kernel)
  obtain ⟨events, htrace, hiff⟩ := (documented_path_iff reportingLiteral hplain).2 head hhead
  obtain ⟨p, hsent, hpath⟩ :
      ∃ p ∈ requests ((reportingLiteral.perform .bootstrap).2.trace.drop
          (Endpoint.head.runIn reportingLiteral).2.trace.length),
        p.2.url.path = "/chains/main/blocks/B%1%20%C3%A9/context/constants".toList := by
    decide +kernel
  rw [htrace, List.drop_left] at hsent
  have hliteral : Url.IsLiteral head.hash.toList := by
    rw [hname]
    decide
  obtain ⟨hdecoded, hquery⟩ := (hiff p hsent).2 hliteral
  rw [hname] at hdecoded
  refine ⟨p, ?_, hpath, hdecoded, hquery⟩
  rw [htrace, requests_append]
  exact List.mem_append_right _ hsent

/-- A node whose head has a hash that leads away from the blocks. -/
def reportingPath : Session :=
  answering [.plain] [.success "\x7b\"hash\":\"B/../../is_bootstrapped?\"\x7d",
    .success "\x7b\"bootstrapped\":true\x7d"]

/-- With that hash a bootstrap keeps what the node has said about something else as the
constants at its head. -/
theorem bootstrap_constants_of_other_path :
    (reportingPath.perform .bootstrap).1.isOk = true ∧
      (requests (reportingPath.perform .bootstrap).2.trace).map
          (fun p => String.ofList p.2.url.decodedPath) =
        ["/chains/main/blocks/head", "/chains/main/is_bootstrapped"] ∧
      ¬ ∀ head, (Endpoint.head.runIn reportingPath).1 = .ok head →
        ∀ p, (requests (reportingPath.perform .bootstrap).2.trace)[1]? = some p →
          String.ofList p.2.url.decodedPath =
            "/chains/main/blocks/" ++ head.hash ++ "/context/constants" := by
  have hpaths : (requests (reportingPath.perform .bootstrap).2.trace).map
      (fun p => String.ofList p.2.url.decodedPath) =
        ["/chains/main/blocks/head", "/chains/main/is_bootstrapped"] := by
    decide +kernel
  refine ⟨by decide +kernel, hpaths, ?_⟩
  intro hdocumented
  obtain ⟨head, hhead, hname⟩ := @exists_head_of_hash reportingPath "B/../../is_bootstrapped?"
    (by decide +kernel)
  have hsecond : ((requests (reportingPath.perform .bootstrap).2.trace)[1]?.map
      fun p => String.ofList p.2.url.decodedPath) = some "/chains/main/is_bootstrapped" := by
    rw [← List.getElem?_map, hpaths]
    rfl
  obtain ⟨p, hsent, hpath⟩ := Option.map_eq_some_iff.1 hsecond
  have hequal := hdocumented head hhead p hsent
  rw [hpath, hname] at hequal
  exact absurd hequal (by decide +kernel)

end Session

end TezosNode
