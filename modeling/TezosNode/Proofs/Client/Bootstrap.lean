import TezosNode.Proofs.Client.Inquiry
import TezosNode.Proofs.Schema.Validation

set_option autoImplicit false

/-!
# Client: bootstraps

A bootstrap is two inquiries of which the second depends on the answer to the first.
`BootstrapRun` says how it can end: in the first step, in the second, or with constants
that are kept.  The constants of a client change at that end only.
-/

namespace TezosNode

/-! ## Steps -/

/-- A failure of a step of a bootstrap.  Only failures of the client's own are named
after the step. -/
def Failure.ofStep (step : BootstrapStep) (f : Failure) : Failure :=
  if f.isOwn then .bootstrap step f else f

/-- The log records of a failed step of a bootstrap. -/
def Session.setback (s : Session) (step : BootstrapStep) (details : List (String × Json))
    (f : Failure) : List Event :=
  if f.isOwn then
    [.logged (s.client.recordOf .warning "bootstrap_failed" (step.report details f))]
  else []

/-- The failure of a step has the octets of what made the step fail. -/
theorem Failure.body?_ofStep (step : BootstrapStep) (f : Failure) :
    (f.ofStep step).body? = f.body? := by
  unfold Failure.ofStep
  cases f.isOwn with
  | true => rfl
  | false => rfl

theorem Action.runIn_bootstrapStep {α : Type} (step : BootstrapStep)
    (details : List (String × Json)) (act : Action α) (s : Session) :
    (bootstrapStep step details act).runIn s =
      match act.runIn s with
      | (.ok a, s') => (.ok a, s')
      | (.error f, s') => (.error (f.ofStep step), s'.note (s'.setback step details f)) := by
  unfold bootstrapStep
  rw [runIn_tryCatch]
  rcases act.runIn s with ⟨f | a, s'⟩
  · cases hown : f.isOwn with
    | true => simp [runIn_bind, Failure.ofStep, Session.setback, hown]
    | false => simp [Failure.ofStep, Session.setback, hown]
  · rfl

/-! ## The inquiries of a bootstrap -/

namespace Inquiry

/-- The inquiry for the head of the chain. -/
def head : Inquiry := .get (Endpoint.blockPath "head")

/-- The inquiry for the constants at a block. -/
def constants (blockHash : String) : Inquiry := .get (Endpoint.constantsPath blockHash)

end Inquiry

theorem Endpoint.runIn_head (s : Session) :
    Endpoint.head.runIn s =
      ((Inquiry.head.call.runIn s).1.bind Endpoint.blockOf, (Inquiry.head.call.runIn s).2) :=
  Action.runIn_call_read Inquiry.head Endpoint.blockOf s

theorem Endpoint.runIn_constants (blockHash : String) (s : Session) :
    (Endpoint.constants blockHash).runIn s =
      (((Inquiry.constants blockHash).call.runIn s).1.bind (Endpoint.constantsOf blockHash),
        ((Inquiry.constants blockHash).call.runIn s).2) :=
  Action.runIn_call_read (Inquiry.constants blockHash) (Endpoint.constantsOf blockHash) s

/-- Asking for the head leaves what the call for it leaves. -/
theorem Endpoint.after_head {s t : Session} {result : Except Failure Block}
    (hhead : head.runIn s = (result, t)) : t = (Inquiry.head.call.runIn s).2 := by
  rw [runIn_head] at hhead
  exact (Prod.mk.inj hhead).2.symm

/-- Asking for constants leaves what the call for them leaves. -/
theorem Endpoint.after_constants {s t : Session} {blockHash : String}
    {result : Except Failure Constants}
    (hconstants : (constants blockHash).runIn s = (result, t)) :
    t = ((Inquiry.constants blockHash).call.runIn s).2 := by
  rw [runIn_constants] at hconstants
  exact (Prod.mk.inj hconstants).2.symm

/-! ## Ways to end -/

/-- The log record of a bootstrap that has succeeded. -/
def Session.readiness (s : Session) (head : Block) : Event :=
  .logged (s.client.recordOf .info "bootstrap_complete"
    [("block_hash", .string head.hash), ("level", head.level?.getD .null)])

/-- The ways in which a bootstrap can end in a session: its result and the session after
it. -/
inductive BootstrapRun (s : Session) : Except Failure Constants → Session → Prop
  /-- there is no head -/
  | headFailed {f : Failure} {t : Session} (hhead : Endpoint.head.runIn s = (.error f, t)) :
      BootstrapRun s (.error (f.ofStep .head)) (t.note (t.setback .head [] f))
  /-- there are no constants at the head -/
  | constantsFailed {head : Block} {f : Failure} {t u : Session}
      (hhead : Endpoint.head.runIn s = (.ok head, t))
      (hconstants : (Endpoint.constants head.hash).runIn t = (.error f, u)) :
      BootstrapRun s (.error (f.ofStep .constants))
        (u.note (u.setback .constants [("block_hash", .string head.hash)] f))
  /-- the constants at the head are kept -/
  | completed {head : Block} {c : Constants} {t u : Session}
      (hhead : Endpoint.head.runIn s = (.ok head, t))
      (hconstants : (Endpoint.constants head.hash).runIn t = (.ok c, u)) :
      BootstrapRun s (.ok c) ((u.setConstants c).note [u.readiness head])

/-- Everything that a bootstrap can do to a session. -/
theorem Action.bootstrapRun (s : Session) :
    BootstrapRun s (bootstrap.runIn s).1 (bootstrap.runIn s).2 := by
  unfold bootstrap
  rw [runIn_bind, runIn_bootstrapStep]
  rcases hhead : Endpoint.head.runIn s with ⟨f | head, t⟩
  · exact .headFailed hhead
  · dsimp only
    rw [runIn_bind, runIn_bootstrapStep]
    rcases hconstants : (Endpoint.constants head.hash).runIn t with ⟨f | c, u⟩
    · exact .constantsFailed hhead hconstants
    · exact .completed hhead hconstants

/-! ## Documents -/

/-- A body that is read as a document has been decoded, and its value has been read. -/
theorem Endpoint.of_document_ok {α ε : Type} {document : Document} {body : Bytes}
    {parse : Json → Except ε α} {wrap : ε → Failure} {a : α}
    (hread : (jsonOf document body >>= fun v => (parse v).mapError wrap) = .ok a) :
    ∃ v, Json.decode body = .ok v ∧ parse v = .ok a := by
  unfold jsonOf at hread
  cases hdecode : Json.decode body with
  | error fault =>
    rw [hdecode] at hread
    cases hread
  | ok v =>
    rw [hdecode] at hread
    change (parse v).mapError wrap = .ok a at hread
    cases hparse : parse v with
    | error fault =>
      rw [hparse] at hread
      cases hread
    | ok read =>
      rw [hparse] at hread
      cases hread
      exact ⟨v, rfl, hparse⟩

/-- A block that has been obtained is the document of the reply, with a string for its
hash. -/
theorem Endpoint.of_blockOf_ok {body : Bytes} {b : Block} (hread : blockOf body = .ok b) :
    Json.decode body = .ok b.data ∧ b.data.get? "hash" = some (.string b.hash) := by
  obtain ⟨v, hdecode, hblock⟩ := of_document_ok hread
  obtain ⟨hdata, hhash⟩ := Block.of_ofJson hblock
  rw [← hdata]
  exact ⟨hdecode, hhash⟩

/-- Constants that have been obtained are the document of the reply, labelled with the
block that they were asked for. -/
theorem Endpoint.of_constantsOf_ok {blockHash : String} {body : Bytes} {c : Constants}
    (hread : constantsOf blockHash body = .ok c) :
    Json.decode body = .ok c.data ∧ c.blockHash = some blockHash := by
  obtain ⟨v, hdecode, hconstants⟩ := of_document_ok hread
  obtain ⟨hdata, hhash⟩ := Constants.of_ofJson hconstants
  rw [← hdata]
  exact ⟨hdecode, hhash⟩

/-! ## What a bootstrap amounts to -/

/-- What has happened in a bootstrap from one session to another that has returned
constants: the two requests, the replies to them, and the hash of the block that the
constants are of. -/
structure BootstrapSuccess (s t : Session) (c : Constants) (headRequest : Request)
    (constantsRequest : Request) (headReply constantsReply : Response) (blockHash : String) :
    Prop where
  headRequest_eq :
    Request.make .get (s.client.host ++ "/chains/main/blocks/head").toList none =
      .ok headRequest
  constantsRequest_eq :
    Request.make .get
        (s.client.host ++ ("/chains/main/blocks/" ++ blockHash ++ "/context/constants")).toList
        none =
      .ok constantsRequest
  requests_eq :
    Session.requests t.trace =
      Session.requests s.trace ++
        [(s.client.transport, headRequest), (s.client.transport, constantsRequest)]
  headReply_eq : s.reply = .response headReply
  constantsReply_eq : s.answered.reply = .response constantsReply
  hash_eq : ∃ document, Json.decode headReply.content = .ok document ∧
    document.get? "hash" = some (.string blockHash)
  data_eq : Json.decode constantsReply.content = .ok c.data
  blockHash_eq : c.blockHash = some blockHash
  constants_eq : t.client.constants = some c

/-- The log records of a failed step are no attempts. -/
theorem Session.attempts_setback (s : Session) (step : BootstrapStep)
    (details : List (String × Json)) (f : Failure) : attempts (s.setback step details f) = [] := by
  unfold setback
  cases f.isOwn with
  | true => rfl
  | false => rfl

namespace BootstrapRun

variable {s t : Session}

/-- A bootstrap that fails leaves the constants as they were. -/
theorem constants_of_error {f : Failure} (h : BootstrapRun s (.error f) t) :
    t.client.constants = s.client.constants := by
  cases h with
  | headFailed hhead =>
    rw [Session.note_client, Endpoint.after_head hhead, Inquiry.call_client]
  | constantsFailed hhead hconstants =>
    rw [Session.note_client, Endpoint.after_constants hconstants, Inquiry.call_client,
      Endpoint.after_head hhead, Inquiry.call_client]

/-- A bootstrap that returns constants has asked for the head and then for the constants
there. -/
theorem success {c : Constants} (h : BootstrapRun s (.ok c) t) :
    ∃ headRequest constantsRequest headReply constantsReply blockHash,
      BootstrapSuccess s t c headRequest constantsRequest headReply constantsReply blockHash := by
  cases h with
  | @completed head c t u hhead hconstants =>
    rw [Endpoint.runIn_head] at hhead
    rw [Endpoint.runIn_constants] at hconstants
    obtain ⟨r, reply, hfirst, hblock⟩ := Inquiry.answered_of_read_ok hhead
    obtain ⟨r', reply', hsecond, hread⟩ := Inquiry.answered_of_read_ok hconstants
    obtain ⟨hdecode, hhash⟩ := Endpoint.of_blockOf_ok hblock
    obtain ⟨hdecode', hhash'⟩ := Endpoint.of_constantsOf_ok hread
    refine ⟨r, r', reply, reply', head.hash, ?_⟩
    exact {
      headRequest_eq := Inquiry.make_of_request hfirst.request_eq
      constantsRequest_eq := by
        rw [← hfirst.client_eq]
        exact Inquiry.make_of_request hsecond.request_eq
      requests_eq := by
        have hrecord : Session.requests [u.readiness head] = [] := rfl
        rw [Session.note_trace, Session.requests_append, hrecord, List.append_nil]
        change Session.requests u.trace = _
        rw [hsecond.requests_eq, hfirst.requests_eq, hfirst.client_eq, List.append_assoc]
        rfl
      headReply_eq := hfirst.reply_eq
      constantsReply_eq := by
        rw [← hsecond.reply_eq, Session.reply, Session.reply, hfirst.replies_eq]
        rfl
      hash_eq := ⟨head.data, hdecode, hhash⟩
      data_eq := hdecode'
      blockHash_eq := hhash'
      constants_eq := rfl }

/-- What comes of a bootstrap whose first step fails. -/
theorem of_head_error {result : Except Failure Constants} {f : Failure}
    (h : BootstrapRun s result t) (hhead : (Endpoint.head.runIn s).1 = .error f) :
    result = .error (f.ofStep .head) ∧
      Session.attempts t.trace = Session.attempts (Endpoint.head.runIn s).2.trace := by
  cases h with
  | @headFailed f' t' hhead' =>
    rw [hhead'] at hhead ⊢
    obtain rfl := Except.error.inj hhead
    refine ⟨rfl, ?_⟩
    rw [Session.note_trace, Session.attempts_append, Session.attempts_setback, List.append_nil]
  | constantsFailed hhead' =>
    rw [hhead'] at hhead
    cases hhead
  | completed hhead' =>
    rw [hhead'] at hhead
    cases hhead

/-- What comes of a bootstrap whose second step fails. -/
theorem of_constants_error {result : Except Failure Constants} {head : Block} {f : Failure}
    (h : BootstrapRun s result t) (hhead : (Endpoint.head.runIn s).1 = .ok head)
    (hconstants : ((Endpoint.constants head.hash).runIn (Endpoint.head.runIn s).2).1 =
      .error f) :
    result = .error (f.ofStep .constants) := by
  cases h with
  | headFailed hhead' =>
    rw [hhead'] at hhead
    cases hhead
  | @constantsFailed head' f' t' u hhead' hconstants' =>
    rw [hhead'] at hhead hconstants
    obtain rfl := Except.ok.inj hhead
    rw [hconstants'] at hconstants
    obtain rfl := Except.error.inj hconstants
    rfl
  | @completed head' c t' u hhead' hconstants' =>
    rw [hhead'] at hhead hconstants
    obtain rfl := Except.ok.inj hhead
    rw [hconstants'] at hconstants
    cases hconstants

/-- What comes of a bootstrap whose steps both succeed. -/
theorem of_constants_ok {result : Except Failure Constants} {head : Block} {c : Constants}
    {u v : Session} (h : BootstrapRun s result t) (hhead : Endpoint.head.runIn s = (.ok head, u))
    (hconstants : (Endpoint.constants head.hash).runIn u = (.ok c, v)) :
    result = .ok c ∧ t = (v.setConstants c).note [v.readiness head] := by
  cases h with
  | headFailed hhead' =>
    rw [hhead'] at hhead
    cases hhead
  | constantsFailed hhead' hconstants' =>
    rw [hhead'] at hhead
    obtain ⟨hblock, rfl⟩ := Prod.mk.inj hhead
    obtain rfl := Except.ok.inj hblock
    rw [hconstants'] at hconstants
    cases hconstants
  | completed hhead' hconstants' =>
    rw [hhead'] at hhead
    obtain ⟨hblock, rfl⟩ := Prod.mk.inj hhead
    obtain rfl := Except.ok.inj hblock
    rw [hconstants'] at hconstants
    obtain ⟨hkept, rfl⟩ := Prod.mk.inj hconstants
    obtain rfl := Except.ok.inj hkept
    exact ⟨rfl, rfl⟩

end BootstrapRun

/-- Asking for the head makes one attempt at most, for the head. -/
theorem Endpoint.attempts_of_head (s : Session) :
    Session.attempts (head.runIn s).2.trace = Session.attempts s.trace ∨
      ∃ r, Request.make .get (s.client.host ++ "/chains/main/blocks/head").toList none = .ok r ∧
        Session.attempts (head.runIn s).2.trace =
          Session.attempts s.trace ++ [(s.client.transport, r)] := by
  rw [runIn_head]
  rcases Inquiry.head.call_attempts s with hnone | ⟨r, hrequest, hone⟩
  · exact Or.inl hnone
  · exact Or.inr ⟨r, Inquiry.make_of_request hrequest, hone⟩

/-- What comes of a bootstrap, in any session.  A failure of whatever kind leaves the
constants as they were.  A success has asked for the head and for the constants at the
hash of that very head, and keeps what the second reply says.  A failure of the client's
own is named after the step that it comes from and has its octets; after a failure in the
first step the constants are not asked for. -/
theorem Action.bootstrap_outcome (s : Session) :
    (∀ f, (bootstrap.runIn s).1 = .error f →
      (bootstrap.runIn s).2.client.constants = s.client.constants) ∧
    (∀ c, (bootstrap.runIn s).1 = .ok c →
      ∃ headRequest constantsRequest headReply constantsReply blockHash,
        BootstrapSuccess s (bootstrap.runIn s).2 c headRequest constantsRequest headReply
          constantsReply blockHash) ∧
    (∀ f, (Endpoint.head.runIn s).1 = .error f →
      (bootstrap.runIn s).1 = .error (if f.isOwn then .bootstrap .head f else f) ∧
      (∀ g, (bootstrap.runIn s).1 = .error g → g.body? = f.body?) ∧
      (Session.attempts (bootstrap.runIn s).2.trace = Session.attempts s.trace ∨
        ∃ r, Request.make .get (s.client.host ++ "/chains/main/blocks/head").toList none =
            .ok r ∧
          Session.attempts (bootstrap.runIn s).2.trace =
            Session.attempts s.trace ++ [(s.client.transport, r)])) ∧
    (∀ head f, (Endpoint.head.runIn s).1 = .ok head →
      ((Endpoint.constants head.hash).runIn (Endpoint.head.runIn s).2).1 = .error f →
      (bootstrap.runIn s).1 = .error (if f.isOwn then .bootstrap .constants f else f) ∧
      (∀ g, (bootstrap.runIn s).1 = .error g → g.body? = f.body?)) := by
  have hrun := bootstrapRun s
  refine ⟨?_, ?_, ?_, ?_⟩
  · intro f hfail
    rw [hfail] at hrun
    exact hrun.constants_of_error
  · intro c hok
    rw [hok] at hrun
    exact hrun.success
  · intro f hhead
    obtain ⟨hresult, hattempts⟩ := hrun.of_head_error hhead
    refine ⟨hresult, ?_, ?_⟩
    · intro g hg
      rw [hresult] at hg
      rw [← Except.error.inj hg, Failure.body?_ofStep]
    · rw [hattempts]
      exact Endpoint.attempts_of_head s
  · intro head f hhead hconstants
    have hresult := hrun.of_constants_error hhead hconstants
    refine ⟨hresult, ?_⟩
    intro g hg
    rw [hresult] at hg
    rw [← Except.error.inj hg, Failure.body?_ofStep]

/-- A node that sends a head and then constants makes its client ready. -/
theorem Action.bootstrap_outcome_of_replies :
    ∃ c, (bootstrap.runIn (.answering [.plain]
      [.success "\x7b\"hash\":\"B\"\x7d", .success "\x7b\"a\":1\x7d"])).2.client.constants =
        some c := by
  have hok : (bootstrap.runIn (.answering [.plain]
      [.success "\x7b\"hash\":\"B\"\x7d", .success "\x7b\"a\":1\x7d"])).1.isOk = true := by
    decide +kernel
  obtain ⟨_, hsuccess, _⟩ := bootstrap_outcome (.answering [.plain]
    [.success "\x7b\"hash\":\"B\"\x7d", .success "\x7b\"a\":1\x7d"])
  generalize bootstrap.runIn _ = run at hok hsuccess ⊢
  obtain ⟨_ | c, t⟩ := run
  · cases hok
  · obtain ⟨_, _, _, _, _, h⟩ := hsuccess c rfl
    exact ⟨c, h.constants_eq⟩

end TezosNode
