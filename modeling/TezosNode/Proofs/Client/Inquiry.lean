import TezosNode.Proofs.Client.Conversation

set_option autoImplicit false

/-!
# Client: inquiries

All calls are one definition with other arguments, an `Inquiry`, and all operations that
ask the node for one document are that inquiry with another reading of its body.  Either
there is no request to an inquiry, and the session stays as it is, or there is one, and
the call is the exchange of that request; what calls do is read off these two cases.
-/

namespace TezosNode

/-! ## Calls -/

/-- What a call asks of the node. -/
structure Inquiry where
  method : Method
  path : String
  /-- the content to send, if any -/
  body : Option Bytes
  options : List Url.Param
  deriving DecidableEq, Repr, Inhabited

namespace Inquiry

/-- An inquiry for a document. -/
def get (path : String) : Inquiry := ⟨.get, path, none, []⟩

/-- The call that makes an inquiry. -/
def call (q : Inquiry) : Action Bytes := Action.call q.method q.path q.body q.options

/-- The request of an inquiry, from a client for a host. -/
def request (q : Inquiry) (host : String) : Except Failure Request :=
  match Request.make q.method (host.toList ++ q.path.toList) q.body with
  | .error fault => .error (.construction fault)
  | .ok r => (r.attach q.options).mapError fun fault => .foreign (.url fault)

theorem runIn_call (q : Inquiry) (s : Session) :
    q.call.runIn s =
      match q.request s.client.host with
      | .error f => (.error f, s)
      | .ok r => (Action.perform r).runIn s := by
  unfold call Action.call request
  rw [Action.runIn_bind, Action.runIn_get]
  dsimp only
  cases Request.make q.method (s.client.host.toList ++ q.path.toList) q.body with
  | error fault => rfl
  | ok r =>
    dsimp only
    cases r.attach q.options with
    | error fault => rfl
    | ok r => rfl

theorem runIn_call_of_error {q : Inquiry} {s : Session} {f : Failure}
    (hrequest : q.request s.client.host = .error f) : q.call.runIn s = (.error f, s) := by
  rw [runIn_call, hrequest]

theorem runIn_call_of_ok {q : Inquiry} {s : Session} {r : Request}
    (hrequest : q.request s.client.host = .ok r) :
    q.call.runIn s = (Action.perform r).runIn s := by
  rw [runIn_call, hrequest]

/-- A call fails without a trace, or it is the exchange of its request. -/
theorem call_cases (q : Inquiry) (s : Session) :
    (∃ f, q.request s.client.host = .error f ∧ q.call.runIn s = (.error f, s)) ∨
      ∃ r aside events, q.request s.client.host = .ok r ∧
        Exchange s r (q.call.runIn s).1 aside events ∧
        (q.call.runIn s).2 = aside.note events := by
  cases hrequest : q.request s.client.host with
  | error f => exact Or.inl ⟨f, rfl, runIn_call_of_error hrequest⟩
  | ok r =>
    obtain ⟨aside, events, hexchange, hafter⟩ := Action.exists_exchange_of_perform r s
    rw [runIn_call_of_ok hrequest]
    exact Or.inr ⟨r, aside, events, rfl, hexchange, hafter⟩

/-- A request can be found by making it. -/
theorem exists_request (q : Inquiry) (host : String) (hmade : (q.request host).isOk = true) :
    ∃ r, q.request host = .ok r := by
  cases hrequest : q.request host with
  | ok r => exact ⟨r, rfl⟩
  | error f =>
    rw [hrequest] at hmade
    cases hmade

/-- What a request of an inquiry is made of: the method and the content of the inquiry, the host
header of a URL that has been read, and this URL with the options. -/
theorem of_request {q : Inquiry} {host : String} {r : Request} (hrequest : q.request host = .ok r) :
    ∃ u v, Url.parse (host.toList ++ q.path.toList) = .ok u ∧ u.attach q.options = .ok v ∧
      r = ⟨q.method, v, u.hostHeader?, q.body⟩ := by
  unfold Inquiry.request Request.make at hrequest
  split at hrequest
  · cases hrequest
  case h_2 made hmake =>
    split at hmake
    · cases hmake
    case h_2 u hread =>
      split at hmake
      · cases hmake
      · obtain rfl := Except.ok.inj hmake
        unfold Request.attach at hrequest
        cases hattach : u.attach q.options with
        | error fault =>
          rw [hattach] at hrequest
          cases hrequest
        | ok v =>
          rw [hattach] at hrequest
          exact ⟨u, v, hread, hattach, (Except.ok.inj hrequest).symm⟩

/-- A document's request has the URL of its path after the host. -/
theorem make_of_request {path host : String} {r : Request}
    (hrequest : (Inquiry.get path).request host = .ok r) :
    Request.make .get (host ++ path).toList none = .ok r := by
  rw [String.toList_append]
  unfold Inquiry.request Inquiry.get at hrequest
  dsimp only at hrequest
  cases hmake : Request.make .get (host.toList ++ path.toList) none with
  | error fault =>
    rw [hmake] at hrequest
    cases hrequest
  | ok made =>
    rw [hmake] at hrequest
    cases hrequest
    rfl

/-! ## What calls do -/

section Calls

variable (q : Inquiry) (s : Session)

/-- A call changes nothing about the client. -/
theorem call_client : (q.call.runIn s).2.client = s.client := by
  rcases q.call_cases s with ⟨f, _, hfail⟩ | ⟨r, aside, events, _, hexchange, hafter⟩
  · rw [hfail]
  · rw [hafter, Session.note_client]
    exact hexchange.client_eq

/-- A call makes one attempt at most, with its own request. -/
theorem call_attempts :
    Session.attempts (q.call.runIn s).2.trace = Session.attempts s.trace ∨
      ∃ r, q.request s.client.host = .ok r ∧
        Session.attempts (q.call.runIn s).2.trace =
          Session.attempts s.trace ++ [(s.client.transport, r)] := by
  rcases q.call_cases s with ⟨f, _, hfail⟩ | ⟨r, aside, events, hrequest, hexchange, hafter⟩
  · rw [hfail]
    exact Or.inl rfl
  · refine Or.inr ⟨r, hrequest, ?_⟩
    rw [hafter, Session.note_trace, Session.attempts_append, hexchange.attempts_eq,
      hexchange.trace_eq]

/-- A call is a conversation with one attempt at most. -/
theorem conversation :
    ∃ events, Conversation s events (q.call.runIn s).2 ∧
      (Session.attempts events).length ≤ 1 := by
  rcases q.call_cases s with ⟨f, _, hfail⟩ | ⟨r, aside, events, _, hexchange, hafter⟩
  · rw [hfail]
    exact ⟨[], .rest s, by decide⟩
  · rw [hafter]
    exact ⟨events, .exchanged hexchange, by simp [hexchange.attempts_eq]⟩

/-- A call closes the idle connections of the transport in use once if it succeeds, and
never otherwise, whatever is made of its body. -/
theorem idleCloseCount_call (n : Nat) :
    Session.idleCloseCount (q.call.runIn s).2.trace n =
      Session.idleCloseCount s.trace n +
        if n = s.client.transport ∧ (q.call.runIn s).1.isOk = true then 1 else 0 := by
  rcases q.call_cases s with ⟨f, _, hfail⟩ | ⟨r, aside, events, _, hexchange, hafter⟩
  · rw [hfail]
    simp [Except.isOk, Except.toBool]
  · rw [hafter, Session.note_trace, Session.idleCloseCount_append, hexchange.trace_eq,
      hexchange.idleCloseCount_eq]

end Calls

/-! ## Answers to calls -/

/-- An inquiry that has got a response in one session, and the session after it. -/
structure Answered (q : Inquiry) (s t : Session) (r : Request) (response : Response) : Prop where
  request_eq : q.request s.client.host = .ok r
  reply_eq : s.reply = .response response
  client_eq : t.client = s.client
  replies_eq : t.replies = s.replies.tail
  requests_eq :
    Session.requests t.trace = Session.requests s.trace ++ [(s.client.transport, r)]

/-- The result of a call that succeeds is the content of the response. -/
theorem answered_of_call_ok {q : Inquiry} {s t : Session} {body : Bytes}
    (hcall : q.call.runIn s = (.ok body, t)) :
    ∃ r response, q.Answered s t r response ∧ response.content = body := by
  rcases q.call_cases s with ⟨f, _, hfail⟩ | ⟨r, aside, events, hrequest, hexchange, hafter⟩
  · rw [hfail] at hcall
    cases hcall
  · rw [hcall] at hexchange hafter
    cases hexchange with
    | @completed response duration hopen hreply hwhole hduration hverdict =>
      have hafter : t = _ := hafter
      subst hafter
      refine ⟨r, response, ⟨hrequest, hreply, rfl, rfl, ?_⟩, rfl⟩
      simp [Session.requests, Session.opening, Session.completion]

/-- The result of a call is the content of a successful response. -/
theorem isSuccess_of_call_ok {q : Inquiry} {s t : Session} {body : Bytes}
    (hcall : q.call.runIn s = (.ok body, t)) :
    ∃ response, s.reply = .response response ∧ response.content = body ∧
      response.isSuccess s.client.config.strictErrors = true := by
  rcases q.call_cases s with ⟨f, _, hfail⟩ | ⟨r, aside, events, _, hexchange, _⟩
  · rw [hfail] at hcall
    cases hcall
  · rw [hcall] at hexchange
    cases hexchange with
    | @completed response duration hopen hreply hwhole hduration hverdict =>
      exact ⟨response, hreply, rfl, (Response.isSuccess_iff hwhole).2 hverdict⟩

/-- The result of a document that is read is what the content of the response reads as. -/
theorem answered_of_read_ok {α : Type} {q : Inquiry} {read : Bytes → Except Failure α}
    {s t : Session} {a : α}
    (hread : ((q.call.runIn s).1.bind read, (q.call.runIn s).2) = (.ok a, t)) :
    ∃ r response, q.Answered s t r response ∧ read response.content = .ok a := by
  rcases hcall : q.call.runIn s with ⟨f | body, t'⟩
  · rw [hcall] at hread
    cases hread
  · rw [hcall] at hread
    obtain ⟨hbody, rfl⟩ := Prod.mk.inj hread
    obtain ⟨r, response, hanswered, rfl⟩ := answered_of_call_ok hcall
    exact ⟨r, response, hanswered, hbody⟩

end Inquiry

/-! ## Operations that are calls -/

namespace Operation

/-- The inquiry of an operation that asks the node for one document. -/
def inquiry? : Operation → Option Inquiry
  | .get path options => some ⟨.get, path, none, options⟩
  | .post path body options => some ⟨.post, path, some body, options⟩
  | .delete path options => some ⟨.delete, path, none, options⟩
  | .block id => some (.get (Endpoint.blockPath id))
  | .constants blockHash => some (.get (Endpoint.constantsPath blockHash))
  | .balance blockHash address => some (.get (Endpoint.balancePath blockHash address))
  | .counter blockHash address => some (.get (Endpoint.counterPath blockHash address))
  | .chainId => some (.get Endpoint.chainIdPath)
  | .isBootstrapped => some (.get Endpoint.statusPath)
  | .injectOperation operation chain =>
    some ⟨.post, Endpoint.injectionPath, some (Text.Utf8.encode (Json.stringText operation)),
      [("chain", chain)]⟩
  | .bootstrap | .useTransport _ | .installTransport _ | .closeIdle | .closeTransport
  | .setConstants _ => none

/-- What an operation makes of the body of the document that it has asked for. -/
def read : Operation → Bytes → Except Failure Answer
  | .block _, body => (Endpoint.blockOf body).map .block
  | .constants blockHash, body => (Endpoint.constantsOf blockHash body).map .constants
  | .balance _ _, body => (Endpoint.integerOf .balance body).map .integer
  | .counter _ _, body => (Endpoint.integerOf .counter body).map .integer
  | .chainId, body => (Endpoint.stringOf .chainId body).map .text
  | .isBootstrapped, body => (Endpoint.statusOf body).map .status
  | .injectOperation _ _, body => (Endpoint.stringOf .operationHash body).map .text
  | _, body => .ok (.body body)

end Operation

namespace Action

variable {α β : Type}

/-- A call whose body is read without the session. -/
theorem runIn_call_read (q : Inquiry) (read : Bytes → Except Failure α) (s : Session) :
    (q.call >>= fun body => (liftM (read body) : Action α)).runIn s =
      ((q.call.runIn s).1.bind read, (q.call.runIn s).2) := by
  rw [runIn_bind]
  rcases q.call.runIn s with ⟨_ | body, s'⟩
  · rfl
  · rfl

/-- The same with another form for the result. -/
theorem runIn_map_call_read (q : Inquiry) (read : Bytes → Except Failure α) (form : α → β)
    (s : Session) :
    (form <$> (q.call >>= fun body => (liftM (read body) : Action α))).runIn s =
      ((q.call.runIn s).1.bind fun body => (read body).map form, (q.call.runIn s).2) := by
  rw [runIn_map, runIn_call_read]
  rcases q.call.runIn s with ⟨_ | body, s'⟩
  · rfl
  · rfl

/-- A call whose body is the result. -/
theorem runIn_map_call (q : Inquiry) (form : Bytes → β) (s : Session) :
    (form <$> q.call).runIn s =
      ((q.call.runIn s).1.bind fun body => .ok (form body), (q.call.runIn s).2) := by
  rw [runIn_map]
  rcases q.call.runIn s with ⟨_ | body, s'⟩
  · rfl
  · rfl

end Action

/-- An operation that asks for one document is a call and a reading of its body. -/
theorem Session.perform_of_inquiry {op : Operation} {q : Inquiry} (hop : op.inquiry? = some q)
    (s : Session) :
    s.perform op = ((q.call.runIn s).1.bind op.read, (q.call.runIn s).2) := by
  unfold Session.perform
  cases op with
  | get path options =>
    obtain rfl := Option.some.inj hop
    exact Action.runIn_map_call ⟨.get, path, none, options⟩ Answer.body s
  | post path body options =>
    obtain rfl := Option.some.inj hop
    exact Action.runIn_map_call ⟨.post, path, some body, options⟩ Answer.body s
  | delete path options =>
    obtain rfl := Option.some.inj hop
    exact Action.runIn_map_call ⟨.delete, path, none, options⟩ Answer.body s
  | block id =>
    obtain rfl := Option.some.inj hop
    exact Action.runIn_map_call_read (.get (Endpoint.blockPath id)) Endpoint.blockOf Answer.block s
  | constants blockHash =>
    obtain rfl := Option.some.inj hop
    exact Action.runIn_map_call_read (.get (Endpoint.constantsPath blockHash))
      (Endpoint.constantsOf blockHash) Answer.constants s
  | balance blockHash address =>
    obtain rfl := Option.some.inj hop
    exact Action.runIn_map_call_read (.get (Endpoint.balancePath blockHash address))
      (Endpoint.integerOf .balance) Answer.integer s
  | counter blockHash address =>
    obtain rfl := Option.some.inj hop
    exact Action.runIn_map_call_read (.get (Endpoint.counterPath blockHash address))
      (Endpoint.integerOf .counter) Answer.integer s
  | chainId =>
    obtain rfl := Option.some.inj hop
    exact Action.runIn_map_call_read (.get Endpoint.chainIdPath) (Endpoint.stringOf .chainId)
      Answer.text s
  | isBootstrapped =>
    obtain rfl := Option.some.inj hop
    exact Action.runIn_map_call_read (.get Endpoint.statusPath) Endpoint.statusOf Answer.status s
  | injectOperation operation chain =>
    obtain rfl := Option.some.inj hop
    exact Action.runIn_map_call_read
      ⟨.post, Endpoint.injectionPath, some (Text.Utf8.encode (Json.stringText operation)),
        [("chain", chain)]⟩ (Endpoint.stringOf .operationHash) Answer.text s
  | bootstrap => cases hop
  | useTransport n => cases hop
  | installTransport t => cases hop
  | closeIdle => cases hop
  | closeTransport => cases hop
  | setConstants c => cases hop

end TezosNode
