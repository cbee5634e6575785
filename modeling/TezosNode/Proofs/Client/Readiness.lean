import TezosNode.Proofs.Client.Construction
import TezosNode.Proofs.Client.Keeping
import TezosNode.Proofs.Host.Normalization

set_option autoImplicit false

/-!
# Client: getting ready

A client that is to get ready is there in the end, whatever its host and its settings are and
whatever the node replies, unless that is nested too deep to be read.  Of all the ways in which
an operation can fail, only those that come from outside the client, a closed transport, a fault
that no call expects, a document that is nested too deep or a clock that no clock is, are not
the client's own.  `IsOrderly` says that a session has none of these, calls keep it, and in such
a session both steps of a bootstrap fail in failures of the client's own only, so that the
bootstrap turns each of them into its own.
-/

namespace TezosNode

/-! ## Orderly sessions -/

/-- Whether there is room for reading the document of a reply, if it is a success. -/
def Reply.isLegible : Reply → Bool
  | .refused _ => true
  | .response r => r.broken.isSome || r.status != 200 || (Json.tooDeep? r.content).isNone

/-- There is room for the document of a success that is legible. -/
theorem Response.tooDeep?_of_isLegible {r : Response}
    (hlegible : (Reply.response r).isLegible = true) (hwhole : r.broken = none)
    (hstatus : r.status = 200) : Json.tooDeep? r.content = none := by
  simpa [Reply.isLegible, hwhole, hstatus] using hlegible

/-- Where there is room for reading a document, there is room for looking into it. -/
theorem Reply.isShallow_of_isLegible {reply : Reply} (hlegible : reply.isLegible = true)
    (strict : Bool) : reply.isShallow strict = true := by
  cases reply with
  | refused fault => rfl
  | response r =>
    simp only [isLegible, Bool.or_eq_true, Option.isNone_iff_eq_none] at hlegible
    simp only [isShallow, Bool.or_eq_true, Option.isNone_iff_eq_none]
    exact hlegible.imp_right fun hroom => ErrorPayload.tooDeep?_of_room hroom strict

/-- Nothing comes from outside the client that its calls do not expect: the transport in use
is open, the clock is in range, and the node's replies end in expected faults, if in any, and
are legible. -/
structure Session.IsOrderly (s : Session) : Prop where
  isOpen : (s.transportAt s.client.transport).isClosed = false
  clock : s.ClockInRange
  expected : ∀ reply ∈ s.replies, reply.isExpected = true
  legible : ∀ reply ∈ s.replies, reply.isLegible = true

/-- The next reply is one of the replies, or the node has nothing to say any more. -/
theorem Session.reply_mem_or (s : Session) : s.reply ∈ s.replies ∨ s.reply = .notFound := by
  unfold Session.reply
  cases s.replies with
  | nil => exact .inr rfl
  | cons first rest => exact .inl List.mem_cons_self

/-- A node that has nothing to say any more does so in an expected way. -/
theorem Session.IsOrderly.reply {s : Session} (h : s.IsOrderly) : s.reply.isExpected = true := by
  rcases s.reply_mem_or with hmem | hnothing
  · exact h.expected _ hmem
  · rw [hnothing]
    rfl

/-- It is legible then as well. -/
theorem Session.IsOrderly.isLegible_reply {s : Session} (h : s.IsOrderly) :
    s.reply.isLegible = true := by
  rcases s.reply_mem_or with hmem | hnothing
  · exact h.legible _ hmem
  · rw [hnothing]
    rfl

/-- What happened before is no concern of what is to come. -/
theorem Session.IsOrderly.note {s : Session} (h : s.IsOrderly) (events : List Event) :
    (s.note events).IsOrderly :=
  ⟨h.isOpen, h.clock, h.expected, h.legible⟩

/-- Closing idle connections does not close the transport. -/
theorem Transport.isClosed_closeIdle (t : Transport) : t.closeIdle.isClosed = t.isClosed := rfl

namespace Exchange

variable {s aside : Session} {r : Request} {result : Except Failure Bytes} {events : List Event}

/-- An exchange takes a reply or leaves the replies as they are. -/
theorem mem_replies (h : Exchange s r result aside events) {reply : Reply}
    (hmem : reply ∈ aside.replies) : reply ∈ s.replies := by
  cases h with
  | declined => exact hmem
  | refused => exact List.mem_of_mem_tail hmem
  | aborted => exact List.mem_of_mem_tail hmem
  | brokenOff => exact List.mem_of_mem_tail hmem
  | interrupted => exact List.mem_of_mem_tail hmem
  | unmeasured => exact List.mem_of_mem_tail hmem
  | tooDeep => exact List.mem_of_mem_tail hmem
  | rejected => exact List.mem_of_mem_tail hmem
  | completed => exact List.mem_of_mem_tail hmem

/-- An exchange opens and closes no transport. -/
theorem isClosed_transportAt (h : Exchange s r result aside events) (n : Nat) :
    (aside.transportAt n).isClosed = (s.transportAt n).isClosed := by
  rw [h.transportAt_eq]
  split
  · rfl
  · exact Transport.isClosed_closeIdle _

theorem isOrderly (h : Exchange s r result aside events) (horderly : s.IsOrderly) :
    aside.IsOrderly where
  isOpen := by
    rw [h.isClosed_transportAt, h.client_eq]
    exact horderly.isOpen
  clock := h.clockInRange horderly.clock
  expected reply hmem := horderly.expected reply (h.mem_replies hmem)
  legible reply hmem := horderly.legible reply (h.mem_replies hmem)

end Exchange

/-! ## Calls in orderly sessions -/

namespace Inquiry

variable {s : Session}

/-- A call leaves an orderly session orderly. -/
theorem isOrderly_call (q : Inquiry) (horderly : s.IsOrderly) :
    (q.call.runIn s).2.IsOrderly := by
  rcases q.call_cases s with ⟨f, _, hfail⟩ | ⟨r, aside, events, _, hexchange, hafter⟩
  · rw [hfail]
    exact horderly
  · rw [hafter]
    exact (hexchange.isOrderly horderly).note events

/-- Without options there is nothing to refuse once the request has been made. -/
theorem isOwn_of_request {path host : String} {f : Failure}
    (hrequest : (Inquiry.get path).request host = .error f) : f.isOwn = true := by
  cases hmake : Request.make .get (host.toList ++ path.toList) none with
  | error fault =>
    rw [request_of_make_error (q := .get path) hmake] at hrequest
    obtain rfl := Except.error.inj hrequest
    rfl
  | ok r =>
    have htakes : r.url.Takes (Inquiry.get path).options := .inl rfl
    obtain ⟨sent, hsent⟩ := exists_request_of_takes (q := .get path) hmake htakes
    rw [hsent] at hrequest
    cases hrequest

/-- A call for a document fails in failures of the client's own only. -/
theorem isOwn_of_call {path : String} {f : Failure} (horderly : s.IsOrderly)
    (hfail : ((Inquiry.get path).call.runIn s).1 = .error f) : f.isOwn = true := by
  cases hrequest : (Inquiry.get path).request s.client.host with
  | error g =>
    rw [runIn_call_of_error hrequest] at hfail
    obtain rfl := Except.error.inj hfail
    exact isOwn_of_request hrequest
  | ok r =>
    have hdecides := call_decides hrequest horderly.isOpen horderly.clock horderly.reply
      (Reply.isShallow_of_isLegible horderly.isLegible_reply _)
    exact hdecides.isOwn hfail

/-- The body that a call returns is that of the reply, and it is legible if the reply is. -/
theorem tooDeep?_of_call_ok {q : Inquiry} {body : Bytes} (horderly : s.IsOrderly)
    (hcall : (q.call.runIn s).1 = .ok body) : Json.tooDeep? body = none := by
  obtain ⟨response, hreply, rfl, hsuccess⟩ :=
    isSuccess_of_call_ok (t := (q.call.runIn s).2) (Prod.ext hcall rfl)
  have hlegible := horderly.isLegible_reply
  rw [hreply] at hlegible
  obtain ⟨hwhole, hstatus⟩ := Response.whole_of_isSuccess hsuccess
  exact Response.tooDeep?_of_isLegible hlegible hwhole hstatus

end Inquiry

/-! ## Documents that cannot be read -/

namespace Endpoint

/-- A body without a value is nested too deep, or it has not been decoded. -/
theorem of_jsonOf_error {document : Document} {body : Bytes} {f : Failure}
    (hread : jsonOf document body = .error f) :
    (∃ part, Json.tooDeep? body = some part ∧ f = .foreign (.nesting part)) ∨
      ∃ fault, f = .undecodable document (.json fault) body := by
  unfold jsonOf at hread
  cases hdecode : Json.decode body with
  | error fault =>
    rw [hdecode] at hread
    cases fault with
    | tooDeep part =>
      exact .inl ⟨part, Json.tooDeep?_eq_some_iff.2 hdecode, (Except.error.inj hread).symm⟩
    | _ => exact .inr ⟨_, (Except.error.inj hread).symm⟩
  | ok v =>
    rw [hdecode] at hread
    cases hread

/-- A body that is nested too deep has no value, and it is not the client's fault. -/
theorem jsonOf_of_tooDeep {document : Document} {body : Bytes} {part : Json.Part}
    (hdeep : Json.tooDeep? body = some part) :
    jsonOf document body = .error (.foreign (.nesting part)) := by
  unfold jsonOf
  rw [Json.tooDeep?_eq_some_iff.1 hdeep]
  rfl

/-- A body that has another fault than being nested too deep has not been decoded. -/
theorem jsonOf_of_decode_error {document : Document} {body : Bytes} {fault : Json.Fault}
    (hroom : Json.tooDeep? body = none) (hdecode : Json.decode body = .error fault) :
    jsonOf document body = .error (.undecodable document (.json fault) body) := by
  unfold jsonOf
  rw [hdecode]
  cases fault with
  | tooDeep part =>
    rw [Json.tooDeep?_eq_some_iff.2 hdecode] at hroom
    cases hroom
  | _ => rfl

/-- A body that is not read as a document is nested too deep, or it has not been decoded, or its
value is refused. -/
theorem of_document_error {α ε : Type} {document : Document} {body : Bytes}
    {parse : Json → Except ε α} {wrap : ε → Failure} {f : Failure}
    (hread : (jsonOf document body >>= fun v => (parse v).mapError wrap) = .error f) :
    (∃ part, Json.tooDeep? body = some part ∧ f = .foreign (.nesting part)) ∨
      (∃ fault, f = .undecodable document (.json fault) body) ∨ ∃ fault, f = wrap fault := by
  cases hvalue : jsonOf document body with
  | error g =>
    rw [hvalue] at hread
    obtain rfl : g = f := Except.error.inj hread
    exact (of_jsonOf_error hvalue).imp_right .inl
  | ok v =>
    rw [hvalue] at hread
    change (parse v).mapError wrap = .error f at hread
    cases hparse : parse v with
    | error fault =>
      rw [hparse] at hread
      exact .inr (.inr ⟨fault, (Except.error.inj hread).symm⟩)
    | ok a =>
      rw [hparse] at hread
      cases hread

/-- A body that is no block is nested too deep, or it is a failure of the client's own that
carries the body. -/
theorem of_blockOf_error {body : Bytes} {f : Failure} (hread : blockOf body = .error f) :
    (∃ part, Json.tooDeep? body = some part ∧ f = .foreign (.nesting part)) ∨
      ∃ mismatch, f = .undecodable .block mismatch body := by
  rcases of_document_error hread with hdeep | ⟨fault, rfl⟩ | ⟨rejection, rfl⟩
  · exact .inl hdeep
  · exact .inr ⟨_, rfl⟩
  · exact .inr ⟨_, rfl⟩

/-- A body that is no constants is nested too deep, or it is a failure of the client's own that
carries the body. -/
theorem of_constantsOf_error {blockHash : String} {body : Bytes} {f : Failure}
    (hread : constantsOf blockHash body = .error f) :
    (∃ part, Json.tooDeep? body = some part ∧ f = .foreign (.nesting part)) ∨
      ∃ mismatch, f = .undecodable .constants mismatch body := by
  rcases of_document_error hread with hdeep | ⟨fault, rfl⟩ | ⟨rejection, rfl⟩
  · exact .inl hdeep
  · exact .inr ⟨_, rfl⟩
  · exact .inr ⟨_, rfl⟩

end Endpoint

/-- A document that is asked for fails in the call or in the reading. -/
theorem Action.call_read_error {α : Type} {result : Except Failure Bytes}
    {read : Bytes → Except Failure α} {f : Failure} (hfail : result.bind read = .error f) :
    result = .error f ∨ ∃ body, result = .ok body ∧ read body = .error f := by
  cases result with
  | error g =>
    obtain rfl : g = f := Except.error.inj hfail
    exact .inl rfl
  | ok body => exact .inr ⟨body, rfl, hfail⟩

/-! ## Bootstraps in orderly sessions -/

namespace Endpoint

variable {s t : Session} {f : Failure}

theorem isOwn_of_head (horderly : s.IsOrderly) (hhead : head.runIn s = (.error f, t)) :
    f.isOwn = true := by
  rw [runIn_head] at hhead
  rcases Action.call_read_error (Prod.mk.inj hhead).1 with hcall | ⟨body, hcall, hread⟩
  · exact Inquiry.isOwn_of_call horderly hcall
  · rcases of_blockOf_error hread with ⟨part, hdeep, -⟩ | ⟨mismatch, rfl⟩
    · rw [Inquiry.tooDeep?_of_call_ok horderly hcall] at hdeep
      cases hdeep
    · rfl

theorem isOwn_of_constants {blockHash : String} (horderly : s.IsOrderly)
    (hconstants : (constants blockHash).runIn s = (.error f, t)) : f.isOwn = true := by
  rw [runIn_constants] at hconstants
  rcases Action.call_read_error (Prod.mk.inj hconstants).1 with hcall | ⟨body, hcall, hread⟩
  · exact Inquiry.isOwn_of_call horderly hcall
  · rcases of_constantsOf_error hread with ⟨part, hdeep, -⟩ | ⟨mismatch, rfl⟩
    · rw [Inquiry.tooDeep?_of_call_ok horderly hcall] at hdeep
      cases hdeep
    · rfl

end Endpoint

/-- A failure of the client's own is named after the step that it comes from. -/
theorem Failure.ofStep_of_isOwn {f : Failure} (hown : f.isOwn = true) (step : BootstrapStep) :
    f.ofStep step = .bootstrap step f :=
  if_pos hown

/-- A bootstrap in an orderly session returns constants or names the step that failed. -/
theorem BootstrapRun.named_of_error {s t : Session} {f : Failure}
    (h : BootstrapRun s (.error f) t) (horderly : s.IsOrderly) :
    ∃ step cause, f = .bootstrap step cause ∧ (step = .head ∨ step = .constants) ∧
      cause.isOwn = true := by
  cases h with
  | @headFailed cause t hhead =>
    have hown := Endpoint.isOwn_of_head horderly hhead
    exact ⟨.head, cause, Failure.ofStep_of_isOwn hown .head, .inl rfl, hown⟩
  | @constantsFailed head cause t u hhead hconstants =>
    have hmiddle : t.IsOrderly := by
      rw [Endpoint.after_head hhead]
      exact Inquiry.head.isOrderly_call horderly
    have hown := Endpoint.isOwn_of_constants hmiddle hconstants
    exact ⟨.constants, cause, Failure.ofStep_of_isOwn hown .constants, .inr rfl, hown⟩

namespace Session

variable {host : Option String} {config : Config} {transports : List Transport}
  {transport : Nat} {replies : List Reply} {clock : List Int}

/-- A session begins for every host that is not empty. -/
theorem exists_start (hhost : host.getD config.host ≠ "") :
    ∃ url, Host.normalize (host.getD config.host) = .ok url ∧
      start host config transports transport replies clock =
        .ok ⟨⟨url, config, transport, none⟩, transports, replies, clock, []⟩ := by
  have hurl := Host.normalize_of_ne hhost
  refine ⟨_, hurl, ?_⟩
  unfold start Client.make
  rw [hurl]
  rfl

/-- For every host that is not empty and all settings, whatever legible document the node
replies, there is a client for that host with those settings in the end.  Either its bootstrap has
returned constants, which it keeps, or it has failed in one of its two steps and the client has no
constants; no other failure comes out of it. -/
theorem startReady_returns (hhost : host.getD config.host ≠ "")
    (hopen : (transports.getD transport .plain).isClosed = false)
    (hclock : ∀ t ∈ clock, -clockBound ≤ t ∧ t < clockBound)
    (hexpected : ∀ reply ∈ replies, reply.isExpected = true)
    (hlegible : ∀ reply ∈ replies, reply.isLegible = true) :
    ∃ url result s, Host.normalize (host.getD config.host) = .ok url ∧
      startReady host config transports transport replies clock = .ok (result, s) ∧
      ((∃ c, result = .ok c ∧ s.client = ⟨url, config, transport, some c⟩) ∨
        ∃ step cause, result = .error (.bootstrap step cause) ∧
          (step = .head ∨ step = .constants) ∧ cause.isOwn = true ∧
          s.client = ⟨url, config, transport, none⟩) := by
  obtain ⟨url, hurl, hstart⟩ :=
    @exists_start host config transports transport replies clock hhost
  let s : Session := ⟨⟨url, config, transport, none⟩, transports, replies, clock, []⟩
  have horderly : s.IsOrderly := ⟨hopen, hclock, hexpected, hlegible⟩
  have hready : startReady host config transports transport replies clock =
      .ok (Action.bootstrap.runIn s) := by
    unfold startReady
    rw [hstart]
    rfl
  have hrun := Action.bootstrapRun s
  have hclient := hrun.client_eq
  refine ⟨url, (Action.bootstrap.runIn s).1, (Action.bootstrap.runIn s).2, hurl, hready, ?_⟩
  cases hresult : (Action.bootstrap.runIn s).1 with
  | ok c =>
    rw [hresult] at hclient
    exact .inl ⟨c, rfl, hclient⟩
  | error f =>
    rw [hresult] at hrun hclient
    obtain ⟨step, cause, rfl, hstep, hown⟩ := hrun.named_of_error horderly
    exact .inr ⟨step, cause, rfl, hstep, hown, hclient⟩

/-- The step that a failure names, if any. -/
def namedStep? : Except Failure Constants → Option BootstrapStep
  | .error (.bootstrap step _) => some step
  | _ => none

/-- A hash that no URL can hold makes the second step fail, and the client is there without
constants. -/
theorem startReady_returns_of_unprintable_hash :
    ∃ cause s, startReady (some "/") .default [.plain] 0
        [.success "\x7b\"hash\":\"\\u0001\"\x7d"] [] =
          .ok (.error (.bootstrap .constants cause), s) ∧ s.client.constants = none := by
  have hfail : (startReady (some "/") .default [.plain] 0
      [.success "\x7b\"hash\":\"\\u0001\"\x7d"] []).map (fun p => namedStep? p.1) =
        .ok (some .constants) := by
    decide +kernel
  obtain ⟨url, result, s, -, hready, hend⟩ := @startReady_returns (some "/") .default [.plain] 0
    [.success "\x7b\"hash\":\"\\u0001\"\x7d"] [] (by decide) (by decide) (by decide) (by decide)
    (by decide +kernel)
  rw [hready] at hfail ⊢
  have hstep : namedStep? result = some .constants := Except.ok.inj hfail
  rcases hend with ⟨c, rfl, -⟩ | ⟨step, cause, rfl, -, -, hclient⟩
  · cases hstep
  · obtain rfl := Option.some.inj hstep
    exact ⟨cause, s, rfl, by rw [hclient]⟩

/-- A head that is nested too deep to be looked into ends the bootstrap in a failure that is
not the client's own. -/
theorem startReady_of_tooDeep {s : Session} {r : Request} {answer : Response} {part : Json.Part}
    (hstart : start host config transports transport replies clock = .ok s)
    (hrequest : Inquiry.head.request s.client.host = .ok r)
    (hopen : (s.transportAt s.client.transport).isClosed = false) (hclock : s.ClockInRange)
    (hreply : s.reply = .response answer) (hwhole : answer.broken = none)
    (hstatus : answer.status = 200)
    (hdeep : ErrorPayload.tooDeep? s.client.config.strictErrors answer.content = some part) :
    ∃ t, startReady host config transports transport replies clock =
      .ok (.error (.foreign (.nesting part)), t) := by
  have hcall := Inquiry.call_of_tooDeep hrequest hopen hclock hreply hwhole hstatus hdeep
  have hhead : (Endpoint.head.runIn s).1 = .error (.foreign (.nesting part)) := by
    rw [Endpoint.runIn_head, hcall]
    rfl
  have hresult := ((Action.bootstrapRun s).of_head_error hhead).1
  refine ⟨(Action.bootstrap.runIn s).2, ?_⟩
  unfold startReady
  rw [hstart]
  exact congrArg Except.ok (Prod.ext hresult rfl)

/-- A head in which arrays are opened in each other without end leaves no client at all, though
its host is not empty, the transport is open, the clock is in range and the reply is expected. -/
theorem startReady_escapes_of_nesting :
    let reply : Reply := .response ⟨200, [ErrorPayload.brackets 5000], none⟩
    reply.isExpected = true ∧
      ∃ t, startReady (some "http://node") .default [.plain] 0 [reply] [] =
        .ok (.error (.foreign (.nesting .array)), t) := by
  have hdeep := ErrorPayload.tooDeep?_brackets false (n := 5000) (by decide)
  -- The content itself is of no concern any more, and too long to be computed with.
  generalize ErrorPayload.brackets 5000 = content at hdeep
  intro reply
  obtain ⟨r, hrequest⟩ := Inquiry.head.exists_request "http://node" (by decide +kernel)
  refine ⟨rfl, ?_⟩
  refine startReady_of_tooDeep (s := .answering [.plain] [reply]) rfl hrequest rfl
    (List.forall_mem_nil _) rfl rfl rfl ?_
  rw [Response.content, List.flatten_singleton]
  exact hdeep

end Session

end TezosNode
