import TezosNode.Proofs.Client.Readiness

set_option autoImplicit false

/-!
# Client: octets of failures

A failure of the client's own has the octets that were read from the response to the request
that failed, and none if there was no such response.  Which response that is can be seen from
the trace: `answers` lists, for each request of an operation, the response to it.  The events
of one call account for its result; a reader of documents passes the octets on, and so does a
bootstrap, whose second request is the one that has failed in its second step.
-/

namespace TezosNode

/-! ## Answers in a trace -/

namespace Session

/-- The response that comes before any further request, if one comes. -/
def responseTo : List Event → Option Response
  | [] => none
  | .received _ _ r :: _ => some r
  | .sent _ _ :: _ | .declined _ _ :: _ => none
  | _ :: rest => responseTo rest

/-- What the requests of a trace were answered with, one after another; none for a request
that got no response. -/
def answers : List Event → List (Option Response)
  | [] => []
  | .sent _ _ :: rest | .declined _ _ :: rest => responseTo rest :: answers rest
  | _ :: rest => answers rest

section Answers

variable (events : List Event) {more : List Event}

/-- Events that begin with no response are no answer to what was before. -/
theorem responseTo_append (hnone : responseTo more = none) :
    responseTo (events ++ more) = responseTo events := by
  induction events with
  | nil => exact hnone
  | cons e rest ih =>
    cases e with
    | received => rfl
    | sent => rfl
    | declined => rfl
    | released => exact ih
    | idleClosed => exact ih
    | logged => exact ih

theorem answers_append (hnone : responseTo more = none) :
    answers (events ++ more) = answers events ++ answers more := by
  induction events with
  | nil => rfl
  | cons e rest ih =>
    have hrest := responseTo_append rest hnone
    cases e with
    | sent => simp only [List.cons_append, answers, hrest, ih]
    | declined => simp only [List.cons_append, answers, hrest, ih]
    | received => exact ih
    | released => exact ih
    | idleClosed => exact ih
    | logged => exact ih

end Answers

/-- The log records of a failed step are no answers. -/
theorem answers_setback (s : Session) (step : BootstrapStep) (details : List (String × Json))
    (f : Failure) :
    responseTo (s.setback step details f) = none ∧ answers (s.setback step details f) = [] := by
  unfold setback
  cases f.isOwn with
  | true => exact ⟨rfl, rfl⟩
  | false => exact ⟨rfl, rfl⟩

end Session

/-- The place of the request that has failed among those of its operation, counted from zero.
Only a bootstrap makes a second one, in its second step. -/
def Failure.requestIndex : Failure → Nat
  | .bootstrap .constants _ => 1
  | _ => 0

/-! ## Calls -/

/-- The events of a call account for its result: a result is the content of the one response,
and a failure of the client's own has the octets of the response, if there is one. -/
structure Accounts (result : Except Failure Bytes) (events : List Event) : Prop where
  responseTo_eq : Session.responseTo events = none
  of_ok : ∀ body, result = .ok body →
    ∃ r, Session.answers events = [some r] ∧ r.content = body
  of_error : ∀ f, result = .error f → f.isOwn = true →
    f.requestIndex = 0 ∧ f.body? = ((Session.answers events).getD 0 none).map Response.content

/-- The failure of the client's own that a whole response amounts to has all of its content. -/
theorem Response.body?_of_verdict {strict : Bool} {status : Int} {body : Bytes} {f : Failure}
    (hverdict : Response.verdict strict status body = .error f) (hown : f.isOwn = true) :
    f.requestIndex = 0 ∧ f.body? = some body := by
  rcases Response.of_verdict_error hverdict with
    rfl | ⟨-, part, -, rfl⟩ | ⟨fault, rfl⟩ | ⟨first, rest, rfl⟩
  · exact ⟨rfl, rfl⟩
  · cases hown
  · exact ⟨rfl, rfl⟩
  · exact ⟨rfl, rfl⟩

/-- The events of an exchange account for its result. -/
theorem Exchange.accounts {s aside : Session} {r : Request} {result : Except Failure Bytes}
    {events : List Event} (h : Exchange s r result aside events) : Accounts result events where
  responseTo_eq := by
    cases h <;> rfl
  of_ok := by
    intro body hok
    cases h with
    | @completed response =>
      obtain rfl := Except.ok.inj hok
      exact ⟨response, rfl, rfl⟩
    | _ => cases hok
  of_error := by
    intro f hfail hown
    cases h with
    | declined =>
      obtain rfl := Except.error.inj hfail
      cases hown
    | refused =>
      obtain rfl := Except.error.inj hfail
      exact ⟨rfl, rfl⟩
    | aborted =>
      obtain rfl := Except.error.inj hfail
      cases hown
    | brokenOff =>
      obtain rfl := Except.error.inj hfail
      exact ⟨rfl, rfl⟩
    | interrupted =>
      obtain rfl := Except.error.inj hfail
      cases hown
    | unmeasured =>
      obtain rfl := Except.error.inj hfail
      cases hown
    | tooDeep =>
      obtain rfl := Except.error.inj hfail
      cases hown
    | rejected _ _ _ _ hverdict =>
      obtain rfl := Except.error.inj hfail
      exact Response.body?_of_verdict hverdict hown
    | completed => cases hfail

/-- A request that cannot be made is a failure without octets. -/
theorem Inquiry.body?_of_request {q : Inquiry} {host : String} {f : Failure}
    (hrequest : q.request host = .error f) : f.requestIndex = 0 ∧ f.body? = none := by
  unfold Inquiry.request at hrequest
  split at hrequest
  · obtain rfl := Except.error.inj hrequest
    exact ⟨rfl, rfl⟩
  case h_2 r _ =>
    cases hattach : r.attach q.options with
    | ok sent =>
      rw [hattach] at hrequest
      cases hrequest
    | error fault =>
      rw [hattach] at hrequest
      obtain rfl := Except.error.inj hrequest
      exact ⟨rfl, rfl⟩

/-- The events of a call account for its result. -/
theorem Inquiry.call_accounts (q : Inquiry) (s : Session) :
    ∃ events, (q.call.runIn s).2.trace = s.trace ++ events ∧
      Accounts (q.call.runIn s).1 events := by
  rcases q.call_cases s with ⟨f, hrequest, hfail⟩ | ⟨r, aside, events, _, hexchange, hafter⟩
  · refine ⟨[], ?_, ?_⟩
    · rw [hfail, List.append_nil]
    · rw [hfail]
      refine ⟨rfl, fun _ hok => (nomatch hok), ?_⟩
      intro g hg _
      obtain rfl := Except.error.inj hg
      exact Inquiry.body?_of_request hrequest
  · refine ⟨events, ?_, hexchange.accounts⟩
    rw [hafter, Session.note_trace, hexchange.trace_eq]

/-! ## Documents -/

/-- Whether a reader of bodies fails with the body that it has read, as far as its failures
are the client's own. -/
def PassesBodyOn {α : Type} (read : Bytes → Except Failure α) : Prop :=
  ∀ body f, read body = .error f → f.isOwn = true →
    f.requestIndex = 0 ∧ f.body? = some body

namespace PassesBodyOn

variable {α β : Type} {read : Bytes → Except Failure α}

theorem map (h : PassesBodyOn read) (form : α → β) :
    PassesBodyOn fun body => (read body).map form := by
  intro body f hfail hown
  dsimp only at hfail
  cases hread : read body with
  | ok a =>
    rw [hread] at hfail
    cases hfail
  | error g =>
    rw [hread] at hfail
    obtain rfl := Except.error.inj hfail
    exact h body g hread hown

/-- What is read of the result of a call is accounted for as the result is. -/
theorem accounted (h : PassesBodyOn read) {result : Except Failure Bytes} {events : List Event}
    (haccounts : Accounts result events) {f : Failure} (hfail : result.bind read = .error f)
    (hown : f.isOwn = true) :
    f.requestIndex = 0 ∧
      f.body? = ((Session.answers events).getD 0 none).map Response.content := by
  rcases Action.call_read_error hfail with hcall | ⟨body, hok, hread⟩
  · exact haccounts.of_error f hcall hown
  · obtain ⟨r, hanswers, hcontent⟩ := haccounts.of_ok body hok
    obtain ⟨hindex, hbody⟩ := h body f hread hown
    refine ⟨hindex, ?_⟩
    rw [hbody, hanswers, ← hcontent]
    rfl

end PassesBodyOn

namespace Endpoint

theorem passesBodyOn_blockOf : PassesBodyOn blockOf := by
  intro body f hread hown
  rcases of_blockOf_error hread with ⟨part, -, rfl⟩ | ⟨mismatch, rfl⟩
  · cases hown
  · exact ⟨rfl, rfl⟩

theorem passesBodyOn_constantsOf (blockHash : String) :
    PassesBodyOn (constantsOf blockHash) := by
  intro body f hread hown
  rcases of_constantsOf_error hread with ⟨part, -, rfl⟩ | ⟨mismatch, rfl⟩
  · cases hown
  · exact ⟨rfl, rfl⟩

/-- An infinite number is no failure of the client's own, and neither is a body that is nested
too deep; any other is. -/
theorem passesBodyOn_integerOf (document : Document) : PassesBodyOn (integerOf document) := by
  intro body f hread hown
  rcases of_document_error hread with ⟨part, -, rfl⟩ | ⟨fault, rfl⟩ | ⟨fault, rfl⟩
  · cases hown
  · exact ⟨rfl, rfl⟩
  · cases fault with
    | infinite => cases hown
    | _ => exact ⟨rfl, rfl⟩

/-- A body whose value is looked at directly. -/
theorem passesBodyOn_jsonOf {α : Type} (document : Document)
    {look : Json → Bytes → Except Failure α} (hlook : ∀ v, PassesBodyOn (look v)) :
    PassesBodyOn fun body => jsonOf document body >>= fun v => look v body := by
  intro body f hread hown
  dsimp only at hread
  cases hvalue : jsonOf document body with
  | error g =>
    rw [hvalue] at hread
    obtain rfl : g = f := Except.error.inj hread
    rcases of_jsonOf_error hvalue with ⟨part, -, rfl⟩ | ⟨fault, rfl⟩
    · cases hown
    · exact ⟨rfl, rfl⟩
  | ok v =>
    rw [hvalue] at hread
    exact hlook v body f hread hown

theorem passesBodyOn_stringOf (document : Document) : PassesBodyOn (stringOf document) := by
  refine passesBodyOn_jsonOf document fun v => ?_
  intro body f hread _
  cases v with
  | string s => cases hread
  | _ =>
    obtain rfl := Except.error.inj hread
    exact ⟨rfl, rfl⟩

theorem passesBodyOn_statusOf : PassesBodyOn statusOf := by
  refine passesBodyOn_jsonOf .bootstrapStatus fun v => ?_
  intro body f hread _
  cases hstatus : v.get? "bootstrapped" with
  | some b =>
    rw [hstatus] at hread
    cases hread
  | none =>
    rw [hstatus] at hread
    obtain rfl := Except.error.inj hread
    exact ⟨rfl, rfl⟩

end Endpoint

theorem Operation.passesBodyOn_read (op : Operation) : PassesBodyOn op.read := by
  cases op with
  | block id => exact Endpoint.passesBodyOn_blockOf.map _
  | constants blockHash => exact (Endpoint.passesBodyOn_constantsOf blockHash).map _
  | balance blockHash address => exact (Endpoint.passesBodyOn_integerOf .balance).map _
  | counter blockHash address => exact (Endpoint.passesBodyOn_integerOf .counter).map _
  | chainId => exact (Endpoint.passesBodyOn_stringOf .chainId).map _
  | isBootstrapped => exact Endpoint.passesBodyOn_statusOf.map _
  | injectOperation operation chain =>
    exact (Endpoint.passesBodyOn_stringOf .operationHash).map _
  | _ =>
    intro body f hread _
    cases hread

/-! ## Bootstraps -/

/-- A failure that has been named after a step is the client's own only if it was before. -/
theorem Failure.isOwn_of_ofStep {f : Failure} {step : BootstrapStep}
    (hown : (f.ofStep step).isOwn = true) : f.isOwn = true := by
  cases hf : f.isOwn with
  | true => rfl
  | false =>
    unfold Failure.ofStep at hown
    rw [hf, if_neg Bool.false_ne_true, hf] at hown
    exact hown

/-- The events of a bootstrap account for its failure, by the request of the step that has
failed. -/
theorem BootstrapRun.accounted {s t : Session} {result : Except Failure Constants}
    (h : BootstrapRun s result t) :
    ∃ events, t.trace = s.trace ++ events ∧
      ∀ f, result = .error f → f.isOwn = true →
        f.body? =
          ((Session.answers events).getD f.requestIndex none).map Response.content := by
  cases h with
  | @headFailed f t hhead =>
    obtain ⟨events, htrace, haccounts⟩ := Inquiry.head.call_accounts s
    obtain ⟨hnone, hsilent⟩ := t.answers_setback .head [] f
    refine ⟨events ++ t.setback .head [] f, ?_, ?_⟩
    · rw [Session.note_trace, Endpoint.after_head hhead, htrace, List.append_assoc]
    · intro g hg hown
      obtain rfl := Except.error.inj hg
      have hbefore := Failure.isOwn_of_ofStep hown
      rw [Endpoint.runIn_head] at hhead
      obtain ⟨-, hbody⟩ := Endpoint.passesBodyOn_blockOf.accounted haccounts
        (Prod.mk.inj hhead).1 hbefore
      have hindex : (f.ofStep .head).requestIndex = 0 := by
        rw [Failure.ofStep_of_isOwn hbefore]
        rfl
      rw [Failure.body?_ofStep, hindex, Session.answers_append events hnone, hsilent,
        List.append_nil, hbody]
  | @constantsFailed head f t u hhead hconstants =>
    obtain ⟨events, htrace, haccounts⟩ := Inquiry.head.call_accounts s
    obtain ⟨more, htrace', haccounts'⟩ := (Inquiry.constants head.hash).call_accounts t
    let details := [("block_hash", Json.string head.hash)]
    obtain ⟨hnone, hsilent⟩ := u.answers_setback .constants details f
    refine ⟨events ++ (more ++ u.setback .constants details f), ?_, ?_⟩
    · rw [Session.note_trace, Endpoint.after_constants hconstants, htrace',
        Endpoint.after_head hhead, htrace, List.append_assoc, List.append_assoc]
    · intro g hg hown
      obtain rfl := Except.error.inj hg
      have hbefore := Failure.isOwn_of_ofStep hown
      -- The first request was answered, so the second one is at place one.
      obtain ⟨r, hfirst⟩ : ∃ r, Session.answers events = [some r] := by
        rw [Endpoint.runIn_head] at hhead
        cases hcall : (Inquiry.head.call.runIn s).1 with
        | error g =>
          rw [hcall] at hhead
          cases (Prod.mk.inj hhead).1
        | ok body =>
          obtain ⟨r, hanswers, -⟩ := haccounts.of_ok body hcall
          exact ⟨r, hanswers⟩
      rw [Endpoint.runIn_constants] at hconstants
      obtain ⟨-, hbody⟩ := (Endpoint.passesBodyOn_constantsOf head.hash).accounted haccounts'
        (Prod.mk.inj hconstants).1 hbefore
      have hindex : (f.ofStep .constants).requestIndex = 1 := by
        rw [Failure.ofStep_of_isOwn hbefore]
        rfl
      have hrest : Session.responseTo (more ++ u.setback .constants details f) = none := by
        rw [Session.responseTo_append more hnone, haccounts'.responseTo_eq]
      rw [Failure.body?_ofStep, hindex, Session.answers_append events hrest,
        Session.answers_append more hnone, hsilent, List.append_nil, hfirst, hbody]
      rfl
  | @completed head c t u hhead hconstants =>
    obtain ⟨events, htrace, -⟩ := Inquiry.head.call_accounts s
    obtain ⟨more, htrace', -⟩ := (Inquiry.constants head.hash).call_accounts t
    refine ⟨events ++ (more ++ [u.readiness head]), ?_, fun _ hfail => (nomatch hfail)⟩
    rw [Session.note_trace]
    change u.trace ++ _ = _
    rw [Endpoint.after_constants hconstants, htrace', Endpoint.after_head hhead, htrace,
      List.append_assoc, List.append_assoc]

/-! ## Operations -/

namespace Session

/-- Whatever operation fails and however the node behaves: a failure of the client's own has
the octets that the response to the failing request has delivered, all of them or those
before it broke off, and it has none if that request got no response.  Readers of documents
and both steps of a bootstrap pass the octets on. -/
theorem failure_body_accounted (s : Session) (op : Operation) :
    ∃ events, (s.perform op).2.trace = s.trace ++ events ∧
      ∀ f, (s.perform op).1 = .error f → f.isOwn = true →
        f.body? = ((answers events).getD f.requestIndex none).map fun r => r.chunks.flatten := by
  cases hop : op.inquiry? with
  | some q =>
    obtain ⟨events, htrace, haccounts⟩ := q.call_accounts s
    rw [perform_of_inquiry hop]
    refine ⟨events, htrace, ?_⟩
    intro f hfail hown
    obtain ⟨hindex, hbody⟩ := op.passesBodyOn_read.accounted haccounts hfail hown
    rw [hindex]
    exact hbody
  | none =>
    cases op with
    | bootstrap =>
      obtain ⟨events, htrace, hbody⟩ := (Action.bootstrapRun s).accounted
      rw [perform_bootstrap]
      refine ⟨events, htrace, ?_⟩
      intro f hfail hown
      cases hresult : (Action.bootstrap.runIn s).1 with
      | ok c =>
        rw [hresult] at hfail
        cases hfail
      | error g =>
        rw [hresult] at hfail
        obtain rfl := Except.error.inj hfail
        exact hbody g hresult hown
    | useTransport n => exact ⟨[], (List.append_nil _).symm, fun _ hfail => (nomatch hfail)⟩
    | installTransport t => exact ⟨[], (List.append_nil _).symm, fun _ hfail => (nomatch hfail)⟩
    | closeIdle => exact ⟨[.idleClosed s.client.transport], rfl, fun _ hfail => (nomatch hfail)⟩
    | closeTransport => exact ⟨[], (List.append_nil _).symm, fun _ hfail => (nomatch hfail)⟩
    | setConstants c => exact ⟨[], (List.append_nil _).symm, fun _ hfail => (nomatch hfail)⟩
    | _ => cases hop

/-- A node whose second response breaks off after two chunks, one of them empty. -/
def breakingOff : Session :=
  answering [.plain] [.success "\x7b\"hash\":\"B\"\x7d",
    .response ⟨500, [[0x7B], [], [0x22]], some ⟨.read, ""⟩⟩]

/-- A bootstrap that fails in the response to its second request has what came of it. -/
theorem failure_body_accounted_of_broken_off :
    ∃ f, (breakingOff.perform .bootstrap).1 = .error f ∧ f.isOwn = true ∧
      f.body? = some [0x7B, 0x22] := by
  obtain ⟨events, htrace, hbody⟩ := failure_body_accounted breakingOff .bootstrap
  have hevents : events = (breakingOff.perform .bootstrap).2.trace := htrace.symm
  have hanswer : ((answers events).getD 1 none).map (fun r => r.chunks.flatten) =
      some [0x7B, 0x22] := by
    rw [hevents]
    decide +kernel
  have hfail : (match (breakingOff.perform .bootstrap).1 with
    | .error f => f.isOwn && f.requestIndex == 1
    | .ok _ => false) = true := by decide +kernel
  cases hresult : (breakingOff.perform .bootstrap).1 with
  | ok answer =>
    rw [hresult] at hfail
    cases hfail
  | error f =>
    rw [hresult] at hfail
    obtain ⟨hown, hindex⟩ := Bool.and_eq_true_iff.1 hfail
    refine ⟨f, rfl, hown, ?_⟩
    rw [hbody f hresult hown, eq_of_beq hindex]
    exact hanswer

end Session

end TezosNode
