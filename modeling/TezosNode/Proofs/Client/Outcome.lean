import TezosNode.Proofs.Client.Inquiry
import TezosNode.Proofs.Schema.Classification

set_option autoImplicit false

/-!
# Client: outcomes

The outcome of a call is decided by the reply alone.  `Reply.Decides` is the decision,
one constructor for each way to end, and a later way holds only where the earlier ones do
not: the sending fails, the reading fails, the status is not that of success, the body is
a broken error payload, the body is an error payload, the body is the result.  Calls end as
is decided where the body can be looked into, and fail in another way where it is nested too
deep for that.
-/

namespace TezosNode

/-! ## The decision -/

/-- Whether a reply ends in no fault at all, or in one of the faults that a call expects
where it ends in it. -/
def Reply.isExpected : Reply → Bool
  | .refused fault => fault.kind.family == .exchange
  | .response r => r.broken.all fun fault => fault.kind.family != .program

/-- Whether no body is nested too deep to be looked into, among those that are looked into. -/
def Reply.isShallow (strict : Bool) : Reply → Bool
  | .refused _ => true
  | .response r =>
    r.broken.isSome || r.status != 200 || (ErrorPayload.tooDeep? strict r.content).isNone

/-- What a reply delivers, if it is a response. -/
def Reply.delivered? : Reply → Option Bytes
  | .refused _ => none
  | .response r => some r.chunks.flatten

/-- The outcome that a reply decides on, for a client that is strict about error payloads
or not. -/
inductive Reply.Decides (strict : Bool) : Reply → Except Failure Bytes → Prop
  | unsent (fault : Fault) : Decides strict (.refused fault) (.error (.transport fault))
  /-- the response breaks off, whatever its status -/
  | unread {r : Response} {fault : Fault} (hbroken : r.broken = some fault) :
      Decides strict (.response r) (.error (.bodyRead fault r.chunks.flatten))
  /-- the status is not that of success, whatever the body -/
  | unsuccessful {r : Response} (hwhole : r.broken = none) (hstatus : r.status ≠ 200) :
      Decides strict (.response r) (.error (.httpStatus r.status r.chunks.flatten))
  /-- the body is taken for an error payload and is none -/
  | malformed {r : Response} {fault : ErrorPayload.DocumentFault} (hwhole : r.broken = none)
      (hstatus : r.status = 200)
      (hclass : ErrorPayload.classify strict r.chunks.flatten = .error fault) :
      Decides strict (.response r) (.error (.malformedPayload fault r.chunks.flatten))
  /-- the body is an error payload -/
  | reported {r : Response} {first : ErrorRecord} {rest : List ErrorRecord}
      (hwhole : r.broken = none) (hstatus : r.status = 200)
      (hclass : ErrorPayload.classify strict r.chunks.flatten = .ok (some (first :: rest))) :
      Decides strict (.response r) (.error (.nodeError first rest (some r.chunks.flatten)))
  /-- the body is the result -/
  | delivered {r : Response} {found : Option (List ErrorRecord)} (hwhole : r.broken = none)
      (hstatus : r.status = 200)
      (hclass : ErrorPayload.classify strict r.chunks.flatten = .ok found)
      (hnone : found.getD [] = []) :
      Decides strict (.response r) (.ok r.chunks.flatten)

namespace Reply.Decides

variable {strict : Bool} {reply : Reply} {result other : Except Failure Bytes}

/-- A reply decides on one outcome only. -/
theorem unique (h : reply.Decides strict result) (h' : reply.Decides strict other) :
    result = other := by
  cases h with
  | unsent fault =>
    cases h'
    rfl
  | unread hbroken =>
    cases h' <;> simp_all
  | unsuccessful hwhole hstatus =>
    cases h' <;> simp_all
  | malformed hwhole hstatus hclass =>
    cases h' <;> simp_all
  | reported hwhole hstatus hclass =>
    cases h' <;> simp_all
  | delivered hwhole hstatus hclass hnone =>
    cases h' with
    | reported _ _ hclass' =>
      rw [hclass] at hclass'
      obtain rfl := Except.ok.inj hclass'
      cases hnone
    | _ => simp_all

/-- The failures that replies decide on have the octets that were delivered. -/
theorem body?_eq (h : reply.Decides strict result) {f : Failure} (hfail : result = .error f) :
    f.body? = reply.delivered? := by
  subst hfail
  cases h <;> rfl

/-- How a whole body is cut into chunks does not matter. -/
theorem rechunk {a b : Response} (h : (Reply.response a).Decides strict result)
    (hwhole : a.broken = none) (hwhole' : b.broken = none) (hstatus : b.status = a.status)
    (hcontent : b.chunks.flatten = a.chunks.flatten) :
    (Reply.response b).Decides strict result := by
  cases h with
  | unread hbroken =>
    rw [hwhole] at hbroken
    cases hbroken
  | unsuccessful _ hstatus' =>
    rw [← hcontent, ← hstatus]
    exact .unsuccessful hwhole' (by rwa [hstatus])
  | malformed _ hstatus' hclass =>
    rw [← hcontent] at hclass ⊢
    exact .malformed hwhole' (hstatus.trans hstatus') hclass
  | reported _ hstatus' hclass =>
    rw [← hcontent] at hclass ⊢
    exact .reported hwhole' (hstatus.trans hstatus') hclass
  | delivered _ hstatus' hclass hnone =>
    rw [← hcontent] at hclass ⊢
    exact .delivered hwhole' (hstatus.trans hstatus') hclass hnone

end Reply.Decides

/-- There is room for the body of a success that is not nested too deep. -/
theorem Response.tooDeep?_of_isShallow {strict : Bool} {r : Response}
    (hshallow : (Reply.response r).isShallow strict = true) (hwhole : r.broken = none)
    (hstatus : r.status = 200) : ErrorPayload.tooDeep? strict r.content = none := by
  simpa [Reply.isShallow, hwhole, hstatus] using hshallow

/-- The verdict on a whole response that is not nested too deep is the decision. -/
theorem Response.decides {strict : Bool} {r : Response} (hwhole : r.broken = none)
    (hshallow : (Reply.response r).isShallow strict = true) :
    (Reply.response r).Decides strict
      ((Response.verdict strict r.status r.content).map fun _ => r.content) := by
  unfold Response.verdict Response.success
  by_cases hstatus : r.status = 200
  · rw [if_neg (by simpa using hstatus),
      ErrorPayload.inspect_of_room (Response.tooDeep?_of_isShallow hshallow hwhole hstatus)]
    rcases hclass : ErrorPayload.classify strict r.content with fault | _ | _ | ⟨first, rest⟩
    · exact .malformed hwhole hstatus hclass
    · exact .delivered hwhole hstatus hclass rfl
    · exact .delivered hwhole hstatus hclass rfl
    · exact .reported hwhole hstatus hclass
  · rw [if_pos hstatus]
    exact .unsuccessful hwhole hstatus

/-- A success is not nested too deep. -/
theorem Response.isShallow_of_isSuccess {strict : Bool} {r : Response}
    (hsuccess : r.isSuccess strict = true) : (Reply.response r).isShallow strict = true := by
  unfold Response.isSuccess at hsuccess
  obtain ⟨-, hfound⟩ := Bool.and_eq_true_iff.1 hsuccess
  cases hdeep : ErrorPayload.tooDeep? strict r.content with
  | none => simp [Reply.isShallow, hdeep]
  | some part =>
    rw [ErrorPayload.inspect_of_tooDeep hdeep] at hfound
    cases hfound

/-- A success decides on its octets. -/
theorem Response.decides_of_isSuccess {strict : Bool} {r : Response}
    (hsuccess : r.isSuccess strict = true) : (Reply.response r).Decides strict (.ok r.content) := by
  have hwhole : r.broken = none := by
    cases hbroken : r.broken with
    | none => rfl
    | some fault =>
      rw [Response.isSuccess_of_broken hbroken] at hsuccess
      cases hsuccess
  have hdecides := Response.decides hwhole (Response.isShallow_of_isSuccess hsuccess)
  rw [(Response.isSuccess_iff hwhole).1 hsuccess] at hdecides
  exact hdecides

/-- A response that is not nested too deep decides on its octets just where it is a success. -/
theorem Reply.decides_ok_iff {strict : Bool} {r : Response} {body : Bytes}
    (hshallow : (Reply.response r).isShallow strict = true) :
    (Reply.response r).Decides strict (.ok body) ↔
      r.isSuccess strict = true ∧ body = r.content := by
  constructor
  · intro hdecides
    cases hdecides with
    | delivered hwhole hstatus hclass hnone =>
      refine ⟨(Response.isSuccess_iff hwhole).2 ?_, rfl⟩
      have hunique :=
        (Response.decides hwhole hshallow).unique (.delivered hwhole hstatus hclass hnone)
      cases hverdict : Response.verdict strict r.status r.content with
      | ok _ => rfl
      | error f =>
        rw [hverdict] at hunique
        cases hunique
  · rintro ⟨hsuccess, rfl⟩
    exact Response.decides_of_isSuccess hsuccess

/-! ## Calls -/

/-- An exchange through an open transport ends as its reply decides, if that is not nested too
deep. -/
theorem Exchange.decides {s aside : Session} {r : Request} {result : Except Failure Bytes}
    {events : List Event} (h : Exchange s r result aside events)
    (hopen : (s.transportAt s.client.transport).isClosed = false) (hclock : s.ClockInRange)
    (hexpected : s.reply.isExpected = true)
    (hshallow : s.reply.isShallow s.client.config.strictErrors = true) :
    s.reply.Decides s.client.config.strictErrors result := by
  cases h with
  | declined hclosed =>
    rw [hopen] at hclosed
    cases hclosed
  | refused _ hreply =>
    rw [hreply]
    exact .unsent _
  | aborted _ hreply hfamily =>
    rw [hreply] at hexpected
    exact absurd (eq_of_beq hexpected) hfamily
  | brokenOff _ hreply hbroken =>
    rw [hreply]
    exact .unread hbroken
  | interrupted _ hreply hbroken hfamily =>
    rw [hreply] at hexpected
    simp [Reply.isExpected, hbroken, hfamily] at hexpected
  | unmeasured _ _ _ hduration =>
    obtain ⟨duration, hsome⟩ := hclock.exists_milliseconds
    rw [hduration] at hsome
    cases hsome
  | tooDeep _ hreply hwhole _ hstatus hdeep =>
    rw [hreply] at hshallow
    rw [Response.tooDeep?_of_isShallow hshallow hwhole hstatus] at hdeep
    cases hdeep
  | rejected _ hreply hwhole _ hverdict =>
    rw [hreply] at hshallow ⊢
    have hdecides := Response.decides hwhole hshallow
    rw [hverdict] at hdecides
    exact hdecides
  | completed _ hreply hwhole _ hverdict =>
    rw [hreply] at hshallow ⊢
    have hdecides := Response.decides hwhole hshallow
    rw [hverdict] at hdecides
    exact hdecides

/-- An exchange through an open transport whose reply is nested too deep ends with that. -/
theorem Exchange.result_of_tooDeep {s aside : Session} {r : Request}
    {result : Except Failure Bytes} {events : List Event} (h : Exchange s r result aside events)
    (hopen : (s.transportAt s.client.transport).isClosed = false) (hclock : s.ClockInRange)
    {response : Response} (hreply : s.reply = .response response)
    (hwhole : response.broken = none) (hstatus : response.status = 200) {part : Json.Part}
    (hdeep : ErrorPayload.tooDeep? s.client.config.strictErrors response.content = some part) :
    result = .error (.foreign (.nesting part)) := by
  have hverdict := Response.verdict_of_tooDeep hdeep
  rw [Response.success, ← hstatus] at hverdict
  cases h with
  | declined hclosed =>
    rw [hopen] at hclosed
    cases hclosed
  | refused _ hreply' =>
    rw [hreply] at hreply'
    cases hreply'
  | aborted _ hreply' =>
    rw [hreply] at hreply'
    cases hreply'
  | brokenOff _ hreply' hbroken =>
    obtain rfl := Reply.response.inj (hreply.symm.trans hreply')
    rw [hwhole] at hbroken
    cases hbroken
  | interrupted _ hreply' hbroken =>
    obtain rfl := Reply.response.inj (hreply.symm.trans hreply')
    rw [hwhole] at hbroken
    cases hbroken
  | unmeasured _ _ _ hduration =>
    obtain ⟨duration, hsome⟩ := hclock.exists_milliseconds
    rw [hduration] at hsome
    cases hsome
  | tooDeep _ hreply' _ _ _ hdeep' =>
    obtain rfl := Reply.response.inj (hreply.symm.trans hreply')
    rw [hdeep] at hdeep'
    rw [Option.some.inj hdeep']
  | rejected _ hreply' _ _ hverdict' =>
    obtain rfl := Reply.response.inj (hreply.symm.trans hreply')
    exact congrArg Except.error (Except.error.inj (hverdict'.symm.trans hverdict))
  | completed _ hreply' _ _ hverdict' =>
    obtain rfl := Reply.response.inj (hreply.symm.trans hreply')
    rw [hverdict] at hverdict'
    cases hverdict'

/-- An exchange that sends something has an open transport. -/
theorem Exchange.isOpen_of_sent {s aside : Session} {r : Request}
    {result : Except Failure Bytes} {events : List Event} (h : Exchange s r result aside events)
    (hsent : Session.requests events ≠ []) :
    (s.transportAt s.client.transport).isClosed = false := by
  cases h with
  | declined => exact absurd rfl hsent
  | refused hopen => exact hopen
  | aborted hopen => exact hopen
  | brokenOff hopen => exact hopen
  | interrupted hopen => exact hopen
  | unmeasured hopen => exact hopen
  | tooDeep hopen => exact hopen
  | rejected hopen => exact hopen
  | completed hopen => exact hopen

namespace Inquiry

variable {q : Inquiry} {s : Session}

/-- A call that sends something has a request, and the transport in use is open. -/
theorem of_sent
    (hsent : Session.requests (q.call.runIn s).2.trace ≠ Session.requests s.trace) :
    ∃ r, q.request s.client.host = .ok r ∧
      (s.transportAt s.client.transport).isClosed = false := by
  rcases q.call_cases s with ⟨f, _, hfail⟩ | ⟨r, aside, events, hrequest, hexchange, hafter⟩
  · rw [hfail] at hsent
    exact absurd rfl hsent
  · refine ⟨r, hrequest, hexchange.isOpen_of_sent ?_⟩
    intro hnone
    rw [hafter, Session.note_trace, Session.requests_append, hexchange.trace_eq, hnone,
      List.append_nil] at hsent
    exact hsent rfl

/-- A call that has a request sends it through an open transport. -/
theorem sent_of_request {r : Request} (hrequest : q.request s.client.host = .ok r)
    (hopen : (s.transportAt s.client.transport).isClosed = false) :
    Session.requests (q.call.runIn s).2.trace ≠ Session.requests s.trace := by
  rw [runIn_call_of_ok hrequest]
  obtain ⟨aside, events, hexchange, hafter⟩ := Action.exists_exchange_of_perform r s
  rw [hafter, Session.note_trace, Session.requests_append, hexchange.requests_eq hopen,
    hexchange.trace_eq]
  simp

/-- A call that gets as far as sending ends as the reply decides, if that is not nested too
deep. -/
theorem call_decides {r : Request} (hrequest : q.request s.client.host = .ok r)
    (hopen : (s.transportAt s.client.transport).isClosed = false) (hclock : s.ClockInRange)
    (hexpected : s.reply.isExpected = true)
    (hshallow : s.reply.isShallow s.client.config.strictErrors = true) :
    s.reply.Decides s.client.config.strictErrors (q.call.runIn s).1 := by
  rw [runIn_call_of_ok hrequest]
  obtain ⟨aside, events, hexchange, _⟩ := Action.exists_exchange_of_perform r s
  exact hexchange.decides hopen hclock hexpected hshallow

/-- A call that gets as far as sending and is answered by a document that is nested too deep
ends with that. -/
theorem call_of_tooDeep {r : Request} (hrequest : q.request s.client.host = .ok r)
    (hopen : (s.transportAt s.client.transport).isClosed = false) (hclock : s.ClockInRange)
    {response : Response} (hreply : s.reply = .response response)
    (hwhole : response.broken = none) (hstatus : response.status = 200) {part : Json.Part}
    (hdeep : ErrorPayload.tooDeep? s.client.config.strictErrors response.content = some part) :
    (q.call.runIn s).1 = .error (.foreign (.nesting part)) := by
  rw [runIn_call_of_ok hrequest]
  obtain ⟨aside, events, hexchange, _⟩ := Action.exists_exchange_of_perform r s
  exact hexchange.result_of_tooDeep hopen hclock hreply hwhole hstatus hdeep

end Inquiry

/-- With a clock in range and no fault of the program around it, every call that gets as far
as sending, and whose answer is not nested too deep to be looked into, ends in exactly one way,
which the reply alone decides on.  Its failure, if it ends in one, has the octets that were
delivered; and in which chunks a whole body comes makes no difference. -/
theorem Action.call_outcome (method : Method) (path : String) (body : Option Bytes)
    (options : List Url.Param) (s : Session) (hclock : s.ClockInRange)
    (hexpected : s.reply.isExpected = true)
    (hshallow : s.reply.isShallow s.client.config.strictErrors = true)
    (hsent : Session.requests ((call method path body options).runIn s).2.trace ≠
      Session.requests s.trace) :
    s.reply.Decides s.client.config.strictErrors ((call method path body options).runIn s).1 ∧
    (∀ result, s.reply.Decides s.client.config.strictErrors result →
      ((call method path body options).runIn s).1 = result) ∧
    (∀ f, ((call method path body options).runIn s).1 = .error f →
      f.body? = s.reply.delivered?) ∧
    ∀ a b : Response, s.reply = .response a → a.broken = none → b.broken = none →
      b.status = a.status → b.chunks.flatten = a.chunks.flatten →
      ((call method path body options).runIn
        { s with replies := .response b :: s.replies.tail }).1 =
          ((call method path body options).runIn s).1 := by
  let q : Inquiry := ⟨method, path, body, options⟩
  obtain ⟨r, hrequest, hopen⟩ := Inquiry.of_sent (q := q) hsent
  have hdecides := Inquiry.call_decides hrequest hopen hclock hexpected hshallow
  refine ⟨hdecides, fun result hresult => hdecides.unique hresult,
    fun f hfail => hdecides.body?_eq hfail, ?_⟩
  intro a b hreply hwhole hwhole' hstatus hcontent
  have hshallow' : (Reply.response b).isShallow s.client.config.strictErrors = true := by
    rw [hreply] at hshallow
    have hsame : b.content = a.content := hcontent
    simpa [Reply.isShallow, hwhole, hwhole', hstatus, hsame] using hshallow
  have hdecides' : (Reply.response b).Decides s.client.config.strictErrors
      (q.call.runIn { s with replies := .response b :: s.replies.tail }).1 :=
    Inquiry.call_decides (s := { s with replies := .response b :: s.replies.tail }) hrequest
      hopen hclock (by simp [Session.reply, Reply.isExpected, hwhole']) hshallow'
  rw [hreply] at hdecides
  exact hdecides'.unique (hdecides.rechunk hwhole hwhole' hstatus hcontent)

/-- A response in two chunks that breaks off, whose status does not matter any more, and a
whole one. -/
theorem Action.call_outcome_of_two_chunks :
    ((call .get "/a" none []).runIn
      (.answering [.plain] [.response ⟨404, [[52], [50]], some ⟨.read, ""⟩⟩])).1 =
        .error (.bodyRead ⟨.read, ""⟩ [52, 50]) ∧
    ((call .get "/a" none []).runIn
      (.answering [.plain] [.response ⟨200, [[52], [50]], none⟩])).1 = .ok [52, 50] := by
  constructor
  · let s : Session := .answering [.plain] [.response ⟨404, [[52], [50]], some ⟨.read, ""⟩⟩]
    have hsent : Session.requests ((call .get "/a" none []).runIn s).2.trace ≠
        Session.requests s.trace := by decide +kernel
    exact (call_outcome .get "/a" none [] s (by decide) (by decide) (by decide) hsent).2.1 _
      (.unread rfl)
  · let s : Session := .answering [.plain] [.response ⟨200, [[52], [50]], none⟩]
    have hsent : Session.requests ((call .get "/a" none []).runIn s).2.trace ≠
        Session.requests s.trace := by decide +kernel
    have hclass : ErrorPayload.classify false [52, 50] = .ok none := rfl
    exact (call_outcome .get "/a" none [] s (by decide) (by decide) (by decide) hsent).2.1 _
      (.delivered rfl rfl hclass rfl)

/-- An answer with the word `error` after arrays that are opened in each other without end is
to be refused as a broken error payload, but the call ends in another way, whether it is strict
or not. -/
theorem Action.call_escapes_of_nesting :
    let answer : Response := ⟨200, [ErrorPayload.brackets 5000], none⟩
    let s : Session := .answering [.plain] [.response answer]
    s.ClockInRange ∧ s.reply.isExpected = true ∧
      Session.requests ((call .get "/a" none []).runIn s).2.trace ≠ Session.requests s.trace ∧
      ((call .get "/a" none []).runIn s).1 = .error (.foreign (.nesting .array)) ∧
      ¬∃ result, s.reply.Decides s.client.config.strictErrors result ∧
        ((call .get "/a" none []).runIn s).1 = result := by
  intro answer s
  let q : Inquiry := .get "/a"
  obtain ⟨r, hrequest⟩ := q.exists_request "http://node" (by decide +kernel)
  have hdeep : ErrorPayload.tooDeep? false answer.content = some .array := by
    have hcontent : answer.content = ErrorPayload.brackets 5000 := List.flatten_singleton
    rw [hcontent]
    exact ErrorPayload.tooDeep?_brackets false (by decide)
  have hresult : ((call .get "/a" none []).runIn s).1 = .error (.foreign (.nesting .array)) :=
    Inquiry.call_of_tooDeep (q := q) (s := s) hrequest rfl (by decide)
      (rfl : s.reply = .response answer) rfl rfl hdeep
  refine ⟨by decide, by decide, Inquiry.sent_of_request (q := q) hrequest rfl, hresult, ?_⟩
  rintro ⟨result, hdecides, heq⟩
  rw [← heq, hresult] at hdecides
  cases hdecides

end TezosNode
