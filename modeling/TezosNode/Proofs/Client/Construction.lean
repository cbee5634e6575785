import TezosNode.Proofs.Client.Outcome
import TezosNode.Proofs.Url.Options

set_option autoImplicit false

/-!
# Client: requests that cannot be built

A request is built in two steps, from the text of its URL and then by attaching options to
it, and a call treats their faults differently: those of the first are failures of the
client's own, those of the second are not.  The second step fails just where the URL does not take
the options, and then a call ends in a failure that is not the client's own.  Either way nothing
has been sent.
-/

namespace TezosNode

/-- The outcomes that replies decide on are results or failures of the client's own. -/
theorem Reply.Decides.isOwn {strict : Bool} {reply : Reply} {result : Except Failure Bytes}
    (h : reply.Decides strict result) {f : Failure} (hfail : result = .error f) :
    f.isOwn = true := by
  subst hfail
  cases h <;> rfl

/-- A request that was built has a URL in the form in which it is sent. -/
theorem Request.isSent_of_make {method : Method} {text : List Char} {body : Option Bytes}
    {r : Request} (hmake : Request.make method text body = .ok r) : r.url.IsSent := by
  unfold Request.make at hmake
  split at hmake
  · cases hmake
  case h_2 u hread =>
    split at hmake
    · cases hmake
    · obtain rfl := Except.ok.inj hmake
      exact Url.isSent_of_parse hread

namespace Inquiry

variable {q : Inquiry} {host : String} {r : Request}

/-- Without a request to its URL, an inquiry has a failure of the client's own. -/
theorem request_of_make_error {fault : Request.Fault}
    (hmake : Request.make q.method (host.toList ++ q.path.toList) q.body = .error fault) :
    q.request host = .error (.construction fault) := by
  rw [request, hmake]

/-- An inquiry whose URL takes its options has a request. -/
theorem exists_request_of_takes
    (hmake : Request.make q.method (host.toList ++ q.path.toList) q.body = .ok r)
    (htakes : r.url.Takes q.options) : ∃ sent, q.request host = .ok sent := by
  obtain ⟨v, hattach⟩ := Url.exists_attach_of_takes (Request.isSent_of_make hmake) htakes
  refine ⟨{ r with url := v }, ?_⟩
  rw [request, hmake]
  dsimp only
  rw [Request.attach, hattach]
  rfl

/-- One whose URL does not take its options has a failure that is not the client's own. -/
theorem request_of_not_takes
    (hmake : Request.make q.method (host.toList ++ q.path.toList) q.body = .ok r)
    (hfull : ¬r.url.Takes q.options) :
    ∃ fault, r.url.Refuses q.options fault ∧ q.request host = .error (.foreign (.url fault)) := by
  obtain ⟨fault, hrefuses, hattach⟩ :=
    Url.attach_of_not_takes (Request.isSent_of_make hmake) hfull
  refine ⟨fault, hrefuses, ?_⟩
  rw [request, hmake]
  dsimp only
  rw [Request.attach, hattach]
  rfl

end Inquiry

/-- With an open transport, a clock in range and no fault of the program around it, a call
ends in a result or a failure of the client's own if its request cannot be built from its URL
or its URL takes the options, and its answer is not nested too deep.  A request that cannot be
built from its URL is a failure of construction; options that the URL does not take are a failure
that is not the client's own.  Neither leaves a trace. -/
theorem Action.call_own (method : Method) (path : String) (body : Option Bytes)
    (options : List Url.Param) (s : Session)
    (hopen : (s.transportAt s.client.transport).isClosed = false) (hclock : s.ClockInRange)
    (hexpected : s.reply.isExpected = true) :
    (s.reply.isShallow s.client.config.strictErrors = true →
      (∀ r, Request.make method (s.client.host.toList ++ path.toList) body = .ok r →
        r.url.Takes options) →
      ∀ f, ((call method path body options).runIn s).1 = .error f → f.isOwn = true) ∧
    (∀ fault, Request.make method (s.client.host.toList ++ path.toList) body = .error fault →
      (call method path body options).runIn s = (.error (.construction fault), s)) ∧
    ∀ r, Request.make method (s.client.host.toList ++ path.toList) body = .ok r →
      ¬r.url.Takes options →
      ∃ fault, r.url.Refuses options fault ∧
        (call method path body options).runIn s = (.error (.foreign (.url fault)), s) := by
  let q : Inquiry := ⟨method, path, body, options⟩
  have hunbuilt : ∀ fault,
      Request.make method (s.client.host.toList ++ path.toList) body = .error fault →
        q.call.runIn s = (.error (.construction fault), s) := fun fault hmake =>
    Inquiry.runIn_call_of_error (Inquiry.request_of_make_error hmake)
  refine ⟨fun hshallow hroom f hfail => ?_, hunbuilt, fun r hmake hfull => ?_⟩
  · cases hmake : Request.make method (s.client.host.toList ++ path.toList) body with
    | error fault =>
      change (q.call.runIn s).1 = _ at hfail
      rw [hunbuilt fault hmake] at hfail
      obtain rfl := Except.error.inj hfail
      rfl
    | ok r =>
      obtain ⟨sent, hrequest⟩ := Inquiry.exists_request_of_takes (q := q) hmake (hroom r hmake)
      exact (Inquiry.call_decides hrequest hopen hclock hexpected hshallow).isOwn hfail
  · obtain ⟨fault, hrefuses, hrequest⟩ := Inquiry.request_of_not_takes (q := q) hmake hfull
    exact ⟨fault, hrefuses, Inquiry.runIn_call_of_error (q := q) hrequest⟩

/-- A request to a URL without a query. -/
def Request.unqueried : Request := ⟨.get, Url.unqueried, some "node".toList, none⟩

theorem Request.make_unqueried :
    Request.make .get ("http://node".toList ++ "/x".toList) none = .ok unqueried :=
  rfl

/-- A short option fits, so the call ends as the reply decides. -/
theorem Action.call_own_of_short :
    (∀ f, ((call .get "/x" none [("k", "v")]).runIn (.answering [.plain] [.success "1"])).1 =
      .error f → f.isOwn = true) ∧
    ((call .get "/x" none [("k", "v")]).runIn (.answering [.plain] [.success "1"])).1 =
      .ok [49] := by
  refine ⟨(call_own .get "/x" none [("k", "v")] (.answering [.plain] [.success "1"])
    (by decide) (by decide) (by decide)).1 (by decide) fun r hmake => ?_, rfl⟩
  obtain rfl := Except.ok.inj (Request.make_unqueried.symm.trans hmake)
  refine .inr ⟨fun part => ?_, by decide⟩
  cases part <;> decide

/-- An option whose value alone is longer than a part can be. -/
def Url.longOption : Param := ("k", String.ofList (List.replicate 70000 'a'))

theorem Url.maxLength_lt_longOption :
    maxLength < longOption.1.length + longOption.2.length := by
  have hvalue : longOption.2.length = 70000 := by
    rw [longOption, String.length_ofList, List.length_replicate]
  rw [hvalue]
  exact Nat.lt_of_lt_of_le (by decide) (Nat.le_add_left _ _)

/-- A long option ends the call in a failure that is not the client's own. -/
theorem Action.call_foreign_of_long :
    ∃ f, (call .get "/x" none [Url.longOption]).runIn (.answering [.plain] []) =
      (.error f, .answering [.plain] []) ∧ f.isOwn = false := by
  let q : Inquiry := ⟨.get, "/x", none, [Url.longOption]⟩
  obtain ⟨fault, -, hrequest⟩ := Inquiry.request_of_not_takes (q := q) Request.make_unqueried
    (Url.not_takes_of_long List.mem_cons_self Url.maxLength_lt_longOption)
  exact ⟨_, Inquiry.runIn_call_of_error (q := q) hrequest, rfl⟩

end TezosNode
