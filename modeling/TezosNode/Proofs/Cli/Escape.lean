import TezosNode.Proofs.Cli.Job
import TezosNode.Proofs.Client.Integer
import TezosNode.Proofs.Number.Decimal

set_option autoImplicit false

/-!
# Command line: failures that escape

A run ends with an exit code unless its task fails in a failure that is not the client's own.
With a clock of 64 bits, a node whose replies end in expected faults only and documents that
are not nested too deep, three ways are left for that, which `Escapes` lists: there is no host,
a balance is infinite, or the URL of a call does not take its options.  A balance that is an
integer is never too great to be told in tez.
-/

namespace TezosNode

/-! ## Requests and balances -/

/-- An inquiry that has no request for a failure that is not the client's own has a URL, and
that does not take the options. -/
theorem Inquiry.of_request_foreign {q : Inquiry} {host : String} {f : Failure}
    (hrequest : q.request host = .error f) (hown : f.isOwn = false) :
    ∃ r fault, Request.make q.method (host.toList ++ q.path.toList) q.body = .ok r ∧
      ¬r.url.Takes q.options ∧ r.attach q.options = .error fault ∧ f = .foreign (.url fault) := by
  cases hmake : Request.make q.method (host.toList ++ q.path.toList) q.body with
  | error fault =>
    rw [request_of_make_error hmake] at hrequest
    obtain rfl := Except.error.inj hrequest
    cases hown
  | ok r =>
    have hfull : ¬r.url.Takes q.options := by
      intro htakes
      obtain ⟨sent, hsent⟩ := exists_request_of_takes hmake htakes
      rw [hsent] at hrequest
      cases hrequest
    unfold Inquiry.request at hrequest
    rw [hmake] at hrequest
    dsimp only at hrequest
    cases hattach : r.attach q.options with
    | ok sent =>
      rw [hattach] at hrequest
      cases hrequest
    | error fault =>
      rw [hattach] at hrequest
      exact ⟨r, fault, rfl, hfull, hattach, (Except.error.inj hrequest).symm⟩

namespace Cli

/-- Every integer that can be written has a text as a balance. -/
theorem exists_balanceText {n : Int} (hn : n.natAbs < Nat.pow 10 Numeral.maxDigits) :
    ∃ text, balanceText n = .ok text := by
  obtain ⟨tez, htez⟩ := Tez.exists_ofMutez hn
  unfold balanceText
  rw [htez]
  exact ⟨_, rfl⟩

/-- The reading of a body that is not nested too deep fails in a failure that is not the
client's own only where the body is an infinite balance. -/
theorem Task.of_read_foreign {t : Task} {body : Bytes} {f : Failure}
    (hroom : Json.tooDeep? body = none) (hread : t.read body = .error f)
    (hown : f.isOwn = false) :
    (∃ block address, t = .balance block address) ∧ f = .foreign .infiniteInteger ∧
      ∃ negative, Json.decode body = .ok (.double (.infinite negative)) := by
  cases t with
  | head =>
    rcases Task.of_read_head hread with ⟨part, hdeep, -⟩ | ⟨mismatch, rfl⟩
    · rw [hroom] at hdeep
      cases hdeep
    · cases hown
  | constants => cases hread
  | call => cases hread
  | balance block address =>
    refine ⟨⟨block, address, rfl⟩, ?_⟩
    change (Endpoint.integerOf .balance body).bind balanceText = .error f at hread
    cases hinteger : Endpoint.integerOf .balance body with
    | ok n =>
      obtain ⟨text, htext⟩ := exists_balanceText (Endpoint.natAbs_lt_of_integerOf hinteger)
      rw [hinteger] at hread
      change balanceText n = .error f at hread
      rw [htext] at hread
      cases hread
    | error g =>
      rw [hinteger] at hread
      obtain rfl : g = f := Except.error.inj hread
      rcases Endpoint.of_integerOf_error hinteger with
        ⟨part, hdeep, -⟩ | ⟨mismatch, rfl⟩ | hinfinite
      · rw [hroom] at hdeep
        cases hdeep
      · cases hown
      · exact hinfinite

/-- An infinite balance is a failure that is not the client's own. -/
theorem Task.read_of_infinite (block address : String) {body : Bytes} {negative : Bool}
    (hinfinite : Json.decode body = .ok (.double (.infinite negative))) :
    (Task.balance block address).read body = .error (.foreign .infiniteInteger) := by
  change (Endpoint.integerOf .balance body).bind balanceText = _
  rw [Endpoint.integerOf_of_infinite hinfinite]
  rfl

/-- All failures of the task of constants are the client's own: a bootstrap names them after
its steps. -/
theorem Task.isOwn_of_constants {s : Session} (horderly : s.IsOrderly) {f : Failure}
    (hfail : (Task.constants.perform.runIn s).1 = .error f) : f.isOwn = true := by
  rw [Task.runIn_perform_constants] at hfail
  have hrun := Action.bootstrapRun s
  cases hresult : (Action.bootstrap.runIn s).1 with
  | ok c =>
    rw [hresult] at hfail
    cases hfail
  | error g =>
    rw [hresult] at hfail hrun
    obtain rfl : g = f := Except.error.inj hfail
    obtain ⟨_, _, rfl, _⟩ := hrun.named_of_error horderly
    rfl

/-- Only a call can be without a request for a failure that is not the client's own, since no
other task has options. -/
theorem Task.exists_call_of_request {t : Task} {q : Inquiry} (hq : t.inquiry? = some q)
    {url : String} {f : Failure} (hrequest : q.request url = .error f) (hown : f.isOwn = false) :
    ∃ method path body options, t = .call method path body options ∧
      q = ⟨method, path, body, options⟩ := by
  cases t with
  | head =>
    obtain rfl := Option.some.inj hq
    rw [Inquiry.isOwn_of_request hrequest] at hown
    cases hown
  | constants => cases hq
  | balance block address =>
    obtain rfl := Option.some.inj hq
    rw [Inquiry.isOwn_of_request hrequest] at hown
    cases hown
  | call method path body options =>
    obtain rfl := Option.some.inj hq
    exact ⟨method, path, body, options, rfl, rfl⟩

/-! ## Ways to escape -/

/-- The failures that the run of a job leaves to its surroundings. -/
inductive Job.Escapes (j : Job) (l : Launch) : Failure → Prop
  /-- the job has an empty host -/
  | hostless (hhost : j.host = "") :
      Escapes j l (.foreign (.value Host.Fault.empty.message))
  /-- the balance that the node sends is an infinite number -/
  | infinite {url block address : String} {r : Request} {response : Response} {negative : Bool}
      (hurl : Host.normalize j.host = .ok url) (htask : j.task = .balance block address)
      (hrequest : (Inquiry.get (Endpoint.balancePath block address)).request url = .ok r)
      (hreply : l.replies.headD .notFound = .response response)
      (hsuccess : response.isSuccess j.config.strictErrors = true)
      (hbalance : Json.decode response.content = .ok (.double (.infinite negative))) :
      Escapes j l (.foreign .infiniteInteger)
  /-- the URL of a call does not take its options -/
  | crowded {url path : String} {method : Method} {body : Option Bytes}
      {options : List Url.Param} {r : Request} {fault : Url.Fault}
      (hurl : Host.normalize j.host = .ok url) (htask : j.task = .call method path body options)
      (hmake : Request.make method (url.toList ++ path.toList) body = .ok r)
      (hfull : ¬r.url.Takes options) (hattach : r.attach options = .error fault) :
      Escapes j l (.foreign (.url fault))

namespace Job

variable {j : Job} {l : Launch} {f : Failure} {url : String}

/-- The session of a job is orderly if the clock and the replies are. -/
theorem isOrderly_sessionAt (hclock : ∀ t ∈ l.clock, -clockBound ≤ t ∧ t < clockBound)
    (hexpected : ∀ reply ∈ l.replies, reply.isExpected = true)
    (hlegible : ∀ reply ∈ l.replies, reply.isLegible = true) :
    (j.sessionAt l url).IsOrderly :=
  ⟨rfl, hclock, hexpected, hlegible⟩

/-- A job whose host has a URL leaves to its surroundings what its task fails in, if that is
not the client's own. -/
theorem exit_eq_error_iff (hurl : Host.normalize j.host = .ok url) :
    (j.run l).exit = .error f ↔
      (j.task.perform.runIn (j.sessionAt l url)).1 = .error f ∧ f.isOwn = false := by
  rw [j.run_of_url l hurl]
  exact exitOf_eq_error_iff

section Orderly

variable (hclock : ∀ t ∈ l.clock, -clockBound ≤ t ∧ t < clockBound)
  (hexpected : ∀ reply ∈ l.replies, reply.isExpected = true)
  (hlegible : ∀ reply ∈ l.replies, reply.isLegible = true)
include hclock hexpected hlegible

/-- A task of a job that fails in a failure that is not the client's own does so in one of two
ways. -/
theorem escapes_of_perform (hurl : Host.normalize j.host = .ok url)
    (hfail : (j.task.perform.runIn (j.sessionAt l url)).1 = .error f) (hown : f.isOwn = false) :
    j.Escapes l f := by
  have horderly : (j.sessionAt l url).IsOrderly := isOrderly_sessionAt hclock hexpected hlegible
  cases hq : j.task.inquiry? with
  | none =>
    rw [Task.eq_constants_of_inquiry hq] at hfail
    rw [Task.isOwn_of_constants horderly hfail] at hown
    cases hown
  | some q =>
    rw [j.task.runIn_perform_of_inquiry hq] at hfail
    -- Either the call has failed, and then before it had a request, or the body is at fault.
    rcases Action.call_read_error hfail with hcall | ⟨body, hcall, hread⟩
    · cases hrequest : q.request url with
      | ok r =>
        have hdecides := Inquiry.call_decides (s := j.sessionAt l url) hrequest horderly.isOpen
          horderly.clock horderly.reply (Reply.isShallow_of_isLegible horderly.isLegible_reply _)
        rw [hdecides.isOwn hcall] at hown
        cases hown
      | error g =>
        rw [Inquiry.runIn_call_of_error (s := j.sessionAt l url) hrequest] at hcall
        obtain rfl : g = f := Except.error.inj hcall
        obtain ⟨method, path, body, options, htask, rfl⟩ :=
          Task.exists_call_of_request hq hrequest hown
        obtain ⟨r, fault, hmake, hfull, hattach, rfl⟩ := Inquiry.of_request_foreign hrequest hown
        exact .crowded hurl htask hmake hfull hattach
    · have hroom := Inquiry.tooDeep?_of_call_ok horderly hcall
      obtain ⟨⟨block, address, htask⟩, rfl, negative, hbalance⟩ :=
        Task.of_read_foreign hroom hread hown
      have hrun : q.call.runIn (j.sessionAt l url) =
          (.ok body, (q.call.runIn (j.sessionAt l url)).2) := Prod.ext hcall rfl
      obtain ⟨response, hreply, rfl, hsuccess⟩ := Inquiry.isSuccess_of_call_ok hrun
      obtain ⟨r, _, hanswered, -⟩ := Inquiry.answered_of_call_ok hrun
      rw [htask] at hq
      obtain rfl := Option.some.inj hq
      exact .infinite hurl htask hanswered.request_eq hreply hsuccess hbalance

/-- A way to escape is taken. -/
theorem exit_of_escapes (h : j.Escapes l f) : (j.run l).exit = .error f := by
  cases h with
  | hostless hempty => rw [j.run_of_empty l hempty]
  | @infinite url block address r response negative hurl htask hrequest hreply hsuccess hbalance =>
    refine (exit_eq_error_iff hurl).2 ⟨?_, rfl⟩
    have horderly : (j.sessionAt l url).IsOrderly := isOrderly_sessionAt hclock hexpected hlegible
    have hreply' : (j.sessionAt l url).reply = .response response := hreply
    have hdecides := Inquiry.call_decides (s := j.sessionAt l url) hrequest horderly.isOpen
      horderly.clock horderly.reply (Reply.isShallow_of_isLegible horderly.isLegible_reply _)
    rw [hreply'] at hdecides
    have hcall := hdecides.unique (Response.decides_of_isSuccess hsuccess)
    rw [htask, Task.runIn_perform_of_inquiry (t := .balance block address) rfl, hcall]
    exact Task.read_of_infinite block address hbalance
  | @crowded url path method body options r fault hurl htask hmake hfull hattach =>
    refine (exit_eq_error_iff hurl).2 ⟨?_, rfl⟩
    let q : Inquiry := ⟨method, path, body, options⟩
    have hrequest : q.request url = .error (.foreign (.url fault)) := by
      unfold Inquiry.request
      rw [hmake]
      dsimp only
      rw [hattach]
      rfl
    rw [htask, Task.runIn_perform_of_inquiry (t := .call method path body options) rfl,
      Inquiry.runIn_call_of_error (s := j.sessionAt l url) hrequest]
    rfl

end Orderly

end Job

/-- With surroundings that let the program be, a clock of 64 bits and a node whose replies end
in expected faults only and are not nested too deep, whatever the command line and the settings
are, the program ends with an exit code unless its job has an empty host, is about an infinite
balance, or is a call whose URL does not take its options; and in each of these cases it ends with
the failure that says so. -/
theorem exit_code_unless_escape (w : Surroundings) (l : Launch) (hlet : w.LetBe)
    (hclock : ∀ t ∈ l.clock, -clockBound ≤ t ∧ t < clockBound)
    (hexpected : ∀ reply ∈ l.replies, reply.isExpected = true)
    (hlegible : ∀ reply ∈ l.replies, reply.isLegible = true) :
    ((∀ job f, Job.read l.environment l.file l.arguments = .ok job → ¬job.Escapes l f) →
      ∃ code, exitIn w l = .ok code) ∧
    ∀ job f, Job.read l.environment l.file l.arguments = .ok job → job.Escapes l f →
      exitIn w l = .error f := by
  rw [exitIn_of_letBe hlet]
  constructor
  · intro hnone
    cases hread : Job.read l.environment l.file l.arguments with
    | error stop =>
      rw [run_of_stop hread]
      exact ⟨_, rfl⟩
    | ok job =>
      rw [run_of_job hread]
      cases hexit : (job.run l).exit with
      | ok code => exact ⟨code, rfl⟩
      | error f =>
        refine absurd ?_ (hnone job f hread)
        by_cases hhost : job.host = ""
        · rw [job.run_of_empty l hhost] at hexit
          obtain rfl := Except.error.inj hexit
          exact .hostless hhost
        · obtain ⟨url, hurl, _⟩ := job.run_of_host l hhost
          obtain ⟨hfail, hown⟩ := (Job.exit_eq_error_iff hurl).1 hexit
          exact Job.escapes_of_perform hclock hexpected hlegible hurl hfail hown
  · intro job f hread hway
    rw [run_of_job hread]
    exact Job.exit_of_escapes hclock hexpected hlegible hway

/-- A balance that can be told does not escape, so the program ends with a code. -/
theorem exit_code_unless_escape_of_balance :
    let l : Launch := ⟨["balance", "tz1abc"], [], none, [.success "1500000"], [], ""⟩
    (∀ job f, Job.read l.environment l.file l.arguments = .ok job → ¬job.Escapes l f) ∧
      ∃ code, exitIn .usual l = .ok code := by
  intro l
  have hcode : (run l).code? = some 0 := by decide +kernel
  have hexit := Run.exit_of_code? hcode
  obtain ⟨hends, hescapes⟩ := exit_code_unless_escape .usual l Surroundings.letBe_usual
    (by decide) (by decide) (by decide +kernel)
  have hnone : ∀ job f, Job.read l.environment l.file l.arguments = .ok job →
      ¬job.Escapes l f := by
    intro job f hread hway
    have hfail := hescapes job f hread hway
    rw [exitIn_of_letBe Surroundings.letBe_usual, hexit] at hfail
    cases hfail
  exact ⟨hnone, hends hnone⟩

/-- A node with an expected reply, an infinite balance, for which the run has no exit code. -/
theorem no_exit_code_of_infinite_balance :
    let l : Launch := ⟨["balance", "tz1abc"], [], none, [.success "Infinity"], [], ""⟩
    (∀ t ∈ l.clock, -clockBound ≤ t ∧ t < clockBound) ∧
      (∀ reply ∈ l.replies, reply.isExpected = true) ∧
      exitIn .usual l = .error (.foreign .infiniteInteger) ∧
      ¬∃ code, exitIn .usual l = .ok code := by
  intro l
  have hescaped : (run l).escaped? = some .infiniteInteger := by decide +kernel
  have hexit := Run.exit_of_escaped? hescaped
  rw [exitIn_of_letBe Surroundings.letBe_usual]
  refine ⟨by decide, by decide, hexit, ?_⟩
  rintro ⟨code, hcode⟩
  rw [hexit] at hcode
  cases hcode

end Cli

end TezosNode
