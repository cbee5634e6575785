import TezosNode.Proofs.Cli.Arguments
import TezosNode.Proofs.Cli.Job
import TezosNode.Proofs.Client.Message

set_option autoImplicit false

/-!
# Command line: calls

The run of a call from its command line to its exit code.  The request is that of the method,
the path, the data and the parameters on the command line; the reply to it decides on the exit
code, by a code of its own for each way to fail, and on what is printed where.
-/

namespace TezosNode

/-- The exit code of a call for what is found in a whole body with the status of success. -/
def ErrorPayload.exitCode : Except DocumentFault (Option (List ErrorRecord)) → Nat
  | .error _ => 6
  | .ok (some (_ :: _)) => 7
  | .ok _ => 0

/-- The exit code of a call that ends as its reply decides. -/
def Reply.exitCode (strict : Bool) : Reply → Nat
  | .refused _ => 3
  | .response r =>
    match r.broken with
    | some _ => 4
    | none =>
      if r.status = 200 then ErrorPayload.exitCode (ErrorPayload.classify strict r.content) else 5

namespace Reply

variable {strict : Bool}

section Responses

variable {r : Response}

theorem exitCode_of_broken {fault : Fault} (hbroken : r.broken = some fault) :
    (Reply.response r).exitCode strict = 4 := by
  unfold exitCode
  dsimp only
  rw [hbroken]

theorem exitCode_of_status (hwhole : r.broken = none) (hstatus : r.status ≠ 200) :
    (Reply.response r).exitCode strict = 5 := by
  unfold exitCode
  dsimp only
  rw [hwhole, if_neg hstatus]

theorem exitCode_of_success (hwhole : r.broken = none) (hstatus : r.status = 200) :
    (Reply.response r).exitCode strict =
      ErrorPayload.exitCode (ErrorPayload.classify strict r.content) := by
  unfold exitCode
  dsimp only
  rw [hwhole, if_pos hstatus]

end Responses

variable {reply : Reply}

/-- A reply that decides on the octets does so with the code zero. -/
theorem Decides.exitCode_of_ok {body : Bytes} (h : reply.Decides strict (.ok body)) :
    reply.exitCode strict = 0 := by
  cases h with
  | @delivered r found hwhole hstatus hclass hnone =>
    have hcode : ErrorPayload.exitCode (.ok found) = 0 := by
      rcases found with _ | _ | ⟨first, rest⟩
      · rfl
      · rfl
      · cases hnone
    rw [exitCode_of_success hwhole hstatus, Response.content, hclass, hcode]

/-- A reply that decides on a failure does so with the code of the category of the failure. -/
theorem Decides.exitCode_of_error {f : Failure} (h : reply.Decides strict (.error f)) :
    ∃ category, f.category? = some category ∧ category.exitCode = reply.exitCode strict := by
  cases h with
  | unsent fault => exact ⟨.transport, rfl, rfl⟩
  | unread hbroken => exact ⟨.bodyRead, rfl, (exitCode_of_broken hbroken).symm⟩
  | unsuccessful hwhole hstatus =>
    exact ⟨.httpStatus, rfl, (exitCode_of_status hwhole hstatus).symm⟩
  | malformed hwhole hstatus hclass =>
    refine ⟨.malformedPayload, rfl, ?_⟩
    rw [exitCode_of_success hwhole hstatus, Response.content, hclass]
    rfl
  | reported hwhole hstatus hclass =>
    refine ⟨.nodeError, rfl, ?_⟩
    rw [exitCode_of_success hwhole hstatus, Response.content, hclass]
    rfl

/-- No failure has the code zero. -/
theorem Decides.exitCode_ne_zero {f : Failure} (h : reply.Decides strict (.error f)) :
    reply.exitCode strict ≠ 0 := by
  obtain ⟨category, _, hcode⟩ := h.exitCode_of_error
  rw [← hcode]
  cases category <;> decide

/-- The exit code is zero just where a whole response has the status of success and no error
is found in its body. -/
theorem exitCode_eq_zero_iff :
    reply.exitCode strict = 0 ↔ ∃ r found, reply = .response r ∧ r.broken = none ∧
      r.status = 200 ∧ ErrorPayload.classify strict r.content = .ok found ∧
        found.getD [] = [] := by
  constructor
  · intro hzero
    cases reply with
    | refused fault => cases hzero
    | response r =>
      cases hwhole : r.broken with
      | some fault =>
        rw [exitCode_of_broken hwhole] at hzero
        cases hzero
      | none =>
        by_cases hstatus : r.status = 200
        · rcases hclass : ErrorPayload.classify strict r.content with fault | _ | _ | ⟨first, rest⟩
          · rw [exitCode_of_success hwhole hstatus, hclass] at hzero
            cases hzero
          · exact ⟨r, none, rfl, hwhole, hstatus, hclass, rfl⟩
          · exact ⟨r, some [], rfl, hwhole, hstatus, hclass, rfl⟩
          · rw [exitCode_of_success hwhole hstatus, hclass] at hzero
            cases hzero
        · rw [exitCode_of_status hwhole hstatus] at hzero
          cases hzero
  · rintro ⟨r, found, rfl, hwhole, hstatus, hclass, hnone⟩
    exact (Reply.Decides.delivered hwhole hstatus hclass hnone).exitCode_of_ok

end Reply

/-- A request has the method and the body of its inquiry. -/
theorem Inquiry.method_eq_and_body_eq {q : Inquiry} {host : String} {r : Request}
    (hrequest : q.request host = .ok r) : r.method = q.method ∧ r.body = q.body := by
  obtain ⟨u, v, -, -, rfl⟩ := Inquiry.of_request hrequest
  exact ⟨rfl, rfl⟩

namespace Cli

/-- The reply that the first request of a run receives. -/
def Launch.reply (l : Launch) : Reply := l.replies.headD .notFound

/-- A string without escape characters goes to a file as it is. -/
theorem plainText_of_isEscapeFree {s : String} (h : Text.IsEscapeFree s) : plainText s = s := by
  unfold plainText
  rw [Text.dropControlSequences_of_notMem h, String.ofList_toList]

/-! ## Ends of calls -/

section Ends

variable {strict : Bool} {reply : Reply}

/-- A call exits with the code of its reply. -/
theorem exitOf_bodyText {result : Except Failure Bytes} (hdecides : reply.Decides strict result) :
    exitOf (result.map bodyText) = .ok (reply.exitCode strict) := by
  cases result with
  | ok octets =>
    rw [hdecides.exitCode_of_ok]
    rfl
  | error f =>
    obtain ⟨category, hcategory, hcode⟩ := hdecides.exitCode_of_error
    unfold exitOf
    dsimp only [Except.map]
    rw [hcategory, ← hcode]

/-- A body without escape characters is printed as it is. -/
theorem plainText_bodyText {r : Response} (hfree : (Reply.response r).IsEscapeFree) :
    plainText (bodyText r.content) =
      String.ofList (Text.Utf8.decodeLossy r.content) ++ "\n" :=
  plainText_of_isEscapeFree (.append (Text.isEscapeFree_ofList hfree.2.1) (by decide))

/-- What is said of a failure that a reply without escape characters decides on is printed as
it is. -/
theorem plainText_complaintOf (t : Task) {f : Failure} (hdecides : reply.Decides strict (.error f))
    (hfree : reply.IsEscapeFree) : plainText (t.complaintOf (.error f)) = t.complaint f := by
  obtain ⟨category, hcategory, _⟩ := hdecides.exitCode_of_error
  have hown : f.isOwn = true := by
    unfold Failure.isOwn
    rw [hcategory]
    rfl
  have htitle : Text.IsEscapeFree t.title := by
    unfold Task.title
    split <;> decide
  rw [t.complaintOf_of_isOwn hown]
  exact plainText_of_isEscapeFree
    (.append (.append (.append htitle (by decide)) (hdecides.isEscapeFree_message hfree))
      (by decide))

end Ends

section Calls

variable {job : Job} {l : Launch} {method : Method} {path : String} {body : Option Bytes}
  {options : List Url.Param} {url : String} {r : Request}

/-- The call of a job sends one request and ends as the reply decides. -/
theorem Job.perform_call (htask : job.task = .call method path body options)
    (hrequest : (Inquiry.mk method path body options).request url = .ok r)
    (hclock : ∀ t ∈ l.clock, -clockBound ≤ t ∧ t < clockBound)
    (hexpected : l.reply.isExpected = true)
    (hshallow : l.reply.isShallow job.config.strictErrors = true) :
    ∃ result, (job.task.perform.runIn (job.sessionAt l url)).1 = result.map bodyText ∧
      l.reply.Decides job.config.strictErrors result ∧
      Session.requests (job.task.perform.runIn (job.sessionAt l url)).2.trace =
        [(transportNumber, r)] := by
  let q : Inquiry := ⟨method, path, body, options⟩
  have hq : job.task.inquiry? = some q := by
    rw [htask]
    rfl
  have hread : job.task.read = fun octets => .ok (bodyText octets) := by
    rw [htask]
    rfl
  rw [job.task.runIn_perform_of_inquiry hq, hread]
  refine ⟨(q.call.runIn (job.sessionAt l url)).1, ?_, ?_, ?_⟩
  · cases (q.call.runIn (job.sessionAt l url)).1 with
    | error f => rfl
    | ok octets => rfl
  · exact Inquiry.call_decides (s := job.sessionAt l url) hrequest rfl hclock hexpected hshallow
  · have hrequest' : q.request (job.sessionAt l url).client.host = .ok r := hrequest
    rcases q.call_cases (job.sessionAt l url) with
      ⟨f, hnone, _⟩ | ⟨sent, aside, events, hsent, hexchange, hafter⟩
    · rw [hrequest'] at hnone
      cases hnone
    · obtain rfl := Except.ok.inj (hsent.symm.trans hrequest')
      dsimp only
      rw [hafter, Session.note_trace, Session.requests_append, hexchange.trace_eq,
        hexchange.requests_eq rfl]
      rfl

/-- The request of a call is that of the command line: the word for the method in capitals,
and for a POST the data, which may be left out. -/
theorem Job.exists_arguments {env : Environment} {file : Option Bytes} {args : List String}
    (hread : Job.read env file args = .ok job) (htask : job.task = .call method path body options)
    (hrequest : (Inquiry.mk method path body options).request url = .ok r) :
    ∃ scanned word, job.Reads env file args scanned ∧ scanned.rest = [word, path] ∧
      r.method.name = Text.upperCase word ∧
      (scanned.values .param).mapM paramOf = .ok options ∧
      r.body = (if r.method = .post then
        some (Text.Utf8.encode ((scanned.value? .data).getD "").toList) else none) := by
  obtain ⟨scanned, hreads⟩ := Job.exists_reads hread
  have hcall : callTask scanned = .ok (.call method path body options) := by
    have hown := hreads.task_eq
    rw [htask] at hown
    exact hown
  obtain ⟨method', path', body', options', hcalls, hsame⟩ := Scanned.exists_calls hcall
  obtain ⟨rfl, rfl, rfl, rfl⟩ := Task.call.inj hsame
  obtain ⟨word, hrest, hmethod⟩ := hcalls.method_eq
  obtain ⟨hsent, hbody⟩ := Inquiry.method_eq_and_body_eq hrequest
  refine ⟨scanned, word, hreads, hrest, ?_, hcalls.options_eq, ?_⟩
  · rw [hsent]
    exact (upperCase_of_methodOf? hmethod).symm
  · rw [hsent, hbody]
    exact (bodyOf_eq hcalls.body_eq).1

end Calls

/-- The run of a call that has a request, in surroundings that let it be, with a clock of 64
bits and a reply that ends in an expected fault at most, is not nested too deep to be looked
into and has no escape character.  The request is that of the command line, and it is the only
one.  The reply to it decides on the exit code, which is zero just if a whole response has the
status of success and no error is found in its body, in the way that the settings of the
environment ask for.  Then the standard output is the text of that body in a line; otherwise it
is empty, and the standard error ends with the message of the failure. -/
theorem run_call (w : Surroundings) (l : Launch) {job : Job} {method : Method} {path : String}
    {body : Option Bytes} {options : List Url.Param} {url : String} {r : Request}
    (hlet : w.LetBe) (hread : Job.read l.environment l.file l.arguments = .ok job)
    (htask : job.task = .call method path body options)
    (hurl : Host.normalize job.host = .ok url)
    (hrequest : (Inquiry.mk method path body options).request url = .ok r)
    (hclock : ∀ t ∈ l.clock, -clockBound ≤ t ∧ t < clockBound)
    (hexpected : l.reply.isExpected = true)
    (hshallow : l.reply.isShallow job.config.strictErrors = true)
    (hfree : l.reply.IsEscapeFree) :
    (∃ scanned word, job.Reads l.environment l.file l.arguments scanned ∧
      scanned.rest = [word, path] ∧ r.method.name = Text.upperCase word ∧
      (scanned.values .param).mapM paramOf = .ok options ∧
      r.body = (if r.method = .post then
        some (Text.Utf8.encode ((scanned.value? .data).getD "").toList) else none)) ∧
    (run l).requests = [r] ∧
    exitIn w l = .ok (l.reply.exitCode job.config.strictErrors) ∧
    (exitIn w l = .ok 0 ↔ ∃ response found, l.reply = .response response ∧
      response.broken = none ∧ response.status = 200 ∧
      ErrorPayload.classify job.config.strictErrors response.content = .ok found ∧
      found.getD [] = []) ∧
    (∀ response, l.reply = .response response → exitIn w l = .ok 0 →
      (run l).output = String.ofList (Text.Utf8.decodeLossy response.content) ++ "\n") ∧
    (exitIn w l ≠ .ok 0 → (run l).output = "" ∧
      ∃ f, l.reply.Decides job.config.strictErrors (.error f) ∧
        (run l).errors = logText job.globals l.time (Session.records (run l).trace) ++
          ("Call failed: " ++ f.message ++ "\n")) := by
  have hrun := job.run_of_url l hurl
  obtain ⟨result, hresult, hdecides, hrequests⟩ :=
    Job.perform_call htask hrequest hclock hexpected hshallow
  rw [← run_of_job hread, hresult] at hrun
  rw [exitIn_of_letBe hlet]
  have hexit : (run l).exit = .ok (l.reply.exitCode job.config.strictErrors) := by
    rw [hrun]
    exact exitOf_bodyText hdecides
  refine ⟨Job.exists_arguments hread htask hrequest, ?_, hexit, ?_, ?_, ?_⟩
  · rw [hrun]
    unfold Run.requests Job.runOf
    dsimp only
    rw [hrequests]
    rfl
  · rw [hexit, ← Reply.exitCode_eq_zero_iff]
    exact ⟨fun hzero => Except.ok.inj hzero, fun hzero => congrArg _ hzero⟩
  -- The result is known from the code: a failure never has the code zero.
  · intro response hreply hzero
    cases result with
    | error f =>
      rw [hexit] at hzero
      exact absurd (Except.ok.inj hzero) hdecides.exitCode_ne_zero
    | ok octets =>
      rw [hreply] at hdecides hshallow hfree
      obtain ⟨_, rfl⟩ := (Reply.decides_ok_iff hshallow).1 hdecides
      rw [hrun]
      exact plainText_bodyText hfree
  · intro hnonzero
    cases result with
    | ok octets =>
      rw [hexit, hdecides.exitCode_of_ok] at hnonzero
      exact absurd rfl hnonzero
    | error f =>
      have hcomplaint := plainText_complaintOf job.task hdecides hfree
      rw [hrun]
      refine ⟨rfl, f, hdecides, ?_⟩
      change _ ++ plainText (job.task.complaintOf (.error f)) = _
      rw [hcomplaint, htask]
      rfl

/-- A POST whose method is written in mixed case, to a node that answers with a text. -/
theorem run_call_of_post :
    let l : Launch := ⟨["call", "PoSt", "/injection/operation", "--data", "x"], [], none,
      [.success "\"op\""], [], ""⟩
    (∃ r, (run l).requests = [r] ∧ r.method = .post ∧ r.body = some [120]) ∧
      exitIn .usual l = .ok 0 ∧ (run l).output = "\"op\"\n" := by
  intro l
  let job : Job := ⟨⟨none, .warning, .console⟩, .default,
    .call .post "/injection/operation" (some [120]) []⟩
  let q : Inquiry := ⟨.post, "/injection/operation", some [120], []⟩
  have hread : Job.read l.environment l.file l.arguments = .ok job := by decide +kernel
  obtain ⟨r, hrequest⟩ :=
    q.exists_request "http://localhost:8732" (by decide +kernel)
  have hurl : Host.normalize job.host = .ok "http://localhost:8732" := by decide +kernel
  have hfree : l.reply.IsEscapeFree := by
    refine ⟨nofun, by decide +kernel, ?_⟩
    intro v hdecode
    have hvalue : Json.decode (Text.Utf8.encode "\"op\"".toList) = .ok (.string "op") := by rfl
    obtain rfl := Except.ok.inj (hvalue.symm.trans hdecode)
    rintro ⟨hmem⟩
    revert hmem
    decide
  obtain ⟨-, hrequests, hexit, -, houtput, -⟩ :=
    run_call .usual l Surroundings.letBe_usual hread rfl hurl hrequest (by decide) (by decide)
      (by decide +kernel) hfree
  have hzero : l.reply.exitCode job.config.strictErrors = 0 := by decide +kernel
  rw [hzero] at hexit
  obtain ⟨hmethod, hbody⟩ := Inquiry.method_eq_and_body_eq hrequest
  refine ⟨⟨r, hrequests, hmethod, hbody⟩, hexit, ?_⟩
  rw [houtput _ rfl hexit]
  rfl

/-- A call whose answer is nested too deep to be looked into ends without a code. -/
theorem Job.exit_of_tooDeep {job : Job} {l : Launch} {method : Method} {path : String}
    {body : Option Bytes} {options : List Url.Param} {url : String} {r : Request}
    (htask : job.task = .call method path body options)
    (hurl : Host.normalize job.host = .ok url)
    (hrequest : (Inquiry.mk method path body options).request url = .ok r)
    (hclock : ∀ t ∈ l.clock, -clockBound ≤ t ∧ t < clockBound)
    {response : Response} (hreply : l.reply = .response response)
    (hwhole : response.broken = none) (hstatus : response.status = 200) {part : Json.Part}
    (hdeep : ErrorPayload.tooDeep? job.config.strictErrors response.content = some part) :
    (job.run l).exit = .error (.foreign (.nesting part)) := by
  have hcall : ((Inquiry.mk method path body options).call.runIn (job.sessionAt l url)).1 =
      .error (.foreign (.nesting part)) :=
    Inquiry.call_of_tooDeep (s := job.sessionAt l url) hrequest rfl hclock hreply hwhole hstatus
      hdeep
  rw [job.run_of_url l hurl, htask,
    Task.runIn_perform_of_inquiry (t := .call method path body options) rfl, hcall]
  rfl

/-- The launch of a call to a node that answers with a content. -/
def Launch.callAnswered (content : Bytes) : Launch :=
  ⟨["call", "get", "/x"], [], none, [.response ⟨200, [content], none⟩], [], ""⟩

/-- A content that is nested too deep to be looked into is due the code of a broken error
payload, but the program ends without a code. -/
theorem exitIn_callAnswered_of_tooDeep {content : Bytes} {part : Json.Part}
    (hdeep : ErrorPayload.tooDeep? false content = some part) :
    (Launch.callAnswered content).reply.isExpected = true ∧
      (Launch.callAnswered content).reply.exitCode false = 6 ∧
      exitIn .usual (Launch.callAnswered content) = .error (.foreign (.nesting part)) := by
  let job : Job := ⟨⟨none, .warning, .console⟩, .default, .call .get "/x" none []⟩
  have hread : Job.read [] none ["call", "get", "/x"] = .ok job := by decide +kernel
  obtain ⟨r, hrequest⟩ :=
    (Inquiry.get "/x").exists_request "http://localhost:8732" (by decide +kernel)
  have hurl : Host.normalize job.host = .ok "http://localhost:8732" := by decide +kernel
  have hcontent : (⟨200, [content], none⟩ : Response).content = content := List.flatten_singleton
  have hclass : ErrorPayload.classify false content = .error (.json (.tooDeep part)) :=
    ErrorPayload.classifyLenient_of_tooDeep hdeep
  refine ⟨rfl, ?_, ?_⟩
  · change (Reply.response ⟨200, [content], none⟩).exitCode false = 6
    rw [Reply.exitCode_of_success rfl rfl, hcontent, hclass]
    rfl
  · rw [exitIn_of_letBe Surroundings.letBe_usual, run_of_job hread]
    refine Job.exit_of_tooDeep rfl hurl hrequest (List.forall_mem_nil _)
      (rfl : (Launch.callAnswered content).reply = .response ⟨200, [content], none⟩) rfl rfl ?_
    rw [hcontent]
    exact hdeep

/-- With arrays that are opened in each other without end and the word `error` after them, the
program ends without a code. -/
theorem run_call_escapes_of_nesting :
    (Launch.callAnswered (ErrorPayload.brackets 5000)).reply.isExpected = true ∧
      (Launch.callAnswered (ErrorPayload.brackets 5000)).reply.exitCode false = 6 ∧
      exitIn .usual (Launch.callAnswered (ErrorPayload.brackets 5000)) =
        .error (.foreign (.nesting .array)) :=
  exitIn_callAnswered_of_tooDeep (ErrorPayload.tooDeep?_brackets false (by decide))

end Cli

end TezosNode
