import TezosNode.Proofs.Cli.Job
import TezosNode.Proofs.Client.Turn

set_option autoImplicit false

/-!
# Command line: exit codes

What an exit code says about the requests of a run.  A task that is an inquiry either has no
request, and then nothing has happened in its session, or sends exactly one, and its result
and all failures after that have codes of their own; the failures of a bootstrap have a code
that no other task has.
-/

namespace TezosNode

/-! ## Categories of failures -/

/-- A request cannot be built for its URL, or the failure is not the client's own. -/
theorem Inquiry.category?_of_request {q : Inquiry} {host : String} {f : Failure}
    {category : Category} (hrequest : q.request host = .error f)
    (hcategory : f.category? = some category) : category = .construction := by
  unfold Inquiry.request at hrequest
  cases hmake : Request.make q.method (host.toList ++ q.path.toList) q.body with
  | error fault =>
    rw [hmake] at hrequest
    obtain rfl := Except.error.inj hrequest
    exact (Option.some.inj hcategory).symm
  | ok r =>
    rw [hmake] at hrequest
    dsimp only at hrequest
    cases hattach : r.attach q.options with
    | error fault =>
      rw [hattach] at hrequest
      obtain rfl := Except.error.inj hrequest
      cases hcategory
    | ok sent =>
      rw [hattach] at hrequest
      cases hrequest

namespace Exchange

variable {s aside : Session} {r : Request} {result : Except Failure Bytes} {events : List Event}

/-- The codes of exchanges that have failed. -/
theorem exitCode_of_error (h : Exchange s r result aside events) {f : Failure}
    (hfail : result = .error f) {category : Category} (hcategory : f.category? = some category) :
    3 ≤ category.exitCode ∧ category.exitCode ≤ 7 := by
  subst hfail
  cases h with
  | declined => cases hcategory
  | refused =>
    obtain rfl := Option.some.inj hcategory
    decide
  | aborted => cases hcategory
  | brokenOff =>
    obtain rfl := Option.some.inj hcategory
    decide
  | interrupted => cases hcategory
  | unmeasured => cases hcategory
  | tooDeep => cases hcategory
  | rejected _ _ _ _ hverdict hown =>
    obtain ⟨own, hcategory', hcode⟩ := Response.category?_of_verdict hverdict hown
    obtain rfl := Option.some.inj (hcategory'.symm.trans hcategory)
    omega

end Exchange

/-- A body that has no integer is a failure that is not the client's own, or one that says
that it cannot be decoded. -/
theorem Endpoint.category?_of_integerOf {document : Document} {body : Bytes} {f : Failure}
    (hread : integerOf document body = .error f) {category : Category}
    (hcategory : f.category? = some category) : category = .undecodable := by
  rcases of_document_error hread with ⟨part, -, rfl⟩ | ⟨fault, rfl⟩ | ⟨fault, rfl⟩
  · cases hcategory
  · exact (Option.some.inj hcategory).symm
  · cases fault with
    | infinite => cases hcategory
    | _ => exact (Option.some.inj hcategory).symm

/-- A failure of a step that has a category has been named after the step. -/
theorem Failure.category?_ofStep {f : Failure} {step : BootstrapStep} {category : Category}
    (hcategory : (f.ofStep step).category? = some category) : category = .bootstrap := by
  cases hown : f.isOwn with
  | true =>
    rw [Failure.ofStep_of_isOwn hown] at hcategory
    exact (Option.some.inj hcategory).symm
  | false =>
    unfold Failure.ofStep at hcategory
    rw [hown, if_neg Bool.false_ne_true] at hcategory
    unfold Failure.isOwn at hown
    rw [hcategory] at hown
    cases hown

namespace Cli

/-- What cannot be read after a call is a document that cannot be decoded, or the failure
is not the client's own. -/
theorem Task.category?_of_read {t : Task} {body : Bytes} {f : Failure}
    (hread : t.read body = .error f) {category : Category}
    (hcategory : f.category? = some category) : category = .undecodable := by
  cases t with
  | head =>
    rcases Task.of_read_head hread with ⟨part, -, rfl⟩ | ⟨mismatch, rfl⟩
    · cases hcategory
    · exact (Option.some.inj hcategory).symm
  | constants => cases hread
  | balance block address =>
    change (Endpoint.integerOf .balance body).bind balanceText = .error f at hread
    cases hinteger : Endpoint.integerOf .balance body with
    | error g =>
      rw [hinteger] at hread
      obtain rfl : g = f := Except.error.inj hread
      exact Endpoint.category?_of_integerOf hinteger hcategory
    | ok n =>
      rw [hinteger] at hread
      change balanceText n = .error f at hread
      unfold balanceText at hread
      cases htez : Tez.ofMutez n with
      | ok tez =>
        rw [htez] at hread
        cases hread
      | error signal =>
        rw [htez] at hread
        obtain rfl := Except.error.inj hread
        cases hcategory
  | call method path body options => cases hread

/-! ## What codes account for -/

/-- The requests given to the transport of a run, whether they were sent or turned away. -/
def Run.attempts (r : Run) : List Request := (Session.attempts r.trace).map (·.2)

/-- The task of a command line, if it gives a job. -/
def Launch.task? (l : Launch) : Option Task :=
  match Job.read l.environment l.file l.arguments with
  | .ok job => some job.task
  | .error _ => none

theorem Launch.exists_job {l : Launch} {t : Task} (htask : l.task? = some t) :
    ∃ job, Job.read l.environment l.file l.arguments = .ok job ∧ job.task = t := by
  unfold task? at htask
  cases hread : Job.read l.environment l.file l.arguments with
  | error stop =>
    rw [hread] at htask
    cases htask
  | ok job =>
    rw [hread] at htask
    exact ⟨job, rfl, Option.some.inj htask⟩

/-- What has happened in a run with or without a task that has ended with a code. -/
inductive Account (trace : List Event) : Option Task → Nat → Prop
  /-- a page has been shown -/
  | shown (hnone : trace = []) : Account trace none 0
  /-- the program has been used wrongly, or no request can be built -/
  | misused {task : Option Task} (hnone : trace = []) : Account trace task 2
  /-- the node has been asked for one document -/
  | asked {task : Task} {code : Nat} (hother : task ≠ .constants)
      (hcode : code = 0 ∨ 3 ≤ code ∧ code ≤ 8) (hattempts : (Session.attempts trace).length = 1)
      (hrequests : (Session.requests trace).length = 1) : Account trace (some task) code
  /-- the node has been asked for the constants -/
  | ready (hrequests : (Session.requests trace).length = 2) : Account trace (some .constants) 0
  /-- the constants are missing -/
  | unready (hattempts : (Session.attempts trace).length ≤ 2) :
      Account trace (some .constants) 9

section Tasks

variable {t : Task} {s : Session} {code : Nat}

/-- A task for one document ends without a trace or has sent one request. -/
theorem Task.account_of_inquiry {q : Inquiry} (hq : t.inquiry? = some q) (hfresh : s.trace = [])
    (hopen : (s.transportAt s.client.transport).isClosed = false)
    (hexit : exitOf (t.perform.runIn s).1 = .ok code) :
    Account (t.perform.runIn s).2.trace (some t) code := by
  have hother : t ≠ .constants := by
    rintro rfl
    cases hq
  rw [t.runIn_perform_of_inquiry hq] at hexit ⊢
  dsimp only at hexit ⊢
  -- Without a request nothing has happened.  With one, the exchange is all that has happened,
  -- and a code other than zero comes from it or from the reading of its body.
  rcases q.call_cases s with ⟨f, hrequest, hfail⟩ | ⟨r, aside, events, _, hexchange, hafter⟩
  · rw [hfail] at hexit ⊢
    obtain ⟨category, hcategory, rfl⟩ := exitOf_error hexit
    obtain rfl := Inquiry.category?_of_request hrequest hcategory
    exact .misused hfresh
  · have htrace : (q.call.runIn s).2.trace = events := by
      rw [hafter, Session.note_trace, hexchange.trace_eq, hfresh, List.nil_append]
    rw [htrace]
    refine .asked hother ?_ (by rw [hexchange.attempts_eq]; rfl)
      (by rw [hexchange.requests_eq hopen]; rfl)
    cases hresult : (q.call.runIn s).1 with
    | error f =>
      rw [hresult] at hexit
      obtain ⟨category, hcategory, rfl⟩ := exitOf_error hexit
      have hcode := hexchange.exitCode_of_error hresult hcategory
      omega
    | ok body =>
      rw [hresult] at hexit
      change exitOf (t.read body) = .ok code at hexit
      cases hread : t.read body with
      | ok text =>
        rw [hread] at hexit
        exact .inl (Except.ok.inj hexit).symm
      | error f =>
        rw [hread] at hexit
        obtain ⟨category, hcategory, rfl⟩ := exitOf_error hexit
        obtain rfl := Task.category?_of_read hread hcategory
        decide

/-- The task of constants sends two requests if it succeeds, and otherwise makes two attempts
at most and ends with a code of its own. -/
theorem Task.account_of_constants (hfresh : s.trace = [])
    (hexit : exitOf (Task.constants.perform.runIn s).1 = .ok code) :
    Account (Task.constants.perform.runIn s).2.trace (some .constants) code := by
  rw [Task.runIn_perform_constants] at hexit ⊢
  dsimp only at hexit ⊢
  have hrun := Action.bootstrapRun s
  cases hresult : (Action.bootstrap.runIn s).1 with
  | ok c =>
    rw [hresult] at hexit hrun
    obtain ⟨r, r', _, _, _, hsuccess⟩ := hrun.success
    obtain rfl := Except.ok.inj hexit
    refine .ready ?_
    rw [hsuccess.requests_eq, hfresh]
    rfl
  | error f =>
    obtain ⟨events, hconversation, htwo, _⟩ := hrun.conversation
    have hattempts : (Session.attempts (Action.bootstrap.runIn s).2.trace).length ≤ 2 := by
      rw [hconversation.trace_eq, hfresh, List.nil_append]
      exact htwo
    rw [hresult] at hexit hrun
    obtain ⟨category, hcategory, rfl⟩ := exitOf_error hexit
    have hnamed : category = .bootstrap := by
      generalize (Action.bootstrap.runIn s).2 = after at hrun
      cases hrun with
      | headFailed => exact Failure.category?_ofStep hcategory
      | constantsFailed => exact Failure.category?_ofStep hcategory
    rw [hnamed]
    exact .unready hattempts

end Tasks

/-! ## Codes of runs -/

/-- Every run with a code has an account for it. -/
theorem account_of_exit {l : Launch} {code : Nat} (hexit : (run l).exit = .ok code) :
    Account (run l).trace l.task? code := by
  unfold Launch.task?
  cases hread : Job.read l.environment l.file l.arguments with
  | error stop =>
    rw [run_of_stop hread] at hexit ⊢
    obtain rfl := Except.ok.inj hexit
    cases stop with
    | version => exact .shown rfl
    | help => exact .shown rfl
    | noArguments => exact .misused rfl
    | refused => exact .misused rfl
  | ok job =>
    obtain ⟨url, hrun⟩ := exists_runOf_of_exit hread hexit
    rw [hrun] at hexit ⊢
    cases hq : job.task.inquiry? with
    | some q => exact Task.account_of_inquiry hq rfl rfl hexit
    | none =>
      have htask := Task.eq_constants_of_inquiry hq
      dsimp only [Job.runOf] at hexit ⊢
      rw [htask] at hexit ⊢
      exact Task.account_of_constants rfl hexit

/-- A run with another code than zero has printed nothing to the standard output. -/
theorem output_of_exit {l : Launch} {code : Nat} (hexit : (run l).exit = .ok code)
    (hcode : code ≠ 0) : (run l).output = "" := by
  cases hread : Job.read l.environment l.file l.arguments with
  | error stop =>
    rw [run_of_stop hread] at hexit ⊢
    obtain rfl := Except.ok.inj hexit
    cases stop with
    | version => exact absurd rfl hcode
    | help => exact absurd rfl hcode
    | noArguments => rfl
    | refused => rfl
  | ok job =>
    obtain ⟨url, hrun⟩ := exists_runOf_of_exit hread hexit
    rw [hrun] at hexit ⊢
    unfold Job.runOf
    rw [outputOf_of_exitOf hexit hcode]
    rfl

/-- What the code of a run of the program says about it.  With the code of misuse, whether a
command line, a setting or a URL is to blame, nothing has happened at all.  A task that
succeeds has sent one request, or two if it is that of constants.  With the code of a failure
of a call or of reading its answer, one request has been sent, and no other been tried.  The
code of a bootstrap comes from the task of constants alone, which makes two attempts at most.
There are no other codes, and only the code zero leaves anything on the standard output. -/
theorem exit_code_accounts (l : Launch) {code : Nat} (hexit : (run l).exit = .ok code) :
    (code = 2 → (run l).trace = [] ∧ (run l).requests = []) ∧
    (∀ task, l.task? = some task → code = 0 →
      (run l).requests.length = if task = .constants then 2 else 1) ∧
    (3 ≤ code → code ≤ 8 → (run l).attempts.length = 1 ∧ (run l).requests.length = 1) ∧
    (code = 9 → l.task? = some .constants ∧ (run l).attempts.length ≤ 2) ∧
    (code ≠ 1 ∧ code ≤ 9) ∧
    (code ≠ 0 → (run l).output = "") := by
  have haccount := account_of_exit hexit
  refine ⟨?_, ?_, ?_, ?_, ?_, fun hcode => output_of_exit hexit hcode⟩
  · rintro rfl
    generalize l.task? = task? at haccount
    cases haccount with
    | misused hnone => exact ⟨hnone, by rw [Run.requests, hnone]; rfl⟩
    | asked _ hcode => omega
  · rintro task htask rfl
    rw [htask] at haccount
    rw [Run.requests, List.length_map]
    cases haccount with
    | asked hother _ _ hrequests => rw [hrequests, if_neg hother]
    | ready hrequests => rw [hrequests, if_pos rfl]
  · intro hlow hhigh
    rw [Run.attempts, Run.requests, List.length_map, List.length_map]
    generalize l.task? = task? at haccount
    cases haccount with
    | shown => omega
    | misused => omega
    | asked _ _ hattempts hrequests => exact ⟨hattempts, hrequests⟩
    | ready => omega
    | unready => omega
  · rintro rfl
    rw [Run.attempts, List.length_map]
    generalize l.task? = task? at haccount ⊢
    cases haccount with
    | asked _ hcode => omega
    | unready hattempts => exact ⟨rfl, hattempts⟩
  · generalize l.task? = task? at haccount
    cases haccount with
    | shown => decide
    | misused => decide
    | asked _ hcode => omega
    | ready => decide
    | unready => decide

/-- Constants that are asked for at a node that sends a head and then fails: two requests, the
code of a bootstrap, and nothing on the standard output. -/
theorem exit_code_accounts_of_half_ready :
    let l : Launch :=
      ⟨["constants"], [], none,
        [.success "\x7b\"hash\":\"B\"\x7d", .response ⟨404, [], none⟩], [], ""⟩
    (run l).exit = .ok 9 ∧ (run l).attempts.length ≤ 2 ∧ (run l).output = "" := by
  intro l
  have hcode : (run l).code? = some 9 := by decide +kernel
  have hexit := Run.exit_of_code? hcode
  obtain ⟨-, -, -, hbootstrap, -, houtput⟩ := exit_code_accounts l hexit
  exact ⟨hexit, (hbootstrap rfl).2, houtput (by decide)⟩

end Cli

end TezosNode
